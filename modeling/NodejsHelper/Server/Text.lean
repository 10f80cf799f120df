/-
The texts of a node: what `sendJSON`, `sendEventWithCid` and `encodePublish` marshal. The client takes
every packet for what it is, a ping, one event or one response with the same data, never for a batch.
-/
import NodejsHelper.Client.Message
import NodejsHelper.Socket.Basic

namespace NodejsHelper

open Strings Json

/-! ## Marshalling -/

/-- The text of a packet. -/
def Packet.marshal : Packet → String
  | .text s => s
  | .response rid data error =>
    render (.obj (("rid", .num (itoa rid)) :: (omitEmpty "data" data ++ omitEmpty "error" (error.map ErrObj.toJson))))
  | .event name data cid =>
    render (.obj (("event", .str name) :: (omitEmpty "data" data ++ omitEmpty "cid" (cid.map fun n => .num (itoa n)))))
  | .publish channel data =>
    render (.obj [("event", .str "#publish"), ("data", .obj [("channel", .str channel), ("data", data)])])

/-- A packet as the node builds it: its bare texts are the ping and the pong, its data came from JSON. -/
def Packet.Sendable : Packet → Prop
  | .text s => s = "#1" ∨ s = "#2"
  | .response _ data _ | .event _ data _ => ∀ v ∈ data, Writable v
  | .publish _ data => Writable data

open SocketCluster

/-- What a packet is to the client. -/
def Packet.incoming : Packet → Incoming
  | .text s => if s = "#1" then .ping else .raw
  | .response rid data error => .response (.num (itoa rid)) data (error.map ErrObj.toJson)
  | .event name data cid => .event (.str name) data (cid.map fun n => .num (itoa n))
  | .publish channel data => .event (.str "#publish") (some (.obj [("channel", .str channel), ("data", data)])) none

/-! ## Reading a packet -/

theorem writable_errObj (e : ErrObj) : Writable e.toJson := by
  refine .obj ?_
  simp only [List.mem_cons, List.not_mem_nil, or_false]
  rintro m (rfl | rfl) <;> exact .str _

/-- An object the client reads is the one that was marshalled. -/
theorem decode_render {members : List (String × Json)} (h : Writable (.obj members)) :
    decode (render (.obj members)) = .obj members := by
  have hlist : (render (.obj members)).toList = '{' :: renderMembers members := by
    rw [render, String.toList_ofList, renderValue]
  have hstart : validJSONStart (render (.obj members)) = true := by
    rw [validJSONStart, hlist, skipSpace_opens (c := '{') rfl]
    rfl
  have hne : ∀ s : String, s.toList.head? = some '#' → render (.obj members) ≠ s := by
    intro s hs heq
    rw [← heq, hlist] at hs
    cases hs
  rw [decode, if_neg (not_or.2 ⟨hne "#1" rfl, hne "#2" rfl⟩), if_pos hstart, read_render h, Option.getD_some]

theorem onMessage_render {members : List (String × Json)} (h : Writable (.obj members))
    (htext : property "toString" (.obj members) = none) :
    onMessage (render (.obj members)) = [handleEventObject (.obj members)] := by
  rw [onMessage, decode_render h, throwsAsText, htext]
  rfl

/-- The properties of an object with one member and two that can be left out. -/
theorem property_members {f a b : String} (x : Json) (v w : Option Json) (hab : a ≠ b) (ha : f ≠ a)
    (hb : f ≠ b) :
    property f (.obj ((f, x) :: (omitEmpty a v ++ omitEmpty b w))) = some x ∧
      property a (.obj ((f, x) :: (omitEmpty a v ++ omitEmpty b w))) = v ∧
      property b (.obj ((f, x) :: (omitEmpty a v ++ omitEmpty b w))) = w ∧
      ∀ key, f ≠ key → a ≠ key → b ≠ key →
        property key (.obj ((f, x) :: (omitEmpty a v ++ omitEmpty b w))) = none := by
  refine ⟨?_, ?_, ?_, fun key h1 h2 h3 => ?_⟩
  · cases v <;> cases w <;> simp [property, omitEmpty, ha.symm, hb.symm]
  · cases v <;> cases w <;> simp [property, omitEmpty, ha, hab.symm]
  · cases v <;> cases w <;> simp [property, omitEmpty, hb, hab]
  · cases v <;> cases w <;> simp [property, omitEmpty, h1, h2, h3]

/-- The client takes the text of a packet for the packet. -/
theorem onMessage_marshal {packet : Packet} (h : packet.Sendable) : onMessage packet.marshal = [packet.incoming] := by
  cases packet with
  | text s =>
    rcases h with rfl | rfl
    · rfl
    · rfl
  | response rid data error =>
    have hw : Writable (.obj (("rid", .num (itoa rid)) ::
        (omitEmpty "data" data ++ omitEmpty "error" (error.map ErrObj.toJson)))) := by
      refine .obj (List.forall_mem_cons.2 ⟨writable_num rid, List.forall_mem_append.2 ⟨writable_omitEmpty h,
        writable_omitEmpty ?_⟩⟩)
      intro w hw
      obtain ⟨e, -, rfl⟩ := Option.map_eq_some_iff.1 hw
      exact writable_errObj e
    obtain ⟨hrid, hdata, herror, hnone⟩ := property_members (f := "rid") (a := "data") (b := "error")
      (.num (itoa rid)) data (error.map ErrObj.toJson) (by decide) (by decide) (by decide)
    have hevent := hnone "event" (by decide) (by decide) (by decide)
    rw [Packet.marshal, onMessage_render hw (hnone "toString" (by decide) (by decide) (by decide))]
    simp only [handleEventObject, present, Packet.incoming, hrid, hdata, herror, hevent]
  | event name data cid =>
    have hw : Writable (.obj (("event", .str name) ::
        (omitEmpty "data" data ++ omitEmpty "cid" (cid.map fun n => .num (itoa n))))) := by
      refine .obj (List.forall_mem_cons.2 ⟨.str name, List.forall_mem_append.2 ⟨writable_omitEmpty h,
        writable_omitEmpty ?_⟩⟩)
      intro w hw
      obtain ⟨n, -, rfl⟩ := Option.map_eq_some_iff.1 hw
      exact writable_num n
    obtain ⟨hevent, hdata, hcid, hnone⟩ := property_members (f := "event") (a := "data") (b := "cid")
      (.str name) data (cid.map fun n => .num (itoa n)) (by decide) (by decide) (by decide)
    rw [Packet.marshal, onMessage_render hw (hnone "toString" (by decide) (by decide) (by decide))]
    simp only [handleEventObject, present, Packet.incoming, hevent, hdata, hcid]
  | publish channel data =>
    have hw : Writable (.obj [("event", .str "#publish"),
        ("data", .obj [("channel", .str channel), ("data", data)])]) := by
      refine .obj (List.forall_mem_cons.2 ⟨.str _, List.forall_mem_cons.2 ⟨?_, fun m hm => nomatch hm⟩⟩)
      exact .obj (List.forall_mem_cons.2 ⟨.str _, List.forall_mem_cons.2 ⟨h, fun m hm => nomatch hm⟩⟩)
    rw [Packet.marshal, onMessage_render hw (by simp [property])]
    simp [handleEventObject, present, property, Packet.incoming]

/-! ## What a node sends can be marshalled -/

/-- The data of an event came from JSON. -/
def InEvent.Readable (ev : InEvent) : Prop := ∀ v ∈ ev.data, Writable v

/-- What an effect sends or publishes can be marshalled. -/
def Effect.Sendable : Effect → Prop
  | .send packet => packet.Sendable
  | .publish _ data => ∀ v ∈ data, Writable v
  | _ => True

theorem sendable_respond {ev : InEvent} {data : Option Json} (h : ∀ v ∈ data, Writable v) :
    ∀ e ∈ respond ev data, e.Sendable := by
  unfold respond
  intro e he
  split at he
  · rw [List.mem_singleton.1 he]
    exact h
  · cases he

theorem sendable_respondError (ev : InEvent) (name message : String) :
    ∀ e ∈ respondError ev name message, e.Sendable := by
  unfold respondError
  intro e he
  split at he
  · rw [List.mem_singleton.1 he]
    rintro v ⟨⟩
  · cases he

theorem writable_presencePayload (status : Bool) (vid : String) : Writable (presencePayload status vid) := by
  unfold presencePayload
  split
  · refine .obj ?_
    simp only [List.mem_cons, List.not_mem_nil, or_false]
    rintro m (rfl | rfl)
    · exact .str _
    · exact .bool _
  · refine .obj ?_
    simp only [List.mem_cons, List.not_mem_nil, or_false]
    rintro m (rfl | rfl | rfl)
    · exact .str _
    · exact .bool _
    · exact .str _

theorem writable_authError (authError : Option ErrObj) :
    ∀ m ∈ (authError.map fun e => ("authError", e.toJson)).toList, Writable m.2 := by
  intro m hm
  cases authError with
  | none => cases hm
  | some e =>
    rw [Option.map_some, Option.toList_some, List.mem_singleton] at hm
    rw [hm]
    exact writable_errObj e

theorem writable_handshakeStatus (cfg : Config) (s : Socket) (authError : Option ErrObj) :
    Writable (handshakeStatus cfg s authError) := by
  refine .obj (List.forall_mem_append.2 ⟨writable_authError authError, ?_⟩)
  simp only [List.mem_cons, List.not_mem_nil, or_false]
  rintro m (rfl | rfl | rfl)
  · exact .str _
  · exact .bool _
  · exact writable_num _

theorem writable_authenticateStatus (s : Socket) (authError : Option ErrObj) :
    Writable (authenticateStatus s authError) := by
  refine .obj (List.forall_mem_append.2 ⟨writable_authError authError, ?_⟩)
  simp only [List.mem_cons, List.not_mem_nil, or_false]
  rintro m rfl
  exact .bool _

/-- The payload of a `#publish` is a member of its data. -/
theorem readable_decodePublish {v : Json} (h : Writable v) : ∀ w ∈ (decodePublish v).1.2, Writable w := by
  refine intoStruct_invariant (P := fun r : String × Option Json => ∀ w ∈ r.2, Writable w) (Q := Writable) ?_ ?_ ?_
  · intro key w r hw hr
    split
    · exact hr
    · split
      · rintro w' hw'
        cases hw'
        exact hw
      · exact hr
  · rintro w ⟨⟩
  · rintro members rfl
    exact h.of_obj

/-- An event of a batch or of its own keeps a member of its object as its data. -/
theorem readable_decodeEvent {v : Json} (h : Writable v) : (decodeEvent v).1.Readable := by
  refine intoStruct_invariant (P := InEvent.Readable) (Q := Writable) ?_ ?_ ?_
  · intro key w r hw hr
    unfold InEvent.field
    split
    · exact hr
    · split
      · rintro w' hw'
        cases hw'
        exact hw
      · split
        · exact hr
        · exact hr
  · rintro w ⟨⟩
  · rintro members rfl
    exact h.of_obj

theorem readable_decodeMessage {v : Json} (h : Writable v) : ∀ ev ∈ decodeMessage v, ev.Readable := by
  intro ev hev
  unfold decodeMessage at hev
  split at hev
  · cases hev
  · split at hev
    · split at hev
      · simp only [List.mem_map] at hev
        obtain ⟨r, ⟨item, hitem, rfl⟩, rfl⟩ := hev
        exact readable_decodeEvent (h.of_arr item hitem)
      · cases hev
    · split at hev
      · rw [List.mem_singleton.1 hev]
        exact readable_decodeEvent h
      · cases hev

section Handlers

variable {p : Auth.Primitives} {cfg : Config} {s : Socket} {ev : InEvent} {clock : Clock}

theorem sendable_handleLogin : ∀ e ∈ (handleLogin p cfg s ev clock).2, e.Sendable := by
  unfold handleLogin loginFailed
  split
  · split
    · split
      · rw [List.forall_mem_append]
        refine ⟨sendable_respond (by rintro v ⟨⟩), ?_⟩
        intro e he
        rw [List.mem_singleton.1 he]
        rintro v ⟨⟩
        refine .obj ?_
        simp only [List.mem_singleton]
        rintro m rfl
        exact .str _
      · exact sendable_respondError ev _ _
    · exact sendable_respondError ev _ _
  · exact sendable_respondError ev _ _

theorem sendable_subscribePresence (token : Auth.AuthToken) (channel : String) :
    ∀ e ∈ subscribePresence cfg token channel, e.Sendable := by
  unfold subscribePresence
  intro e he
  split at he
  · rw [List.mem_singleton.1 he]
    trivial
  · split at he
    · rw [List.mem_singleton.1 he]
      trivial
    · cases he

theorem sendable_handleSubscribe : ∀ e ∈ (handleSubscribe cfg s ev).2, e.Sendable := by
  unfold handleSubscribe subscribeFailed
  dsimp only
  split
  · exact sendable_respondError ev _ _
  · split
    · exact sendable_respondError ev _ _
    · split
      · exact sendable_respondError ev _ _
      · rename_i token _
        split
        · exact sendable_respondError ev _ _
        · split
          · exact sendable_respondError ev _ _
          · rw [List.forall_mem_append, List.forall_mem_append]
            refine ⟨⟨sendable_subscribePresence token _, ?_⟩, sendable_respond ?_⟩
            · intro e he
              rw [List.mem_singleton.1 he]
              trivial
            · intro v hv
              split at hv
              · cases hv
                refine .obj ?_
                simp only [List.mem_singleton]
                rintro m rfl
                exact .bool true
              · cases hv

theorem sendable_handleUnsubscribe : ∀ e ∈ (handleUnsubscribe s ev).2, e.Sendable := by
  unfold handleUnsubscribe
  dsimp only
  split
  · rintro e ⟨⟩
  · split
    · exact List.forall_mem_cons.2 ⟨trivial, sendable_respond (by rintro v ⟨⟩)⟩
    · exact sendable_respond (by rintro v ⟨⟩)

theorem sendable_handlePublish (h : ev.Readable) : ∀ e ∈ (handlePublish cfg s ev).2, e.Sendable := by
  unfold handlePublish
  rw [List.forall_mem_append]
  refine ⟨sendable_respond (by rintro v ⟨⟩), ?_⟩
  split
  · rename_i request hreq
    obtain ⟨v, hv, hdec⟩ := Option.map_eq_some_iff.1 hreq
    have hdata := readable_decodePublish (h v hv)
    rw [hdec] at hdata
    intro e he
    split at he
    · cases he
    · split at he
      · cases he
      · split at he
        · cases he
        · rw [List.mem_singleton.1 he]
          exact hdata
  · rintro e ⟨⟩

/-- What a handler sends or publishes was decoded from its event or is built from texts, truth values and
integers. -/
theorem sendable_handleEvent (h : ev.Readable) : ∀ e ∈ (handleEvent p cfg s ev clock).2, e.Sendable := by
  unfold handleEvent
  split
  · exact sendable_respond (by rintro v ⟨⟩; exact writable_handshakeStatus ..)
  · exact sendable_handleSubscribe
  · exact sendable_handleUnsubscribe
  · exact sendable_handlePublish h
  · exact sendable_respond (by rintro v ⟨⟩; exact writable_authenticateStatus ..)
  · exact sendable_respond (by rintro v ⟨⟩)
  · intro e he
    rw [List.mem_singleton.1 he]
    trivial
  · exact sendable_handleLogin
  · exact sendable_respondError ev _ _

theorem sendable_cleanup (channels : List String) : ∀ e ∈ (cleanup cfg s channels).2, e.Sendable := by
  unfold cleanup cleanupPresence
  rw [List.forall_mem_append]
  constructor
  · intro e he
    obtain ⟨channel, -, rfl⟩ := List.mem_map.1 he
    trivial
  · intro e he
    split at he
    · cases he
    · repeat' split at he
      all_goals first
        | (cases he; done)
        | (rw [List.mem_singleton.1 he]; trivial)

end Handlers

end NodejsHelper
