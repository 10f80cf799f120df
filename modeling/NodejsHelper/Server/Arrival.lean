/-
From a client to its read loop: the events `SCTransport.emitObject` stringifies, one by one or as the
batch of `sendObjectBatch`, in masked frames, are the events the loop of `run` takes up, in order.
-/
import NodejsHelper.Client.Message
import NodejsHelper.Socket.Basic
import NodejsHelper.WebSocket.Roundtrip

namespace NodejsHelper

open Strings Json WebSocket

/-! ## What the client sends, decoded -/

namespace SocketCluster

/-- The event a node decodes an event object to. -/
def EventObject.toInEvent (e : EventObject) : InEvent := ⟨e.event, e.data, e.cid.map fun n : ℕ => (n : Int)⟩

/-- The events a text is decoded to; a response has no event name and no call id. -/
def Sent.events : Sent → List InEvent
  | .single e => [e.toInEvent]
  | .batch es => es.map EventObject.toInEvent
  | .pong => []
  | .reply _ _ data => [⟨"", data, none⟩]

end SocketCluster

open SocketCluster

namespace Server

/-! ## What the read loop takes up -/

/-- `handleMessage` up to the handlers. -/
def decodeText (text : String) : List InEvent :=
  match parse (trimSpace text) with
  | some v => decodeMessage v
  | none => []

/-- A turn of the loop of `run`: the answer to a ping of the server, a ping of the client, the events of
a frame, or the end. -/
inductive Turn
  | pong
  | ping
  | events (evs : List InEvent)
  | ended

/-- What the loop makes of a result of `ReadMessage`. -/
def turn : MessageResult ReadError → Turn
  | .message _ payload _ =>
    if decodeUtf8 payload = "#2" then .pong
    else if decodeUtf8 payload = "#1" then .ping
    else .events (decodeText (decodeUtf8 payload))
  | _ => .ended

/-! ## Decoding -/

theorem decodeEvent_toJson {e : EventObject} (h : e.Emittable) : decodeEvent e.toJson = (e.toInEvent, true) := by
  obtain ⟨event, data, cid⟩ := e
  have hcid : ∀ n ∈ cid, parseInt64 (itoa (n : Int)) = some (n : Int) := by
    intro n hn
    rw [itoa_ofNat]
    exact parseInt64_repr (h.cid n hn)
  have hevent : keyMatches "event" "event" = true := by decide
  have hdata : keyMatches "data" "event" = false ∧ keyMatches "data" "data" = true := by decide
  have hkey : keyMatches "cid" "event" = false ∧ keyMatches "cid" "data" = false ∧ keyMatches "cid" "cid" = true := by
    decide
  cases data <;> cases cid <;>
    simp_all [decodeEvent, EventObject.toJson, EventObject.toInEvent, omitEmpty, intoStruct, InEvent.field, intoRaw,
      intoIntPtr]

theorem decodeEvent_responseData (rid : Json) (error data : Option Json) :
    decodeEvent (responseData rid error data) = (⟨"", data, none⟩, true) := by
  have hrid : keyMatches "rid" "event" = false ∧ keyMatches "rid" "data" = false ∧ keyMatches "rid" "cid" = false := by
    decide
  have herror : keyMatches "error" "event" = false ∧ keyMatches "error" "data" = false ∧
      keyMatches "error" "cid" = false := by
    decide
  have hdata : keyMatches "data" "event" = false ∧ keyMatches "data" "data" = true := by decide
  cases error <;> cases data <;>
    simp [decodeEvent, responseData, omitEmpty, intoStruct, InEvent.field, intoRaw, hrid, herror, hdata]

/-- A value in brackets is decoded as it is. -/
theorem decodeText_stringify {v : Json} (h : (∃ members, v = .obj members) ∨ ∃ items, v = .arr items)
    (hw : Writable v) (hdepth : v.depth ≤ maxNestingDepth) : decodeText (stringify v) = decodeMessage v := by
  have htrim : trimSpace (stringify v) = stringify v := trimSpace_write h
  rw [decodeText, htrim, parse_stringify hw hdepth]

/-- A text of the client decodes to the events it was made of. -/
theorem decodeText_sent {m : Sent} (h : m.Emittable) (hshallow : m.Shallow) (hm : m ≠ .pong) :
    decodeText m.text = m.events := by
  cases m with
  | single e =>
    have hdec := decodeEvent_toJson h
    have hobj : decodeText (stringify e.toJson) = decodeMessage e.toJson :=
      decodeText_stringify (Or.inl ⟨_, rfl⟩) (EventObject.Emittable.writable h) hshallow
    have hdepth : ¬ maxNestingDepth < e.toJson.depth := Nat.not_lt.2 hshallow
    rw [Sent.text, hobj]
    rw [EventObject.toJson] at hdec hdepth ⊢
    simp only [decodeMessage, if_neg hdepth, hdec, if_true, Sent.events]
  | batch es =>
    have hw : Writable (.arr (es.map EventObject.toJson)) := by
      refine .arr fun v hv => ?_
      obtain ⟨e, he, rfl⟩ := List.mem_map.1 hv
      exact (h e he).writable
    have hdec : (es.map EventObject.toJson).map decodeEvent = es.map fun e => (e.toInEvent, true) := by
      rw [List.map_map]
      exact List.map_congr_left fun e he => decodeEvent_toJson (h e he)
    rw [Sent.text, decodeText_stringify (Or.inr ⟨_, rfl⟩) hw hshallow, decodeMessage, if_neg (Nat.not_lt.2 hshallow)]
    simp only [hdec, Sent.events]
    rw [if_pos (by simp), List.map_map]
    rfl
  | pong => exact absurd rfl hm
  | reply rid error data =>
    obtain ⟨hrid, herror, hdata⟩ := h
    have hobj : decodeText (stringify (responseData rid error data)) = decodeMessage (responseData rid error data) :=
      decodeText_stringify (Or.inl ⟨_, rfl⟩) (writable_responseData hrid herror hdata) hshallow
    have hdec := decodeEvent_responseData rid error data
    have hdepth : ¬ maxNestingDepth < (responseData rid error data).depth := Nat.not_lt.2 hshallow
    rw [Sent.text, hobj]
    rw [responseData] at hdec hdepth ⊢
    simp only [decodeMessage, if_neg hdepth, hdec, if_true, Sent.events]

/-! ## Arrival -/

/-- The turn of the loop for a text of the client. -/
def turnOf : Sent → Turn
  | .pong => .pong
  | m => .events m.events

theorem stringify_head {v : Json} (h : (∃ members, v = .obj members) ∨ ∃ items, v = .arr items) (s : String)
    (hs : s.toList.head? = some '#') : stringify v ≠ s := by
  intro heq
  rw [← heq, stringify, String.toList_ofList] at hs
  rcases h with ⟨members, rfl⟩ | ⟨items, rfl⟩
  · rw [writeValue] at hs
    cases hs
  · rw [writeValue] at hs
    cases hs

/-- A text of the client other than the pong is in brackets. -/
theorem Sent.text_brackets {m : Sent} (hm : m ≠ .pong) :
    ∃ v : Json, m.text = stringify v ∧ ((∃ members, v = .obj members) ∨ ∃ items, v = .arr items) := by
  cases m with
  | single e => exact ⟨e.toJson, rfl, Or.inl ⟨_, rfl⟩⟩
  | batch es => exact ⟨_, rfl, Or.inr ⟨_, rfl⟩⟩
  | pong => exact absurd rfl hm
  | reply rid error data => exact ⟨_, rfl, Or.inl ⟨_, rfl⟩⟩

/-- The loop takes a text of the client for what it is. -/
theorem turn_sent {m : Sent} (h : m.Emittable) (hshallow : m.Shallow) (rest : List UInt8) :
    turn (.message opText (utf8 m.text) rest) = turnOf m := by
  by_cases hm : m = .pong
  · subst hm
    rw [Sent.text, turn, decodeUtf8_utf8]
    rfl
  · obtain ⟨v, hv, hbrackets⟩ := Sent.text_brackets hm
    have hturn : turnOf m = .events m.events := by
      cases m with
      | pong => exact absurd rfl hm
      | _ => rfl
    rw [hturn, turn, decodeUtf8_utf8, hv, if_neg (stringify_head hbrackets "#2" rfl),
      if_neg (stringify_head hbrackets "#1" rfl), ← hv, decodeText_sent h hshallow hm]

/-- Of any texts of a client within the limits of length and of nesting and under any masks, the loop of `run`
takes up the events in the order they were emitted, a batch as its events in a row and a pong as no event, one
text a turn; whatever follows the frames is left to the turns after them. -/
theorem events_arrive (maxPayload : MaxPayload) (writes : ℕ → Bool) (sent : List (Sent × Client.Mask))
    (hsent : ∀ m ∈ sent, m.1.Emittable) (hshallow : ∀ m ∈ sent, m.1.Shallow)
    (hlen : ∀ m ∈ sent, ((utf8 m.1.text).length : ℤ) ≤ maxPayload.bytes) :
    ∃ frames,
      List.Forall₂ (fun m frame => Client.writeFrameLocked opText (utf8 m.1.text) m.2 = some frame) sent frames ∧
      ∀ rest k,
        (successive (fun s => (readMessage maxPayload.bytes writes s).result) (sent.length + k)
            (frames.flatten ++ rest)).map turn =
          sent.map (fun m => turnOf m.1) ++
            (successive (fun s => (readMessage maxPayload.bytes writes s).result) k rest).map turn := by
  induction sent with
  | nil => exact ⟨[], .nil, fun rest k => by simp⟩
  | cons m sent ih =>
    obtain ⟨frames, hframes, hturns⟩ := ih (fun m' hm' => hsent m' (List.mem_cons_of_mem m hm'))
      (fun m' hm' => hshallow m' (List.mem_cons_of_mem m hm'))
      (fun m' hm' => hlen m' (List.mem_cons_of_mem m hm'))
    have hm := hlen m List.mem_cons_self
    have hmax := maxPayload.lt
    have hlt : (utf8 m.1.text).length < 2 ^ 63 := by omega
    have hop : opText < 16 := by decide
    obtain ⟨frame, hframe, hmasked⟩ := writeFrameLocked_masked hop hlt m.2
    refine ⟨frame :: frames, .cons hframe hframes, fun rest k => ?_⟩
    have hread := readMessage_text hmasked hm writes (frames.flatten ++ rest)
    rw [List.length_cons, Nat.add_right_comm, List.flatten_cons, List.append_assoc, successive, hread]
    simp only [List.map_cons, List.cons_append]
    rw [turn_sent (hsent m List.mem_cons_self) (hshallow m List.mem_cons_self), hturns]

theorem events_arrive_sample :
    ∃ frames, List.Forall₂ (fun m frame => Client.writeFrameLocked opText (utf8 m.1.text) m.2 = some frame)
        [(Sent.single ⟨"a", none, some 1⟩, ⟨[1, 2, 3, 4], rfl⟩), (.pong, ⟨[0, 0, 0, 0], rfl⟩)] frames ∧
      (successive (fun s => (readMessage 1024 (fun _ => true) s).result) 2 (frames.flatten ++ [0x88])).map turn =
        [.events [⟨"a", none, some 1⟩], .pong] := by
  obtain ⟨frames, hframes, hturns⟩ := events_arrive ⟨1024, by decide, by decide⟩ (fun _ => true)
    [(.single ⟨"a", none, some 1⟩, ⟨[1, 2, 3, 4], rfl⟩), (.pong, ⟨[0, 0, 0, 0], rfl⟩)]
    (by
      refine List.forall_mem_cons.2 ⟨⟨by rintro v ⟨⟩, ?_⟩, List.forall_mem_singleton.2 trivial⟩
      rintro n ⟨⟩
      decide)
    (List.forall_mem_cons.2 ⟨show Json.depth _ ≤ _ by decide, List.forall_mem_singleton.2 trivial⟩)
    (by decide)
  exact ⟨frames, hframes, hturns [0x88] 0⟩

end Server

end NodejsHelper
