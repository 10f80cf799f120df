/-
From a node to the client at the other end of the wire: the bytes of the frames handed to a connection,
read frame by frame and text by text, are the packets its queue accepted, in their order, up to the
frame that closes the connection.
-/
import NodejsHelper.Server.Confinement
import NodejsHelper.Server.Order
import NodejsHelper.Server.Text
import NodejsHelper.WebSocket.Roundtrip

namespace NodejsHelper

open Strings Json WebSocket SocketCluster

namespace Server

variable {p : Auth.Primitives} {cfg : Config}

/-! ## Packets on their way -/

/-- What an operation sends or publishes can be marshalled. -/
def Op.Sendable : Op → Prop
  | .enqueueText _ msg | .selectOutbound _ msg => msg.packet.Sendable
  | .publish _ _ data => ∀ v ∈ data, Writable v
  | .publishLocal _ _ data => Writable data
  | _ => True

/-- The value of a frame is what a text reads as. -/
def Work.FromText : Work → Prop
  | .message _ v => ∃ text, read text = some v
  | _ => True

def Label.FromText : Label → Prop
  | .start w => w.FromText
  | _ => True

/-- Everything on its way to a client can be marshalled. -/
structure Marshals (s : State) : Prop where
  batch : ∀ t, ∀ ev ∈ s.mem.batch t, ev.Readable
  pending : ∀ g, ∀ op ∈ s.todo g, op.Sendable
  queued : ∀ t, ∀ msg ∈ (s.mem.conns t).queued, msg.packet.Sendable

theorem marshals_init : Marshals init where
  batch t ev h := by cases h
  pending g op h := by cases h
  queued t msg h := by cases h

theorem sendable_afterFrame {t : ℕ} {frame : Frame} {ok : Bool} : ∀ o ∈ afterFrame t frame ok, o.Sendable := by
  intro o ho
  cases frame <;> cases ok <;> simp only [afterFrame, List.mem_singleton, List.not_mem_nil] at ho <;> subst ho <;>
    trivial

theorem sendable_opOf (t : ℕ) {e : Effect} (h : e.Sendable) : (opOf t e).Sendable := by
  cases e with
  | send packet => exact h
  | publish channel data => exact h
  | presence channel status vid =>
    rintro v ⟨⟩
    exact writable_presencePayload status vid
  | _ => trivial

/-- A section hands on what it was given, or fans it out. -/
theorem Exec.sendable {m m' : Memory} {g : Goroutine} {op : Op} {ops : List Op} (h : Exec cfg m g op m' ops)
    (hop : op.Sendable) : ∀ o ∈ ops, o.Sendable := by
  intro o ho
  cases h with
  | enqueue t msg => rw [List.mem_singleton.1 ho]; exact hop
  | publish t channel data =>
    rcases List.mem_cons.1 ho with rfl | ho
    · cases data with
      | none => exact .null
      | some v => exact hop v rfl
    · rw [List.mem_singleton.1 ho]; trivial
  | publishLocal call channel data targets =>
    obtain ⟨t, -, rfl⟩ := List.mem_map.1 ho
    exact hop
  | lockRefused | written | writeFailed => exact sendable_afterFrame o ho
  | closeAllSockets targets =>
    rcases List.mem_append.1 ho with ho | ho
    · obtain ⟨t, -, rfl⟩ := List.mem_map.1 ho; trivial
    · rw [List.mem_singleton.1 ho]; trivial
  | hubAdd t channel hooks hh | hubRemove t channel hooks hh | ensure channel wanted hooks hh =>
    rcases hh with rfl | rfl
    · cases ho
    · rw [List.mem_singleton.1 ho]; trivial
  | selectFull | closeWon | lock | setClosed | lockClosed | awaitSockets => rw [List.mem_singleton.1 ho]; trivial
  | _ => cases ho

/-- New work sends what its event or its frame holds. -/
theorem Start.sendable {m m' : Memory} {w : Work} {g : Goroutine} {ops : List Op} (h : Start p cfg m w g m' ops)
    (hbatch : ∀ t, ∀ ev ∈ m.batch t, ev.Readable) : ∀ o ∈ ops, o.Sendable := by
  intro o ho
  cases h with
  | event t clock ev evs hb =>
    obtain ⟨e, he, rfl⟩ := List.mem_map.1 ho
    exact sendable_opOf t (sendable_handleEvent (hbatch t ev (hb ▸ List.mem_cons_self)) e he)
  | cleanup t channels =>
    obtain ⟨e, he, rfl⟩ := List.mem_map.1 ho
    exact sendable_opOf t (sendable_cleanup channels e he)
  | clientPing => rw [List.mem_singleton.1 ho]; exact Or.inr rfl
  | ping => rw [List.mem_singleton.1 ho]; exact Or.inl rfl
  | receive channel raw call v hv =>
    rw [List.mem_singleton.1 ho]
    obtain ⟨text, -, hparse⟩ := Option.bind_eq_some_iff.1 hv
    exact writable_of_parse hparse
  | readClose =>
    rcases List.mem_cons.1 ho with rfl | ho
    · trivial
    · rw [List.mem_singleton.1 ho]; trivial
  | handshakeTimeout t ops hops =>
    rcases hops with rfl | rfl
    · cases ho
    · rw [List.mem_singleton.1 ho]; trivial
  | readPing | readError | close | dequeue | pongTimeout | signal => rw [List.mem_singleton.1 ho]; trivial
  | _ => cases ho

/-- The events still to be handled come from a frame. -/
theorem Start.readable {m m' : Memory} {w : Work} {g : Goroutine} {ops : List Op} (h : Start p cfg m w g m' ops)
    (hw : w.FromText) (hbatch : ∀ t, ∀ ev ∈ m.batch t, ev.Readable) : ∀ t, ∀ ev ∈ m'.batch t, ev.Readable := by
  intro t' ev hev
  cases h with
  | message t v =>
    by_cases ht : t' = t
    · subst ht
      obtain ⟨text, hparse⟩ := hw
      simp only [Memory.setBatch, Function.update_self] at hev
      exact readable_decodeMessage (writable_of_read hparse) ev hev
    · simp only [Memory.setBatch, Function.update_of_ne ht] at hev
      exact hbatch t' ev hev
  | event t clock ev' evs hb =>
    by_cases ht : t' = t
    · subst ht
      simp only [Memory.setSocket, Memory.setBatch, Function.update_self] at hev
      exact hbatch t' ev (hb ▸ List.mem_cons_of_mem ev' hev)
    · simp only [Memory.setSocket, Memory.setBatch, Function.update_of_ne ht] at hev
      exact hbatch t' ev hev
  | _ => exact hbatch t' ev hev

theorem marshals_step (s : State) (l : Label) (s' : State) (hl : l.FromText) (hs : Marshals s)
    (h : step p cfg s l = some s') : Marshals s' := by
  have hqueued : ∀ t, ∀ msg ∈ (s'.mem.conns t).queued, msg.packet.Sendable := by
    intro t msg hm
    rcases queued_step h hm with hold | ⟨g, op, hop, hc⟩
    · exact hs.queued t msg hold
    · have hsend := hs.pending g op hop
      cases op <;> cases hc <;> exact hsend
  refine ⟨?_, ?_, hqueued⟩
  · cases step_cases h with
    | run g choice op rest ops m ht hx =>
      intro t ev hev
      rw [Workers.State.assign_mem, hx.batch] at hev
      exact hs.batch t ev hev
    | start w g ops m ht hw => exact hw.readable hl hs.batch
    | stall t => exact hs.batch
  · intro g' o ho
    cases step_cases h with
    | run g choice op rest ops m ht hx =>
      rcases Workers.mem_assign_append ht ho with ⟨-, ho⟩ | ho
      · exact hx.sendable (hs.pending g op (ht ▸ List.mem_cons_self)) o ho
      · exact hs.pending g' o ho
    | start w g ops m ht hw =>
      rcases Workers.mem_assign ho with ⟨-, ho⟩ | ⟨-, ho⟩
      · exact hw.sendable hs.batch o ho
      · exact hs.pending g' o ho
    | stall t => exact hs.pending g' o ho

/-! ## The bytes on the wire -/

/-- The opcode `WriteText`, `WriteClose` and the answer to a ping give a frame. -/
def Frame.opcode : Frame → UInt8
  | .text _ => opText
  | .pong _ => opPong
  | .close _ _ => opClose

/-- The payload of a frame; a close frame has its code in front of the reason. -/
def Frame.payload : Frame → List UInt8
  | .text msg => utf8 msg.packet.marshal
  | .pong payload => payload
  | .close code reason => UInt8.ofNat (code / 256) :: UInt8.ofNat code :: utf8 reason

/-- The bytes of a frame. -/
def Frame.bytes (f : Frame) : List UInt8 := WebSocket.writeFrame f.opcode f.payload

/-- The frame is no longer than the reader takes. -/
def Frame.Fits (f : Frame) : Prop := (f.payload.length : ℤ) ≤ Client.maxFrame

/-- The frame closes the connection. -/
def Frame.closes : Frame → Bool
  | .close _ _ => true
  | _ => false

/-- All bytes written to a connection. -/
def Conn.wire (c : Conn) : List UInt8 := c.written.flatMap Frame.bytes

/-- One result of the client's reads: a text with what it means, or the end. -/
inductive Heard
  | incoming (l : List Incoming)
  | unreadable
  | ended (e : Client.ClientError)
  | panicked

/-- What a read is to the client. -/
def hear : MessageResult Client.ClientError → Heard
  | .message _ payload _ =>
    match ofUtf8 payload with
    | some text => .incoming (onMessage text)
    | none => .unreadable
  | .failed e => .ended e
  | .panicked => .panicked

/-- The client reads a connection to its end. -/
def heard (bytes : List UInt8) : List Heard :=
  (successive (fun s => (Client.readMessage (fun _ => true) 0 s).1) (bytes.length + 1) bytes).map hear

/-- The messages in front of the first close frame. -/
def beforeClose (frames : List Frame) : List Message := (frames.takeWhile fun f => !f.closes).filterMap Frame.message

/-! ## Reading frames -/

/-- A client reads a frame of the server, whatever its opcode. -/
theorem readFrame_server {opcode : UInt8} (hop : opcode < 16) {payload : List UInt8}
    (hlen : (payload.length : ℤ) ≤ Client.maxFrame) (rest : List UInt8) :
    Client.readFrame (WebSocket.writeFrame opcode payload ++ rest) = .frame ⟨true, opcode, payload⟩ rest := by
  have hlt : payload.length < 2 ^ 63 := by unfold Client.maxFrame at hlen; omega
  have hencodes := lengthBytes_encodes hlt
  obtain ⟨hmask, hshort⟩ := unmasked_bits _ hencodes.short_lt
  obtain ⟨-, hfin, hcode⟩ := firstByte_bits true opcode hop
  simp only [firstByte, if_true] at hfin hcode
  rw [WebSocket.writeFrame, writeHeader, List.cons_append, List.cons_append, List.cons_append, List.cons_append,
    List.append_assoc, Client.readFrame, hmask, hshort, readLength_append hencodes hlt]
  simp only
  rw [if_neg (by omega), readBody_unmasked]
  simp only [hfin, hcode]

/-- The reads of the client, with every pong written. -/
def readMessage (s : List UInt8) : MessageResult Client.ClientError := (Client.readMessage (fun _ => true) 0 s).1

/-- The read that starts with a frame. -/
def Frame.read (rest : List UInt8) : Frame → MessageResult Client.ClientError
  | .text msg => .message opText (utf8 msg.packet.marshal) rest
  | .pong _ => readMessage rest
  | .close _ _ => .failed .closedByServer

theorem readMessage_frame {f : Frame} (hf : f.Fits) (rest : List UInt8) :
    readMessage (f.bytes ++ rest) = f.read rest := by
  have hop : f.opcode < 16 := by
    cases f
    · exact (by decide : opText < 16)
    · exact (by decide : opPong < 16)
    · exact (by decide : opClose < 16)
  have hread : Client.readFrame (f.bytes ++ rest) = .frame ⟨true, f.opcode, f.payload⟩ rest :=
    readFrame_server hop hf rest
  unfold readMessage
  rw [Client.readMessage]
  split
  · rename_i h; rw [hread] at h; cases h
  · rename_i h; rw [hread] at h; cases h
  · rename_i f' rest' h
    rw [hread] at h
    cases h
    cases f
    · rfl
    · rfl
    · rfl

theorem readMessage_nil : readMessage [] = .failed .eof := by
  unfold readMessage
  rw [Client.readMessage]
  split
  · rename_i h; cases h; rfl
  · rename_i h; cases h
  · rename_i h; cases h

theorem successive_congr {s s' : List UInt8} (h : readMessage s = readMessage s') (k : ℕ) :
    successive readMessage (k + 1) s = successive readMessage (k + 1) s' := by
  rw [successive, successive, h]

/-- The reads of the frames of a connection: the messages in front of the first close, then the end. -/
theorem successive_frames : ∀ {frames : List Frame} {k : ℕ}, (∀ f ∈ frames, f.Fits) → frames.length < k →
    (successive readMessage k (frames.flatMap Frame.bytes)).map hear =
      (beforeClose frames).map (fun msg => .incoming (onMessage msg.packet.marshal)) ++
        [.ended (if frames.any Frame.closes then .closedByServer else .eof)]
  | [], k, _, hk => by
    obtain ⟨k, rfl⟩ : ∃ n, k = n + 1 := ⟨k - 1, by omega⟩
    rw [List.flatMap_nil, successive, readMessage_nil]
    rfl
  | f :: frames, k, hfits, hk => by
    obtain ⟨k, rfl⟩ : ∃ n, k = n + 1 := ⟨k - 1, by omega⟩
    rw [List.length_cons] at hk
    have hread := readMessage_frame (hfits f List.mem_cons_self) (frames.flatMap Frame.bytes)
    have hrest : ∀ f' ∈ frames, f'.Fits := fun f' hf' => hfits f' (List.mem_cons_of_mem f hf')
    rw [List.flatMap_cons]
    cases f with
    | text msg =>
      have ih := successive_frames hrest (k := k) (by omega)
      rw [successive, hread, Frame.read, List.map_cons, ih, hear, ofUtf8_utf8]
      rfl
    | pong payload =>
      -- the read that takes a pong goes on to the next frame
      rw [successive_congr hread k]
      exact successive_frames hrest (by omega)
    | close code reason =>
      rw [successive, hread]
      rfl

theorem length_le_wire (frames : List Frame) : frames.length ≤ (frames.flatMap Frame.bytes).length := by
  induction frames with
  | nil => exact le_rfl
  | cons f frames ih =>
    rw [List.flatMap_cons, List.length_append, List.length_cons]
    have hpos : 1 ≤ f.bytes.length := by simp [Frame.bytes, WebSocket.writeFrame, writeHeader]
    omega

theorem beforeClose_beginning (frames : List Frame) : beforeClose frames <+: frames.filterMap Frame.message :=
  (List.takeWhile_prefix _).filterMap _

theorem beforeClose_of_open {frames : List Frame} (h : frames.any Frame.closes = false) :
    beforeClose frames = frames.filterMap Frame.message := by
  have hall : ∀ f ∈ frames, (!f.closes) = true := by
    intro f hf
    rw [Bool.not_eq_true']
    exact Bool.eq_false_iff.2 fun hc => Bool.eq_false_iff.1 h (List.any_eq_true.2 ⟨f, hf, hc⟩)
  rw [beforeClose, List.takeWhile_eq_self_iff.2 hall]

/-! ## Delivery -/

/-- In every run, what the client at the other end of a connection reads are the packets the queue of the
socket accepted, each taken for what it is, from the first one on and in their order, and then the end:
the close frame, or the end of what was written. While no close frame and no failed write has stopped the
write loop, the packets still missing are in its hands or in the channel. -/
theorem delivered_in_order (tr : List Label) {s : State} (h : Transition.run (step p cfg) init tr = some s)
    (htext : ∀ l ∈ tr, l.FromText) (t : ℕ) (hfits : ∀ f ∈ (s.mem.conns t).written, f.Fits) :
    ∃ msgs rest, (s.mem.conns t).queued = msgs ++ rest ∧
      heard (s.mem.conns t).wire = msgs.map (fun msg => .incoming [msg.packet.incoming]) ++
        [.ended (if (s.mem.conns t).written.any Frame.closes then .closedByServer else .eof)] ∧
      ((s.mem.conns t).written.any Frame.closes = false → (s.mem.lives t).writing = true →
        rest = inFlight s t ++ (s.mem.conns t).outbound) := by
  have hfifo : Fifo t s := (sound_run h).fifo t
  have hmarshals : Marshals s := Transition.run_invariant_of marshals_step htext marshals_init h
  obtain ⟨rest, hrest⟩ := (beforeClose_beginning (s.mem.conns t).written).trans hfifo.texts_beginning
  have hreads : heard (s.mem.conns t).wire = (beforeClose (s.mem.conns t).written).map (fun msg =>
      .incoming (onMessage msg.packet.marshal)) ++
        [.ended (if (s.mem.conns t).written.any Frame.closes then .closedByServer else .eof)] :=
    successive_frames hfits (Nat.lt_succ_of_le (length_le_wire (s.mem.conns t).written))
  refine ⟨beforeClose (s.mem.conns t).written, rest, hrest.symm, ?_, fun hopen hwriting => ?_⟩
  · rw [hreads]
    congr 1
    refine List.map_congr_left fun msg hmsg => ?_
    have hqueued : msg ∈ (s.mem.conns t).queued := by
      rw [← hrest]
      exact List.mem_append_left rest hmsg
    rw [onMessage_marshal (hmarshals.queued t msg hqueued)]
  · rcases hfifo.flow with hflow | ⟨hstopped, -⟩
    · rw [beforeClose_of_open hopen] at hrest
      rw [← hrest, List.append_assoc] at hflow
      exact (List.append_cancel_left hflow).symm
    · rw [hwriting] at hstopped
      cases hstopped

/-- A client connects, sends a `login` the read loop has yet to take up, and is pinged. -/
def samplePinged : List Label :=
  [.start (.upgrade "s"), .start (.registerSocket 0), .start (.runSocket 0),
    .start (.message 0 (frameOf ⟨"login", none, some 7⟩)), .start (.ping 0), .run (.pingLoop 0) ⟨[], true⟩,
    .run (.pingLoop 0) ⟨[], true⟩, .start (.dequeue 0), .run (.writeLoop 0) ⟨[], true⟩, .run (.writeLoop 0) ⟨[], true⟩]

theorem delivered_in_order_sample :
    ∃ s msgs rest, Transition.run (step Auth.sample sampleNode) init samplePinged = some s ∧
      (s.mem.conns 0).queued = msgs ++ rest ∧ (s.mem.conns 0).queued.length = 1 ∧
      heard (s.mem.conns 0).wire = msgs.map (fun msg => .incoming [msg.packet.incoming]) ++ [.ended .eof] := by
  obtain ⟨s, hs, hwritten, hlen⟩ : ∃ s, Transition.run (step Auth.sample sampleNode) init samplePinged = some s ∧
      (s.mem.conns 0).written = [.text ⟨.text "#1", none⟩] ∧ (s.mem.conns 0).queued.length = 1 := ⟨_, rfl, rfl, rfl⟩
  have hframe : ∃ text, read text = some (frameOf ⟨"login", none, some 7⟩) := by
    refine exists_read_iff.2 (.obj ?_)
    intro m hm
    rcases List.mem_cons.1 hm with rfl | hm
    · exact .str _
    · rw [List.mem_singleton.1 hm]
      exact writable_num 7
  have htext : ∀ l ∈ samplePinged, l.FromText := by
    simp only [samplePinged, List.forall_mem_cons]
    exact ⟨trivial, trivial, trivial, hframe, trivial, trivial, trivial, trivial, trivial, trivial, by rintro l ⟨⟩⟩
  have hfits : ∀ f ∈ (s.mem.conns 0).written, f.Fits := by
    rw [hwritten]
    exact List.forall_mem_singleton.2 (by decide : ((2 : ℕ) : ℤ) ≤ Client.maxFrame)
  obtain ⟨msgs, rest, hq, hheard, -⟩ := delivered_in_order samplePinged hs htext 0 hfits
  rw [hwritten] at hheard
  exact ⟨s, msgs, rest, hs, hq, hlen, hheard⟩

end Server

end NodejsHelper
