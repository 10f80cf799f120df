/-
The read side of a `wsConn` (`websocket.go`): `ReadMessage` answers pings, skips pongs, puts the
fragments of a message together and gives up on anything else. What it returns is characterised by the
frames in front of the stream alone (`Message`, `readMessage_exact`): which of them carry the message,
how it is cut and where the control frames stand between the fragments makes no difference.
-/
import NodejsHelper.WebSocket.Frame
import Mathlib.Algebra.GroupWithZero.Nat

namespace NodejsHelper.WebSocket

open Bytes

/-! ## The loop -/

/-- What one call returns, with the rest of the stream, under the errors `ε` of the reader. -/
inductive MessageResult (ε : Type)
  | message (opcode : UInt8) (payload rest : List UInt8)
  | failed (e : ε)
  | panicked

/-- A frame a call writes by itself: the pong of a ping, or the echo of a close. -/
inductive Reply
  | pong (payload : List UInt8)
  | close (code : ℕ) (reason : String)

/-- One call: its result, the frames it wrote, and the lengths of the buffers it made. -/
structure Call where
  result : MessageResult ReadError
  written : List Reply
  made : List ℤ

/-- The call with what came before the rest of it. -/
def Call.after (made : Option ℤ) (written : List Reply) (c : Call) : Call :=
  { c with written := written ++ c.written, made := made.toList ++ c.made }

/-- The variables of `ReadMessage`; the buffer is empty until there is a fragment. -/
structure Fragments where
  messageOpcode : UInt8
  messageBuf : List UInt8
  fragmented : Bool

/-- Their zero values. -/
def Fragments.zero : Fragments := ⟨0, [], false⟩

/-- What the switch on the opcode of a frame does: the next turn of the loop, or a return. -/
inductive Turn
  | next (v : Fragments) (written : List Reply)
  | done (result : MessageResult ReadError) (written : List Reply)

/-- The switch on the opcode. The two lengths are those of buffers in memory, whose sum does not
exceed 64 bits. -/
def onFrame (maxPayload : ℤ) (writes : Bool) (v : Fragments) (f : Frame) (rest : List UInt8) : Turn :=
  if f.opcode = opPing then
    if writes then .next v [.pong f.payload] else .done (.failed .write) []
  else if f.opcode = opPong then .next v []
  -- the close is echoed, and the call ends with errClosed
  else if f.opcode = opClose then .done (.failed .closed) [.close 1000 ""]
  else if f.opcode = opContinuation then
    -- a continuation of nothing
    if v.fragmented = false then .done (.failed .corruptFrame) []
    else if maxPayload < v.messageBuf.length + f.payload.length then .done (.failed .messageTooBig) []
    else if f.fin then .done (.message v.messageOpcode (v.messageBuf ++ f.payload) rest) []
    else .next { v with messageBuf := v.messageBuf ++ f.payload } []
  else if f.opcode = opText ∨ f.opcode = opBinary then
    if v.fragmented then .done (.failed .corruptFrame) []
    else if f.fin then .done (.message f.opcode f.payload rest) []
    else .next ⟨f.opcode, v.messageBuf ++ f.payload, true⟩ []
  else .done (.failed .corruptFrame) []

/-- The loop of `ReadMessage`; `writes i` says whether the write of its `i`-th pong succeeds. -/
def readLoop (maxPayload : ℤ) (writes : ℕ → Bool) (i : ℕ) (v : Fragments) (s : List UInt8) : Call :=
  match _h : readFrame maxPayload s with
  | (made, .failed e) => ⟨.failed e, [], made.toList⟩
  | (made, .panicked) => ⟨.panicked, [], made.toList⟩
  | (made, .frame f rest) =>
    match onFrame maxPayload (writes i) v f rest with
    | .next v written => (readLoop maxPayload writes (i + written.length) v rest).after made written
    | .done result written => ⟨result, written, made.toList⟩
termination_by s.length
decreasing_by exact readFrame_lt _h

/-- `ReadMessage`. -/
def readMessage (maxPayload : ℤ) (writes : ℕ → Bool) (s : List UInt8) : Call :=
  readLoop maxPayload writes 0 .zero s

/-! ## Messages as frames -/

/-- A ping or a pong. -/
def Frame.control (f : Frame) : Bool := decide (f.opcode = opPing) || decide (f.opcode = opPong)

/-- The frames that are not. -/
def dataFrames (frames : List Frame) : List Frame := frames.filter fun f => !f.control

/-- The answers to the pings. -/
def pongs (frames : List Frame) : List Reply :=
  (frames.filter fun f => decide (f.opcode = opPing)).map fun f => .pong f.payload

/-- The opcodes of the data frames of a message: text or binary first and continuations from then on,
or continuations only where the message has begun. -/
def Opcodes (v : Fragments) (opcode : UInt8) (data : List Frame) : Prop :=
  if v.fragmented then opcode = v.messageOpcode ∧ ∀ f ∈ data, f.opcode = opContinuation
  else ∃ first conts, data = first :: conts ∧ opcode = first.opcode ∧ (opcode = opText ∨ opcode = opBinary) ∧
    ∀ f ∈ conts, f.opcode = opContinuation

/-- The frames are one message, or what is missing of the one that has begun: each within the limits,
control frames between data frames that belong together, the last frame a data frame with the `fin`
that the others lack, and no part of the message beyond the limit. -/
structure Message (maxPayload : ℤ) (v : Fragments) (frames : List Frame) (opcode : UInt8) (payload : List UInt8) :
    Prop where
  within : ∀ f ∈ frames, f.Within maxPayload
  opcodes : Opcodes v opcode (dataFrames frames)
  last : ∃ init f, frames = init ++ [f] ∧ f.control = false ∧ f.fin = true
  open_ : ∀ f ∈ (dataFrames frames).dropLast, f.fin = false
  sums : ∀ part, part <+: dataFrames frames →
    (v.messageBuf.length + (part.map fun f => f.payload.length).sum : ℤ) ≤ maxPayload
  payload_eq : payload = v.messageBuf ++ ((dataFrames frames).map Frame.payload).flatten

/-! ## One frame more -/

/-- A data frame goes on with what the variables hold, and the opcode of the message is this one. -/
def Accepts (v : Fragments) (f : Frame) (opcode : UInt8) : Prop :=
  if v.fragmented then f.opcode = opContinuation ∧ opcode = v.messageOpcode
  else (f.opcode = opText ∨ f.opcode = opBinary) ∧ opcode = f.opcode

theorem opcodes_cons {v : Fragments} {opcode : UInt8} {f : Frame} {data : List Frame} :
    Opcodes v opcode (f :: data) ↔ Accepts v f opcode ∧ ∀ d ∈ data, d.opcode = opContinuation := by
  unfold Opcodes Accepts
  split
  · rw [List.forall_mem_cons]
    constructor
    · rintro ⟨h1, h2, h3⟩; exact ⟨⟨h2, h1⟩, h3⟩
    · rintro ⟨⟨h2, h1⟩, h3⟩; exact ⟨h1, h2, h3⟩
  · constructor
    · rintro ⟨first, conts, hd, rfl, hop, hc⟩
      cases hd
      exact ⟨⟨hop, rfl⟩, hc⟩
    · rintro ⟨⟨hop, rfl⟩, hc⟩
      exact ⟨f, data, rfl, rfl, hop, hc⟩

theorem dataFrames_cons_control {f : Frame} (h : f.control = true) (fs : List Frame) :
    dataFrames (f :: fs) = dataFrames fs := by
  simp [dataFrames, h]

theorem dataFrames_cons {f : Frame} (h : f.control = false) (fs : List Frame) :
    dataFrames (f :: fs) = f :: dataFrames fs := by
  simp [dataFrames, h]

/-- The last frame of a message is the last of its data frames. -/
theorem last_dataFrames {frames : List Frame} (h : ∃ init f, frames = init ++ [f] ∧ f.control = false ∧ f.fin = true) :
    dataFrames frames ≠ [] := by
  obtain ⟨init, f, rfl, hc, -⟩ := h
  simp [dataFrames, hc]

/-- The end of a list is the end of its tail, or its only element. -/
theorem last_cons {f : Frame} {fs : List Frame} {P : Frame → Prop} :
    (∃ init l, f :: fs = init ++ [l] ∧ P l) ↔ fs = [] ∧ P f ∨ ∃ init l, fs = init ++ [l] ∧ P l := by
  constructor
  · rintro ⟨init, l, he, hl⟩
    cases init with
    | nil => cases he; exact Or.inl ⟨rfl, hl⟩
    | cons g init => cases he; exact Or.inr ⟨init, l, rfl, hl⟩
  · rintro (⟨rfl, hf⟩ | ⟨init, l, rfl, hl⟩)
    · exact ⟨[], f, rfl, hf⟩
    · exact ⟨f :: init, l, rfl, hl⟩

/-- A control frame is no part of the message. -/
theorem message_cons_control {maxPayload : ℤ} {v : Fragments} {f : Frame} {fs : List Frame} {opcode : UInt8}
    {payload : List UInt8} (hf : f.control = true) :
    Message maxPayload v (f :: fs) opcode payload ↔ f.Within maxPayload ∧ Message maxPayload v fs opcode payload := by
  have hlast : (∃ init l, f :: fs = init ++ [l] ∧ l.control = false ∧ l.fin = true) ↔
      ∃ init l, fs = init ++ [l] ∧ l.control = false ∧ l.fin = true := by
    rw [last_cons, or_iff_right]
    rintro ⟨-, hc, -⟩
    rw [hf] at hc; cases hc
  constructor
  · rintro ⟨h1, h2, h3, h4, h5, h6⟩
    rw [dataFrames_cons_control hf] at h2 h4 h5 h6
    rw [List.forall_mem_cons] at h1
    exact ⟨h1.1, h1.2, h2, hlast.1 h3, h4, h5, h6⟩
  · rintro ⟨h0, h1, h2, h3, h4, h5, h6⟩
    refine ⟨List.forall_mem_cons.2 ⟨h0, h1⟩, ?_, hlast.2 h3, ?_, ?_, ?_⟩ <;> rwa [dataFrames_cons_control hf]

/-- A data frame with `fin` is the last one. -/
theorem message_cons_fin {maxPayload : ℤ} {v : Fragments} {f : Frame} {fs : List Frame} {opcode : UInt8}
    {payload : List UInt8} (hf : f.control = false) (hfin : f.fin = true) :
    Message maxPayload v (f :: fs) opcode payload ↔ f.Within maxPayload ∧ Accepts v f opcode ∧
      (v.messageBuf.length + f.payload.length : ℤ) ≤ maxPayload ∧ fs = [] ∧ payload = v.messageBuf ++ f.payload := by
  constructor
  · rintro ⟨h1, h2, h3, h4, h5, h6⟩
    rw [dataFrames_cons hf] at h2 h4 h5 h6
    have hfs : fs = [] := by
      rcases last_cons.1 h3 with ⟨hfs, -⟩ | hrest
      · exact hfs
      · have hne := last_dataFrames hrest
        rw [List.dropLast_cons_of_ne_nil hne] at h4
        rw [h4 f List.mem_cons_self] at hfin
        cases hfin
    subst hfs
    have hsum := h5 [f] (List.prefix_refl _)
    refine ⟨h1 f List.mem_cons_self, (opcodes_cons.1 h2).1, by simpa using hsum, rfl, by simpa [dataFrames] using h6⟩
  · rintro ⟨h1, h2, h3, rfl, rfl⟩
    have hdata : dataFrames [f] = [f] := dataFrames_cons hf []
    refine ⟨by simpa using h1, ?_, ⟨[], f, rfl, hf, hfin⟩, ?_, ?_, ?_⟩
    · rw [hdata, opcodes_cons]; exact ⟨h2, nofun⟩
    · rw [hdata]; nofun
    · rw [hdata]
      intro part hpart
      rcases List.prefix_cons_iff.1 hpart with rfl | ⟨t, rfl, ht⟩
      · simp only [List.map_nil, List.sum_nil]; omega
      · rw [List.prefix_nil.1 ht]
        simpa using h3
    · rw [hdata]; simp

/-- A data frame without `fin` is a fragment of the message. -/
theorem message_cons_more {maxPayload : ℤ} {v : Fragments} {f : Frame} {fs : List Frame} {opcode : UInt8}
    {payload : List UInt8} (hf : f.control = false) (hfin : f.fin = false) :
    Message maxPayload v (f :: fs) opcode payload ↔ f.Within maxPayload ∧ Accepts v f opcode ∧
      Message maxPayload ⟨opcode, v.messageBuf ++ f.payload, true⟩ fs opcode payload := by
  have hlast : (∃ init l, f :: fs = init ++ [l] ∧ l.control = false ∧ l.fin = true) ↔
      ∃ init l, fs = init ++ [l] ∧ l.control = false ∧ l.fin = true := by
    rw [last_cons, or_iff_right]
    rintro ⟨-, -, hc⟩
    rw [hfin] at hc; cases hc
  have hlen : ((v.messageBuf ++ f.payload).length : ℤ) = v.messageBuf.length + f.payload.length := by simp
  constructor
  · rintro ⟨h1, h2, h3, h4, h5, h6⟩
    rw [dataFrames_cons hf] at h2 h4 h5 h6
    rw [List.forall_mem_cons] at h1
    have h3 := hlast.1 h3
    obtain ⟨hacc, hconts⟩ := opcodes_cons.1 h2
    refine ⟨h1.1, hacc, h1.2, ?_, h3, ?_, fun part hpart => ?_, ?_⟩
    · simp only [Opcodes, if_true]; exact ⟨trivial, hconts⟩
    · rw [List.dropLast_cons_of_ne_nil (last_dataFrames h3)] at h4
      exact fun d hd => h4 d (List.mem_cons_of_mem f hd)
    · have := h5 (f :: part) (List.cons_prefix_cons.2 ⟨rfl, hpart⟩)
      rw [List.map_cons, List.sum_cons] at this
      rw [hlen]
      push_cast at this ⊢
      omega
    · simpa using h6
  · rintro ⟨h0, hacc, h1, h2, h3, h4, h5, h6⟩
    have hconts : ∀ d ∈ dataFrames fs, d.opcode = opContinuation := by
      simp only [Opcodes, if_true] at h2; exact h2.2
    refine ⟨List.forall_mem_cons.2 ⟨h0, h1⟩, ?_, hlast.2 h3, ?_, ?_, ?_⟩
    · rw [dataFrames_cons hf, opcodes_cons]; exact ⟨hacc, hconts⟩
    · rw [dataFrames_cons hf, List.dropLast_cons_of_ne_nil (last_dataFrames h3)]
      exact List.forall_mem_cons.2 ⟨hfin, h4⟩
    · rw [dataFrames_cons hf]
      intro part hpart
      rcases List.prefix_cons_iff.1 hpart with rfl | ⟨t, rfl, ht⟩
      · have := h5 [] (List.nil_prefix)
        rw [hlen] at this
        simp only [List.map_nil, List.sum_nil] at this ⊢
        omega
      · have := h5 t ht
        rw [hlen] at this
        rw [List.map_cons, List.sum_cons]
        push_cast at this ⊢
        omega
    · rw [dataFrames_cons hf, h6]; simp

/-! ## The switch -/

/-- The message that a turn leads to, with the frames behind it. -/
def Turn.Yields (maxPayload : ℤ) (fs : List Frame) (opcode : UInt8) (payload : List UInt8) : Turn → Prop
  | .next v _ => Message maxPayload v fs opcode payload
  | .done (.message opcode' payload' _) _ => fs = [] ∧ opcode = opcode' ∧ payload = payload'
  | .done _ _ => False

/-- The opcode of a message that has begun. -/
theorem Message.opcode_eq {maxPayload : ℤ} {o : UInt8} {buf : List UInt8} {fs : List Frame} {opcode : UInt8}
    {payload : List UInt8} (h : Message maxPayload ⟨o, buf, true⟩ fs opcode payload) : opcode = o := by
  have := h.opcodes
  simp only [Opcodes, if_true] at this
  exact this.1

/-- A data frame that the message does not go on with ends it. -/
theorem not_message_cons {maxPayload : ℤ} {v : Fragments} {f : Frame} {fs : List Frame} {opcode : UInt8}
    {payload : List UInt8} (hf : f.control = false) (ha : ¬ Accepts v f opcode) :
    ¬ Message maxPayload v (f :: fs) opcode payload := by
  cases hfin : f.fin with
  | true => rw [message_cons_fin hf hfin]; exact fun h => ha h.2.1
  | false => rw [message_cons_more hf hfin]; exact fun h => ha h.2.1

/-- A data frame that the message goes on with, and that fits: it ends the message, or is added to it. -/
theorem message_cons_accepted {maxPayload : ℤ} {v : Fragments} {f : Frame} {fs : List Frame} {o opcode : UInt8}
    {payload : List UInt8} (rest : List UInt8) (hf : f.control = false) (ha : Accepts v f opcode ↔ opcode = o)
    (hfits : f.Within maxPayload → (v.messageBuf.length + f.payload.length : ℤ) ≤ maxPayload) :
    Message maxPayload v (f :: fs) opcode payload ↔ f.Within maxPayload ∧
      (if f.fin then Turn.done (.message o (v.messageBuf ++ f.payload) rest) []
        else Turn.next ⟨o, v.messageBuf ++ f.payload, true⟩ []).Yields maxPayload fs opcode payload := by
  cases hfin : f.fin with
  | true =>
    rw [message_cons_fin hf hfin, ha]
    constructor
    · rintro ⟨h1, h2, -, h4, h5⟩; exact ⟨h1, h4, h2, h5⟩
    · rintro ⟨h1, h4, h2, h5⟩; exact ⟨h1, h2, hfits h1, h4, h5⟩
  | false =>
    rw [message_cons_more hf hfin, ha]
    constructor
    · rintro ⟨h1, rfl, h3⟩; exact ⟨h1, h3⟩
    · rintro ⟨h1, h3⟩
      have ho : opcode = o := Message.opcode_eq h3
      subst ho
      exact ⟨h1, rfl, h3⟩

/-- The switch does with a frame of a continued message what the message asks for. -/
theorem message_cons_continuation {maxPayload : ℤ} {v : Fragments} {f : Frame} {fs : List Frame} {opcode : UInt8}
    {payload : List UInt8} (writes : Bool) (rest : List UInt8) (hf : f.opcode = opContinuation) :
    Message maxPayload v (f :: fs) opcode payload ↔
      f.Within maxPayload ∧ (onFrame maxPayload writes v f rest).Yields maxPayload fs opcode payload := by
  have hctl : f.control = false := by unfold Frame.control; rw [hf]; decide
  have hturn : onFrame maxPayload writes v f rest =
      if v.fragmented = false then .done (.failed .corruptFrame) []
      else if maxPayload < v.messageBuf.length + f.payload.length then .done (.failed .messageTooBig) []
      else if f.fin then .done (.message v.messageOpcode (v.messageBuf ++ f.payload) rest) []
      else .next { v with messageBuf := v.messageBuf ++ f.payload } [] := by
    unfold onFrame
    rw [hf]
    rfl
  rw [hturn]
  obtain ⟨o, buf, fragmented⟩ := v
  cases fragmented with
  | false =>
    have ha : ¬ Accepts ⟨o, buf, false⟩ f opcode := by
      unfold Accepts
      rw [hf]
      rintro ⟨h | h, -⟩ <;> exact absurd h (by decide)
    exact ⟨fun h => absurd h (not_message_cons hctl ha), fun h => nomatch h.2⟩
  | true =>
    have ha : Accepts ⟨o, buf, true⟩ f opcode ↔ opcode = o := by simp [Accepts, hf]
    rw [if_neg (by simp)]
    by_cases hbig : maxPayload < buf.length + f.payload.length
    · rw [if_pos hbig]
      -- too big: the bound on the first fragment alone fails
      refine ⟨fun h => ?_, fun h => nomatch h.2⟩
      have := h.sums [f] (by rw [dataFrames_cons hctl]; exact List.cons_prefix_cons.2 ⟨rfl, List.nil_prefix⟩)
      simp at this
      omega
    · rw [if_neg hbig]
      exact message_cons_accepted rest hctl ha fun _ => Int.not_lt.1 hbig

/-- The switch does with the first data frame what the message asks for. -/
theorem message_cons_first {maxPayload : ℤ} {v : Fragments} (hv : v.fragmented = false → v.messageBuf = []) {f : Frame}
    {fs : List Frame} {opcode : UInt8} {payload : List UInt8} (writes : Bool) (rest : List UInt8)
    (hf : f.opcode = opText ∨ f.opcode = opBinary) :
    Message maxPayload v (f :: fs) opcode payload ↔
      f.Within maxPayload ∧ (onFrame maxPayload writes v f rest).Yields maxPayload fs opcode payload := by
  have hctl : f.control = false := by unfold Frame.control; rcases hf with hf | hf <;> rw [hf] <;> decide
  have hturn : onFrame maxPayload writes v f rest =
      if v.fragmented then .done (.failed .corruptFrame) []
      else if f.fin then .done (.message f.opcode f.payload rest) []
      else .next ⟨f.opcode, v.messageBuf ++ f.payload, true⟩ [] := by
    unfold onFrame
    rcases hf with hf | hf <;> rw [hf] <;> rfl
  rw [hturn]
  obtain ⟨o, buf, fragmented⟩ := v
  cases fragmented with
  | true =>
    have ha : ¬ Accepts ⟨o, buf, true⟩ f opcode := by
      unfold Accepts
      rintro ⟨h, -⟩
      rcases hf with hf | hf <;> rw [hf] at h <;> exact absurd h (by decide)
    exact ⟨fun h => absurd h (not_message_cons hctl ha), fun h => nomatch h.2⟩
  | false =>
    -- a first frame starts from an empty buffer
    have hbuf : buf = [] := hv rfl
    subst hbuf
    have ha : Accepts ⟨o, [], false⟩ f opcode ↔ opcode = f.opcode := by simp [Accepts, hf]
    rw [if_neg (by simp)]
    exact message_cons_accepted rest hctl ha fun h1 => by simpa using h1.1

/-- A frame in front: it has to be within the limits, and the rest is what the switch on it leads to. -/
theorem message_cons {maxPayload : ℤ} {v : Fragments} (hv : v.fragmented = false → v.messageBuf = []) {f : Frame}
    {fs : List Frame} {opcode : UInt8} {payload : List UInt8} (rest : List UInt8) :
    Message maxPayload v (f :: fs) opcode payload ↔
      f.Within maxPayload ∧ (onFrame maxPayload true v f rest).Yields maxPayload fs opcode payload := by
  by_cases hcont : f.opcode = opContinuation
  · exact message_cons_continuation true rest hcont
  by_cases hdata : f.opcode = opText ∨ f.opcode = opBinary
  · exact message_cons_first hv true rest hdata
  cases hctl : f.control with
  | true =>
    rw [message_cons_control hctl]
    simp only [Frame.control, Bool.or_eq_true, decide_eq_true_eq] at hctl
    have hturn : ∃ written, onFrame maxPayload true v f rest = .next v written := by
      unfold onFrame
      rcases hctl with h | h <;> rw [h] <;> exact ⟨_, rfl⟩
    obtain ⟨written, hw⟩ := hturn
    rw [hw]
    exact Iff.rfl
  | false =>
    have ha : ¬ Accepts v f opcode := by
      unfold Accepts
      split
      · exact fun h => hcont h.1
      · exact fun h => hdata h.1
    have hturn : ∃ e written, onFrame maxPayload true v f rest = .done (.failed e) written := by
      simp only [Frame.control, Bool.or_eq_false_iff, decide_eq_false_iff_not] at hctl
      unfold onFrame
      rw [if_neg hctl.1, if_neg hctl.2, if_neg hcont, if_neg hdata]
      split <;> exact ⟨_, _, rfl⟩
    obtain ⟨e, written, hw⟩ := hturn
    rw [hw]
    exact ⟨fun h => absurd h (not_message_cons hctl ha), fun h => nomatch h.2⟩

/-- The variables when the loop goes on, and the answer to a ping. -/
theorem onFrame_next {maxPayload : ℤ} {writes : Bool} {v v' : Fragments} {f : Frame} {rest : List UInt8}
    {written : List Reply} (h : onFrame maxPayload writes v f rest = .next v' written) :
    written = pongs [f] ∧
      ((v.fragmented = false → v.messageBuf = []) → v'.fragmented = false → v'.messageBuf = []) := by
  have hpongs : f.opcode ≠ opPing → pongs [f] = [] := fun hne => by simp [pongs, hne]
  unfold onFrame at h
  split at h
  · rename_i hop
    split at h
    · cases h; exact ⟨by simp [pongs, hop], id⟩
    · cases h
  · rename_i hop
    rw [hpongs hop]
    split at h
    · cases h; exact ⟨rfl, id⟩
    · split at h
      · cases h
      · split at h
        · split at h
          · cases h
          · rename_i hfrag
            split at h
            · cases h
            · split at h
              · cases h
              · cases h; exact ⟨rfl, fun _ hf => absurd hf hfrag⟩
        · split at h
          · split at h
            · cases h
            · split at h
              · cases h
              · cases h; exact ⟨rfl, nofun⟩
          · cases h

/-- Where a message is returned, nothing was written for its last frame, and the stream is left behind it. -/
theorem onFrame_message {maxPayload : ℤ} {writes : Bool} {v : Fragments} {f : Frame} {rest rest' payload : List UInt8}
    {opcode : UInt8} {written : List Reply}
    (h : onFrame maxPayload writes v f rest = .done (.message opcode payload rest') written) :
    written = pongs [f] ∧ rest' = rest := by
  have hpongs : f.opcode ≠ opPing → pongs [f] = [] := fun hne => by simp [pongs, hne]
  unfold onFrame at h
  split at h
  · split at h <;> cases h
  · rename_i hop
    rw [hpongs hop]
    repeat' split at h
    all_goals cases h
    all_goals exact ⟨rfl, rfl⟩

theorem pongs_cons (f : Frame) (fs : List Frame) : pongs (f :: fs) = pongs [f] ++ pongs fs := by
  by_cases hf : f.opcode = opPing <;> simp [pongs, hf]

/-! ## The stream -/

/-- The frames are in front of the stream, and `rest` is what follows them. -/
def StartsWith (s : List UInt8) (frames : List Frame) (rest : List UInt8) : Prop :=
  ∃ bytes, List.Forall₂ MaskedFrame frames bytes ∧ s = bytes.flatten ++ rest

theorem startsWith_nil {s rest : List UInt8} : StartsWith s [] rest ↔ s = rest := by
  constructor
  · rintro ⟨bytes, hb, rfl⟩
    cases hb
    rfl
  · rintro rfl
    exact ⟨[], .nil, rfl⟩

theorem startsWith_cons {s rest : List UInt8} {f : Frame} {fs : List Frame} :
    StartsWith s (f :: fs) rest ↔ ∃ bytes s', MaskedFrame f bytes ∧ s = bytes ++ s' ∧ StartsWith s' fs rest := by
  constructor
  · rintro ⟨bytes, hb, rfl⟩
    cases hb with
    | cons hf hfs => exact ⟨_, _, hf, by rw [List.flatten_cons, List.append_assoc], _, hfs, rfl⟩
  · rintro ⟨b, s', hf, rfl, bytes, hfs, rfl⟩
    exact ⟨b :: bytes, .cons hf hfs, by rw [List.flatten_cons, List.append_assoc]⟩

theorem not_message_nil {maxPayload : ℤ} {v : Fragments} {opcode : UInt8} {payload : List UInt8} :
    ¬ Message maxPayload v [] opcode payload := by
  rintro ⟨-, -, ⟨init, f, he, -⟩, -⟩
  simp at he

/-- A stream that no accepted frame is in front of holds no message. -/
theorem not_message_of_readFrame {maxPayload : ℤ} (hmax : maxPayload < 2 ^ 63) {v : Fragments} {s rest : List UInt8}
    {frames : List Frame} {opcode : UInt8} {payload : List UInt8}
    (h : ∀ f rest, (readFrame maxPayload s).2 ≠ .frame f rest) (hs : StartsWith s frames rest) :
    ¬ Message maxPayload v frames opcode payload := by
  cases frames with
  | nil => exact not_message_nil
  | cons f fs =>
    intro hm
    obtain ⟨bytes, s', hf, rfl, -⟩ := startsWith_cons.1 hs
    exact h f s' ((readFrame_frame hmax).2 ⟨bytes, hf, hm.within f List.mem_cons_self, rfl⟩)

/-- A message in front of a stream is the frame that is read from it and what the switch leads to. -/
theorem message_readFrame {maxPayload : ℤ} (hmax : maxPayload < 2 ^ 63) {v : Fragments}
    (hv : v.fragmented = false → v.messageBuf = []) {s rest rest' : List UInt8} {f : Frame}
    (h : (readFrame maxPayload s).2 = .frame f rest') {opcode : UInt8} {payload : List UInt8} {written : List Reply} :
    (∃ frames, StartsWith s frames rest ∧ Message maxPayload v frames opcode payload ∧ written = pongs frames) ↔
      ∃ fs, StartsWith rest' fs rest ∧ (onFrame maxPayload true v f rest').Yields maxPayload fs opcode payload ∧
        written = pongs [f] ++ pongs fs := by
  constructor
  · rintro ⟨frames, hs, hm, rfl⟩
    cases frames with
    | nil => exact absurd hm not_message_nil
    | cons g fs =>
      obtain ⟨bytes, s', hg, rfl, hfs⟩ := startsWith_cons.1 hs
      have hread : (readFrame maxPayload (bytes ++ s')).2 = .frame g s' :=
        (readFrame_frame hmax).2 ⟨bytes, hg, hm.within g List.mem_cons_self, rfl⟩
      rw [hread] at h
      cases h
      exact ⟨fs, hfs, ((message_cons hv _).1 hm).2, pongs_cons ..⟩
  · rintro ⟨fs, hfs, hy, rfl⟩
    obtain ⟨bytes, hf, hwithin, rfl⟩ := (readFrame_frame hmax).1 h
    exact ⟨f :: fs, startsWith_cons.2 ⟨bytes, rest', hf, rfl, hfs⟩, (message_cons hv rest').2 ⟨hwithin, hy⟩,
      (pongs_cons f fs).symm⟩

/-- A frame after which the loop goes on. -/
theorem readLoop_next {maxPayload : ℤ} {writes : ℕ → Bool} {i : ℕ} {v v' : Fragments} {s : List UInt8} {f : Frame}
    {rest : List UInt8} {written : List Reply} (h : (readFrame maxPayload s).2 = .frame f rest)
    (ht : onFrame maxPayload (writes i) v f rest = .next v' written) :
    readLoop maxPayload writes i v s =
      (readLoop maxPayload writes (i + written.length) v' rest).after (readFrame maxPayload s).1 written := by
  rw [readLoop]
  split
  · rename_i hr; rw [hr] at h; cases h
  · rename_i hr; rw [hr] at h; cases h
  · rename_i made g rest' hr
    rw [hr] at h ⊢
    cases h
    rw [ht]

/-- A frame with which the call returns. -/
theorem readLoop_done {maxPayload : ℤ} {writes : ℕ → Bool} {i : ℕ} {v : Fragments} {s : List UInt8} {f : Frame}
    {rest : List UInt8} {result : MessageResult ReadError} {written : List Reply}
    (h : (readFrame maxPayload s).2 = .frame f rest)
    (ht : onFrame maxPayload (writes i) v f rest = .done result written) :
    readLoop maxPayload writes i v s = ⟨result, written, (readFrame maxPayload s).1.toList⟩ := by
  rw [readLoop]
  split
  · rename_i hr; rw [hr] at h; cases h
  · rename_i hr; rw [hr] at h; cases h
  · rename_i made g rest' hr
    rw [hr] at h ⊢
    cases h
    rw [ht]

/-- The loop returns the message that the frames in front of the stream hold. -/
theorem readLoop_message {maxPayload : ℤ} (hmax : maxPayload < 2 ^ 63) {writes : ℕ → Bool} (hw : ∀ i, writes i = true)
    (i : ℕ) (v : Fragments) (s : List UInt8) (hv : v.fragmented = false → v.messageBuf = []) (opcode : UInt8)
    (payload rest : List UInt8) (written : List Reply) :
    (readLoop maxPayload writes i v s).result = .message opcode payload rest ∧
        (readLoop maxPayload writes i v s).written = written ↔
      ∃ frames, StartsWith s frames rest ∧ Message maxPayload v frames opcode payload ∧ written = pongs frames := by
  fun_induction readLoop maxPayload writes i v s generalizing written with
  | case1 i v s made e h =>
    refine ⟨fun hc => (nomatch hc.1), ?_⟩
    rintro ⟨frames, hs, hm, -⟩
    exact absurd hm (not_message_of_readFrame hmax (by rw [h]; nofun) hs)
  | case2 i v s made h =>
    refine ⟨fun hc => (nomatch hc.1), ?_⟩
    rintro ⟨frames, hs, hm, -⟩
    exact absurd hm (not_message_of_readFrame hmax (by rw [h]; nofun) hs)
  | case3 i v s made f rest' h v' out ht ih =>
    rw [hw i] at ht
    obtain ⟨hout, hv'⟩ := onFrame_next ht
    rw [message_readFrame hmax hv (by rw [h]), ht, ← hout]
    simp only [Call.after, Turn.Yields]
    constructor
    · rintro ⟨hr, rfl⟩
      obtain ⟨fs, hfs, hm, hp⟩ := (ih (hv' hv) _).1 ⟨hr, rfl⟩
      exact ⟨fs, hfs, hm, by rw [hp]⟩
    · rintro ⟨fs, hfs, hm, rfl⟩
      obtain ⟨hr, hp⟩ := (ih (hv' hv) _).2 ⟨fs, hfs, hm, rfl⟩
      exact ⟨hr, by rw [hp]⟩
  | case4 i v s made f rest' h result out ht =>
    rw [hw i] at ht
    rw [message_readFrame hmax hv (by rw [h]), ht]
    cases result with
    | message opcode' payload' rest'' =>
      obtain ⟨hout, rfl⟩ := onFrame_message ht
      rw [← hout]
      simp only [Turn.Yields]
      constructor
      · rintro ⟨hr, rfl⟩
        cases hr
        exact ⟨[], startsWith_nil.2 rfl, ⟨rfl, rfl, rfl⟩, by simp [pongs]⟩
      · rintro ⟨fs, hfs, ⟨rfl, rfl, rfl⟩, rfl⟩
        rw [startsWith_nil.1 hfs]
        exact ⟨rfl, by simp [pongs]⟩
    | failed e => exact ⟨fun hc => (nomatch hc.1), fun ⟨_, _, hy, _⟩ => hy.elim⟩
    | panicked => exact ⟨fun hc => (nomatch hc.1), fun ⟨_, _, hy, _⟩ => hy.elim⟩

/-- The loop does not panic, and makes no buffer but of a length from zero to the limit. -/
theorem readLoop_safe (maxPayload : ℤ) (writes : ℕ → Bool) (i : ℕ) (v : Fragments) (s : List UInt8) :
    (readLoop maxPayload writes i v s).result ≠ .panicked ∧
      ∀ n ∈ (readLoop maxPayload writes i v s).made, 0 ≤ n ∧ n ≤ maxPayload := by
  fun_induction readLoop maxPayload writes i v s with
  | case1 i v s made e h =>
    obtain ⟨-, hmade⟩ := readFrame_safe maxPayload s
    rw [h] at hmade
    exact ⟨nofun, by simpa using hmade⟩
  | case2 i v s made h => exact absurd (by rw [h]) (readFrame_safe maxPayload s).1
  | case3 i v s made f rest' h v' out ht ih =>
    obtain ⟨-, hmade⟩ := readFrame_safe maxPayload s
    rw [h] at hmade
    refine ⟨ih.1, fun n hn => ?_⟩
    rcases List.mem_append.1 hn with hn | hn
    · exact hmade n (by simpa using hn)
    · exact ih.2 n hn
  | case4 i v s made f rest' h result out ht =>
    obtain ⟨-, hmade⟩ := readFrame_safe maxPayload s
    rw [h] at hmade
    refine ⟨?_, by simpa using hmade⟩
    rintro rfl
    unfold onFrame at ht
    repeat' split at ht
    all_goals cases ht

/-- `ReadMessage` on any stream, under any limit and with pongs that can be written: it does not panic
and makes no buffer beyond the limit; it returns a message, with these answers to pings and this rest
of the stream, if and only if frames that are this message with these pings are in front of that rest;
and on any other stream it fails. -/
theorem readMessage_exact (maxPayload : MaxPayload) {writes : ℕ → Bool} (hw : ∀ i, writes i = true) (s : List UInt8) :
    ((readMessage maxPayload.bytes writes s).result ≠ .panicked ∧
      ∀ n ∈ (readMessage maxPayload.bytes writes s).made, 0 ≤ n ∧ n ≤ maxPayload.bytes) ∧
    (∀ opcode payload rest written,
      (readMessage maxPayload.bytes writes s).result = .message opcode payload rest ∧
          (readMessage maxPayload.bytes writes s).written = written ↔
        ∃ frames, StartsWith s frames rest ∧ Message maxPayload.bytes .zero frames opcode payload ∧
          written = pongs frames) ∧
    ((¬ ∃ frames rest opcode payload, StartsWith s frames rest ∧ Message maxPayload.bytes .zero frames opcode payload) →
      ∃ e, (readMessage maxPayload.bytes writes s).result = .failed e) := by
  have hsafe := readLoop_safe maxPayload.bytes writes 0 .zero s
  have hmessage := readLoop_message maxPayload.lt hw 0 .zero s (fun _ => rfl)
  refine ⟨hsafe, hmessage, fun hno => ?_⟩
  cases hr : (readMessage maxPayload.bytes writes s).result with
  | message opcode payload rest =>
    obtain ⟨frames, hs, hm, -⟩ := (hmessage opcode payload rest _).1 ⟨hr, rfl⟩
    exact absurd ⟨frames, rest, opcode, payload, hs, hm⟩ hno
  | failed e => exact ⟨e, rfl⟩
  | panicked => exact absurd hr hsafe.1

/-- The two fragments of `hi` with a ping between them and one byte behind them, all masked with zeros. -/
def sampleStream : List UInt8 :=
  [0x01, 0x81, 0, 0, 0, 0, 104] ++ ([0x89, 0x81, 0, 0, 0, 0, 7] ++ ([0x80, 0x81, 0, 0, 0, 0, 105] ++ [0xFF]))

theorem readMessage_exact_sample :
    ∃ frames, StartsWith sampleStream frames [0xFF] ∧ Message 1024 .zero frames opText [104, 105] ∧
      [.pong [7]] = pongs frames := by
  have hfirst : (readFrame 1024 sampleStream).2 = .frame ⟨false, opText, [104]⟩ (sampleStream.drop 7) := by rfl
  have hping : (readFrame 1024 (sampleStream.drop 7)).2 = .frame ⟨true, opPing, [7]⟩ (sampleStream.drop 14) := by rfl
  have hlast : (readFrame 1024 (sampleStream.drop 14)).2 = .frame ⟨true, opContinuation, [105]⟩ [0xFF] := by rfl
  refine ((readMessage_exact ⟨1024, by decide, by decide⟩ (fun _ => rfl) sampleStream).2.1 _ _ _ _).1 ?_
  rw [readMessage, readLoop_next hfirst (by rfl), readLoop_next hping (by rfl), readLoop_done hlast (by rfl)]
  exact ⟨rfl, rfl⟩

end NodejsHelper.WebSocket
