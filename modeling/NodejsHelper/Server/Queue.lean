/-
The outbound queue of a socket. Many goroutines fill it and the write loop alone empties it, so what
has been written, is being written and is still in the channel is what the channel ever accepted, in
this order (`Fifo`), and what reaches the connection stays a prefix of it when a write fails.
-/
import NodejsHelper.Server.Stall

namespace NodejsHelper

namespace Server

variable {p : Auth.Primitives} {cfg : Config}

/-! ## Texts -/

/-- The message of a text frame. -/
def Frame.message : Frame → Option Message
  | .text msg => some msg
  | _ => none

/-- The texts that were written to the connection. -/
def Conn.texts (c : Conn) : List Message := c.written.filterMap Frame.message

/-- The message of an operation that is to write a text to the connection of the socket. -/
def Op.text (t : ℕ) : Op → Option Message
  | .lockFrame t' frame | .writeFrame t' frame => if t' = t then frame.message else none
  | _ => none

/-- What the write loop has taken from the channel and not yet written. -/
def inFlight (s : State) (t : ℕ) : List Message := (s.todo (.writeLoop t)).filterMap (Op.text t)

/-- The queue of the socket and what was written of it are as before. -/
structure SameQueue (t : ℕ) (m m' : Memory) : Prop where
  texts : (m'.conns t).texts = (m.conns t).texts
  outbound : (m'.conns t).outbound = (m.conns t).outbound
  queued : (m'.conns t).queued = (m.conns t).queued

theorem SameQueue.refl (t : ℕ) (m : Memory) : SameQueue t m m := ⟨rfl, rfl, rfl⟩

theorem sameQueue_setConn {m : Memory} {t' : ℕ} {c : Conn} (ht : c.texts = (m.conns t').texts)
    (ho : c.outbound = (m.conns t').outbound) (hq : c.queued = (m.conns t').queued) (t : ℕ) :
    SameQueue t m (m.setConn t' c) :=
  ⟨setConn_same Conn.texts ht t, setConn_same Conn.outbound ho t, setConn_same Conn.queued hq t⟩

theorem frameFailed_writing {m : Memory} {t t' : ℕ} {frame : Frame} (h : ∀ msg, frame = .text msg → t' ≠ t) :
    ((frameFailed m t' frame).lives t).writing = (m.lives t).writing := by
  cases frame with
  | text msg => simp [frameFailed, Memory.setLife, (h msg rfl).symm]
  | _ => rfl

theorem text_afterFrame (t t' : ℕ) (frame : Frame) (ok : Bool) :
    (afterFrame t' frame ok).filterMap (Op.text t) = [] := by
  cases frame <;> cases ok <;> rfl

theorem text_of_message {t t' : ℕ} {frame : Frame} (h : ∀ msg, frame = .text msg → t' ≠ t) :
    (if t' = t then frame.message else none) = none := by
  cases frame with
  | text msg => exact if_neg (h msg rfl)
  | _ => exact ite_self none

/-! ## Sections -/

/-- What a section can do to the texts of a socket: leave them alone, queue one, write the one in hand, or
fail to, which ends the write loop. -/
inductive Moves (t : ℕ) (m : Memory) (op : Op) (m' : Memory) (ops : List Op) : Prop
  | quiet : SameQueue t m m' → (m'.lives t).writing = (m.lives t).writing →
      ops.filterMap (Op.text t) = (op.text t).toList → Moves t m op m' ops
  | queue (msg : Message) : op = .selectOutbound t msg → ops = [] → (m'.lives t).writing = (m.lives t).writing →
      (m'.conns t).texts = (m.conns t).texts → (m'.conns t).outbound = (m.conns t).outbound ++ [msg] →
      (m'.conns t).queued = (m.conns t).queued ++ [msg] → Moves t m op m' ops
  | write (msg : Message) : op = .writeFrame t (.text msg) → ops = [] →
      (m'.lives t).writing = (m.lives t).writing → (m'.conns t).texts = (m.conns t).texts ++ [msg] →
      (m'.conns t).outbound = (m.conns t).outbound → (m'.conns t).queued = (m.conns t).queued → Moves t m op m' ops
  | fail (msg : Message) : op.text t = some msg → SameQueue t m m' → (m'.lives t).writing = false →
      ops.filterMap (Op.text t) = [] → Moves t m op m' ops

/-- A frame that is no text of the socket fails without consequences for its texts. -/
theorem moves_failed {m m₁ : Memory} {t t' : ℕ} {op : Op} {frame : Frame}
    (hop : op.text t = if t' = t then frame.message else none) (hsame : SameQueue t m m₁)
    (hlives : m₁.lives = m.lives) :
    Moves t m op (frameFailed m₁ t' frame) (afterFrame t' frame false) := by
  have hconns := (frameFailed_frame m₁ t' frame).2.2.2.1
  have hsame : SameQueue t m (frameFailed m₁ t' frame) := by
    constructor <;> rw [hconns]
    exacts [hsame.texts, hsame.outbound, hsame.queued]
  by_cases h : ∃ msg, frame = .text msg ∧ t' = t
  · obtain ⟨msg, rfl, rfl⟩ := h
    exact .fail msg (by rw [hop, if_pos rfl]; rfl) hsame (by simp [frameFailed, Memory.setLife]) rfl
  · have hne : ∀ msg, frame = .text msg → t' ≠ t := fun msg hf ht => h ⟨msg, hf, ht⟩
    refine .quiet hsame ((frameFailed_writing hne).trans (by rw [hlives])) ?_
    rw [hop, text_of_message hne, text_afterFrame]
    rfl

theorem Exec.moves {m m' : Memory} {g : Goroutine} {op : Op} {ops : List Op} (h : Exec cfg m g op m' ops) (t : ℕ) :
    Moves t m op m' ops := by
  cases h with
  | selectSend t' msg =>
    by_cases ht : t' = t
    · subst ht
      exact .queue msg rfl rfl rfl (by simp [Memory.setConn, Conn.texts]) (by simp [Memory.setConn])
        (by simp [Memory.setConn])
    · refine .quiet ⟨?_, ?_, ?_⟩ rfl rfl <;> simp [Memory.setConn, Ne.symm ht]
  | lock t' frame =>
    refine .quiet (sameQueue_setConn (by rfl) (by rfl) (by rfl) t) rfl ?_
    simp only [Op.text, List.filterMap_cons, List.filterMap_nil]
    cases (if t' = t then frame.message else none) <;> rfl
  | lockRefused t' frame => exact moves_failed rfl (.refl t m) rfl
  | written t' frame =>
    by_cases hf : ∃ msg, frame = .text msg ∧ t' = t
    · obtain ⟨msg, rfl, rfl⟩ := hf
      refine .write msg rfl rfl rfl ?_ (by simp [Memory.setConn]) (by simp [Memory.setConn])
      simp [Memory.setConn, Conn.texts, Frame.message]
    · have hne : ∀ msg, frame = .text msg → t' ≠ t := fun msg hf' ht => hf ⟨msg, hf', ht⟩
      refine .quiet ⟨?_, setConn_same Conn.outbound (by rfl) t, setConn_same Conn.queued (by rfl) t⟩ rfl ?_
      · by_cases ht : t' = t
        · subst ht
          cases frame with
          | text msg => exact absurd rfl (hne msg rfl)
          | _ => simp [Memory.setConn, Conn.texts, Frame.message]
        · simp [Memory.setConn, Ne.symm ht]
      · rw [Op.text, text_of_message hne, text_afterFrame]
        rfl
  | writeFailed t' frame => exact moves_failed rfl (sameQueue_setConn (by rfl) (by rfl) (by rfl) t) rfl
  | closeWon t' =>
    exact .quiet (sameQueue_setConn (by rfl) (by rfl) (by rfl) t) rfl (by simp [Op.text, Frame.message])
  | setClosed | lockClosed | closeConn => exact .quiet (sameQueue_setConn (by rfl) (by rfl) (by rfl) t) rfl rfl
  | hubAdd t' channel hooks hh | hubRemove t' channel hooks hh | ensure channel wanted hooks hh =>
    rcases hh with rfl | rfl <;> exact .quiet ⟨rfl, rfl, rfl⟩ rfl rfl
  | publishLocal call channel data targets =>
    refine .quiet (.refl t m) rfl ?_
    rw [List.filterMap_map]
    exact List.filterMap_eq_nil_iff.2 fun _ _ => rfl
  | closeAllSockets targets =>
    refine .quiet (.refl t m) rfl ?_
    rw [List.filterMap_append, List.filterMap_map]
    exact List.append_eq_nil_iff.2 ⟨List.filterMap_eq_nil_iff.2 fun _ _ => rfl, rfl⟩
  | endRead t' =>
    refine .quiet ⟨rfl, rfl, rfl⟩ ?_ rfl
    by_cases ht : t = t'
    · subst ht; simp [Memory.setStage, Memory.setLife]
    · simp [Memory.setStage, Memory.setLife, ht]
  | _ => exact .quiet ⟨rfl, rfl, rfl⟩ rfl rfl

/-! ## Work -/

/-- `run` has not started the write loop yet. -/
def Stage.early : Stage → Bool
  | .waiting | .upgraded | .registered => true
  | _ => false

/-- What taking up work can do to the texts of a socket: leave them alone, or hand the first of the channel
to the write loop. -/
inductive Takes (t : ℕ) (m : Memory) (g : Goroutine) (m' : Memory) (ops : List Op) : Prop
  | quiet : SameQueue t m m' → ops.filterMap (Op.text t) = [] → Takes t m g m' ops
  | dequeue (msg : Message) : g = .writeLoop t → (m.lives t).writing = true → m'.lives = m.lives →
      (m'.conns t).texts = (m.conns t).texts → (m.conns t).outbound = msg :: (m'.conns t).outbound →
      (m'.conns t).queued = (m.conns t).queued → ops.filterMap (Op.text t) = [msg] → Takes t m g m' ops

theorem text_opOf (t t' : ℕ) (e : Effect) : (opOf t' e).text t = none := by
  cases e <;> rfl

theorem Start.takes {m m' : Memory} {w : Work} {g : Goroutine} {ops : List Op} (h : Start p cfg m w g m' ops) (t : ℕ) :
    Takes t m g m' ops := by
  cases h with
  | dequeue t' msg rest ho hw =>
    by_cases ht : t' = t
    · subst ht
      refine .dequeue msg rfl hw rfl ?_ ?_ ?_ ?_
      · simp [Memory.setConn, Conn.texts]
      · simp [Memory.setConn, ho]
      · simp [Memory.setConn]
      · simp [Op.text, Frame.message]
    · refine .quiet ⟨?_, ?_, ?_⟩ ?_
      · simp [Memory.setConn, Ne.symm ht]
      · simp [Memory.setConn, Ne.symm ht]
      · simp [Memory.setConn, Ne.symm ht]
      · simp [Op.text, ht]
  | event | cleanup =>
    refine .quiet ⟨rfl, rfl, rfl⟩ (List.filterMap_eq_nil_iff.2 fun o ho => ?_)
    obtain ⟨e, -, rfl⟩ := List.mem_map.1 ho
    exact text_opOf t _ e
  | closeDone =>
    exact .quiet ⟨setConn_same Conn.texts (by rfl) t, setConn_same Conn.outbound (by rfl) t,
      setConn_same Conn.queued (by rfl) t⟩ rfl
  | readClose | readPing => exact .quiet ⟨rfl, rfl, rfl⟩ (by simp [Op.text, Frame.message])
  | handshakeTimeout t' ops hops => rcases hops with rfl | rfl <;> exact .quiet ⟨rfl, rfl, rfl⟩ rfl
  | _ => exact .quiet ⟨rfl, rfl, rfl⟩ rfl

/-- Only `run` starts a write loop. -/
theorem Start.writing {m m' : Memory} {w : Work} {g : Goroutine} {ops : List Op} (h : Start p cfg m w g m' ops) {t : ℕ}
    (ht : (m'.lives t).writing = true) :
    (m.lives t).writing = true ∨ (m.lives t).stage = .registered ∧ (m'.lives t).stage = .reading := by
  have hset : ∀ (m₁ : Memory) (t' : ℕ) (l : Life), m₁.lives = m.lives →
      (l.writing = true → (m.lives t').writing = true ∨ (m.lives t').stage = .registered ∧ l.stage = .reading) →
      ((m₁.setLife t' l).lives t).writing = true →
      (m.lives t).writing = true ∨ (m.lives t).stage = .registered ∧ ((m₁.setLife t' l).lives t).stage = .reading := by
    intro m₁ t' l hl hw
    by_cases he : t = t'
    · subst he
      simpa [Memory.setLife] using hw
    · simp only [Memory.setLife, Function.update_of_ne he, hl]
      exact Or.inl
  cases h with
  | upgrade id => exact hset _ _ _ rfl Or.inl ht
  | runSocket t' hst => exact hset m t' _ rfl (fun _ => Or.inr ⟨hst, rfl⟩) ht
  | registerSocket | unregisterSocket | cleanup | closeDone | close | stopTimer | pongTimeout | stopPinging
  | handshakeTimeout => exact hset _ _ _ rfl Or.inl ht
  | stopWriting t' => exact hset m t' _ rfl (by intro h; cases h) ht
  | _ => exact Or.inl ht

/-- Once `run` has started the write loop, it has. -/
theorem Exec.late {m m' : Memory} {g : Goroutine} {op : Op} {ops : List Op} (h : Exec cfg m g op m' ops) {t : ℕ}
    (hl : (m.lives t).stage.early = false) : (m'.lives t).stage.early = false := by
  rcases h.stage t with h | ⟨-, h⟩
  · rw [h, hl]
  · rw [h]; rfl

theorem Start.late {s : State} (ha : Agree cfg s) {m : Memory} {w : Work} {g : Goroutine} {ops : List Op}
    (h : Start p cfg s.mem w g m ops) {t : ℕ} (hl : (s.mem.lives t).stage.early = false) :
    (m.lives t).stage.early = false := by
  rcases h.stage t with h | ⟨rfl, -, -⟩ | ⟨-, h⟩
  · rw [h, hl]
  · rw [(ha.fresh _ le_rfl).1] at hl; cases hl
  · rw [h]
    revert hl
    cases (s.mem.lives t).stage <;> decide

/-- A write loop that `run` has not started takes nothing up. -/
theorem Start.writeLoop {m m' : Memory} {w : Work} {t : ℕ} {ops : List Op}
    (h : Start p cfg m w (.writeLoop t) m' ops) : ops = [] ∨ (m.lives t).writing = true := by
  cases h with
  | dequeue _ _ _ _ hw => exact Or.inr hw
  | stopWriting => exact Or.inl rfl

/-! ## First in, first out -/

/-- What is written, in hand and in the channel is what the channel accepted, in this order; once a write
has failed, what is written stays a prefix of it. -/
structure Fifo (t : ℕ) (s : State) : Prop where
  flow : (s.mem.conns t).texts ++ inFlight s t ++ (s.mem.conns t).outbound = (s.mem.conns t).queued ∨
    (s.mem.lives t).writing = false ∧ (s.mem.lives t).stage.early = false ∧ inFlight s t = [] ∧
      (s.mem.conns t).texts <+: (s.mem.conns t).queued
  early : (s.mem.lives t).stage.early = true → (s.mem.lives t).writing = false ∧ s.todo (.writeLoop t) = []

theorem fifo_init (t : ℕ) : Fifo t init := ⟨Or.inl rfl, fun _ => ⟨rfl, rfl⟩⟩

theorem inFlight_assign_self (s : State) (t : ℕ) (m : Memory) (ops rest : List Op) :
    inFlight (s.assign (.writeLoop t) m (ops ++ rest)) t = ops.filterMap (Op.text t) ++ rest.filterMap (Op.text t) := by
  rw [inFlight, Workers.State.assign_todo_self, List.filterMap_append]

theorem inFlight_assign_of_ne {s : State} {g : Goroutine} {t : ℕ} (h : g ≠ .writeLoop t) (m : Memory) (ops : List Op) :
    inFlight (s.assign g m ops) t = inFlight s t := by
  rw [inFlight, Workers.State.assign_todo_of_ne h.symm, inFlight]

theorem inFlight_cons {s : State} {t : ℕ} {op : Op} {rest : List Op} (h : s.todo (.writeLoop t) = op :: rest) :
    inFlight s t = (op.text t).toList ++ rest.filterMap (Op.text t) := by
  rw [inFlight, h, List.filterMap_cons]
  cases op.text t <;> rfl

/-- A text is in the hands of the write loop of its socket. -/
theorem atHome_of_text {g : Goroutine} {t : ℕ} {op : Op} {msg : Message} (hg : op.AtHome g)
    (h : op.text t = some msg) : g = .writeLoop t := by
  cases op with
  | lockFrame t' frame | writeFrame t' frame =>
    obtain ⟨rfl, hf⟩ := Option.ite_none_right_eq_some.1 h
    cases frame <;> cases hf
    exact (hg _ rfl).symm
  | _ => cases h

/-- Nothing is in hand behind the section the write loop executes. -/
theorem Tidy.inFlight_rest {s : State} (hs : Tidy s) {g : Goroutine} {op : Op} {rest : List Op}
    (h : s.todo g = op :: rest) (t : ℕ) : rest.filterMap (Op.text t) = [] := by
  refine List.filterMap_eq_nil_iff.2 fun o ho => ?_
  have hpath := hs.tails g o (by rw [h]; exact ho)
  cases o with
  | lockFrame t' frame => exact absurd ⟨t', Or.inl (by simp [Op.locks])⟩ hpath
  | writeFrame t' frame => exact absurd ⟨t', Or.inr (by simp [Op.writes])⟩ hpath
  | _ => rfl

theorem Moves.writing_le {t : ℕ} {m m' : Memory} {op : Op} {ops : List Op} (h : Moves t m op m' ops)
    (hw : (m.lives t).writing = false) : (m'.lives t).writing = false := by
  cases h with
  | quiet _ he | queue _ _ _ he | write _ _ _ he => rw [he, hw]
  | fail _ _ _ he => exact he

theorem Fifo.run {t : ℕ} {s : State} (hs : Fifo t s) (hh : Tidy s) {g : Goroutine} {op : Op} {rest ops : List Op}
    {m : Memory} (hg : s.todo g = op :: rest) (hx : Exec cfg s.mem g op m ops) :
    Fifo t (s.assign g m (ops ++ rest)) := by
  have hop : op.AtHome g := hh.homed g op (hg ▸ List.mem_cons_self)
  have hrest := hh.inFlight_rest hg t
  -- what is in hand changes only where the write loop executes
  have hflight : ops.filterMap (Op.text t) = (op.text t).toList →
      inFlight (s.assign g m (ops ++ rest)) t = inFlight s t := by
    intro ho
    by_cases he : g = .writeLoop t
    · subst he
      rw [inFlight_assign_self, inFlight_cons hg, ho]
    · exact inFlight_assign_of_ne he m _
  refine ⟨?_, fun he => ?_⟩
  · simp only [Workers.State.assign_mem]
    cases hx.moves t with
    | quiet hsame hw ho =>
      rw [hsame.texts, hsame.outbound, hsame.queued, hflight ho, hw]
      rcases hs.flow with h | ⟨h1, h2, h3, h4⟩
      · exact Or.inl h
      · exact Or.inr ⟨h1, hx.late h2, h3, h4⟩
    | queue msg hop' ho hw htexts hout hq =>
      subst hop' ho
      rw [htexts, hout, hq, hflight rfl, hw]
      rcases hs.flow with h | ⟨h1, h2, h3, h4⟩
      · exact Or.inl (by rw [← h]; simp)
      · exact Or.inr ⟨h1, hx.late h2, h3, h4.trans (List.prefix_append _ _)⟩
    | write msg hop' ho hw htexts hout hq =>
      subst hop' ho
      cases hop _ rfl
      rw [htexts, hout, hq, inFlight_assign_self, hrest]
      have hhand : inFlight s t = [msg] := by rw [inFlight_cons hg, hrest]; simp [Op.text, Frame.message]
      rcases hs.flow with h | ⟨-, -, h3, -⟩
      · rw [hhand] at h
        exact Or.inl (by simpa using h)
      · rw [hhand] at h3; cases h3
    | fail msg htext hsame hw ho =>
      cases atHome_of_text hop htext
      have hhand : inFlight s t = [msg] := by rw [inFlight_cons hg, hrest, htext]; rfl
      rw [hsame.texts, hsame.outbound, hsame.queued, inFlight_assign_self, hrest, ho, hw]
      refine Or.inr ⟨rfl, ?_, rfl, ?_⟩
      · cases he : (s.mem.lives t).stage.early with
        | false => exact hx.late he
        | true => rw [(hs.early he).2] at hg; cases hg
      · rcases hs.flow with h | ⟨-, -, h3, -⟩
        · rw [← h, List.append_assoc]
          exact List.prefix_append _ _
        · rw [hhand] at h3; cases h3
  · rw [Workers.State.assign_mem] at he
    have hearly : (s.mem.lives t).stage.early = true := by
      by_contra hl
      rw [hx.late (by simpa using hl)] at he
      cases he
    obtain ⟨hw, htodo⟩ := hs.early hearly
    have hne : Goroutine.writeLoop t ≠ g := by rintro rfl; rw [htodo] at hg; cases hg
    exact ⟨(hx.moves t).writing_le hw, by rw [Workers.State.assign_todo_of_ne hne, htodo]⟩

theorem Fifo.start {t : ℕ} {s : State} (hs : Fifo t s) (ha : Agree cfg s) {w : Work} {g : Goroutine} {ops : List Op}
    {m : Memory} (hg : s.todo g = []) (hw : Start p cfg s.mem w g m ops) : Fifo t (s.assign g m ops) := by
  have hwriting : (s.mem.lives t).stage.early = false → (s.mem.lives t).writing = false →
      (m.lives t).writing = false := by
    intro hl hf
    by_contra ht
    rcases hw.writing (by simpa using ht) with h | ⟨h, -⟩
    · rw [hf] at h; cases h
    · rw [h] at hl; cases hl
  refine ⟨?_, fun he => ?_⟩
  · simp only [Workers.State.assign_mem]
    cases hw.takes t with
    | quiet hsame ho =>
      have hflight : inFlight (s.assign g m ops) t = inFlight s t := by
        by_cases he : g = .writeLoop t
        · subst he
          rw [inFlight, Workers.State.assign_todo_self, ho, inFlight, hg]
          rfl
        · exact inFlight_assign_of_ne he m ops
      rw [hsame.texts, hsame.outbound, hsame.queued, hflight]
      rcases hs.flow with h | ⟨h1, h2, h3, h4⟩
      · exact Or.inl h
      · exact Or.inr ⟨hwriting h2 h1, hw.late ha h2, h3, h4⟩
    | dequeue msg he hwr hlives htexts hout hq ho =>
      subst he
      rw [htexts, hq, inFlight, Workers.State.assign_todo_self, ho]
      rcases hs.flow with h | ⟨h1, -⟩
      · rw [inFlight, hg, hout] at h
        exact Or.inl (by simpa using h)
      · rw [h1] at hwr; cases hwr
  · rw [Workers.State.assign_mem] at he
    have hearly : (s.mem.lives t).stage.early = true := by
      by_contra hl
      rw [hw.late ha (by simpa using hl)] at he
      cases he
    obtain ⟨hf, htodo⟩ := hs.early hearly
    refine ⟨?_, ?_⟩
    · by_contra ht
      rcases hw.writing (by simpa using ht) with h | ⟨-, h⟩
      · rw [hf] at h; cases h
      · rw [h] at he; cases he
    · by_cases hne : Goroutine.writeLoop t = g
      · subst hne
        rw [Workers.State.assign_todo_self]
        rcases hw.writeLoop with h | h
        · exact h
        · rw [hf] at h; cases h
      · rw [Workers.State.assign_todo_of_ne hne, htodo]

theorem Fifo.step {t : ℕ} {s s' : State} {l : Label} (hs : Fifo t s) (hh : Tidy s) (ha : Agree cfg s)
    (h : step p cfg s l = some s') : Fifo t s' := by
  cases step_cases h with
  | run g choice op rest ops m hg hx => exact hs.run hh hg hx
  | start w g ops m hg hw => exact hs.start ha hg hw
  | stall t' =>
    have hsame : SameQueue t s.mem (s.mem.setConn t' { s.mem.conns t' with stalled := true }) :=
      sameQueue_setConn (by rfl) (by rfl) (by rfl) t
    refine ⟨?_, hs.early⟩
    have hflow := hs.flow
    rw [← hsame.texts, ← hsame.outbound, ← hsame.queued] at hflow
    exact hflow

theorem Fifo.texts_beginning {t : ℕ} {s : State} (hs : Fifo t s) :
    (s.mem.conns t).texts <+: (s.mem.conns t).queued := by
  rcases hs.flow with h | ⟨-, -, -, h⟩
  · rw [← h, List.append_assoc]
    exact List.prefix_append _ _
  · exact h

end Server

end NodejsHelper
