/-
A peer that stops reading. A write to its connection does not return, and `writeMu` is held for as
long; the goroutines of the socket itself may wait there, but so does whoever else closes the socket:
a fan-out that finds the queue full, `closeAllSockets`, and `cleanup` behind the socket's own write
loop. As long as a socket is closed by its own goroutines only, and is not torn down behind a stalled
peer with its write loop still there (`Careful`), nobody else is blocked.
-/
import NodejsHelper.Server.Records

namespace NodejsHelper

namespace Server

variable {p : Auth.Primitives} {cfg : Config}

/-! ## The write path of a socket -/

/-- The operation takes `writeMu` of the socket. -/
def Op.locks (t : ℕ) : Op → Bool
  | .lockFrame t' _ | .lockClosed t' => t' = t
  | _ => false

/-- The operation is a write to the socket's connection, under `writeMu`. -/
def Op.writes (t : ℕ) : Op → Bool
  | .writeFrame t' _ => t' = t
  | _ => false

/-- The operation is on the write path of some socket. -/
def Op.onWritePath (op : Op) : Prop := ∃ t, op.locks t = true ∨ op.writes t = true

/-- The section a goroutine is to execute next. -/
def head (s : State) (g : Goroutine) : Option Op := (s.todo g).head?

/-- `Close` at the end of the socket's `cleanup` is next, or under way. -/
def Closing (s : State) (t : ℕ) : Prop :=
  (s.mem.lives t).stage = .stopTimer ∧ head s (.readLoop t) = some (.lockClosed t)

variable (cfg) in
/-- Nobody else is blocked by a stalled peer: no goroutine of another socket waits for `writeMu` of a
stalled one or is in a write to it; every goroutine can execute its next section, unless that is on the
write path of its own socket; and `Close` never waits behind the write of the socket's write loop. -/
structure Unblocked (s : State) : Prop where
  foreign : ∀ t g op, (s.mem.conns t).stalled = true → g.socket ≠ some t → head s g = some op →
    (op.locks t = true → (s.mem.conns t).writeMu = none) ∧ op.writes t = false
  enabled : ∀ g op, head s g = some op → (∀ t, g.socket = some t → op.locks t = false ∧ op.writes t = false) →
    ∃ choice, (exec cfg s.mem g choice op).isSome = true
  teardown : ∀ t, (s.mem.conns t).stalled = true → Closing s t → (s.mem.conns t).writeMu ≠ some (.writeLoop t)

/-- `run` has left its loop and has not come to its end. -/
def Stage.torn : Stage → Bool
  | .unregisterSocket | .cleanup | .closeDone | .close | .stopTimer => true
  | _ => false

/-- Nothing is written to the connection any more, but by a close of the socket: its `wsConn` is closed, or
its write loop has ended. -/
def WriteOver (s : State) (t : ℕ) : Prop :=
  (s.mem.conns t).wsClosed = true ∨ (s.mem.lives t).writing = false ∧ (s.todo (.writeLoop t)).isEmpty = true

instance (s : State) (t : ℕ) : Decidable (WriteOver s t) := inferInstanceAs (Decidable (_ ∨ _ ∧ _))

/-- The goroutine and the socket of a `closeWith` that finds `closed` unset. -/
def wins (s : State) : Label → Option (Goroutine × ℕ)
  | .run g _ =>
    match head s g with
    | some (.closeWith t _ _) => if (s.mem.conns t).closed then none else some (g, t)
    | _ => none
  | _ => none

/-- The socket whose `run` leaves its loop. -/
def leaves (s : State) : Label → Option ℕ
  | .run g _ =>
    match head s g with
    | some (.endRead t) => some t
    | _ => none
  | _ => none

/-- The socket whose peer stops reading. -/
def stalls : Label → Option ℕ
  | .env t => some t
  | _ => none

/-- A goroutine of another socket does not win the `closed` flag of a socket, unless its `wsConn` is closed
already; and `run` does not leave its loop, nor is it leaving when its peer stalls, with the write loop of the
stalled connection still there. -/
def Careful (s : State) (l : Label) : Prop :=
  (∀ r ∈ wins s l, r.1.socket ≠ some r.2 → (s.mem.conns r.2).wsClosed = true) ∧
    (∀ t ∈ leaves s l, (s.mem.conns t).stalled = true → WriteOver s t) ∧
    ∀ t ∈ stalls l, (s.mem.lives t).stage.torn = true → WriteOver s t

instance (s : State) (l : Label) : Decidable (Careful s l) := inferInstanceAs (Decidable (_ ∧ _ ∧ _))

/-! ## Invariants -/

/-- Write paths are entered at the front of a list only, and `closed` is set before `Close` by
goroutines of the socket. -/
structure Tidy (s : State) : Prop where
  homed : Homed s
  tails : ∀ g, ∀ op ∈ (s.todo g).tail, ¬ op.onWritePath
  own : ∀ g t, .setClosed t ∈ s.todo g → g.socket = some t

theorem tidy_init : Tidy init := ⟨homed_init, fun _ _ h => (nomatch h), fun _ _ h => (nomatch h)⟩

theorem not_onWritePath_opOf (t : ℕ) (e : Effect) : ¬ (opOf t e).onWritePath := by
  rintro ⟨t', h⟩
  cases e <;> simp [opOf, Op.locks, Op.writes] at h

theorem tail_afterFrame (t : ℕ) (frame : Frame) (ok : Bool) : (afterFrame t frame ok).tail = [] := by
  cases frame <;> cases ok <;> rfl

theorem Exec.tails {m m' : Memory} {g : Goroutine} {op : Op} {ops : List Op} (h : Exec cfg m g op m' ops) :
    ∀ o ∈ ops.tail, ¬ o.onWritePath := by
  have hnone : ∀ o : Op, (∀ t, o.locks t = false ∧ o.writes t = false) → ¬ o.onWritePath := by
    rintro o ho ⟨t, h | h⟩
    · rw [(ho t).1] at h; cases h
    · rw [(ho t).2] at h; cases h
  intro o ho
  cases h with
  | lockRefused | written | writeFailed => rw [tail_afterFrame] at ho; cases ho
  | publish t channel data =>
    rw [List.mem_singleton.1 ho]
    exact hnone _ fun _ => ⟨rfl, rfl⟩
  | publishLocal call channel data targets =>
    obtain ⟨t, -, rfl⟩ := List.mem_map.1 (List.mem_of_mem_tail ho)
    exact hnone _ fun _ => ⟨rfl, rfl⟩
  | closeAllSockets targets =>
    rcases List.mem_append.1 (List.mem_of_mem_tail ho) with ho | ho
    · obtain ⟨t, -, rfl⟩ := List.mem_map.1 ho
      exact hnone _ fun _ => ⟨rfl, rfl⟩
    · rw [List.mem_singleton.1 ho]
      exact hnone _ fun _ => ⟨rfl, rfl⟩
  | hubAdd t channel hooks hh | hubRemove t channel hooks hh | ensure channel wanted hooks hh =>
    rcases hh with rfl | rfl <;> cases ho
  | _ => cases ho

theorem Start.tails {m m' : Memory} {w : Work} {g : Goroutine} {ops : List Op} (h : Start p cfg m w g m' ops) :
    ∀ o ∈ ops.tail, ¬ o.onWritePath := by
  intro o ho
  cases h with
  | event | cleanup =>
    obtain ⟨e, -, rfl⟩ := List.mem_map.1 (List.mem_of_mem_tail ho)
    exact not_onWritePath_opOf _ e
  | readClose t =>
    rw [List.mem_singleton.1 ho]
    rintro ⟨t', h | h⟩ <;> cases h
  | handshakeTimeout t ops hops => rcases hops with rfl | rfl <;> cases ho
  | _ => cases ho

theorem Exec.own {m m' : Memory} {g : Goroutine} {op : Op} {ops : List Op} (h : Exec cfg m g op m' ops)
    (hg : op.AtHome g) {t : ℕ} (ht : .setClosed t ∈ ops) : g.socket = some t := by
  have hframe : ∀ (t' : ℕ) (frame : Frame) (ok : Bool), op = .lockFrame t' frame ∨ op = .writeFrame t' frame →
      .setClosed t ∈ afterFrame t' frame ok → g.socket = some t := by
    intro t' frame ok hop hm
    cases frame <;> cases ok <;> simp only [afterFrame, List.mem_singleton, reduceCtorEq, List.not_mem_nil,
      Op.setClosed.injEq] at hm
    subst hm
    rcases hop with rfl | rfl <;> rw [← hg _ rfl] <;> rfl
  cases h with
  | lockRefused t' frame => exact hframe t' frame _ (Or.inl rfl) ht
  | written t' frame | writeFailed t' frame => exact hframe t' frame _ (Or.inr rfl) ht
  | closeAllSockets targets => simp at ht
  | hubAdd t' channel hooks hh | hubRemove t' channel hooks hh | ensure channel wanted hooks hh =>
    rcases hh with rfl | rfl <;> simp at ht
  | _ => simp at ht

theorem Start.own {m m' : Memory} {w : Work} {g : Goroutine} {ops : List Op} (h : Start p cfg m w g m' ops)
    {t : ℕ} (ht : .setClosed t ∈ ops) : g.socket = some t := by
  cases h with
  | event | cleanup =>
    obtain ⟨e, -, he⟩ := List.mem_map.1 ht
    cases e <;> cases he
  | close t' =>
    cases List.mem_singleton.1 ht
    rfl
  | handshakeTimeout t' ops hops => rcases hops with rfl | rfl <;> simp at ht
  | _ => simp at ht

theorem tidy_step (s : State) (l : Label) (s' : State) (hs : Tidy s) (h : step p cfg s l = some s') : Tidy s' := by
  have h' : (system p cfg).step s l = some s' := h
  have hq : ∀ g, ∀ o ∈ s'.todo g, o.AtHome g ∧ ∀ t, o = .setClosed t → g.socket = some t := by
    refine Workers.pending_invariant (Q := fun (g : Goroutine) (o : Op) =>
      o.AtHome g ∧ ∀ t, o = .setClosed t → g.socket = some t) ?_ ?_ ?_ h'
    · intro g c m m' op ops hx hq o ho
      have hx := system_exec hx
      exact ⟨hx.atHome hq.1 o ho, fun t he => hx.own hq.1 (he ▸ ho)⟩
    · intro w g m m' ops hb o ho
      have hb := system_start hb
      exact ⟨hb.atHome o ho, fun t he => hb.own (he ▸ ho)⟩
    · exact fun g o ho => ⟨hs.homed g o ho, fun t he => hs.own g t (he ▸ ho)⟩
  refine ⟨fun g o ho => (hq g o ho).1, ?_, fun g t ho => (hq g _ ho).2 t rfl⟩
  refine Workers.tails_invariant (B := Op.onWritePath) ?_ ?_ hs.tails h'
  · intro g c m m' op ops hx
    exact (system_exec hx).tails
  · intro w g m m' ops hb
    exact (system_start hb).tails

/-! ## Sections and the write paths -/

theorem head_assign (s : State) (g g' : Goroutine) (m : Memory) (ops : List Op) :
    head (s.assign g m ops) g' = if g' = g then ops.head? else head s g' := by
  unfold head
  by_cases hg : g' = g
  · subst hg; simp
  · rw [Workers.State.assign_todo_of_ne hg, if_neg hg]

/-- A section closes a `wsConn` only by `lockClosed`, which finds `writeMu` free, and for good. -/
theorem Exec.wsClosed {m m' : Memory} {g : Goroutine} {op : Op} {ops : List Op} (h : Exec cfg m g op m' ops) (t : ℕ) :
    (m'.conns t).wsClosed = (m.conns t).wsClosed ∨
      (m'.conns t).wsClosed = true ∧ op = .lockClosed t ∧ (m.conns t).writeMu = none := by
  cases h with
  | lockRefused t' frame => exact Or.inl (by rw [(frameFailed_frame m t' frame).2.2.2.1])
  | writeFailed t' frame =>
    refine Or.inl ?_
    rw [(frameFailed_frame (m.setConn t' { m.conns t' with writeMu := none }) t' frame).2.2.2.1]
    exact setConn_same Conn.wsClosed (by rfl) t
  | lockClosed t' hw =>
    by_cases ht : t = t'
    · subst ht
      exact Or.inr ⟨by simp [Memory.setConn], rfl, hw⟩
    · exact Or.inl (by simp [Memory.setConn, ht])
  | selectSend | closeWon | lock | written | setClosed | closeConn =>
    exact Or.inl (setConn_same Conn.wsClosed (by rfl) t)
  | _ => exact Or.inl rfl

/-- A section takes `writeMu` of an open `wsConn` for a frame, or gives it back after the write. -/
theorem Exec.writeMu {m m' : Memory} {g : Goroutine} {op : Op} {ops : List Op} (h : Exec cfg m g op m' ops) (t : ℕ) :
    (m'.conns t).writeMu = (m.conns t).writeMu ∧ op.writes t = false ∨ (m'.conns t).writeMu = none ∨
      ∃ frame, op = .lockFrame t frame ∧ (m.conns t).wsClosed = false ∧ (m'.conns t).writeMu = some g ∧
        ops = [.writeFrame t frame] := by
  cases h with
  | lockRefused t' frame => exact Or.inl ⟨by rw [(frameFailed_frame m t' frame).2.2.2.1], rfl⟩
  | written t' frame =>
    by_cases ht : t = t'
    · subst ht
      exact Or.inr (Or.inl (by simp [Memory.setConn]))
    · exact Or.inl ⟨by simp [Memory.setConn, ht], by simp [Op.writes, Ne.symm ht]⟩
  | writeFailed t' frame =>
    rw [(frameFailed_frame (m.setConn t' { m.conns t' with writeMu := none }) t' frame).2.2.2.1]
    by_cases ht : t = t'
    · subst ht
      exact Or.inr (Or.inl (by simp [Memory.setConn]))
    · exact Or.inl ⟨by simp [Memory.setConn, ht], by simp [Op.writes, Ne.symm ht]⟩
  | lock t' frame hw hc =>
    by_cases ht : t = t'
    · subst ht
      exact Or.inr (Or.inr ⟨frame, rfl, hc, by simp [Memory.setConn], rfl⟩)
    · exact Or.inl ⟨by simp [Memory.setConn, ht], rfl⟩
  | selectSend | closeWon | setClosed | lockClosed | closeConn =>
    exact Or.inl ⟨setConn_same Conn.writeMu (by rfl) t, rfl⟩
  | _ => exact Or.inl ⟨rfl, rfl⟩

/-- A section stalls nobody, and starts no write loop. -/
theorem Exec.stalled {m m' : Memory} {g : Goroutine} {op : Op} {ops : List Op} (h : Exec cfg m g op m' ops) (t : ℕ) :
    (m'.conns t).stalled = (m.conns t).stalled ∧
      ((m.lives t).writing = false → (m'.lives t).writing = false) := by
  have hframe : ∀ (m₁ : Memory) (t' : ℕ) (frame : Frame), m₁.lives = m.lives → (m.lives t).writing = false →
      ((frameFailed m₁ t' frame).lives t).writing = false := by
    intro m₁ t' frame hlives hw
    cases frame with
    | text msg =>
      by_cases ht : t = t'
      · subst ht; simp [frameFailed, Memory.setLife]
      · simp [frameFailed, Memory.setLife, ht, hlives, hw]
    | _ => rw [← hlives] at hw; exact hw
  cases h with
  | lockRefused t' frame =>
    exact ⟨by rw [(frameFailed_frame m t' frame).2.2.2.1], hframe m t' frame rfl⟩
  | writeFailed t' frame =>
    refine ⟨?_, hframe _ t' frame rfl⟩
    rw [(frameFailed_frame (m.setConn t' { m.conns t' with writeMu := none }) t' frame).2.2.2.1]
    exact setConn_same Conn.stalled (by rfl) t
  | endRead t' =>
    refine ⟨rfl, fun hw => ?_⟩
    by_cases ht : t = t'
    · subst ht; simpa [Memory.setStage, Memory.setLife] using hw
    · simpa [Memory.setStage, Memory.setLife, ht] using hw
  | selectSend | closeWon | lock | written | setClosed | lockClosed | closeConn =>
    exact ⟨setConn_same Conn.stalled (by rfl) t, id⟩
  | _ => exact ⟨rfl, id⟩

/-- How a section comes to leave one on the write path in front: it wins a `closed` flag, goes on to the close
of its own socket, has just been refused or written a frame, or has just taken `writeMu`. -/
theorem Exec.front {m m' : Memory} {g : Goroutine} {op : Op} {ops : List Op} (h : Exec cfg m g op m' ops) {o : Op}
    (ho : ops.head? = some o) {t : ℕ} :
    (o.locks t = true → (∃ code reason, op = .closeWith t code reason ∧ (m.conns t).closed = false) ∨
      op = .setClosed t ∨ op.locks t = true ∧ (m.conns t).wsClosed = true ∨ op.writes t = true) ∧
      (o.writes t = true → op.locks t = true ∧ (m.conns t).wsClosed = false) := by
  have hafter : ∀ (t' : ℕ) (frame : Frame) (ok : Bool), (afterFrame t' frame ok).head? = some o →
      (o.locks t = true → t' = t) ∧ o.writes t = false := by
    intro t' frame ok hh
    cases frame <;> cases ok <;> simp only [afterFrame, List.head?_cons, List.head?_nil, Option.some.injEq,
      reduceCtorEq] at hh <;> subst hh <;> simp [Op.locks, Op.writes]
  have hnone : o.locks t = false ∧ o.writes t = false →
      (o.locks t = true → (∃ code reason, op = .closeWith t code reason ∧ (m.conns t).closed = false) ∨
        op = .setClosed t ∨ op.locks t = true ∧ (m.conns t).wsClosed = true ∨ op.writes t = true) ∧
        (o.writes t = true → op.locks t = true ∧ (m.conns t).wsClosed = false) := by
    rintro ⟨h1, h2⟩
    exact ⟨fun hl => absurd hl (by rw [h1]; decide), fun hw => absurd hw (by rw [h2]; decide)⟩
  cases h with
  | closeWon t' code reason hc =>
    cases ho
    refine ⟨fun hl => ?_, fun hw => by cases hw⟩
    have ht : t' = t := by simpa [Op.locks] using hl
    exact Or.inl ⟨code, reason, by rw [ht], ht ▸ hc⟩
  | setClosed t' =>
    cases ho
    refine ⟨fun hl => ?_, fun hw => by cases hw⟩
    have ht : t' = t := by simpa [Op.locks] using hl
    exact Or.inr (Or.inl (by rw [ht]))
  | lockRefused t' frame hw hc =>
    obtain ⟨h1, h2⟩ := hafter t' frame false ho
    refine ⟨fun hl => ?_, fun hwr => by rw [h2] at hwr; cases hwr⟩
    have ht := h1 hl
    exact Or.inr (Or.inr (Or.inl ⟨by simp [Op.locks, ht], ht ▸ hc⟩))
  | lock t' frame hw hc =>
    cases ho
    refine ⟨fun hl => (by cases hl), fun hwr => ?_⟩
    have ht : t' = t := by simpa [Op.writes] using hwr
    exact ⟨by simp [Op.locks, ht], ht ▸ hc⟩
  | written t' frame | writeFailed t' frame =>
    obtain ⟨h1, h2⟩ := hafter t' frame _ ho
    refine ⟨fun hl => ?_, fun hwr => by rw [h2] at hwr; cases hwr⟩
    exact Or.inr (Or.inr (Or.inr (by simp [Op.writes, h1 hl])))
  | publishLocal call channel data targets =>
    obtain ⟨t', -, rfl⟩ := List.mem_map.1 (List.mem_of_mem_head? ho)
    exact hnone ⟨rfl, rfl⟩
  | closeAllSockets targets =>
    rcases List.mem_append.1 (List.mem_of_mem_head? ho) with ho | ho
    · obtain ⟨t', -, rfl⟩ := List.mem_map.1 ho
      exact hnone ⟨rfl, rfl⟩
    · cases List.mem_singleton.1 ho
      exact hnone ⟨rfl, rfl⟩
  | hubAdd t' channel hooks hh | hubRemove t' channel hooks hh | ensure channel wanted hooks hh =>
    rcases hh with rfl | rfl
    · cases ho
    · cases ho; exact hnone ⟨rfl, rfl⟩
  | enqueue | selectFull | lockClosed | publish | awaitSockets =>
    cases ho
    exact hnone ⟨rfl, rfl⟩
  | _ => cases ho

/-- Work stalls nobody, takes no `writeMu` and closes no `wsConn`. -/
theorem Start.conns {m m' : Memory} {w : Work} {g : Goroutine} {ops : List Op} (h : Start p cfg m w g m' ops)
    (t : ℕ) : (m'.conns t).stalled = (m.conns t).stalled ∧ (m'.conns t).writeMu = (m.conns t).writeMu ∧
      (m'.conns t).wsClosed = (m.conns t).wsClosed := by
  cases h with
  | closeDone | dequeue =>
    exact ⟨setConn_same Conn.stalled (by rfl) t, setConn_same Conn.writeMu (by rfl) t,
      setConn_same Conn.wsClosed (by rfl) t⟩
  | _ => exact ⟨rfl, rfl, rfl⟩

/-- Work takes no socket out of its loop, and starts no write loop of one that has left it. -/
theorem Start.torn {m m' : Memory} {w : Work} {g : Goroutine} {ops : List Op} (h : Start p cfg m w g m' ops)
    {t : ℕ} (ht : (m'.lives t).stage.torn = true) :
    (m.lives t).stage.torn = true ∧ ((m.lives t).writing = false → (m'.lives t).writing = false ∧
      (g = .writeLoop t → ops = [])) := by
  have hset : ∀ (m₁ : Memory) (t' : ℕ) (l : Life), m₁.lives = m.lives →
      (l.stage.torn = true → (m.lives t').stage.torn = true) →
      ((m.lives t').writing = false → l.stage.torn = true → l.writing = false) →
      ((m₁.setLife t' l).lives t).stage.torn = true → (m.lives t).stage.torn = true ∧
        ((m.lives t).writing = false → ((m₁.setLife t' l).lives t).writing = false) := by
    intro m₁ t' l hl hstage hwriting hst
    by_cases he : t = t'
    · subst he
      simp only [Memory.setLife, Function.update_self] at hst ⊢
      exact ⟨hstage hst, fun hw => hwriting hw hst⟩
    · simp only [Memory.setLife, Function.update_of_ne he, hl] at hst ⊢
      exact ⟨hst, id⟩
  have hkeep : ∀ {P Q : Prop}, (P ∧ ((m.lives t).writing = false → Q)) → g ≠ .writeLoop t ∨ ops = [] →
      P ∧ ((m.lives t).writing = false → Q ∧ (g = .writeLoop t → ops = [])) :=
    fun hpq hg => ⟨hpq.1, fun hw => ⟨hpq.2 hw, fun he => hg.elim (fun hne => absurd he hne) id⟩⟩
  cases h with
  | upgrade | registerSocket | runSocket =>
    exact hkeep (hset _ _ _ rfl (fun h => by cases h) (fun _ h => by cases h) ht) (Or.inl (by rintro ⟨⟩))
  | unregisterSocket t' _ hst | cleanup t' _ hst | closeDone t' _ hst | close t' _ hst =>
    exact hkeep (hset _ _ _ rfl (fun _ => by rw [hst]; rfl) (fun hw _ => hw) ht) (Or.inl (by rintro ⟨⟩))
  | stopTimer t' _ hst =>
    exact hkeep (hset _ _ _ rfl (fun h => by cases h) (fun _ h => by cases h) ht) (Or.inl (by rintro ⟨⟩))
  | stopWriting t' => exact hkeep (hset m _ _ rfl id (fun _ _ => rfl) ht) (Or.inr rfl)
  | pongTimeout t' | stopPinging t' | handshakeTimeout t' =>
    exact hkeep (hset m _ _ rfl id (fun hw _ => hw) ht) (Or.inl (by rintro ⟨⟩))
  | dequeue t' msg rest hout hw =>
    refine ⟨ht, fun hno => ⟨hno, fun he => ?_⟩⟩
    cases he
    rw [hw] at hno
    cases hno
  | _ => exact hkeep ⟨ht, id⟩ (Or.inl (by rintro ⟨⟩))

/-- Work enters no write path but its own socket's. -/
theorem Start.front {m m' : Memory} {w : Work} {g : Goroutine} {ops : List Op} (h : Start p cfg m w g m' ops)
    {op : Op} (hop : ops.head? = some op) : ∀ t, op.locks t = true ∨ op.writes t = true → g.socket = some t := by
  have hout : ∀ o : Op, ¬ o.onWritePath → ∀ t, o.locks t = true ∨ o.writes t = true → g.socket = some t :=
    fun o ho t h => absurd ⟨t, h⟩ ho
  cases h with
  | event t' clock ev | cleanup t' channels =>
    obtain ⟨e, -, rfl⟩ := List.mem_map.1 (List.mem_of_mem_head? hop)
    exact hout _ (not_onWritePath_opOf _ e)
  | readPing t' | readClose t' | dequeue t' =>
    cases hop
    exact fun t h => by simpa [Op.locks, Op.writes, Goroutine.socket] using h
  | handshakeTimeout t' ops hops =>
    rcases hops with rfl | rfl
    · cases hop
    · cases hop
      exact hout _ (by rintro ⟨t, h | h⟩ <;> cases h)
  | clientPing | readError | close | ping | pongTimeout | receive | signal =>
    cases hop
    exact hout _ (by rintro ⟨t, h | h⟩ <;> cases h)
  | _ => cases hop

/-! ## Goroutine by goroutine -/

/-- What `Unblocked` comes to, goroutine by goroutine. -/
structure Free (s : State) : Prop where
  lock : ∀ t g op, g.socket ≠ some t → head s g = some op → op.locks t = true → (s.mem.conns t).writeMu = none
  write : ∀ t g op, g.socket ≠ some t → head s g = some op → op.writes t = true → (s.mem.conns t).stalled = false
  teardown : ∀ t, (s.mem.conns t).stalled = true → Closing s t → (s.mem.conns t).writeMu ≠ some (.writeLoop t)

/-- A section whose lock is free and whose write returns can be executed. -/
theorem exec_enabled {m : Memory} {g : Goroutine} {op : Op}
    (hlock : ∀ t, op.locks t = true → (m.conns t).writeMu = none)
    (hwrite : ∀ t, op.writes t = true → (m.conns t).stalled = false) :
    ∃ choice, (exec cfg m g choice op).isSome = true := by
  cases op with
  | lockFrame t frame =>
    have hw := hlock t (by simp [Op.locks])
    refine ⟨⟨[], true⟩, ?_⟩
    simp only [exec, lockFrame, hw, ne_eq, not_true_eq_false, if_false]
    split <;> rfl
  | lockClosed t =>
    have hw := hlock t (by simp [Op.locks])
    exact ⟨⟨[], true⟩, by simp [exec, lockClosed, hw]⟩
  | writeFrame t frame =>
    have hs := hwrite t (by simp [Op.writes])
    refine ⟨⟨[], true⟩, ?_⟩
    simp only [exec, writeFrame, hs, Bool.false_eq_true, false_and, if_false]
    split <;> rfl
  | publishLocal call channel data =>
    refine ⟨⟨(m.hub.members channel).toList, true⟩, ?_⟩
    simp [exec, publishLocal, Finset.nodup_toList]
  | closeAllSockets =>
    refine ⟨⟨m.registered.toList, true⟩, ?_⟩
    simp [exec, closeAllSockets, Finset.nodup_toList]
  | awaitSockets => exact ⟨⟨[], true⟩, by simp [exec, awaitSockets]⟩
  | _ => exact ⟨⟨[], true⟩, rfl⟩

theorem locks_iff {op : Op} {t : ℕ} : op.locks t = true ↔ (∃ frame, op = .lockFrame t frame) ∨ op = .lockClosed t := by
  cases op <;> simp [Op.locks]

/-- A section that takes a lock can be executed only while the lock is free. -/
theorem free_of_enabled {m : Memory} {g : Goroutine} {choice : Choice} {op : Op} {t : ℕ}
    (h : (exec cfg m g choice op).isSome = true) (hl : op.locks t = true) : (m.conns t).writeMu = none := by
  by_contra hw
  rcases locks_iff.1 hl with ⟨frame, rfl⟩ | rfl
  · simp [exec, lockFrame, hw] at h
  · simp [exec, lockClosed, hw] at h

theorem unblocked_iff {s : State} : Unblocked cfg s ↔ Free s := by
  constructor
  · intro h
    refine ⟨fun t g op hg hop hl => ?_, fun t g op hg hop hw => ?_, h.teardown⟩
    · obtain ⟨choice, hx⟩ := h.enabled g op hop fun t' ht' => by
        have hne : t ≠ t' := fun he => hg (he ▸ ht')
        rcases locks_iff.1 hl with ⟨frame, rfl⟩ | rfl <;> simp [Op.locks, Op.writes, hne]
      exact free_of_enabled hx hl
    · cases hs : (s.mem.conns t).stalled with
      | false => rfl
      | true => rw [(h.foreign t g op hs hg hop).2] at hw; cases hw
  · intro h
    refine ⟨fun t g op hs hg hop => ⟨h.lock t g op hg hop, ?_⟩, fun g op hop hown => ?_, h.teardown⟩
    · cases hw : op.writes t with
      | false => rfl
      | true => rw [h.write t g op hg hop hw] at hs; cases hs
    · refine exec_enabled (fun t hl => h.lock t g op (fun hg => ?_) hop hl)
        fun t hw => h.write t g op (fun hg => ?_) hop hw
      · rw [(hown t hg).1] at hl; cases hl
      · rw [(hown t hg).2] at hw; cases hw

/-- The section after an executed one stands in what it leaves, or off the write paths behind it. -/
theorem head_append {s : State} (ht : Tidy s) {g : Goroutine} {op : Op} {rest ops : List Op}
    (hg : s.todo g = op :: rest) {o : Op} (ho : (ops ++ rest).head? = some o) :
    ops.head? = some o ∨ ¬ o.onWritePath := by
  cases ops with
  | nil =>
    refine Or.inr (ht.tails g o ?_)
    rw [hg]
    exact List.mem_of_mem_head? ho
  | cons a as => exact Or.inl ho

/-! ## Careful runs -/

/-- While a run is careful: a closed `wsConn` is not written to, who holds `writeMu` is in the write, a
goroutine of another socket is on the write path of a closed `wsConn` only, and behind a stalled peer a
socket is torn down only once nothing is written any more. -/
structure Undisturbed (s : State) : Prop where
  tidy : Tidy s
  refused : ∀ t, (s.mem.conns t).wsClosed = true → (s.mem.conns t).writeMu = none
  held : ∀ t g, (s.mem.conns t).writeMu = some g → ∃ op, head s g = some op ∧ op.writes t = true
  foreign : ∀ t g op, g.socket ≠ some t → head s g = some op →
    (op.locks t = true → (s.mem.conns t).wsClosed = true) ∧ op.writes t = false
  torn : ∀ t, (s.mem.conns t).stalled = true → (s.mem.lives t).stage.torn = true → WriteOver s t

theorem head_init (g : Goroutine) : head init g = none := rfl

theorem undisturbed_init : Undisturbed init where
  tidy := tidy_init
  refused _ h := nomatch h
  held _ _ h := nomatch h
  foreign _ g _ _ h := by rw [head_init g] at h; cases h
  torn _ h := nomatch h

/-- Then nobody else is blocked. -/
theorem Undisturbed.free {s : State} (hs : Undisturbed s) : Free s where
  lock t g op hg hop hl := hs.refused t ((hs.foreign t g op hg hop).1 hl)
  write t g op hg hop hw := by rw [(hs.foreign t g op hg hop).2] at hw; cases hw
  teardown t hst hclosing := by
    rcases hs.torn t hst (by rw [hclosing.1]; rfl) with hc | ⟨-, hidle⟩
    · rw [hs.refused t hc]
      exact nofun
    · -- a write loop that has ended holds nothing
      intro hheld
      obtain ⟨op, hop, -⟩ := hs.held t _ hheld
      rw [head, List.isEmpty_iff.1 hidle] at hop
      cases hop

/-- A `wsConn` stays closed. -/
theorem Exec.wsClosed_mono {m m' : Memory} {g : Goroutine} {op : Op} {ops : List Op} (hx : Exec cfg m g op m' ops)
    {t : ℕ} (h : (m.conns t).wsClosed = true) : (m'.conns t).wsClosed = true := by
  rcases hx.wsClosed t with h' | ⟨h', -⟩
  · exact h'.trans h
  · exact h'

/-- So does a write loop that has ended. -/
theorem WriteOver.run {s : State} {t : ℕ} (hover : WriteOver s t) {g : Goroutine} {op : Op} {rest ops : List Op}
    {m : Memory} (hg : s.todo g = op :: rest) (hx : Exec cfg s.mem g op m ops) :
    WriteOver (s.assign g m (ops ++ rest)) t := by
  rcases hover with hc | ⟨hw, hidle⟩
  · exact Or.inl (hx.wsClosed_mono hc)
  · refine Or.inr ⟨(hx.stalled t).2 hw, ?_⟩
    have hne : Goroutine.writeLoop t ≠ g := fun he => by rw [he, hg] at hidle; cases hidle
    rw [Workers.State.assign_todo_of_ne hne]
    exact hidle

section

variable {s : State} {g : Goroutine} {op : Op} {rest ops : List Op} {m : Memory}

/-- A section takes no `writeMu` of a closed `wsConn`, and closes none while `writeMu` is held. -/
theorem Undisturbed.refused_run (hs : Undisturbed s) (hx : Exec cfg s.mem g op m ops) {t : ℕ}
    (h : (m.conns t).wsClosed = true) : (m.conns t).writeMu = none := by
  rcases hx.writeMu t with ⟨hmu, -⟩ | hmu | ⟨frame, rfl, hopen, -⟩
  · rw [hmu]
    rcases hx.wsClosed t with h' | ⟨-, -, hfree⟩
    · exact hs.refused t (h'.symm.trans h)
    · exact hfree
  · exact hmu
  · rcases hx.wsClosed t with h' | ⟨-, hno, -⟩
    · rw [h', hopen] at h; cases h
    · cases hno

/-- Who takes `writeMu` goes on to the write. -/
theorem Undisturbed.held_run (hs : Undisturbed s) (hg : s.todo g = op :: rest) (hx : Exec cfg s.mem g op m ops)
    {t : ℕ} {g' : Goroutine} (h : (m.conns t).writeMu = some g') :
    ∃ o, head (s.assign g m (ops ++ rest)) g' = some o ∧ o.writes t = true := by
  have hop : head s g = some op := by rw [head, hg]; rfl
  rcases hx.writeMu t with ⟨hmu, hno⟩ | hmu | ⟨frame, rfl, -, hmu, rfl⟩
  · obtain ⟨o, ho, hw⟩ := hs.held t g' (hmu.symm.trans h)
    have hne : g' ≠ g := by
      rintro rfl
      rw [hop] at ho
      cases ho
      rw [hno] at hw
      cases hw
    exact ⟨o, by rw [head_assign, if_neg hne]; exact ho, hw⟩
  · rw [hmu] at h; cases h
  · rw [hmu] at h
    cases h
    exact ⟨_, by rw [head_assign, if_pos rfl]; rfl, by simp [Op.writes]⟩

/-- A goroutine of another socket gets on the write path of a closed `wsConn` only. -/
theorem Undisturbed.foreign_run (hs : Undisturbed s) (hg : s.todo g = op :: rest) (hx : Exec cfg s.mem g op m ops)
    {choice : Choice}
    (hwins : ∀ r ∈ wins s (.run g choice), r.1.socket ≠ some r.2 → (s.mem.conns r.2).wsClosed = true) {t : ℕ}
    {g' : Goroutine} {o : Op} (hg' : g'.socket ≠ some t) (ho : head (s.assign g m (ops ++ rest)) g' = some o) :
    (o.locks t = true → (m.conns t).wsClosed = true) ∧ o.writes t = false := by
  have hop : head s g = some op := by rw [head, hg]; rfl
  rw [head_assign] at ho
  split at ho
  · rename_i he
    subst he
    have hold := hs.foreign t g' op hg' hop
    rcases head_append hs.tidy hg ho with hfront | hpath
    · obtain ⟨h1, h2⟩ := hx.front hfront (t := t)
      refine ⟨fun hl => hx.wsClosed_mono ?_, ?_⟩
      · rcases h1 hl with ⟨code, reason, rfl, hfree⟩ | rfl | ⟨-, h⟩ | hw
        · exact hwins (g', t) (by simp [wins, hop, hfree]) hg'
        · exact absurd (hs.tidy.own g' t (hg ▸ List.mem_cons_self)) hg'
        · exact h
        · rw [hold.2] at hw; cases hw
      · rw [← Bool.not_eq_true]
        intro hw
        obtain ⟨hl, hopen⟩ := h2 hw
        rw [hold.1 hl] at hopen
        cases hopen
    · refine ⟨fun hl => absurd ⟨t, Or.inl hl⟩ hpath, ?_⟩
      rw [← Bool.not_eq_true]
      exact fun hw => hpath ⟨t, Or.inr hw⟩
  · obtain ⟨h1, h2⟩ := hs.foreign t g' o hg' ho
    exact ⟨fun hl => hx.wsClosed_mono (h1 hl), h2⟩

/-- A careful section keeps the write paths undisturbed. -/
theorem Undisturbed.run (hs : Undisturbed s) {choice : Choice} (hg : s.todo g = op :: rest)
    (hx : Exec cfg s.mem g op m ops) (hc : Careful s (.run g choice)) (htidy : Tidy (s.assign g m (ops ++ rest))) :
    Undisturbed (s.assign g m (ops ++ rest)) where
  tidy := htidy
  refused _ h := hs.refused_run hx h
  held _ _ h := hs.held_run hg hx h
  foreign _ _ _ hg' ho := hs.foreign_run hg hx hc.1 hg' ho
  torn t hst htorn := by
    rw [Workers.State.assign_mem, (hx.stalled t).1] at hst
    rw [Workers.State.assign_mem] at htorn
    refine WriteOver.run ?_ hg hx
    rcases hx.stage t with h | ⟨rfl, -⟩
    · rw [h] at htorn
      exact hs.torn t hst htorn
    · exact hc.2.1 t (by simp [leaves, head, hg]) hst

end

/-- Taking up work keeps them undisturbed. -/
theorem Undisturbed.start {s : State} (hs : Undisturbed s) {w : Work} {g : Goroutine} {ops : List Op} {m : Memory}
    (hg : s.todo g = []) (hw : Start p cfg s.mem w g m ops) (htidy : Tidy (s.assign g m ops)) :
    Undisturbed (s.assign g m ops) := by
  have hidle : ∀ o, head s g ≠ some o := fun o ho => by rw [head, hg] at ho; cases ho
  refine ⟨htidy, fun t h => ?_, fun t g' h => ?_, fun t g' o hg' ho => ?_, fun t hst htorn => ?_⟩
  · rw [Workers.State.assign_mem, (hw.conns t).2.2] at h
    rw [Workers.State.assign_mem, (hw.conns t).2.1]
    exact hs.refused t h
  · rw [Workers.State.assign_mem, (hw.conns t).2.1] at h
    obtain ⟨o, ho, hwr⟩ := hs.held t g' h
    have hne : g' ≠ g := by rintro rfl; exact hidle o ho
    exact ⟨o, by rw [head_assign, if_neg hne]; exact ho, hwr⟩
  · rw [head_assign] at ho
    rw [Workers.State.assign_mem, (hw.conns t).2.2]
    split at ho
    · rename_i he
      subst he
      refine ⟨fun hl => absurd (hw.front ho t (Or.inl hl)) hg', ?_⟩
      rw [← Bool.not_eq_true]
      exact fun hwr => hg' (hw.front ho t (Or.inr hwr))
    · exact hs.foreign t g' o hg' ho
  · rw [Workers.State.assign_mem, (hw.conns t).1] at hst
    rw [Workers.State.assign_mem] at htorn
    obtain ⟨hold, hkeep⟩ := hw.torn htorn
    rcases hs.torn t hst hold with hc | ⟨hwriting, hend⟩
    · exact Or.inl ((hw.conns t).2.2.trans hc)
    · refine Or.inr ⟨(hkeep hwriting).1, ?_⟩
      by_cases he : g = .writeLoop t
      · subst he
        rw [Workers.State.assign_todo_self, (hkeep hwriting).2 rfl]
        rfl
      · rw [Workers.State.assign_todo_of_ne (Ne.symm he)]
        exact hend

theorem undisturbed_step (s : State) (l : Label) (s' : State) (hc : Careful s l) (hs : Undisturbed s)
    (h : step p cfg s l = some s') : Undisturbed s' := by
  have htidy := tidy_step s l s' hs.tidy h
  cases step_cases h with
  | run g choice op rest ops m hg hx => exact hs.run hg hx hc htidy
  | start w g ops m hg hw => exact hs.start hg hw htidy
  | stall t =>
    have hmu := setConn_same (m := s.mem) (t := t) (c := { s.mem.conns t with stalled := true }) Conn.writeMu rfl
    have hws := setConn_same (m := s.mem) (t := t) (c := { s.mem.conns t with stalled := true }) Conn.wsClosed rfl
    refine ⟨htidy, fun t' h => (hmu t').trans (hs.refused t' ((hws t').symm.trans h)),
      fun t' g h => hs.held t' g ((hmu t').symm.trans h), fun t' g op hg hop => ?_, fun t' hst htorn => ?_⟩
    · obtain ⟨h1, h2⟩ := hs.foreign t' g op hg hop
      exact ⟨fun hl => (hws t').trans (h1 hl), h2⟩
    · have hover : WriteOver s t' := by
        by_cases ht : t' = t
        · subst ht
          exact hc.2.2 t' rfl htorn
        · simp only [Memory.setConn, Function.update_of_ne ht] at hst
          exact hs.torn t' hst htorn
      exact hover.imp_left (hws t').trans

/-! ## The result -/

/-- A goroutine of another socket that wins the `closed` flag of a stalled one gets behind its peer. -/
theorem blocked_of_wins {s : State} {t : ℕ} {g : Goroutine} {choice : Choice} (hret : s.mem.returned = false)
    (hst : (s.mem.conns t).stalled = true) (hopen : (s.mem.conns t).wsClosed = false) (hg : g.socket ≠ some t)
    (hw : wins s (.run g choice) = some (g, t)) :
    ∃ n s', Transition.run (step p cfg) s (List.replicate n (.run g choice)) = some s' ∧ ¬ Unblocked cfg s' := by
  simp only [wins] at hw
  split at hw
  · rename_i t' code reason hop
    split at hw
    · cases hw
    · rename_i hc
      cases hw
      obtain ⟨rest, htodo⟩ : ∃ rest, s.todo g = .closeWith t code reason :: rest := by
        cases hl : s.todo g with
        | nil => rw [head, hl] at hop; cases hop
        | cons o rest => rw [head, hl] at hop; cases hop; exact ⟨rest, rfl⟩
      have hstalled := setConn_same (m := s.mem) (t := t) (c := { s.mem.conns t with closed := true })
        Conn.stalled rfl t
      have hmutex := setConn_same (m := s.mem) (t := t) (c := { s.mem.conns t with closed := true })
        Conn.writeMu rfl t
      let m := s.mem.setConn t { s.mem.conns t with closed := true }
      have hwinning : step p cfg s (.run g choice) =
          some (s.assign g m (.lockFrame t (.close code reason) :: rest)) := by
        simp [step, Workers.System.step, htodo, system, hret, exec, closeWith, hc, m]
      by_cases hmu : (s.mem.conns t).writeMu = none
      · -- the lock is free: the next section is the write
        have hlock : step p cfg (s.assign g m (.lockFrame t (.close code reason) :: rest)) (.run g choice) =
            some ((s.assign g m (.lockFrame t (.close code reason) :: rest)).assign g
              (m.setConn t { m.conns t with writeMu := some g }) (.writeFrame t (.close code reason) :: rest)) := by
          simp [step, Workers.System.step, system, hret, exec, lockFrame, Memory.setConn, hmu, hopen, m]
        refine ⟨2, _, by rw [List.replicate_succ, Transition.run_cons, hwinning, Option.bind_some, List.replicate_one,
          Transition.run_cons, hlock]; rfl, fun h => ?_⟩
        have hnot := (h.foreign t g (.writeFrame t (.close code reason)) (by simp [Memory.setConn, hst, m]) hg
          (by rw [head_assign, if_pos rfl]; rfl)).2
        simp [Op.writes] at hnot
      · refine ⟨1, _, by rw [List.replicate_one, Transition.run_cons, hwinning]; rfl, fun h => hmu ?_⟩
        have hwait := (h.foreign t g (.lockFrame t (.close code reason)) (hstalled.trans hst) hg
          (by rw [head_assign, if_pos rfl]; rfl)).1 (by simp [Op.locks])
        exact hmutex.symm.trans hwait
  · cases hw

/-- So does one that wins the flag of a peer which stops reading then. -/
theorem blocked_of_stall {s : State} {t : ℕ} {g : Goroutine} {choice : Choice} (hret : s.mem.returned = false)
    (hopen : (s.mem.conns t).wsClosed = false) (hg : g.socket ≠ some t) (hw : wins s (.run g choice) = some (g, t)) :
    ∃ n s', Transition.run (step p cfg) s (.env t :: List.replicate n (.run g choice)) = some s' ∧
      ¬ Unblocked cfg s' := by
  let m := s.mem.setConn t { s.mem.conns t with stalled := true }
  have hstall : step p cfg s (.env t) = some ⟨m, s.todo⟩ := by
    simp [step, Workers.System.step, system, hret, m]
  have hws := setConn_same (m := s.mem) (t := t) (c := { s.mem.conns t with stalled := true }) Conn.wsClosed rfl
  have hclosed := setConn_same (m := s.mem) (t := t) (c := { s.mem.conns t with stalled := true }) Conn.closed rfl
  have hwins : wins ⟨m, s.todo⟩ (.run g choice) = wins s (.run g choice) := by
    have hclosed' : ∀ t', (m.conns t').closed = (s.mem.conns t').closed := hclosed
    simp only [wins, head, hclosed']
  have hst : (m.conns t).stalled = true := by simp [m, Memory.setConn]
  obtain ⟨n, s', hrun, hblocked⟩ :=
    @blocked_of_wins p cfg ⟨m, s.todo⟩ t g choice hret hst ((hws t).trans hopen) hg (hwins.trans hw)
  exact ⟨n, s', by rw [Transition.run_cons, hstall]; exact hrun, hblocked⟩

variable (p cfg) in
/-- All along a careful run nobody else is blocked by a stalled peer; and wherever a goroutine of another socket
wins the `closed` flag of an open one, its next sections block it if the peer stops reading. -/
theorem unblocked_of_careful (tr : List Label) :
    (Transition.EachStep (step p cfg) Careful init tr → Transition.Always (step p cfg) (Unblocked cfg) init tr) ∧
      ∀ s t g choice, Transition.run (step p cfg) init tr = some s → s.mem.returned = false →
        (s.mem.conns t).wsClosed = false → g.socket ≠ some t → wins s (.run g choice) = some (g, t) →
        ∃ n s', Transition.run (step p cfg) s (.env t :: List.replicate n (.run g choice)) = some s' ∧
          ¬ Unblocked cfg s' :=
  ⟨fun hc => hc.always undisturbed_step (fun _ hs => unblocked_iff.2 hs.free) undisturbed_init,
    fun _ _ _ _ _ hret hopen hg hw => blocked_of_stall hret hopen hg hw⟩

/-- The peer of a visit stops reading with an answer on its way to it, and a message for its channel comes. -/
def sampleWaiting : List Label :=
  sampleVisit ++ [.env 0, .start (.dequeue 0), .run (.writeLoop 0) ⟨[], true⟩,
    .start (.receive "chat_55" "o:1" none)] ++ List.replicate 3 (.run .receiveLoop ⟨[0], true⟩)

/-- A queue that the answers of a visit fill. -/
def smallQueue : Config :=
  { defaultConfig "secret" Auth.sampleKey "node" with sendBuffer := 4, sendBuffer_pos := by decide }

/-- A message for the channel of a visit finds the queue full. -/
def sampleFull : List Label :=
  sampleVisit ++ [.start (.receive "chat_55" "o:1" none)] ++ List.replicate 3 (.run .receiveLoop ⟨[0], true⟩)

/-- The message is queued behind the write loop, which holds `writeMu`; behind a full queue the receive loop is
about to win `closed`. -/
theorem unblocked_of_careful_sample :
    (Transition.Always (step Auth.sample (defaultConfig "secret" Auth.sampleKey "node"))
        (Unblocked (defaultConfig "secret" Auth.sampleKey "node")) init sampleWaiting ∧
      ∃ s, Transition.run (step Auth.sample (defaultConfig "secret" Auth.sampleKey "node")) init sampleWaiting =
          some s ∧
        (s.mem.conns 0).stalled = true ∧ (s.mem.conns 0).writeMu = some (.writeLoop 0) ∧
        (s.mem.conns 0).outbound.length = 4) ∧
      ∃ s n s', Transition.run (step Auth.sample smallQueue) init sampleFull = some s ∧
        Transition.run (step Auth.sample smallQueue) s (.env 0 :: List.replicate n (.run .receiveLoop ⟨[0], true⟩)) =
          some s' ∧ ¬ Unblocked smallQueue s' := by
  refine ⟨⟨(unblocked_of_careful Auth.sample (defaultConfig "secret" Auth.sampleKey "node") sampleWaiting).1
    (by decide +kernel), _, rfl, rfl, rfl, rfl⟩, ?_⟩
  have hrun : ((Transition.run (step Auth.sample smallQueue) init sampleFull).any fun s =>
      !s.mem.returned && !(s.mem.conns 0).wsClosed &&
        decide (wins s (.run .receiveLoop ⟨[0], true⟩) = some (.receiveLoop, 0))) = true := by
    decide +kernel
  obtain ⟨s, hs, hready⟩ := (Option.any_eq_true _ _).1 hrun
  simp only [Bool.and_eq_true, Bool.not_eq_true', decide_eq_true_eq] at hready
  obtain ⟨⟨hret, hopen⟩, hwins⟩ := hready
  obtain ⟨n, s', hblocked⟩ := (unblocked_of_careful Auth.sample smallQueue sampleFull).2 s 0 .receiveLoop ⟨[0], true⟩ hs
    hret hopen (by decide) hwins
  exact ⟨s, n, s', hs, hblocked⟩

/-- The peer of a visit stops reading, and a message for its channel finds the queue full. -/
def sampleStall : List Label :=
  sampleVisit ++ [.env 0, .start (.receive "chat_55" "o:1" none)] ++ List.replicate 5 (.run .receiveLoop ⟨[0], true⟩)

/-- Redis delivers a message for the channel of a visitor whose queue is full and whose peer has stopped
reading: the receive loop is in the write of the close frame, for good. -/
theorem receiveLoop_blocked :
    ¬ ∀ (p : Auth.Primitives) (cfg : Config) (tr : List Label) (s : State),
      Transition.run (step p cfg) init tr = some s → Unblocked cfg s := by
  intro h
  have hrun : ((Transition.run (step Auth.sample smallQueue) init sampleStall).any fun s =>
      (s.mem.conns 0).stalled && (head s .receiveLoop).any (Op.writes 0)) = true := by
    decide +kernel
  obtain ⟨s, hs, hblocked⟩ := (Option.any_eq_true _ _).1 hrun
  obtain ⟨hst, hwrite⟩ := Bool.and_eq_true_iff.1 hblocked
  obtain ⟨op, hop, hw⟩ := (Option.any_eq_true _ _).1 hwrite
  rw [((h Auth.sample smallQueue sampleStall s hs).foreign 0 .receiveLoop op hst (by decide) hop).2] at hw
  cases hw

end Server

end NodejsHelper
