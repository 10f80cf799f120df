/-
The end of a node (`main.go`): `main` closes the sockets it finds registered, waits for them within a
deadline and returns. Sockets are accepted and registered until then, so one that is registered behind
the snapshot of `closeAllSockets` is never told (`registered_late`), and neither is one that was just
unregistered and is not closed yet. While there is none of either, every socket that was ever registered
is closed when `main` returns (`shutdown_reaches`).
-/
import NodejsHelper.Server.Ledger
import NodejsHelper.Server.Records
import NodejsHelper.Auth.Sample

namespace NodejsHelper

namespace Server

variable {p : Auth.Primitives} {cfg : Config}

/-! ## Definitions -/

/-- The socket has been registered. -/
def Stage.entered : Stage → Bool
  | .waiting | .upgraded => false
  | _ => true

/-- When `main` has returned, every socket that was ever registered is closed, which it is once
`closeWith` has been called on it. -/
def Reached (s : State) : Prop :=
  s.mem.returned = true → ∀ t, (s.mem.lives t).stage.entered = true → (s.mem.conns t).closed = true

/-- The operation is the snapshot of `closeAllSockets`. -/
def Op.snapshots : Op → Bool
  | .closeAllSockets => true
  | _ => false

/-- `closeAllSockets` has taken its snapshot. -/
def Snapshotted (s : State) : Prop := s.mem.stopping = true ∧ ∀ op ∈ s.todo .main, op.snapshots = false

instance (s : State) : Decidable (Snapshotted s) := inferInstanceAs (Decidable (_ ∧ _))

/-- The step registers a socket. -/
def registers : Label → Bool
  | .start (.registerSocket _) => true
  | _ => false

/-- The step takes the snapshot. -/
def snapshots (s : State) : Label → Bool
  | .run g _ => (s.todo g).head?.any Op.snapshots
  | _ => false

/-- The socket is between `unregisterSocket` and the close at the end of its `cleanup`. -/
def Unregistered (s : State) (t : ℕ) : Prop :=
  (s.mem.lives t).stage.entered = true ∧ t ∉ s.mem.registered ∧ (s.mem.conns t).closed = false

instance (s : State) (t : ℕ) : Decidable (Unregistered s t) := inferInstanceAs (Decidable (_ ∧ _ ∧ _))

/-- No socket is registered behind the snapshot, and none is between its unregistration and its close at
the snapshot. -/
def Timely (s : State) (l : Label) : Prop :=
  (registers l = true → ¬ Snapshotted s) ∧ (snapshots s l = true → ∀ t < s.mem.next, ¬ Unregistered s t)

instance (s : State) (l : Label) : Decidable (Timely s l) := inferInstanceAs (Decidable (_ ∧ _))

/-! ## What `main` has left -/

/-- The operation is a part of a `closeWith`. -/
def Op.tells : Op → Bool
  | .closeWith _ _ _ | .lockFrame _ (.close _ _) | .writeFrame _ (.close _ _) | .lockClosed _ | .closeConn _ => true
  | _ => false

/-- What `main` can have left: nothing, its snapshot, the closing of the sockets and the wait, or the
shutdown. -/
inductive MainTodo : List Op → Prop
  | idle : MainTodo []
  | snapshot : MainTodo [.closeAllSockets]
  | telling (pre : List Op) : (∀ o ∈ pre, o.tells = true) → MainTodo (pre ++ [.awaitSockets])
  | shutdown : MainTodo [.shutdown]

theorem Exec.tells {m m' : Memory} {g : Goroutine} {op : Op} {ops : List Op} (h : Exec cfg m g op m' ops)
    (hop : op.tells = true) : ∀ o ∈ ops, o.tells = true := by
  intro o ho
  cases h with
  | closeWon | setClosed | lockClosed => rw [List.mem_singleton.1 ho]; rfl
  | lock t frame =>
    rw [List.mem_singleton.1 ho]
    cases frame with
    | close => rfl
    | _ => cases hop
  | lockRefused t frame | written t frame | writeFailed t frame =>
    cases frame with
    | close => rw [List.mem_singleton.1 ho]; rfl
    | _ => cases hop
  | closeLost | closeConn => cases ho
  | _ => cases hop

theorem snapshots_of_tells {op : Op} (h : op.tells = true) : op.snapshots = false := by
  cases op <;> first | rfl | cases h

/-- A section of `main` moves it on. -/
theorem MainTodo.exec {m m' : Memory} {g : Goroutine} {op : Op} {rest ops : List Op} (h : MainTodo (op :: rest))
    (hx : Exec cfg m g op m' ops) : MainTodo (ops ++ rest) := by
  generalize hl : op :: rest = l at h
  cases h with
  | idle => cases hl
  | snapshot =>
    cases hl
    cases hx with
    | closeAllSockets targets =>
      rw [List.append_nil]
      refine .telling _ fun o ho => ?_
      obtain ⟨t, -, rfl⟩ := List.mem_map.1 ho
      rfl
  | telling pre hpre =>
    cases pre with
    | nil =>
      cases hl
      cases hx
      exact .shutdown
    | cons o pre =>
      cases hl
      rw [List.append_eq, ← List.append_assoc]
      refine .telling _ fun o' ho => ?_
      rcases List.mem_append.1 ho with ho | ho
      · exact hx.tells (hpre _ List.mem_cons_self) o' ho
      · exact hpre o' (List.mem_cons_of_mem _ ho)
  | shutdown =>
    cases hl
    cases hx
    exact .idle

/-- Where the snapshot is still to be taken, it is all that `main` has left. -/
theorem MainTodo.eq_snapshot {l : List Op} (h : MainTodo l) {op : Op} (ho : op ∈ l) (hs : op.snapshots = true) :
    l = [.closeAllSockets] := by
  cases h with
  | idle => cases ho
  | snapshot => rfl
  | telling pre hpre =>
    rcases List.mem_append.1 ho with ho | ho
    · rw [snapshots_of_tells (hpre op ho)] at hs; cases hs
    · rw [List.mem_singleton.1 ho] at hs; cases hs
  | shutdown => rw [List.mem_singleton.1 ho] at hs; cases hs

/-- The shutdown is the last that `main` does. -/
theorem MainTodo.eq_shutdown {rest : List Op} (h : MainTodo (.shutdown :: rest)) : rest = [] := by
  generalize hl : Op.shutdown :: rest = l at h
  cases h with
  | shutdown => cases hl; rfl
  | telling pre hpre =>
    cases pre with
    | nil => cases hl
    | cons o pre =>
      cases hl
      have := hpre _ List.mem_cons_self
      cases this
  | _ => cases hl

/-! ## The invariant -/

/-- While sockets come and go in time: the read loop of a socket that was not registered has nothing to do;
once the snapshot has been taken, a socket that was ever registered is closed or `main` is about to close it;
and when `main` has returned it has nothing left. -/
structure Leaving (cfg : Config) (s : State) : Prop where
  agree : Agree cfg s
  idle : ∀ t, (s.mem.lives t).stage.entered = false → s.todo (.readLoop t) = []
  main : MainTodo (s.todo .main)
  stopping : s.todo .main ≠ [] → s.mem.stopping = true
  told : Snapshotted s → ∀ t, (s.mem.lives t).stage.entered = true →
    (s.mem.conns t).closed = true ∨ .closeWith t 1001 "Server shutting down" ∈ s.todo .main
  returned : s.mem.returned = true → s.mem.stopping = true ∧ s.todo .main = []

theorem leaving_init : Leaving cfg init where
  agree := agree_init
  idle _ _ := rfl
  main := .idle
  stopping h := absurd rfl h
  told h := nomatch h.1
  returned h := nomatch h

theorem frameFailed_main (m : Memory) (t : ℕ) (frame : Frame) :
    (frameFailed m t frame).stopping = m.stopping ∧ (frameFailed m t frame).returned = m.returned := by
  cases frame <;> exact ⟨rfl, rfl⟩

/-- Sections leave the stop signal alone, and only `main` returns. -/
theorem Exec.main {m m' : Memory} {g : Goroutine} {op : Op} {ops : List Op} (h : Exec cfg m g op m' ops) :
    m'.stopping = m.stopping ∧ (m'.returned = m.returned ∨ op = .shutdown) := by
  cases h with
  | lockRefused t frame =>
    obtain ⟨h1, h2⟩ := frameFailed_main m t frame
    exact ⟨h1, Or.inl h2⟩
  | writeFailed t frame =>
    obtain ⟨h1, h2⟩ := frameFailed_main (m.setConn t { m.conns t with writeMu := none }) t frame
    exact ⟨h1, Or.inl h2⟩
  | shutdown => exact ⟨rfl, Or.inr rfl⟩
  | _ => exact ⟨rfl, Or.inl rfl⟩

/-- A section registers no socket, when `endRead` is one of a registered one. -/
theorem Exec.entered {m m' : Memory} {g : Goroutine} {op : Op} {ops : List Op} (h : Exec cfg m g op m' ops) {t : ℕ}
    (hidle : op = .endRead t → (m.lives t).stage.entered = true) :
    (m'.lives t).stage.entered = (m.lives t).stage.entered := by
  rcases h.stage t with hst | ⟨rfl, hst⟩
  · rw [hst]
  · rw [hst, hidle rfl]
    rfl

theorem entered_succ {st : Stage} (h : st.entered = true) : st.succ.entered = true := by
  cases st <;> first | rfl | cases h

/-- A socket stays registered once, and work brings this about by `registerSocket`. -/
theorem Start.entered {m m' : Memory} {w : Work} {g : Goroutine} {ops : List Op} (h : Start p cfg m w g m' ops)
    (hfresh : (m.lives m.next).stage = .waiting) (t : ℕ) :
    ((m.lives t).stage.entered = true → (m'.lives t).stage.entered = true) ∧
      ((m'.lives t).stage.entered = true → w = .registerSocket t ∨ (m.lives t).stage.entered = true) := by
  refine ⟨fun hold => ?_, fun hnew => ?_⟩
  · rcases h.stage t with hst | ⟨rfl, -⟩ | ⟨-, hst⟩
    · rw [hst]; exact hold
    · rw [hfresh] at hold; cases hold
    · rw [hst]; exact entered_succ hold
  · have hother : ∀ (m₁ : Memory) (t' : ℕ) (l : Life), m₁.lives = m.lives →
        (l.stage.entered = true → (m.lives t').stage.entered = true) →
        ((m₁.setLife t' l).lives t).stage.entered = true → (m.lives t).stage.entered = true := by
      intro m₁ t' l hlives hl hent
      rw [stage_setLife, hlives] at hent
      split at hent
      · rename_i ht; rw [ht]; exact hl hent
      · exact hent
    cases h with
    | upgrade => exact Or.inr (hother _ _ _ rfl (fun he => by cases he) hnew)
    | registerSocket t' =>
      by_cases ht : t = t'
      · exact Or.inl (by rw [ht])
      · rw [Memory.setStage, stage_setLife, if_neg ht] at hnew
        exact Or.inr hnew
    | runSocket t' hst | unregisterSocket t' _ hst | cleanup t' _ hst | closeDone t' _ hst | close t' _ hst
    | stopTimer t' _ hst => exact Or.inr (hother _ _ _ rfl (fun _ => by rw [hst]; rfl) hnew)
    | stopWriting | pongTimeout | stopPinging | handshakeTimeout =>
      rw [stage_setLife_same (by rfl)] at hnew
      exact Or.inr hnew
    | _ => exact Or.inr hnew

/-- The read loop of a socket works after its registration only. -/
theorem Start.readLoop_entered {m m' : Memory} {w : Work} {t : ℕ} {ops : List Op}
    (h : Start p cfg m w (.readLoop t) m' ops) : (m.lives t).stage.entered = true := by
  have hread : inRead m t = true → (m.lives t).stage.entered = true := fun hr => by
    have hst : (m.lives t).stage = .reading := by simpa using (Bool.and_eq_true_iff.1 hr).1
    rw [hst]
    rfl
  cases h with
  | message _ _ hr | clientPing _ hr | readPing _ _ hr | readClose _ hr | readError _ hr => exact hread hr
  | event _ _ _ _ _ hst | unregisterSocket _ _ hst | cleanup _ _ hst | closeDone _ _ hst | close _ _ hst
  | stopTimer _ _ hst => rw [hst]; rfl

/-- Only the stop signal gives `main` work. -/
theorem Start.main {m m' : Memory} {w : Work} {g : Goroutine} {ops : List Op} (h : Start p cfg m w g m' ops) :
    m'.returned = m.returned ∧ (g ≠ .main ∧ m'.stopping = m.stopping ∨
      g = .main ∧ ops = [.closeAllSockets] ∧ m'.stopping = true ∧ m.stopping = false) := by
  cases h with
  | signal h => exact ⟨rfl, Or.inr ⟨rfl, rfl, rfl, h⟩⟩
  | _ => exact ⟨rfl, Or.inl ⟨by nofun, rfl⟩⟩

/-- The read loop of a socket that was not registered is not given anything. -/
theorem Leaving.idle_step {s s' : State} {l : Label} (hs : Leaving cfg s) (h : step p cfg s l = some s') {t : ℕ}
    (ht : (s'.mem.lives t).stage.entered = false) : s'.todo (.readLoop t) = [] := by
  cases step_cases h with
  | stall => exact hs.idle t ht
  | run g choice op rest ops m hg hx =>
    have hold : (s.mem.lives t).stage.entered = false := by
      rcases hx.stage t with hst | ⟨-, hst⟩
      · rw [← hst]; exact ht
      · rw [Workers.State.assign_mem, hst] at ht; cases ht
    have hne : Goroutine.readLoop t ≠ g := fun he => by
      have hidle := hs.idle t hold
      rw [he, hg] at hidle
      cases hidle
    rw [Workers.State.assign_todo_of_ne hne]
    exact hs.idle t hold
  | start w g ops m hg hw =>
    have hold : (s.mem.lives t).stage.entered = false := by
      rw [← Bool.not_eq_true]
      intro hent
      have hnew := (hw.entered (hs.agree.fresh _ le_rfl).1 t).1 hent
      rw [Workers.State.assign_mem, hnew] at ht
      cases ht
    have hne : Goroutine.readLoop t ≠ g := by
      rintro rfl
      rw [hw.readLoop_entered] at hold
      cases hold
    rw [Workers.State.assign_todo_of_ne hne]
    exact hs.idle t hold

/-- A socket that was registered before a section was so after it, and the other way round. -/
theorem Leaving.entered_run {s : State} (hs : Leaving cfg s) {g : Goroutine} {op : Op} {rest ops : List Op} {m : Memory}
    (ht : s.todo g = op :: rest) (hx : Exec cfg s.mem g op m ops) (t : ℕ) :
    (m.lives t).stage.entered = (s.mem.lives t).stage.entered := by
  refine hx.entered fun hop => ?_
  have hhome : g = .readLoop t := (hs.agree.homed g op (ht ▸ List.mem_cons_self) _ (by rw [hop]; rfl)).symm
  rw [← Bool.not_eq_false]
  intro hno
  have hidle := hs.idle t hno
  rw [← hhome, ht] at hidle
  cases hidle

/-- Once the snapshot has been taken, a section of `main` tells a socket or leaves it to be told. -/
theorem Leaving.run_told {s : State} (hs : Leaving cfg s) {op : Op} {rest ops : List Op} {m : Memory}
    (ht : s.todo .main = op :: rest) (hx : Exec cfg s.mem .main op m ops)
    (hl : op.snapshots = true → ∀ t < s.mem.next, ¬ Unregistered s t) {t : ℕ}
    (he : (s.mem.lives t).stage.entered = true) :
    (m.conns t).closed = true ∨ .closeWith t 1001 "Server shutting down" ∈ ops ++ rest := by
  by_cases hsnap : Snapshotted s
  · rcases hs.told hsnap t he with hc | hop
    · exact Or.inl ((hx.lasting t).1 hc)
    · rw [ht] at hop
      rcases List.mem_cons.1 hop with rfl | hop
      · exact Or.inl hx.closes
      · exact Or.inr (List.mem_append_right ops hop)
  · have hstop : s.mem.stopping = true := hs.stopping (by rw [ht]; exact List.cons_ne_nil _ _)
    have hpending : ∃ o ∈ s.todo .main, o.snapshots = true := by
      by_contra hno
      refine hsnap ⟨hstop, fun o ho => ?_⟩
      rw [← Bool.not_eq_true]
      exact fun hos => hno ⟨o, ho, hos⟩
    obtain ⟨o, ho, hos⟩ := hpending
    have heq := hs.main.eq_snapshot ho hos
    rw [ht] at heq
    cases heq
    -- a socket that is not in the snapshot is closed
    have hnext : t < s.mem.next := by
      by_contra hle
      rw [(hs.agree.fresh t (Nat.le_of_not_lt hle)).1] at he
      cases he
    have hcovered : t ∈ s.mem.registered ∨ (s.mem.conns t).closed = true := by
      by_contra hno
      rw [not_or, Bool.not_eq_true] at hno
      exact hl rfl t hnext ⟨he, hno.1, hno.2⟩
    rcases hcovered with hreg | hc
    · cases hx with
      | closeAllSockets targets hn htargets =>
        refine Or.inr (List.mem_append_left _ (List.mem_append_left _ (List.mem_map.2 ⟨t, ?_, rfl⟩)))
        rw [← List.mem_toFinset, htargets]
        exact hreg
    · exact Or.inl ((hx.lasting t).1 hc)

/-- Work taken up: a registration behind the snapshot is excluded, and `main` is given its list. -/
theorem Leaving.start {s : State} (hs : Leaving cfg s) {w : Work} {g : Goroutine} {ops : List Op} {m : Memory}
    (hl : registers (.start w) = true → ¬ Snapshotted s) (hw : Start p cfg s.mem w g m ops)
    (hret : s.mem.returned = false) (hagree : Agree cfg (s.assign g m ops))
    (hidle : ∀ t, (m.lives t).stage.entered = false → (s.assign g m ops).todo (.readLoop t) = []) :
    Leaving cfg (s.assign g m ops) := by
  have hnot : (s.assign g m ops).mem.returned ≠ true := by
    rw [Workers.State.assign_mem, hw.main.1, hret]
    decide
  rcases hw.main.2 with ⟨hg, hstop⟩ | ⟨rfl, rfl, hstop, -⟩
  · -- another goroutine: what is left to `main` stays
    have htodo : (s.assign g m ops).todo .main = s.todo .main := Workers.State.assign_todo_of_ne (Ne.symm hg)
    refine ⟨hagree, hidle, htodo ▸ hs.main, ?_, fun hsnap t hm => ?_, fun hr => absurd hr hnot⟩
    · rw [htodo, Workers.State.assign_mem, hstop]; exact hs.stopping
    · unfold Snapshotted at hsnap
      rw [Workers.State.assign_mem, hstop, htodo] at hsnap
      rw [htodo]
      rcases (hw.entered (hs.agree.fresh _ le_rfl).1 t).2 hm with rfl | hold
      · exact absurd hsnap (hl rfl)
      · rcases hs.told hsnap t hold with hc | hop
        · exact Or.inl ((hw.lasting t).1 hc)
        · exact Or.inr hop
  · -- the signal: the snapshot is still to come
    refine ⟨hagree, hidle, ?_, fun _ => hstop, fun hsnap => ?_, fun hr => absurd hr hnot⟩
    · rw [Workers.State.assign_todo_self]; exact .snapshot
    · have := hsnap.2 .closeAllSockets (by rw [Workers.State.assign_todo_self]; exact List.mem_singleton_self _)
      cases this

/-- A section of `main`. -/
theorem Leaving.run_main {s : State} (hs : Leaving cfg s) {op : Op} {rest ops : List Op} {m : Memory}
    (ht : s.todo .main = op :: rest) (hx : Exec cfg s.mem .main op m ops)
    (hl : op.snapshots = true → ∀ t < s.mem.next, ¬ Unregistered s t) (hret : s.mem.returned = false)
    (hagree : Agree cfg (s.assign .main m (ops ++ rest)))
    (hidle : ∀ t, (m.lives t).stage.entered = false → (s.assign .main m (ops ++ rest)).todo (.readLoop t) = []) :
    Leaving cfg (s.assign .main m (ops ++ rest)) := by
  obtain ⟨hstop, hmret⟩ := hx.main
  have hstopping : m.stopping = true := hstop.trans (hs.stopping (by rw [ht]; exact List.cons_ne_nil _ _))
  refine ⟨hagree, hidle, ?_, fun _ => hstopping, fun _ t hm => ?_, fun hr => ⟨hstopping, ?_⟩⟩
  · rw [Workers.State.assign_todo_self]
    exact MainTodo.exec (ht ▸ hs.main) hx
  · rw [Workers.State.assign_todo_self]
    exact hs.run_told ht hx hl (hs.entered_run ht hx t ▸ hm)
  · rw [Workers.State.assign_mem] at hr
    rcases hmret with hmret | rfl
    · rw [hmret, hret] at hr; cases hr
    · -- `main` returns with its last section
      have hmain : MainTodo (.shutdown :: rest) := ht ▸ hs.main
      cases hx
      rw [Workers.State.assign_todo_self, hmain.eq_shutdown]
      rfl

/-- A section of another goroutine. -/
theorem Leaving.run_other {s : State} (hs : Leaving cfg s) {g : Goroutine} (hg : g ≠ .main) {op : Op}
    {rest ops : List Op} {m : Memory} (ht : s.todo g = op :: rest) (hx : Exec cfg s.mem g op m ops)
    (hret : s.mem.returned = false) (hagree : Agree cfg (s.assign g m (ops ++ rest)))
    (hidle : ∀ t, (m.lives t).stage.entered = false → (s.assign g m (ops ++ rest)).todo (.readLoop t) = []) :
    Leaving cfg (s.assign g m (ops ++ rest)) := by
  obtain ⟨hstop, hmret⟩ := hx.main
  have htodo : (s.assign g m (ops ++ rest)).todo .main = s.todo .main := Workers.State.assign_todo_of_ne (Ne.symm hg)
  refine ⟨hagree, hidle, htodo ▸ hs.main, ?_, fun hsnap t hm => ?_, fun hr => ?_⟩
  · rw [htodo, Workers.State.assign_mem, hstop]; exact hs.stopping
  · unfold Snapshotted at hsnap
    rw [Workers.State.assign_mem, hstop, htodo] at hsnap
    rw [htodo]
    rcases hs.told hsnap t (hs.entered_run ht hx t ▸ hm) with hc | hop
    · exact Or.inl ((hx.lasting t).1 hc)
    · exact Or.inr hop
  · rw [Workers.State.assign_mem] at hr
    rcases hmret with hmret | rfl
    · rw [hmret, hret] at hr; cases hr
    · exact absurd (hs.agree.homed g _ (ht ▸ List.mem_cons_self) .main rfl).symm hg

theorem leaving_step {s s' : State} {l : Label} (hl : Timely s l) (hs : Leaving cfg s) (h : step p cfg s l = some s') :
    Leaving cfg s' := by
  have hagree := hs.agree.step h
  have hidle := fun t => hs.idle_step h (t := t)
  have hret := not_returned_of_step h
  cases step_cases h with
  | stall t' =>
    refine ⟨hagree, hidle, hs.main, hs.stopping, fun hsnap t ht => ?_, hs.returned⟩
    have hc : ((s.mem.setConn t' { s.mem.conns t' with stalled := true }).conns t).closed = (s.mem.conns t).closed :=
      setConn_same Conn.closed (by rfl) t
    rw [hc]
    exact hs.told hsnap t ht
  | start w g ops m ht hw => exact hs.start hl.1 hw hret hagree hidle
  | run g choice op rest ops m ht hx =>
    by_cases hg : g = .main
    · subst hg
      exact hs.run_main ht hx (fun hsn => hl.2 (by simp [snapshots, ht, hsn])) hret hagree hidle
    · exact hs.run_other hg ht hx hret hagree hidle

/-! ## When `main` returns -/

variable (p cfg) in
/-- In every run in which no socket is registered behind the snapshot, nor between its unregistration and its
close at the snapshot, every socket that was ever registered is closed when `main` has returned. -/
theorem shutdown_reaches (tr : List Label) {s : State} (hc : Transition.EachStep (step p cfg) Timely init tr)
    (h : Transition.run (step p cfg) init tr = some s) : Reached s := by
  have hs : Leaving cfg s :=
    Transition.run_invariant_each (fun _ _ _ hl hs hst => leaving_step hl hs hst) hc leaving_init h
  intro hr t hentered
  obtain ⟨hstop, htodo⟩ := hs.returned hr
  have hsnap : Snapshotted s := ⟨hstop, by rw [htodo]; nofun⟩
  rcases hs.told hsnap t hentered with hcl | hop
  · exact hcl
  · rw [htodo] at hop; cases hop

/-- The upgrade of a client is under way when `main` takes its snapshot, and its socket is registered
behind it. -/
def sampleLate : List Label :=
  [.start (.upgrade "s"), .start .signal, .run .main ⟨[], true⟩, .start (.registerSocket 0), .start (.runSocket 0),
    .run .main ⟨[], true⟩, .run .main ⟨[], true⟩]

/-- A client connects, and the node shuts down. -/
def sampleShutdown : List Label :=
  [.start (.upgrade "s"), .start (.registerSocket 0), .start (.runSocket 0), .start .signal, .run .main ⟨[0], true⟩,
    .run .main ⟨[], true⟩, .run .main ⟨[], true⟩, .run .main ⟨[], true⟩, .run .main ⟨[], true⟩, .run .main ⟨[], true⟩,
    .run .main ⟨[], true⟩, .run .main ⟨[], true⟩]

def shutdownSystem : State → Label → Option State := step Auth.sample (defaultConfig "secret" Auth.sampleKey "node")

/-- The client is told. -/
theorem shutdown_reaches_sample :
    ∃ s, Transition.run shutdownSystem init sampleShutdown = some s ∧ s.mem.returned = true ∧
      (s.mem.conns 0).written.length = 1 ∧ Reached s := by
  refine ⟨_, rfl, rfl, rfl,
    shutdown_reaches Auth.sample (defaultConfig "secret" Auth.sampleKey "node") sampleShutdown ?_ (by rfl)⟩
  decide +kernel

/-- `main` returns while the client is served: its socket is open, its run is in its loop, and nothing
was written to it. -/
theorem registered_late :
    ∃ s, Transition.run shutdownSystem init sampleLate = some s ∧ ¬ Reached s ∧ (s.mem.conns 0).written.length = 0 := by
  refine ⟨_, rfl, fun h => ?_, rfl⟩
  cases h rfl 0 rfl

end Server

end NodejsHelper
