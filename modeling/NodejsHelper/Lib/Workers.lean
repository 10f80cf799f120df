/-
Workers on a shared memory: each worker has a list of operations it still has to carry out, an
operation is one atomic section that may put further operations in front of the rest, an idle
worker may take up new work, and the environment may change the memory. Any interleaving is a run;
what the lists can hold is settled once for all systems of this shape.
-/
import NodejsHelper.Lib.Run
import Mathlib.Logic.Function.Basic

namespace Workers

variable {M G O C W E : Type*}

/-- The memory, and what every worker has left to do. -/
structure State (M G O : Type*) where
  mem : M
  todo : G → List O

/-- What a section does to the memory and which sections it leaves, what work an idle worker takes
up, and how the environment acts. An absent result is a step that is not enabled. -/
structure System (M G O C W E : Type*) where
  exec : G → C → M → O → Option (M × List O)
  start : M → W → Option (G × M × List O)
  env : M → E → Option M

/-- A worker executes its next section under a choice, takes up work, or the environment acts. -/
inductive Label (G C W E : Type*)
  | run (g : G) (c : C)
  | start (w : W)
  | env (e : E)

variable [DecidableEq G]

/-- The state with a new memory and a new list for one worker. -/
def State.assign (s : State M G O) (g : G) (m : M) (ops : List O) : State M G O := ⟨m, Function.update s.todo g ops⟩

@[simp] theorem State.assign_mem (s : State M G O) (g : G) (m : M) (ops : List O) : (s.assign g m ops).mem = m := rfl

@[simp] theorem State.assign_todo_self (s : State M G O) (g : G) (m : M) (ops : List O) :
    (s.assign g m ops).todo g = ops :=
  Function.update_self ..

theorem State.assign_todo_of_ne {s : State M G O} {g g' : G} {m : M} {ops : List O} (h : g' ≠ g) :
    (s.assign g m ops).todo g' = s.todo g' :=
  Function.update_of_ne h ..

/-- What is left for a worker after a step of one of them is what the step leaves, or was left before. -/
theorem mem_assign {s : State M G O} {g g' : G} {m : M} {ops : List O} {o : O}
    (h : o ∈ (s.assign g m ops).todo g') : g' = g ∧ o ∈ ops ∨ g' ≠ g ∧ o ∈ s.todo g' := by
  by_cases hg : g' = g
  · subst hg
    rw [State.assign_todo_self] at h
    exact Or.inl ⟨rfl, h⟩
  · rw [State.assign_todo_of_ne hg] at h
    exact Or.inr ⟨hg, h⟩

theorem mem_assign_append {s : State M G O} {g g' : G} {m : M} {op : O} {rest ops : List O} {o : O}
    (ht : s.todo g = op :: rest) (h : o ∈ (s.assign g m (ops ++ rest)).todo g') :
    g' = g ∧ o ∈ ops ∨ o ∈ s.todo g' := by
  rcases mem_assign h with ⟨rfl, ho⟩ | ⟨-, ho⟩
  · rcases List.mem_append.1 ho with ho | ho
    · exact Or.inl ⟨rfl, ho⟩
    · exact Or.inr (ht ▸ List.mem_cons_of_mem op ho)
  · exact Or.inr ho

/-- A section is the only one its step takes from the lists. -/
theorem mem_assign_of_mem {s : State M G O} {g g' : G} {m : M} {op : O} {rest ops : List O} {o : O}
    (ht : s.todo g = op :: rest) (h : o ∈ s.todo g') :
    g' = g ∧ o = op ∨ o ∈ (s.assign g m (ops ++ rest)).todo g' := by
  by_cases hg : g' = g
  · subst hg
    rw [ht] at h
    rcases List.mem_cons.1 h with rfl | h
    · exact Or.inl ⟨rfl, rfl⟩
    · exact Or.inr (by rw [State.assign_todo_self]; exact List.mem_append_right ops h)
  · exact Or.inr (by rw [State.assign_todo_of_ne hg]; exact h)

variable (sys : System M G O C W E)

/-- One step. -/
def System.step (s : State M G O) : Label G C W E → Option (State M G O)
  | .run g c =>
    match s.todo g with
    | [] => none
    | op :: rest => (sys.exec g c s.mem op).map fun r => s.assign g r.1 (r.2 ++ rest)
  | .start w =>
    match sys.start s.mem w with
    | none => none
    | some (g, m, ops) =>
      match s.todo g with
      | [] => some (s.assign g m ops)
      | _ :: _ => none
  | .env e => (sys.env s.mem e).map fun m => ⟨m, s.todo⟩

/-- What a step is. -/
inductive Steps (s : State M G O) : Label G C W E → State M G O → Prop
  | run (g : G) (c : C) (op : O) (rest ops : List O) (m : M) :
      s.todo g = op :: rest → sys.exec g c s.mem op = some (m, ops) →
      Steps s (.run g c) (s.assign g m (ops ++ rest))
  | start (w : W) (g : G) (ops : List O) (m : M) :
      s.todo g = [] → sys.start s.mem w = some (g, m, ops) →
      Steps s (.start w) (s.assign g m ops)
  | env (e : E) (m : M) : sys.env s.mem e = some m → Steps s (.env e) ⟨m, s.todo⟩

variable {sys}

theorem step_iff {s s' : State M G O} {l : Label G C W E} : sys.step s l = some s' ↔ Steps sys s l s' := by
  constructor
  · intro h
    cases l with
    | run g c =>
      simp only [System.step] at h
      split at h
      · cases h
      · rename_i op rest ht
        obtain ⟨⟨m, ops⟩, hx, rfl⟩ := Option.map_eq_some_iff.1 h
        exact .run g c op rest ops m ht hx
    | start w =>
      simp only [System.step] at h
      split at h
      · cases h
      · rename_i g m ops hb
        split at h
        · rename_i ht
          cases h
          exact .start w g ops m ht hb
        · cases h
    | env e =>
      obtain ⟨m, hm, rfl⟩ := Option.map_eq_some_iff.1 h
      exact .env e m hm
  · rintro (⟨g, c, op, rest, ops, m, ht, hx⟩ | ⟨w, g, ops, m, ht, hb⟩ | ⟨e, m, hm⟩)
    · simp [System.step, ht, hx]
    · simp [System.step, ht, hb]
    · simp [System.step, hm]

/-- A change of the memory that a step's section, work or action goes along with changes nothing else. -/
theorem step_map {f : M → M} {s : State M G O} {l : Label G C W E}
    (hexec : ∀ g c op, l = .run g c → sys.exec g c (f s.mem) op = (sys.exec g c s.mem op).map fun r => (f r.1, r.2))
    (hstart : ∀ w, l = .start w → sys.start (f s.mem) w = (sys.start s.mem w).map fun r => (r.1, f r.2.1, r.2.2))
    (henv : ∀ e, l = .env e → sys.env (f s.mem) e = (sys.env s.mem e).map f) :
    sys.step ⟨f s.mem, s.todo⟩ l = (sys.step s l).map fun s' => ⟨f s'.mem, s'.todo⟩ := by
  cases l with
  | run g c =>
    simp only [System.step]
    cases s.todo g with
    | nil => rfl
    | cons op rest =>
      simp only [hexec g c op rfl, Option.map_map]
      rfl
  | start w =>
    simp only [System.step, hstart w rfl]
    cases sys.start s.mem w with
    | none => rfl
    | some r =>
      simp only [Option.map_some]
      cases s.todo r.1 with
      | nil => rfl
      | cons op rest => rfl
  | env e =>
    simp only [System.step, henv e rfl, Option.map_map]
    rfl

/-! ## What the lists hold -/

/-- A property of a worker's list that its own sections keep and new work establishes. -/
theorem todo_invariant {R : G → List O → Prop} {s s' : State M G O} {l : Label G C W E}
    (hexec : ∀ g c m m' op ops rest, sys.exec g c m op = some (m', ops) → R g (op :: rest) → R g (ops ++ rest))
    (hstart : ∀ w g m m' ops, sys.start m w = some (g, m', ops) → R g ops)
    (hs : ∀ g, R g (s.todo g)) (h : sys.step s l = some s') : ∀ g, R g (s'.todo g) := by
  rcases step_iff.1 h with ⟨g, c, op, rest, ops, m, ht, hx⟩ | ⟨w, g, ops, m, ht, hb⟩ | ⟨e, m, hm⟩
  · intro g'
    by_cases hg : g' = g
    · subst hg
      rw [State.assign_todo_self]
      exact hexec g' c s.mem m op ops rest hx (ht ▸ hs g')
    · rw [State.assign_todo_of_ne hg]
      exact hs g'
  · intro g'
    by_cases hg : g' = g
    · subst hg
      rw [State.assign_todo_self]
      exact hstart w g' s.mem m ops hb
    · rw [State.assign_todo_of_ne hg]
      exact hs g'
  · exact hs

/-- When sections and new work only leave operations of a class, nothing else is ever pending. -/
theorem pending_invariant {Q : G → O → Prop} {s s' : State M G O} {l : Label G C W E}
    (hexec : ∀ g c m m' op ops, sys.exec g c m op = some (m', ops) → Q g op → ∀ o ∈ ops, Q g o)
    (hstart : ∀ w g m m' ops, sys.start m w = some (g, m', ops) → ∀ o ∈ ops, Q g o)
    (hs : ∀ g, ∀ o ∈ s.todo g, Q g o) (h : sys.step s l = some s') : ∀ g, ∀ o ∈ s'.todo g, Q g o := by
  refine todo_invariant (R := fun g l => ∀ o ∈ l, Q g o) ?_ hstart hs h
  intro g c m m' op ops rest hx hr o ho
  rcases List.mem_append.1 ho with ho | ho
  · exact hexec g c m m' op ops hx (hr op List.mem_cons_self) o ho
  · exact hr o (List.mem_cons_of_mem op ho)

/-- When the operations of a kind are only ever left in front, none is pending behind another one. -/
theorem tails_invariant {B : O → Prop} {s s' : State M G O} {l : Label G C W E}
    (hexec : ∀ g c m m' op ops, sys.exec g c m op = some (m', ops) → ∀ o ∈ ops.tail, ¬ B o)
    (hstart : ∀ w g m m' ops, sys.start m w = some (g, m', ops) → ∀ o ∈ ops.tail, ¬ B o)
    (hs : ∀ g, ∀ o ∈ (s.todo g).tail, ¬ B o) (h : sys.step s l = some s') :
    ∀ g, ∀ o ∈ (s'.todo g).tail, ¬ B o := by
  refine todo_invariant (R := fun _ l => ∀ o ∈ l.tail, ¬ B o) ?_ hstart hs h
  intro g c m m' op ops rest hx hr o ho
  cases ops with
  | nil => exact hr o (List.mem_of_mem_tail ho)
  | cons a as =>
    rcases List.mem_append.1 (show o ∈ as ++ rest from ho) with ho | ho
    · exact hexec g c m m' op (a :: as) hx o ho
    · exact hr o ho

/-! ## Counting what is pending -/

/-- Where one worker has all operations of a kind, a section trades the one it executes for those it leaves. -/
theorem countP_run {q : O → Bool} {s : State M G O} {g g₀ : G} {m : M} {op : O} {rest ops : List O}
    (ht : s.todo g = op :: rest) (hs : ∀ g', ∀ o ∈ s.todo g', q o = true → g' = g₀)
    (hs' : ∀ g', ∀ o ∈ (s.assign g m (ops ++ rest)).todo g', q o = true → g' = g₀) :
    ((s.assign g m (ops ++ rest)).todo g₀).countP q + [op].countP q = (s.todo g₀).countP q + ops.countP q := by
  by_cases hg : g₀ = g
  · subst hg
    simp only [State.assign_todo_self, ht, List.countP_append, List.countP_cons, List.countP_nil]
    omega
  · -- another worker has no operation of the kind, before or after
    have hop : [op].countP q = 0 := List.countP_eq_zero.2 fun o ho hq =>
      hg (hs g o (by rw [ht, List.mem_singleton.1 ho]; exact List.mem_cons_self) hq).symm
    have hops : ops.countP q = 0 := List.countP_eq_zero.2 fun o ho hq =>
      hg (hs' g o (by rw [State.assign_todo_self]; exact List.mem_append_left rest ho) hq).symm
    rw [State.assign_todo_of_ne hg, hop, hops]

/-- New work adds what it leaves. -/
theorem countP_start {q : O → Bool} {s : State M G O} {g g₀ : G} {m : M} {ops : List O} (ht : s.todo g = [])
    (hs' : ∀ g', ∀ o ∈ (s.assign g m ops).todo g', q o = true → g' = g₀) :
    ((s.assign g m ops).todo g₀).countP q = (s.todo g₀).countP q + ops.countP q := by
  by_cases hg : g₀ = g
  · subst hg
    rw [State.assign_todo_self, ht, List.countP_nil, Nat.zero_add]
  · have hops : ops.countP q = 0 := List.countP_eq_zero.2 fun o ho hq =>
      hg (hs' g o (by rw [State.assign_todo_self]; exact ho) hq).symm
    rw [State.assign_todo_of_ne hg, hops, Nat.add_zero]

end Workers
