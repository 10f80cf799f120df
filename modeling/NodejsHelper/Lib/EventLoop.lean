/-
A single thread with an event loop: a task runs to completion before the next one starts. What is left
of it is a stack of operations; an operation may put further ones in front of the rest, or throw, and an
exception unwinds the stack to an operation that catches it or ends the task.
-/
import NodejsHelper.Lib.Run

namespace EventLoop

variable {M O C W : Type*}

/-- The memory, and what the task in progress has left to do. -/
structure State (M O : Type*) where
  mem : M
  stack : List O

/-- How an operation ends. -/
inductive Outcome (M O : Type*)
  | returns (m : M) (ops : List O)
  | throws (m : M)

/-- The same with operations to follow. -/
def Outcome.andThen (o : Outcome M O) (next : List O) : Outcome M O :=
  match o with
  | .returns m ops => .returns m (ops ++ next)
  | .throws m => .throws m

/-- The memory an operation leaves. -/
@[reducible] def Outcome.mem : Outcome M O → M
  | .returns m _ => m
  | .throws m => m

/-- The operations it leaves; an exception leaves none. -/
@[reducible] def Outcome.ops : Outcome M O → List O
  | .returns _ ops => ops
  | .throws _ => []

@[simp] theorem Outcome.andThen_mem (o : Outcome M O) (next : List O) : (o.andThen next).mem = o.mem := by
  cases o <;> rfl

theorem Outcome.mem_andThen_ops {o : Outcome M O} {next : List O} {op : O} (h : op ∈ (o.andThen next).ops) :
    op ∈ o.ops ∨ op ∈ next := by
  cases o with
  | returns m ops => exact List.mem_append.1 h
  | throws m => cases h

/-- What an operation does under a choice, what a task starts with, and which operations catch. An absent
result is a step that is not enabled. -/
structure System (M O C W : Type*) where
  exec : C → M → O → Option (Outcome M O)
  start : M → W → Option (M × List O)
  catches : O → Bool

/-- The next operation runs, `unwound` operations being dropped if it throws, or a task starts. -/
inductive Label (C W : Type*)
  | run (c : C) (unwound : ℕ)
  | start (w : W)

variable (sys : System M O C W)

/-- An exception may come to rest where the stack is empty or its first operation catches. -/
def System.rests (stack : List O) : Bool :=
  match stack with
  | [] => true
  | op :: _ => sys.catches op

/-- One step. -/
def System.step (s : State M O) : Label C W → Option (State M O)
  | .run c unwound =>
    match s.stack with
    | [] => none
    | op :: rest =>
      match sys.exec c s.mem op with
      | none => none
      | some (.returns m ops) => some ⟨m, ops ++ rest⟩
      | some (.throws m) => if sys.rests (rest.drop unwound) then some ⟨m, rest.drop unwound⟩ else none
  | .start w =>
    match s.stack with
    | [] => (sys.start s.mem w).map fun r => ⟨r.1, r.2⟩
    | _ :: _ => none

/-- What a step is. -/
inductive Steps (s : State M O) : Label C W → State M O → Prop
  | returns (c : C) (unwound : ℕ) (op : O) (rest ops : List O) (m : M) :
      s.stack = op :: rest → sys.exec c s.mem op = some (.returns m ops) →
      Steps s (.run c unwound) ⟨m, ops ++ rest⟩
  | throws (c : C) (unwound : ℕ) (op : O) (rest : List O) (m : M) :
      s.stack = op :: rest → sys.exec c s.mem op = some (.throws m) → sys.rests (rest.drop unwound) = true →
      Steps s (.run c unwound) ⟨m, rest.drop unwound⟩
  | start (w : W) (ops : List O) (m : M) :
      s.stack = [] → sys.start s.mem w = some (m, ops) → Steps s (.start w) ⟨m, ops⟩

variable {sys}

theorem step_iff {s s' : State M O} {l : Label C W} : sys.step s l = some s' ↔ Steps sys s l s' := by
  constructor
  · intro h
    cases l with
    | run c unwound =>
      rw [System.step] at h
      split at h
      · cases h
      · rename_i op rest hstack
        split at h
        · cases h
        · rename_i m ops hx
          cases h
          exact .returns c unwound op rest ops m hstack hx
        · rename_i m hx
          split at h
          · rename_i hrests
            cases h
            exact .throws c unwound op rest m hstack hx hrests
          · cases h
    | start w =>
      rw [System.step] at h
      split at h
      · rename_i hstack
        obtain ⟨⟨m, ops⟩, hx, rfl⟩ := Option.map_eq_some_iff.1 h
        exact .start w ops m hstack hx
      · cases h
  · rintro (⟨c, unwound, op, rest, ops, m, hstack, hx⟩ | ⟨c, unwound, op, rest, m, hstack, hx, hrests⟩ |
      ⟨w, ops, m, hstack, hx⟩)
    · rw [System.step, hstack]
      simp only [hx]
    · rw [System.step, hstack]
      simp only [hx, hrests, if_true]
    · rw [System.step, hstack]
      simp only [hx, Option.map_some]

/-! ## Invariants -/

/-- A relation of the memory and the stack holds in every state reached when the operations keep it, the
tasks establish it and it survives the dropping of operations. -/
theorem run_invariant {I : M → List O → Prop}
    (hexec : ∀ c m op rest o, I m (op :: rest) → sys.exec c m op = some o → I o.mem (o.ops ++ rest))
    (hdrop : ∀ m op rest, I m (op :: rest) → I m rest)
    (hstart : ∀ m w m' ops, I m [] → sys.start m w = some (m', ops) → I m' ops)
    {tr : List (Label C W)} {s s' : State M O} (hi : I s.mem s.stack)
    (h : Transition.run sys.step s tr = some s') : I s'.mem s'.stack := by
  have hdrops : ∀ m n rest, I m rest → I m (rest.drop n) := by
    intro m n
    induction n with
    | zero => exact fun rest h => h
    | succ n ih =>
      intro rest h
      cases rest with
      | nil => exact h
      | cons op rest => exact ih rest (hdrop m op rest h)
  refine Transition.run_invariant (I := fun s : State M O => I s.mem s.stack) ?_ hi h
  intro s l s' hi hs
  rcases step_iff.1 hs with ⟨c, unwound, op, rest, ops, m, hstack, hx⟩ | ⟨c, unwound, op, rest, m, hstack, hx, -⟩ |
    ⟨w, ops, m, hstack, hx⟩
  · rw [hstack] at hi
    exact hexec c s.mem op rest (.returns m ops) hi hx
  · rw [hstack] at hi
    exact hdrops m unwound rest (hexec c s.mem op rest (.throws m) hi hx)
  · rw [hstack] at hi
    exact hstart s.mem w m ops hi hx

end EventLoop
