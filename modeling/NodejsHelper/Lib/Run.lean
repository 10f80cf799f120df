/-
Runs of an executable transition system: a step function that may refuse a label, the run of a
list of labels, invariants of the states a run reaches, the step at which a property first
changes, and the exact rule for runs: every state is good exactly when every step meets its
condition.
-/
import Mathlib.Data.List.Basic
import Mathlib.Data.List.Infix

namespace Transition

variable {S L : Type*} (step : S → L → Option S)

/-- The state after the labels of a run, absent when one of them is refused. -/
def run : S → List L → Option S
  | s, [] => some s
  | s, l :: tr => (step s l).bind fun s' => run s' tr

/-- `s'` is a state some run from `s` reaches. -/
def Reachable (s s' : S) : Prop := ∃ tr, run step s tr = some s'

/-- Every state the run passes through, its first and its last included, satisfies `P`. -/
def Always (P : S → Prop) : S → List L → Prop
  | s, [] => P s
  | s, l :: tr => P s ∧ ∀ s', step s l = some s' → Always P s' tr

/-- Every step the run takes meets the condition `C`, read in the state before the step. -/
def EachStep (C : S → L → Prop) : S → List L → Prop
  | _, [] => True
  | s, l :: tr => ∀ s', step s l = some s' → C s l ∧ EachStep C s' tr

/-- A decidable condition can be checked along a run. -/
instance EachStep.decidable (C : S → L → Prop) [∀ s l, Decidable (C s l)] : ∀ s tr, Decidable (EachStep step C s tr)
  | _, [] => isTrue trivial
  | s, l :: tr =>
    match h : step s l with
    | none => isTrue fun s' hs => by rw [h] at hs; cases hs
    | some m =>
      have := EachStep.decidable C m tr
      decidable_of_iff (C s l ∧ EachStep step C m tr)
        ⟨fun hc s' hs => by rw [h] at hs; cases hs; exact hc, fun hc => hc m h⟩

/-- So can a decidable property of the states of a run. -/
instance Always.decidable (P : S → Prop) [∀ s, Decidable (P s)] : ∀ s tr, Decidable (Always step P s tr)
  | s, [] => inferInstanceAs (Decidable (P s))
  | s, l :: tr =>
    match h : step s l with
    | none => decidable_of_iff (P s) ⟨fun hp => ⟨hp, fun s' hs => by rw [h] at hs; cases hs⟩, fun hp => hp.1⟩
    | some m =>
      have := Always.decidable P m tr
      decidable_of_iff (P s ∧ Always step P m tr)
        ⟨fun hp => ⟨hp.1, fun s' hs => by rw [h] at hs; cases hs; exact hp.2⟩, fun hp => ⟨hp.1, hp.2 m h⟩⟩

variable {step}

@[simp] theorem run_nil (s : S) : run step s [] = some s := rfl

@[simp] theorem run_cons (s : S) (l : L) (tr : List L) :
    run step s (l :: tr) = (step s l).bind fun s' => run step s' tr := rfl

theorem run_cons_some {s s' : S} {l : L} {tr : List L} (h : run step s (l :: tr) = some s') :
    ∃ m, step s l = some m ∧ run step m tr = some s' :=
  Option.bind_eq_some_iff.1 h

theorem run_append (s : S) : ∀ (a b : List L),
    run step s (a ++ b) = (run step s a).bind fun m => run step m b := by
  intro a
  induction a generalizing s with
  | nil => intro b; rfl
  | cons l a ih =>
    intro b
    simp only [List.cons_append, run_cons]
    cases step s l with
    | none => rfl
    | some m => exact ih m b

theorem run_append_some {s s' : S} {a b : List L} (h : run step s (a ++ b) = some s') :
    ∃ m, run step s a = some m ∧ run step m b = some s' := by
  rw [run_append] at h
  exact Option.bind_eq_some_iff.1 h

/-! ## Invariants -/

/-- A property that every step with an admissible label keeps holds at the end of every run of such
labels. -/
theorem run_invariant_of {I : S → Prop} {C : L → Prop}
    (hstep : ∀ s l s', C l → I s → step s l = some s' → I s') :
    ∀ {tr : List L} {s s' : S}, (∀ l ∈ tr, C l) → I s → run step s tr = some s' → I s'
  | [], s, s', _, hi, h => by cases h; exact hi
  | l :: tr, s, s', hc, hi, h => by
    obtain ⟨m, hm, h⟩ := run_cons_some h
    exact run_invariant_of hstep (fun l' hl' => hc l' (List.mem_cons_of_mem l hl'))
      (hstep s l m (hc l List.mem_cons_self) hi hm) h

/-- A property every step keeps holds at the end of every run. -/
theorem run_invariant {I : S → Prop} (hstep : ∀ s l s', I s → step s l = some s' → I s') {tr : List L}
    {s s' : S} (hi : I s) (h : run step s tr = some s') : I s' :=
  run_invariant_of (C := fun _ => True) (fun s l s' _ => hstep s l s') (fun _ _ => trivial) hi h

/-- A property that every step which meets its condition keeps holds at the end of a run of such steps. -/
theorem run_invariant_each {I : S → Prop} {C : S → L → Prop}
    (hstep : ∀ s l s', C s l → I s → step s l = some s' → I s') :
    ∀ {tr : List L} {s s' : S}, EachStep step C s tr → I s → run step s tr = some s' → I s'
  | [], s, s', _, hi, h => by cases h; exact hi
  | l :: tr, s, s', hc, hi, h => by
    obtain ⟨m, hm, h⟩ := run_cons_some h
    obtain ⟨hl, hc⟩ := hc m hm
    exact run_invariant_each hstep hc (hstep s l m hl hi hm) h

/-! ## Properties of whole runs -/

theorem Always.imp {P Q : S → Prop} (hpq : ∀ s, P s → Q s) : ∀ {tr : List L} {s : S},
    Always step P s tr → Always step Q s tr
  | [], _, h => hpq _ h
  | _ :: _, _, h => ⟨hpq _ h.1, fun s' hs' => Always.imp hpq (h.2 s' hs')⟩

/-- A property that holds at the end of a run held all along it, or from some step on that made it true. -/
theorem always_or_last_flip {P : S → Prop} :
    ∀ {tr : List L} {s s' : S}, run step s tr = some s' → P s' → Always step P s tr ∨
      ∃ pre l post a b, tr = pre ++ l :: post ∧ run step s pre = some a ∧ step a l = some b ∧
        run step b post = some s' ∧ ¬ P a ∧ Always step P b post
  | [], s, s', h, hp => by cases h; exact Or.inl hp
  | l :: tr, s, s', h, hp => by
    obtain ⟨m, hm, h⟩ := run_cons_some h
    rcases always_or_last_flip h hp with hall | ⟨pre, l', post, a, b, rfl, h1, h2, h3, h4, h5⟩
    · by_cases hps : P s
      · exact Or.inl ⟨hps, fun m' hm' => by rw [hm] at hm'; cases hm'; exact hall⟩
      · exact Or.inr ⟨[], l, tr, s, m, rfl, rfl, hm, h, hps, hall⟩
    · exact Or.inr ⟨l :: pre, l', post, a, b, rfl, by simp [hm, h1], h2, h3, h4, h5⟩

/-- Under an invariant of the steps with admissible labels, these steps meet every condition it implies. -/
theorem eachStep_of_labels {I : S → Prop} {C : L → Prop} {D : S → L → Prop}
    (hstep : ∀ s l s', C l → I s → step s l = some s' → I s') (hd : ∀ s l, C l → I s → D s l) :
    ∀ {tr : List L} {s : S}, (∀ l ∈ tr, C l) → I s → EachStep step D s tr
  | [], _, _, _ => trivial
  | l :: _, s, hc, hi => fun m hm =>
    ⟨hd s l (hc l List.mem_cons_self) hi, eachStep_of_labels hstep hd
      (fun l' hl' => hc l' (List.mem_cons_of_mem l hl')) (hstep s l m (hc l List.mem_cons_self) hi hm)⟩

/-- What follows from an invariant that the steps meeting a condition keep holds all along a run of such
steps. -/
theorem EachStep.always {I P : S → Prop} {C : S → L → Prop}
    (hstep : ∀ s l s', C s l → I s → step s l = some s' → I s') (hp : ∀ s, I s → P s) :
    ∀ {tr : List L} {s : S}, EachStep step C s tr → I s → Always step P s tr
  | [], s, _, hi => hp s hi
  | l :: _, s, hc, hi =>
    ⟨hp s hi, fun m hm => EachStep.always hstep hp (hc m hm).2 (hstep s l m (hc m hm).1 hi hm)⟩

/-- The steps of a run's beginning meet the condition. -/
theorem EachStep.left {C : S → L → Prop} : ∀ {a b : List L} {s : S},
    EachStep step C s (a ++ b) → EachStep step C s a
  | [], _, _, _ => trivial
  | _ :: _, _, _, h => fun m hm => ⟨(h m hm).1, EachStep.left (h m hm).2⟩

/-- What holds all along a run holds before each of its steps. -/
theorem Always.eachStep {P : S → Prop} : ∀ {tr : List L} {s : S},
    Always step P s tr → EachStep step (fun m _ => P m) s tr
  | [], _, _ => trivial
  | _ :: _, _, h => fun m hm => ⟨h.1, Always.eachStep (h.2 m hm)⟩

theorem Always.head {P : S → Prop} : ∀ {tr : List L} {s : S}, Always step P s tr → P s
  | [], _, h => h
  | _ :: _, _, h => h.1

/-- The exact rule for runs. Where, under an invariant `I` of the steps between good states, a step from a good
state leads to a good state exactly when its condition holds, all states of a run that starts well are good
exactly when all its steps meet their conditions. -/
theorem always_iff_eachStep_of {I P : S → Prop} {C : S → L → Prop}
    (hinv : ∀ s l s', I s → P s → P s' → step s l = some s' → I s')
    (hstep : ∀ s l s', I s → P s → step s l = some s' → (P s' ↔ C s l)) :
    ∀ {tr : List L} {s : S}, I s → P s → (Always step P s tr ↔ EachStep step C s tr)
  | [], s, _, hp => ⟨fun _ => trivial, fun _ => hp⟩
  | l :: tr, s, hi, hp => by
    have hrest : ∀ m, step s l = some m → P m → (Always step P m tr ↔ EachStep step C m tr) := fun m hs hpm =>
      always_iff_eachStep_of hinv hstep (hinv s l m hi hp hpm hs) hpm
    constructor
    · rintro ⟨-, h⟩ m hs
      have hpm : P m := (h m hs).head
      exact ⟨(hstep s l m hi hp hs).1 hpm, (hrest m hs hpm).1 (h m hs)⟩
    · intro h
      refine ⟨hp, fun m hs => ?_⟩
      obtain ⟨hc, htail⟩ := h m hs
      exact (hrest m hs ((hstep s l m hi hp hs).2 hc)).2 htail

/-- The rule with an invariant of all steps. -/
theorem always_iff_eachStep {I P : S → Prop} {C : S → L → Prop}
    (hinv : ∀ s l s', I s → step s l = some s' → I s')
    (hstep : ∀ s l s', I s → P s → step s l = some s' → (P s' ↔ C s l)) {tr : List L} {s : S} (hi : I s) (hp : P s) :
    Always step P s tr ↔ EachStep step C s tr :=
  always_iff_eachStep_of (fun s l s' hi _ _ h => hinv s l s' hi h) hstep hi hp

/-! ## Histories -/

variable (step) in
/-- What an observer of a run has noted at its end: at every step taken it adds to its notes what it sees
of the step. -/
def history {R : Type*} (observe : S → L → S → R → R) : S → R → List L → R
  | _, r, [] => r
  | s, r, l :: tr =>
    match step s l with
    | some s' => history observe s' (observe s l s' r) tr
    | none => r

theorem history_cons {R : Type*} {observe : S → L → S → R → R} {s s' : S} {r : R} {l : L} (h : step s l = some s')
    (tr : List L) : history step observe s r (l :: tr) = history step observe s' (observe s l s' r) tr := by
  simp only [history, h]

theorem history_append {R : Type*} {observe : S → L → S → R → R} : ∀ {a : List L} {s s' : S} {r : R},
    run step s a = some s' → ∀ b, history step observe s r (a ++ b) =
      history step observe s' (history step observe s r a) b
  | [], s, s', r, h, b => by cases h; rfl
  | l :: a, s, s', r, h, b => by
    obtain ⟨m, hm, h⟩ := run_cons_some h
    rw [List.cons_append, history_cons hm, history_cons hm, history_append h]

/-- A relation of states and notes that every step which meets its condition keeps holds at the end of a run
of such steps. -/
theorem history_invariant_each {R : Type*} {observe : S → L → S → R → R} {I : S → R → Prop} {C : S → L → Prop}
    (hstep : ∀ s l s' r, C s l → I s r → step s l = some s' → I s' (observe s l s' r)) :
    ∀ {tr : List L} {s s' : S} {r : R}, EachStep step C s tr → I s r → run step s tr = some s' →
      I s' (history step observe s r tr)
  | [], s, s', r, _, hi, h => by cases h; exact hi
  | l :: tr, s, s', r, hc, hi, h => by
    obtain ⟨m, hm, h⟩ := run_cons_some h
    obtain ⟨hl, hc⟩ := hc m hm
    rw [history_cons hm]
    exact history_invariant_each hstep hc (hstep s l m r hl hi hm) h

theorem eachStep_true : ∀ {tr : List L} {s : S}, EachStep step (fun _ _ => True) s tr
  | [], _ => trivial
  | _ :: _, _ => fun _ _ => ⟨trivial, eachStep_true⟩

/-- A relation of states and notes every step keeps holds at the end of every run. -/
theorem history_invariant {R : Type*} {observe : S → L → S → R → R} {I : S → R → Prop}
    (hstep : ∀ s l s' r, I s r → step s l = some s' → I s' (observe s l s' r)) {tr : List L} {s s' : S} {r : R}
    (hi : I s r) (h : run step s tr = some s') : I s' (history step observe s r tr) :=
  history_invariant_each (C := fun _ _ => True) (fun s l s' r _ => hstep s l s' r) eachStep_true hi h

end Transition
