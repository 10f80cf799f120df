/-
A switch and its mirror. Any number of agents flip the switch of a key in one critical section and
carry the new position to the mirror in a second one, later and in any order. When no carry of a key
is outstanding, does the mirror show the switch? Exactly in the runs in which the last outstanding
carry of a key is never a stale one (`agrees_iff_current`); a system whose steps are steps of the
relay, or do not touch it, inherits the rule through `Sim`.
-/
import NodejsHelper.Lib.Run
import Mathlib.Logic.Function.Basic

namespace Relay

variable {κ α : Type*} [DecidableEq κ] [DecidableEq α]

/-- The switches, their mirrors, and the position each agent still has to carry over. -/
structure State (κ α : Type*) where
  front : κ → Bool
  back : κ → Bool
  pending : α → Option (κ × Bool)

/-- Flip the switch of a key, or carry a position over to its mirror. -/
inductive Label (κ α : Type*)
  | flip (a : α) (k : κ)
  | carry (a : α)

/-- One critical section of an agent. -/
def step (s : State κ α) : Label κ α → Option (State κ α)
  | .flip a k =>
    match s.pending a with
    | some _ => none
    | none => some { s with
        front := Function.update s.front k (!s.front k)
        pending := Function.update s.pending a (some (k, !s.front k)) }
  | .carry a =>
    match s.pending a with
    | none => none
    | some (k, v) => some { s with
        back := Function.update s.back k v
        pending := Function.update s.pending a none }

/-- No agent still has a position of the key to carry over. -/
def Settled (s : State κ α) (k : κ) : Prop := ∀ a v, s.pending a ≠ some (k, v)

/-- Every settled key's mirror shows its switch. -/
def Agrees (s : State κ α) : Prop := ∀ k, Settled s k → s.back k = s.front k

/-- The step does not settle a key with a stale position: a carry that is the last outstanding one
of its key carries the position the switch has now. -/
def Current (s : State κ α) : Label κ α → Prop
  | .flip _ _ => True
  | .carry a => ∀ k v, s.pending a = some (k, v) →
      (∀ b, b ≠ a → ∀ w, s.pending b ≠ some (k, w)) → v = s.front k

/-- A flip leaves the other keys settled as they were and unsettles its own. -/
theorem flip_agrees {s s' : State κ α} {a : α} {k : κ} (h : Agrees s) (hs : step s (.flip a k) = some s') :
    Agrees s' := by
  simp only [step] at hs
  split at hs
  · cases hs
  · rename_i hn
    cases hs
    intro k' hk'
    have hne : k' ≠ k := by
      rintro rfl
      exact hk' a (!s.front k') (Function.update_self ..)
    simp only [Function.update_of_ne hne]
    refine h k' fun b v hb => hk' b v ?_
    have hba : b ≠ a := by rintro rfl; rw [hn] at hb; cases hb
    simp only [Function.update_of_ne hba]
    exact hb

/-- A carry keeps the agreement exactly when it does not settle its key with a stale position. -/
theorem carry_agrees_iff {s s' : State κ α} {a : α} (h : Agrees s) (hs : step s (.carry a) = some s') :
    Agrees s' ↔ Current s (.carry a) := by
  simp only [step] at hs
  split at hs
  · cases hs
  · rename_i k v hp
    cases hs
    have hother : ∀ b, b ≠ a → Function.update s.pending a none b = s.pending b :=
      fun b hb => Function.update_of_ne hb ..
    constructor
    · intro h' k' v' hp' hlast
      rw [hp] at hp'
      cases hp'
      have := h' k fun b w hb => ?_
      · simpa using this
      · by_cases hba : b = a
        · subst hba; simp at hb
        · exact hlast b hba w (by simpa [hother b hba] using hb)
    · intro hc k' hk'
      have hk : ∀ b, b ≠ a → ∀ w, s.pending b ≠ some (k', w) := fun b hb w hw =>
        hk' b w (by simpa [hother b hb] using hw)
      by_cases hkk : k' = k
      · subst hkk
        simpa using hc k' v hp hk
      · simp only [Function.update_of_ne hkk]
        refine h k' fun b w hb => ?_
        by_cases hba : b = a
        · subst hba
          rw [hp] at hb
          cases hb; exact hkk rfl
        · exact hk b hba w hb

theorem step_agrees_iff {s s' : State κ α} {l : Label κ α} (h : Agrees s) (hs : step s l = some s') :
    Agrees s' ↔ Current s l := by
  cases l with
  | flip a k => exact ⟨fun _ => trivial, fun _ => flip_agrees h hs⟩
  | carry a => exact carry_agrees_iff h hs

/-! ## Systems that contain a relay -/

/-- A system whose steps are relay steps under `view`, or leave the view alone. -/
structure Sim {S L : Type*} (sys : S → L → Option S) (view : S → State κ α)
    (label : S → L → Option (Label κ α)) : Prop where
  stutter : ∀ s l s', sys s l = some s' → label s l = none → view s' = view s
  simulate : ∀ s l s' l', sys s l = some s' → label s l = some l' → step (view s) l' = some (view s')

/-- The exact rule of the relay, read in a system that simulates one. -/
theorem Sim.agrees_iff_current {S L : Type*} {sys : S → L → Option S} {view : S → State κ α}
    {label : S → L → Option (Label κ α)} (hsim : Sim sys view label) {s : S} (h : Agrees (view s))
    (tr : List L) :
    Transition.Always sys (fun m => Agrees (view m)) s tr ↔
      Transition.EachStep sys (fun m l => ∀ l', label m l = some l' → Current (view m) l') s tr := by
  refine Transition.always_iff_eachStep (I := fun _ => True) (fun _ _ _ _ _ => trivial) ?_ trivial h
  intro m l m' _ hp hs
  cases hl : label m l with
  | none =>
    rw [hsim.stutter m l m' hs hl]
    exact ⟨fun _ _ hl' => (Option.some_ne_none _ hl'.symm).elim, fun _ => hp⟩
  | some l' =>
    rw [step_agrees_iff hp (hsim.simulate m l m' l' hs hl)]
    exact ⟨fun hc l'' hl'' => Option.some.inj hl'' ▸ hc, fun hc => hc l' rfl⟩

end Relay
