/-
The channel registry of a node (`hub.go`): for every channel with local subscribers the set of
their sockets. `add` and `remove` are the critical sections under `hub.mu`; what they report, the
first or the last subscriber, decides whether the caller runs a Redis hook afterwards.
-/
import Mathlib.Data.Finset.Card
import Mathlib.Logic.Function.Basic

namespace NodejsHelper

variable {σ : Type*}

/-- `Hub.subs`. A channel without subscribers has no entry. -/
structure Hub (σ : Type*) where
  subs : String → Option (Finset σ)
  nonempty : ∀ channel set, subs channel = some set → set ≠ ∅

/-- `newHub`. -/
def newHub : Hub σ := ⟨fun _ => none, fun _ _ h => by cases h⟩

namespace Hub

/-- The subscribers of a channel. -/
def members (h : Hub σ) (channel : String) : Finset σ := (h.subs channel).getD ∅

/-- The channel has a local subscriber. -/
def occupied (h : Hub σ) (channel : String) : Bool := (h.subs channel).isSome

/-- The entry of a channel replaced by a nonempty set, or dropped. -/
def setEntry (h : Hub σ) (channel : String) (entry : Option (Finset σ)) (he : ∀ set, entry = some set → set ≠ ∅) :
    Hub σ where
  subs := Function.update h.subs channel entry
  nonempty c set hs := by
    by_cases hc : c = channel
    · subst hc
      rw [Function.update_self] at hs
      exact he set hs
    · rw [Function.update_of_ne hc] at hs
      exact h.nonempty c set hs

@[simp] theorem members_newHub (channel : String) : (newHub : Hub σ).members channel = ∅ := rfl

theorem members_of_none {h : Hub σ} {channel : String} (hn : h.subs channel = none) : h.members channel = ∅ := by
  simp [members, hn]

theorem members_of_some {h : Hub σ} {channel : String} {set : Finset σ} (hs : h.subs channel = some set) :
    h.members channel = set := by
  simp [members, hs]

theorem occupied_iff {h : Hub σ} {channel : String} : h.occupied channel = true ↔ h.members channel ≠ ∅ := by
  unfold occupied members
  cases he : h.subs channel with
  | none => simp
  | some set => simpa using h.nonempty channel set he

@[simp] theorem members_setEntry {h : Hub σ} {channel : String} {entry : Option (Finset σ)}
    {he : ∀ set, entry = some set → set ≠ ∅} (c : String) :
    (h.setEntry channel entry he).members c = if c = channel then entry.getD ∅ else h.members c := by
  unfold setEntry members
  by_cases hc : c = channel
  · subst hc; simp
  · simp [hc]

@[simp] theorem occupied_setEntry {h : Hub σ} {channel : String} {entry : Option (Finset σ)}
    {he : ∀ set, entry = some set → set ≠ ∅} :
    (h.setEntry channel entry he).occupied = Function.update h.occupied channel entry.isSome := by
  funext c
  unfold setEntry occupied
  by_cases hc : c = channel
  · subst hc; simp
  · simp [hc]

variable [DecidableEq σ]

/-- `Hub.Add` up to the hook: the new registry, and whether the socket is the first subscriber. -/
def add (h : Hub σ) (s : σ) (channel : String) : Hub σ × Bool :=
  match h.subs channel with
  | none => (h.setEntry channel (some {s}) (fun _ e => by cases e; exact Finset.singleton_ne_empty s), true)
  | some set =>
    (h.setEntry channel (some (insert s set)) (fun _ e => by cases e; exact Finset.insert_ne_empty s set), false)

/-- `Hub.Remove` up to the hook: the new registry, and whether the channel lost its last subscriber. -/
def remove (h : Hub σ) (s : σ) (channel : String) : Hub σ × Bool :=
  match h.subs channel with
  | none => (h, false)
  | some set =>
    if s ∈ set then
      if he : set.erase s = ∅ then (h.setEntry channel none (fun _ e => by cases e), true)
      else (h.setEntry channel (some (set.erase s)) (fun _ e => by cases e; exact he), false)
    else (h, false)

/-! ## Membership -/

theorem members_add (h : Hub σ) (s : σ) (channel c : String) :
    (h.add s channel).1.members c = if c = channel then insert s (h.members c) else h.members c := by
  unfold add
  split
  · rename_i hn
    rw [members_setEntry]
    split
    · rename_i hc; subst hc; simp [members_of_none hn]
    · rfl
  · rename_i set hs
    rw [members_setEntry]
    split
    · rename_i hc; subst hc; simp [members_of_some hs]
    · rfl

theorem members_remove (h : Hub σ) (s : σ) (channel c : String) :
    (h.remove s channel).1.members c = if c = channel then (h.members c).erase s else h.members c := by
  unfold remove
  split
  · rename_i hn
    split
    · rename_i hc; subst hc; simp [members_of_none hn]
    · rfl
  · rename_i set hs
    split
    · split
      · rename_i he
        rw [members_setEntry]
        split
        · rename_i hc; subst hc; simp [members_of_some hs, he]
        · rfl
      · rw [members_setEntry]
        split
        · rename_i hc; subst hc; simp [members_of_some hs]
        · rfl
    · rename_i hm
      split
      · rename_i hc; subst hc; simp [members_of_some hs, Finset.erase_eq_of_notMem hm]
      · rfl

theorem mem_add {h : Hub σ} {s t : σ} {channel c : String} :
    t ∈ (h.add s channel).1.members c ↔ t ∈ h.members c ∨ t = s ∧ c = channel := by
  rw [members_add]
  by_cases hc : c = channel
  · simp [hc, or_comm]
  · simp [hc]

theorem mem_remove {h : Hub σ} {s t : σ} {channel c : String} :
    t ∈ (h.remove s channel).1.members c ↔ t ∈ h.members c ∧ ¬ (t = s ∧ c = channel) := by
  rw [members_remove]
  by_cases hc : c = channel
  · simp [hc, and_comm]
  · simp [hc]

/-! ## What the calls report -/

/-- Only the first subscriber of a channel changes whether it is occupied. -/
theorem add_report (h : Hub σ) (s : σ) (channel : String) :
    (h.add s channel).2 = !h.occupied channel ∧
      (h.add s channel).1.occupied = Function.update h.occupied channel true := by
  unfold add
  split
  · rename_i hn; exact ⟨by simp [occupied, hn], by simp⟩
  · rename_i set hs; exact ⟨by simp [occupied, hs], by simp⟩

/-- Only the last subscriber of a channel changes whether it is occupied. -/
theorem remove_report (h : Hub σ) (s : σ) (channel : String) :
    (h.remove s channel).2 = true ∧ h.occupied channel = true ∧
        (h.remove s channel).1.occupied = Function.update h.occupied channel false ∨
      (h.remove s channel).2 = false ∧ (h.remove s channel).1.occupied = h.occupied := by
  unfold remove
  split
  · exact Or.inr ⟨rfl, rfl⟩
  · rename_i set hs
    have ho : h.occupied channel = true := by simp [occupied, hs]
    split
    · split
      · exact Or.inl ⟨rfl, ho, by simp⟩
      · refine Or.inr ⟨rfl, ?_⟩
        rw [occupied_setEntry, Option.isSome_some, ← ho, Function.update_eq_self]
    · exact Or.inr ⟨rfl, rfl⟩

end Hub

end NodejsHelper
