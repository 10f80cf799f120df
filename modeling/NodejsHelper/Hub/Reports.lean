/-
What a sequence of `Hub.Add` and `Hub.Remove` calls leaves and reports. The calls of all sockets are
in the order of their sections under `hub.mu`: the registry holds a socket on a channel exactly when
its latest call on it was an `Add`, and the calls that report a first or a last subscriber of a
channel alternate, because each of them flips whether the channel is occupied and no other call does.
-/
import NodejsHelper.Hub.Basic

namespace NodejsHelper

variable {σ : Type*}

/-! ## Calls -/

/-- A call of `Hub.Add` or `Hub.Remove`. -/
inductive HubCall (σ : Type*)
  | add (s : σ) (channel : String)
  | remove (s : σ) (channel : String)

namespace HubCall

def socket : HubCall σ → σ
  | .add s _ | .remove s _ => s

def channel : HubCall σ → String
  | .add _ channel | .remove _ channel => channel

def isAdd : HubCall σ → Bool
  | .add _ _ => true
  | .remove _ _ => false

end HubCall

/-- A sequence of answers that alternates, the given one first. -/
def Alternating : Bool → List Bool → Prop
  | _, [] => True
  | next, b :: l => b = next ∧ Alternating (!next) l

namespace Hub

section Calls

variable [DecidableEq σ]

/-- The registry after a call, and what the call reports. -/
def call (h : Hub σ) : HubCall σ → Hub σ × Bool
  | .add s channel => h.add s channel
  | .remove s channel => h.remove s channel

/-- The registry after a sequence of calls. -/
def after : Hub σ → List (HubCall σ) → Hub σ
  | h, [] => h
  | h, c :: calls => after (h.call c).1 calls

/-- The calls on a channel that return true, an `Add` as true and a `Remove` as false. -/
def reports (channel : String) : Hub σ → List (HubCall σ) → List Bool
  | _, [] => []
  | h, c :: calls =>
    if c.channel = channel ∧ (h.call c).2 = true then c.isAdd :: reports channel (h.call c).1 calls
    else reports channel (h.call c).1 calls

/-- The latest call of a socket on a channel. -/
def latest (s : σ) (channel : String) (calls : List (HubCall σ)) : Option (HubCall σ) :=
  (calls.filter fun c => decide (c.socket = s ∧ c.channel = channel)).getLast?

/-! ## One call -/

theorem mem_call {h : Hub σ} {c : HubCall σ} {s : σ} {channel : String} :
    s ∈ (h.call c).1.members channel ↔
      if c.socket = s ∧ c.channel = channel then c.isAdd = true else s ∈ h.members channel := by
  cases c with
  | add t d =>
    simp only [call, mem_add, HubCall.socket, HubCall.channel, HubCall.isAdd, if_true_left]
    constructor
    · rintro (hm | ⟨rfl, rfl⟩) hn
      · exact hm
      · exact absurd ⟨rfl, rfl⟩ hn
    · intro hm
      by_cases he : t = s ∧ d = channel
      · exact Or.inr ⟨he.1.symm, he.2.symm⟩
      · exact Or.inl (hm he)
  | remove t d =>
    simp only [call, mem_remove, HubCall.socket, HubCall.channel, HubCall.isAdd, Bool.false_eq_true, if_false_left]
    constructor
    · rintro ⟨hm, hn⟩
      exact ⟨fun he => hn ⟨he.1.symm, he.2.symm⟩, hm⟩
    · rintro ⟨hn, hm⟩
      exact ⟨hm, fun he => hn ⟨he.1.symm, he.2.symm⟩⟩

/-- A call that returns true flips whether its channel is occupied, an `Add` to true and a `Remove` to
false; no other call changes whether a channel is occupied. -/
theorem call_report (h : Hub σ) (c : HubCall σ) (channel : String) :
    if c.channel = channel ∧ (h.call c).2 = true then
      h.occupied channel = !c.isAdd ∧ (h.call c).1.occupied channel = c.isAdd
    else (h.call c).1.occupied channel = h.occupied channel := by
  cases c with
  | add s d =>
    obtain ⟨hr, ho⟩ := add_report h s d
    simp only [call, HubCall.channel, HubCall.isAdd, hr, ho]
    by_cases hd : d = channel
    · subst hd
      cases hb : h.occupied d <;> simp
    · simp [hd, Ne.symm hd]
  | remove s d =>
    simp only [call, HubCall.channel, HubCall.isAdd]
    by_cases hd : d = channel
    · subst hd
      rcases remove_report h s d with ⟨hr, hocc, ho⟩ | ⟨hr, ho⟩
      · simp [hr, hocc, ho]
      · simp [hr, ho]
    · rcases remove_report h s d with ⟨-, -, ho⟩ | ⟨-, ho⟩
      · simp [hd, ho, Ne.symm hd]
      · simp [hd, ho]

/-! ## Sequences of calls -/

theorem after_append (h : Hub σ) (a b : List (HubCall σ)) : h.after (a ++ b) = (h.after a).after b := by
  induction a generalizing h with
  | nil => rfl
  | cons c a ih => exact ih _

/-- A socket is on a channel when its latest call on it was an `Add`; without such a call it is where it was. -/
theorem mem_after (h : Hub σ) (calls : List (HubCall σ)) (s : σ) (channel : String) :
    s ∈ (h.after calls).members channel ↔
      match latest s channel calls with
      | some c => c.isAdd = true
      | none => s ∈ h.members channel := by
  -- the last call decides, so the induction is from the end
  induction calls using List.reverseRecOn with
  | nil => rfl
  | append_singleton calls c ih =>
    rw [after_append]
    show s ∈ ((h.after calls).call c).1.members channel ↔ _
    rw [mem_call]
    by_cases hc : c.socket = s ∧ c.channel = channel
    · simp [latest, hc]
    · simp only [hc, if_false]
      simpa [latest, hc] using ih

/-- The calls that return true alternate, and each accounts for one change of whether the channel is
occupied. -/
theorem reports_spec (channel : String) (h : Hub σ) (calls : List (HubCall σ)) :
    Alternating (!h.occupied channel) (reports channel h calls) ∧
      (reports channel h calls).count true + (h.occupied channel).toNat =
        (reports channel h calls).count false + ((h.after calls).occupied channel).toNat := by
  induction calls generalizing h with
  | nil => exact ⟨trivial, rfl⟩
  | cons c calls ih =>
    obtain ⟨halt, hcount⟩ := ih (h.call c).1
    have hc := call_report h c channel
    simp only [reports, after]
    split at hc
    · rename_i hrep
      obtain ⟨hbefore, hafter⟩ := hc
      rw [if_pos hrep, hbefore]
      rw [hafter] at halt hcount
      refine ⟨⟨by simp, by simpa using halt⟩, ?_⟩
      cases hk : c.isAdd <;> simp [hk] at hcount ⊢ <;> omega
    · rename_i hrep
      rw [if_neg hrep, ← hc]
      exact ⟨halt, hcount⟩

/-- Whatever the sockets call: no channel has an empty entry, the sockets of a channel are those whose
latest call on it was an `Add`, and the calls that return true alternate, an `Add` first, with one more
`Add` than `Remove` exactly when the channel has a subscriber. -/
theorem reports_alternate (calls : List (HubCall σ)) (channel : String) :
    (∀ set, (newHub.after calls).subs channel = some set → set.Nonempty) ∧
      (∀ s, s ∈ (newHub.after calls).members channel ↔ ∃ c, latest s channel calls = some c ∧ c.isAdd = true) ∧
      Alternating true (reports channel newHub calls) ∧
      (reports channel newHub calls).count true = (reports channel newHub calls).count false +
        if (newHub.after calls).members channel ≠ ∅ then 1 else 0 := by
  obtain ⟨halt, hcount⟩ := reports_spec channel newHub calls
  have hempty : (newHub : Hub σ).occupied channel = false := rfl
  rw [hempty] at halt hcount
  refine ⟨fun set hs => Finset.nonempty_iff_ne_empty.2 ((newHub.after calls).nonempty channel set hs), fun s => ?_,
    halt, ?_⟩
  · rw [mem_after]
    cases latest s channel calls with
    | none => simp
    | some c => simp
  · rw [Bool.toNat_false, Nat.add_zero] at hcount
    rw [hcount]
    split
    · rename_i hne
      rw [occupied_iff.2 hne, Bool.toNat_true]
    · rename_i hne
      have hno : (newHub.after calls).occupied channel = false := by
        rw [← Bool.not_eq_true, occupied_iff]; exact hne
      rw [hno, Bool.toNat_false]

example : reports "chat_1" newHub
    [.add 1 "chat_1", .add 2 "chat_1", .remove 1 "chat_1", .remove 3 "chat_1", .remove 2 "chat_1", .add 3 "chat_1"] =
      [true, false, true] := by decide

end Calls

end Hub

end NodejsHelper
