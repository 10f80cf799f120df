/-
The bookkeeping of the Redis subscription (`redis.go`). `EnsureSubscribed` and `EnsureUnsubscribed`
first update `b.subscribed` under `b.mu` and then, outside the lock, issue the command on the PubSub
connection, which records the channel set it re-subscribes after a reconnect. The machine `Calls`
interleaves the two sections of any number of concurrent calls.
-/
import NodejsHelper.Lib.Relay
import Mathlib.Data.Finset.Card

namespace NodejsHelper

/-- The channels a node wants (`b.subscribed`) and those its PubSub connection has on record. -/
structure Bridge where
  subscribed : Finset String
  recorded : Finset String

/-- `newRedisBridge`, as far as its channel sets go. -/
def newBridge : Bridge := ⟨∅, ∅⟩

namespace Bridge

/-- The section of `EnsureSubscribed` under `b.mu`, and whether a command is to follow. -/
def ensureSubscribed (b : Bridge) (channel : String) : Bridge × Bool :=
  if channel ∈ b.subscribed then (b, false)
  else ({ b with subscribed := insert channel b.subscribed }, true)

/-- The section of `EnsureUnsubscribed` under `b.mu`, and whether a command is to follow. -/
def ensureUnsubscribed (b : Bridge) (channel : String) : Bridge × Bool :=
  if channel ∈ b.subscribed then ({ b with subscribed := b.subscribed.erase channel }, true)
  else (b, false)

/-- `EnsureSubscribed` or `EnsureUnsubscribed`, by the wanted outcome. -/
def ensure (b : Bridge) (channel : String) (wanted : Bool) : Bridge × Bool :=
  if wanted then b.ensureSubscribed channel else b.ensureUnsubscribed channel

/-- The command on the PubSub connection, which records the channel set also when it fails. -/
def command (b : Bridge) (channel : String) (wanted : Bool) : Bridge :=
  { b with recorded := if wanted then insert channel b.recorded else b.recorded.erase channel }

theorem mem_ensure {b : Bridge} {channel c : String} {wanted : Bool} :
    c ∈ (b.ensure channel wanted).1.subscribed ↔ if c = channel then wanted = true else c ∈ b.subscribed := by
  unfold ensure ensureSubscribed ensureUnsubscribed
  cases wanted <;> by_cases hm : channel ∈ b.subscribed <;> by_cases hc : c = channel <;> simp [hm, hc]

/-- A command follows exactly when the set changed. -/
theorem ensure_report {b : Bridge} {channel : String} {wanted : Bool} :
    (b.ensure channel wanted).2 = true ↔ ¬ (channel ∈ b.subscribed ↔ wanted = true) := by
  unfold ensure ensureSubscribed ensureUnsubscribed
  cases wanted <;> by_cases hm : channel ∈ b.subscribed <;> simp [hm]

theorem ensure_recorded {b : Bridge} {channel : String} {wanted : Bool} :
    (b.ensure channel wanted).1.recorded = b.recorded := by
  unfold ensure ensureSubscribed ensureUnsubscribed
  cases wanted <;> by_cases hm : channel ∈ b.subscribed <;> simp [hm]

theorem ensure_unchanged {b : Bridge} {channel : String} {wanted : Bool}
    (h : (b.ensure channel wanted).2 = false) : (b.ensure channel wanted).1 = b := by
  revert h
  unfold ensure ensureSubscribed ensureUnsubscribed
  cases wanted <;> by_cases hm : channel ∈ b.subscribed <;> simp [hm]

theorem mem_command {b : Bridge} {channel c : String} {wanted : Bool} :
    c ∈ (b.command channel wanted).recorded ↔ if c = channel then wanted = true else c ∈ b.recorded := by
  unfold command
  cases wanted <;> by_cases hc : c = channel <;> simp [hc]

end Bridge

/-! ## Concurrent calls -/

namespace Calls

variable {α : Type*}

/-- The bridge, and for every caller the command it still has to issue. -/
structure State (α : Type*) where
  bridge : Bridge
  pending : α → Option (String × Bool)

/-- The first section of a call, or the command of a call in progress. -/
inductive Label (α : Type*)
  | ensure (caller : α) (channel : String) (wanted : Bool)
  | command (caller : α)

def init : State α := ⟨newBridge, fun _ => none⟩

/-- One section of a call. -/
def step [DecidableEq α] (s : State α) : Label α → Option (State α)
  | .ensure caller channel wanted =>
    match s.pending caller with
    | some _ => none
    | none => some
      { bridge := (s.bridge.ensure channel wanted).1
        pending :=
          if (s.bridge.ensure channel wanted).2 then Function.update s.pending caller (some (channel, wanted))
          else s.pending }
  | .command caller =>
    match s.pending caller with
    | none => none
    | some (channel, wanted) => some
      { bridge := s.bridge.command channel wanted, pending := Function.update s.pending caller none }

/-- No call is in progress. -/
def Quiet (s : State α) : Prop := ∀ caller, s.pending caller = none

/-- No call on the channel is in progress. -/
def QuietOn (s : State α) (channel : String) : Prop := ∀ caller wanted, s.pending caller ≠ some (channel, wanted)

/-- The PubSub connection has exactly the wanted channels on record. -/
def Recorded (s : State α) : Prop := s.bridge.recorded = s.bridge.subscribed

/-- On every channel without a call in progress the PubSub record is the wanted one. -/
def RecordedQuiet (s : State α) : Prop :=
  ∀ channel, QuietOn s channel → (channel ∈ s.bridge.recorded ↔ channel ∈ s.bridge.subscribed)

/-- The step is not a late command: a command that is the last one in progress on its channel asks
for what `b.subscribed` says when it is issued. -/
def NotLate (s : State α) : Label α → Prop
  | .ensure _ _ _ => True
  | .command caller => ∀ channel wanted, s.pending caller = some (channel, wanted) →
      (∀ other, other ≠ caller → ∀ w, s.pending other ≠ some (channel, w)) →
        (channel ∈ s.bridge.subscribed ↔ wanted = true)

/-! ## The calls are a relay -/

/-- The wanted set is the switch, the record its mirror. -/
def view (s : State α) : Relay.State String α where
  front channel := decide (channel ∈ s.bridge.subscribed)
  back channel := decide (channel ∈ s.bridge.recorded)
  pending := s.pending

def label (s : State α) : Label α → Option (Relay.Label String α)
  | .ensure caller channel wanted =>
    if (s.bridge.ensure channel wanted).2 then some (.flip caller channel) else none
  | .command caller => some (.carry caller)

theorem agrees_iff {s : State α} : Relay.Agrees (view s) ↔ RecordedQuiet s := by
  unfold Relay.Agrees Relay.Settled RecordedQuiet QuietOn view
  simp only [decide_eq_decide]

theorem current_iff {s : State α} {l : Label α} :
    (∀ l', label s l = some l' → Relay.Current (view s) l') ↔ NotLate s l := by
  cases l with
  | ensure caller channel wanted =>
    simp only [label, Option.ite_none_right_eq_some, Option.some.injEq, NotLate, iff_true]
    rintro l' ⟨-, rfl⟩
    trivial
  | command caller =>
    simp only [label, Option.some.injEq, forall_eq', NotLate, Relay.Current, view]
    refine forall_congr' fun channel => forall_congr' fun wanted => imp_congr_right fun _ => imp_congr_right fun _ => ?_
    cases wanted <;> simp

theorem recorded_of_quiet {s : State α} (h : RecordedQuiet s) (hq : Quiet s) : Recorded s :=
  Finset.ext fun channel => h channel fun caller wanted hp => by rw [hq caller] at hp; cases hp

variable [DecidableEq α]

theorem sim : Relay.Sim (step (α := α)) view label where
  stutter s l s' hs hl := by
    cases l with
    | command caller => cases hl
    | ensure caller channel wanted =>
      simp only [label, ite_eq_right_iff, reduceCtorEq, imp_false, Bool.not_eq_true] at hl
      simp only [step] at hs
      split at hs
      · cases hs
      · cases hs
        simp [view, hl, Bridge.ensure_unchanged hl]
  simulate s l s' l' hs hl := by
    cases l with
    | command caller =>
      cases hl
      simp only [step] at hs
      split at hs
      · cases hs
      · rename_i channel wanted hp
        cases hs
        simp only [Relay.step, view, hp, Option.some.injEq]
        congr 1
        funext c
        simp only [Bridge.mem_command]
        by_cases hc : c = channel
        · subst hc; simp
        · simp [hc]
    | ensure caller channel wanted =>
      simp only [label, Option.ite_none_right_eq_some, Option.some.injEq] at hl
      obtain ⟨hc, rfl⟩ := hl
      simp only [step] at hs
      split at hs
      · cases hs
      · rename_i hp
        cases hs
        have hflip : wanted = !decide (channel ∈ s.bridge.subscribed) := by
          have := Bridge.ensure_report.1 hc
          cases wanted <;> simp_all
        simp only [Relay.step, view, hp, hc, if_true, Option.some.injEq, Bridge.ensure_recorded, ← hflip]
        congr 1
        funext c
        simp only [Bridge.mem_ensure]
        by_cases hcc : c = channel
        · subst hcc; simp
        · simp [hcc]

/-! ## The result -/

/-- The PubSub record follows `b.subscribed` on every quiet channel, all along a run, exactly when
no command of the run is late; and then the two sets are equal whenever no call is in progress. -/
theorem recorded_iff_notLate (tr : List (Label α)) :
    (Transition.Always step RecordedQuiet init tr ↔ Transition.EachStep step NotLate init tr) ∧
      (Transition.EachStep step NotLate init tr →
        Transition.Always step (fun s => Quiet s → Recorded s) init tr) := by
  have h0 : Relay.Agrees (view (init : State α)) := fun _ _ => rfl
  have hiff := sim.agrees_iff_current h0 tr
  simp only [agrees_iff, current_iff] at hiff
  exact ⟨hiff, fun h => (hiff.2 h).imp fun s hs hq => recorded_of_quiet hs hq⟩

/-- A first subscriber and a last one change `b.subscribed` in this order and issue their commands in
the other: the node wants nothing and stays subscribed. -/
theorem recorded_late_subscribe :
    ¬ ∀ (tr : List (Label Bool)) (s : State Bool), Transition.run step init tr = some s → Quiet s → Recorded s := by
  intro h
  let tr : List (Label Bool) :=
    [.ensure false "chat_1" true, .ensure true "chat_1" false, .command true, .command false]
  have hrun : ∃ s, Transition.run step init tr = some s ∧ Quiet s ∧ s.bridge.recorded ≠ s.bridge.subscribed := by
    refine ⟨_, rfl, ?_, ?_⟩
    · intro caller; cases caller <;> rfl
    · decide
  obtain ⟨s, hs, hq, hne⟩ := hrun
  exact hne (h tr s hs hq)

end Calls

end NodejsHelper
