/-
The hub and the Redis bridge together. `Hub.Add` and `Hub.Remove` decide under `hub.mu` whether they
have the first or the last subscriber, and call the hooks `EnsureSubscribed` and `EnsureUnsubscribed`
(`newServer`) after the lock is released. The machine `Track` interleaves the sections of the calls of
any number of sockets, each socket's goroutine making one call at a time.
-/
import NodejsHelper.Hub.Basic
import NodejsHelper.Redis.Bridge

namespace NodejsHelper.Track

variable {σ : Type*}

/-- Where a socket's goroutine stands: between calls, before the section of its hook, or before the
command of its hook. -/
inductive Phase
  | idle
  | hook (channel : String) (first : Bool)
  | command (channel : String) (first : Bool)

structure State (σ : Type*) where
  hub : Hub σ
  bridge : Bridge
  phase : σ → Phase

/-- A call of `Add` or `Remove` up to its hook, or the next section of a call in progress. -/
inductive Label (σ : Type*)
  | add (s : σ) (channel : String)
  | remove (s : σ) (channel : String)
  | next (s : σ)

def init : State σ := ⟨newHub, newBridge, fun _ => .idle⟩

/-- One section of a call. -/
def step [DecidableEq σ] (m : State σ) : Label σ → Option (State σ)
  | .add s channel =>
    match m.phase s with
    | .idle =>
      let r := m.hub.add s channel
      some { m with
        hub := r.1
        phase := if r.2 then Function.update m.phase s (.hook channel true) else m.phase }
    | _ => none
  | .remove s channel =>
    match m.phase s with
    | .idle =>
      let r := m.hub.remove s channel
      some { m with
        hub := r.1
        phase := if r.2 then Function.update m.phase s (.hook channel false) else m.phase }
    | _ => none
  | .next s =>
    match m.phase s with
    | .idle => none
    | .hook channel first =>
      let r := m.bridge.ensure channel first
      some { m with
        bridge := r.1
        phase := Function.update m.phase s (if r.2 then .command channel first else .idle) }
    | .command channel first => some { m with
        bridge := m.bridge.command channel first
        phase := Function.update m.phase s .idle }

/-- No `Add` or `Remove` is in progress. -/
def Quiet (m : State σ) : Prop := ∀ s, m.phase s = .idle

/-- No `Add` or `Remove` on the channel is before its hook. -/
def QuietOn (m : State σ) (channel : String) : Prop := ∀ s first, m.phase s ≠ .hook channel first

/-- The bridge wants exactly the channels with a local subscriber. -/
def Tracked (m : State σ) : Prop := ∀ channel, channel ∈ m.bridge.subscribed ↔ m.hub.members channel ≠ ∅

/-- The bridge wants a channel without an outstanding hook exactly when it has a local subscriber. -/
def TrackedQuiet (m : State σ) : Prop :=
  ∀ channel, QuietOn m channel → (channel ∈ m.bridge.subscribed ↔ m.hub.members channel ≠ ∅)

/-- The step is not a stale hook: a hook that is the last outstanding one of its channel says what
the hub says when it runs, a subscriber for `EnsureSubscribed` and none for `EnsureUnsubscribed`. -/
def NotStale (m : State σ) : Label σ → Prop
  | .next s => ∀ channel first, m.phase s = .hook channel first →
      (∀ other, other ≠ s → ∀ f, m.phase other ≠ .hook channel f) →
        (m.hub.members channel ≠ ∅ ↔ first = true)
  | _ => True

/-! ## The hub and the bridge are a relay -/

/-- The hook a socket's goroutine still has to run. -/
def Phase.outstanding : Phase → Option (String × Bool)
  | .hook channel first => some (channel, first)
  | _ => none

@[simp] theorem Phase.outstanding_idle : Phase.idle.outstanding = none := rfl

@[simp] theorem Phase.outstanding_hook (channel : String) (first : Bool) :
    (Phase.hook channel first).outstanding = some (channel, first) := rfl

@[simp] theorem Phase.outstanding_command (channel : String) (first : Bool) :
    (Phase.command channel first).outstanding = none := rfl

theorem Phase.outstanding_eq_some {ph : Phase} {channel : String} {first : Bool} :
    ph.outstanding = some (channel, first) ↔ ph = .hook channel first := by
  cases ph <;> simp [outstanding]

/-- The hub is the switch of a channel, the bridge its mirror. -/
def view (m : State σ) : Relay.State String σ where
  front := m.hub.occupied
  back channel := decide (channel ∈ m.bridge.subscribed)
  pending s := (m.phase s).outstanding

theorem agrees_iff {m : State σ} : Relay.Agrees (view m) ↔ TrackedQuiet m := by
  unfold Relay.Agrees Relay.Settled TrackedQuiet QuietOn view
  simp only [ne_eq, Phase.outstanding_eq_some]
  refine forall_congr' fun channel => imp_congr_right fun _ => ?_
  rw [Bool.eq_iff_iff, decide_eq_true_eq, Hub.occupied_iff, ne_eq]

theorem tracked_of_quiet {m : State σ} (h : TrackedQuiet m) (hq : Quiet m) : Tracked m :=
  fun channel => h channel fun s first hp => by rw [hq s] at hp; cases hp

variable [DecidableEq σ]

/-- The relay step a section is: a call that reports, and the section of a hook. -/
def label (m : State σ) : Label σ → Option (Relay.Label String σ)
  | .add s channel => if (m.hub.add s channel).2 then some (.flip s channel) else none
  | .remove s channel => if (m.hub.remove s channel).2 then some (.flip s channel) else none
  | .next s =>
    match m.phase s with
    | .hook _ _ => some (.carry s)
    | _ => none

theorem current_iff {m : State σ} {l : Label σ} :
    (∀ l', label m l = some l' → Relay.Current (view m) l') ↔ NotStale m l := by
  cases l with
  | add s channel =>
    simp only [label, Option.ite_none_right_eq_some, Option.some.injEq, NotStale, iff_true]
    rintro l' ⟨-, rfl⟩
    trivial
  | remove s channel =>
    simp only [label, Option.ite_none_right_eq_some, Option.some.injEq, NotStale, iff_true]
    rintro l' ⟨-, rfl⟩
    trivial
  | next s =>
    cases hp : m.phase s with
    | idle => simp [label, NotStale, hp]
    | command channel first => simp [label, NotStale, hp]
    | hook channel first =>
      simp only [label, hp, Option.some.injEq, forall_eq', NotStale, Relay.Current, view, ne_eq,
        Phase.outstanding_eq_some, Phase.hook.injEq]
      refine forall_congr' fun c => forall_congr' fun f => imp_congr_right fun _ => imp_congr_right fun _ => ?_
      rw [Bool.eq_iff_iff, Hub.occupied_iff, ne_eq]
      exact Iff.comm

theorem outstanding_update (phase : σ → Phase) (s : σ) (ph : Phase) :
    (fun t => (Function.update phase s ph t).outstanding) =
      Function.update (fun t => (phase t).outstanding) s ph.outstanding := by
  funext t
  by_cases ht : t = s
  · subst ht; simp
  · simp [ht]

theorem update_outstanding_none {phase : σ → Phase} {s : σ} (h : (phase s).outstanding = none) :
    Function.update (fun t => (phase t).outstanding) s none = fun t => (phase t).outstanding := by
  rw [← h]
  exact Function.update_eq_self s fun t => (phase t).outstanding

/-- The sections of the calls are relay steps, or leave the relay alone. -/
theorem sim : Relay.Sim (step (σ := σ)) view label where
  stutter m l m' hs hl := by
    cases l with
    | add s channel =>
      -- not the first subscriber: the set of occupied channels stays
      simp only [label, ite_eq_right_iff, reduceCtorEq, imp_false, Bool.not_eq_true] at hl
      obtain ⟨hr, hocc⟩ := m.hub.add_report s channel
      have hocc' : (m.hub.add s channel).1.occupied = m.hub.occupied := by
        rw [hocc, Function.update_eq_iff]
        exact ⟨by simpa [hl] using hr, fun _ _ => rfl⟩
      simp only [step] at hs
      split at hs
      · cases hs; simp [view, hl, hocc']
      · cases hs
    | remove s channel =>
      simp only [label, ite_eq_right_iff, reduceCtorEq, imp_false, Bool.not_eq_true] at hl
      have hocc : (m.hub.remove s channel).1.occupied = m.hub.occupied := by
        rcases m.hub.remove_report s channel with ⟨h, -, -⟩ | ⟨-, h⟩
        · rw [hl] at h; cases h
        · exact h
      simp only [step] at hs
      split at hs
      · cases hs; simp [view, hl, hocc]
      · cases hs
    | next s =>
      cases hp : m.phase s with
      | idle => simp [step, hp] at hs
      | hook channel first => simp [label, hp] at hl
      | command channel first =>
        -- the command is behind the section that settles the channel
        simp only [step, hp, Option.some.injEq] at hs
        subst hs
        simp only [view, outstanding_update]
        rw [Phase.outstanding_idle, update_outstanding_none (by rw [hp]; rfl)]
        rfl
  simulate m l m' l' hs hl := by
    cases l with
    | add s channel =>
      simp only [label, Option.ite_none_right_eq_some, Option.some.injEq] at hl
      obtain ⟨hr, rfl⟩ := hl
      obtain ⟨hfirst, hocc⟩ := m.hub.add_report s channel
      have hfree : m.hub.occupied channel = false := by simpa [hr] using hfirst
      simp only [step] at hs
      split at hs
      · rename_i hp
        cases hs
        simp [Relay.step, view, hp, hr, hocc, hfree, outstanding_update]
      · cases hs
    | remove s channel =>
      simp only [label, Option.ite_none_right_eq_some, Option.some.injEq] at hl
      obtain ⟨hr, rfl⟩ := hl
      obtain ⟨-, hheld, hocc⟩ | ⟨h, -⟩ := m.hub.remove_report s channel
      · simp only [step] at hs
        split at hs
        · rename_i hp
          cases hs
          simp [Relay.step, view, hp, hr, hocc, hheld, outstanding_update]
        · cases hs
      · rw [hr] at h; cases h
    | next s =>
      cases hp : m.phase s with
      | idle => simp [step, hp] at hs
      | command channel first => simp [label, hp] at hl
      | hook channel first =>
        -- the section of the hook carries the position of its call
        simp only [label, hp, Option.some.injEq] at hl
        subst hl
        simp only [step, hp, Option.some.injEq] at hs
        subst hs
        have hidle : (if (m.bridge.ensure channel first).2 then Phase.command channel first else .idle).outstanding
            = none := by split <;> rfl
        simp only [Relay.step, view, hp, Phase.outstanding_hook, outstanding_update, Option.some.injEq, hidle]
        congr 1
        funext c
        simp only [Bridge.mem_ensure]
        by_cases hc : c = channel
        · subst hc; simp
        · simp [hc]

/-! ## The result -/

/-- On every channel without an outstanding hook the bridge follows the hub, all along a run, exactly
when no hook of the run is stale; and then the bridge wants exactly the channels with a local
subscriber whenever no call is in progress. -/
theorem tracked_iff_notStale (tr : List (Label σ)) :
    (Transition.Always step TrackedQuiet init tr ↔ Transition.EachStep step NotStale init tr) ∧
      (Transition.EachStep step NotStale init tr →
        Transition.Always step (fun m => Quiet m → Tracked m) init tr) := by
  have h0 : Relay.Agrees (view (init : State σ)) := fun _ _ => rfl
  have hiff := sim.agrees_iff_current h0 tr
  simp only [agrees_iff, current_iff] at hiff
  exact ⟨hiff, fun h => (hiff.2 h).imp fun m hm hq => tracked_of_quiet hm hq⟩

/-- The last subscriber of a channel leaves, another socket becomes its first one, and the two hooks
run in the other order: the channel has a subscriber and the bridge does not want it. -/
theorem tracked_stale_hook :
    ¬ ∀ (tr : List (Label Bool)) (m : State Bool), Transition.run step init tr = some m → Quiet m → Tracked m := by
  intro h
  let tr : List (Label Bool) :=
    [.add false "chat_1", .next false, .next false, .remove false "chat_1", .add true "chat_1", .next true,
      .next false, .next false]
  have hrun : ∃ m, Transition.run step init tr = some m ∧ Quiet m ∧ "chat_1" ∉ m.bridge.subscribed ∧
      m.hub.members "chat_1" ≠ ∅ := by
    refine ⟨_, rfl, ?_, ?_, ?_⟩
    · intro s; cases s <;> rfl
    · decide
    · decide
  obtain ⟨m, hm, hq, hnot, hmem⟩ := hrun
  exact hnot ((h tr m hm hq "chat_1").2 hmem)

end NodejsHelper.Track
