/-
The health of the Redis bridge (`redis.go`). `noteError` and `markActivity` read the clock in one step
and store what they read in another, without a lock. `markActivity` has a single caller, so its stores
land in order; those of `noteError` need not, and a late one puts the failure back in time: the bridge
is healthy again without a reply. Nothing else goes wrong (`healthy_of_inOrder`).
-/
import NodejsHelper.Lib.Run
import Mathlib.Data.PNat.Defs
import Mathlib.Logic.Function.Basic

namespace NodejsHelper.Health

variable {α : Type*}

/-! ## Calls -/

/-- A goroutine that calls: the `receiveLoop`, or any other one. -/
inductive Caller (α : Type*)
  | receiveLoop
  | other (a : α)
  deriving DecidableEq

/-- The store a call still has to make, with the clock value it read. -/
inductive Store
  | activity (ns : ℕ)
  | error (ns : ℕ)

/-- The clock, the two timestamps of the bridge and the stores in flight; and what was read so far, by
`markActivity` last and by `noteError` ever. -/
structure State (α : Type*) where
  clock : ℕ
  lastActivityNs : ℕ
  lastErrorNs : ℕ
  pending : Caller α → Option Store
  lastReply : Option ℕ
  failures : List ℕ

/-- Time passes, a call reads the clock, or a call in flight stores what it read. -/
inductive Label (α : Type*)
  | tick (ns : ℕ)
  | noteError (caller : Caller α)
  | markActivity
  | store (caller : Caller α)

/-- A bridge that was just started. -/
def init (start : ℕ+) : State α := ⟨start, 0, 0, fun _ => none, none, []⟩

section Step

variable [DecidableEq α]

/-- One step. -/
def step (s : State α) : Label α → Option (State α)
  | .tick ns => some { s with clock := s.clock + ns }
  | .noteError caller =>
    match s.pending caller with
    | some _ => none
    | none => some { s with
        pending := Function.update s.pending caller (some (.error s.clock))
        failures := s.clock :: s.failures }
  | .markActivity =>
    match s.pending .receiveLoop with
    | some _ => none
    | none => some { s with
        pending := Function.update s.pending .receiveLoop (some (.activity s.clock))
        lastReply := some s.clock }
  | .store caller =>
    match s.pending caller with
    | none => none
    | some (.activity ns) => some { s with
        lastActivityNs := ns
        pending := Function.update s.pending caller none }
    | some (.error ns) => some { s with
        lastErrorNs := ns
        pending := Function.update s.pending caller none }

end Step

/-- `Healthy`. -/
def healthy (s : State α) : Bool := s.lastActivityNs != 0 && decide (s.lastErrorNs < s.lastActivityNs)

/-- No call is in progress. -/
def Quiet (s : State α) : Prop := ∀ caller, s.pending caller = none

/-- A reply was read, at a later time than every failure. -/
def Replied (s : State α) : Prop := ∃ reply, s.lastReply = some reply ∧ ∀ failure ∈ s.failures, failure < reply

/-- With no call in progress, the bridge is healthy exactly when a reply came after the last failure. -/
def HealthExact (s : State α) : Prop := Quiet s → (healthy s = true ↔ Replied s)

/-! ## Stores in order -/

/-- A call of `noteError` stores its reading of the clock over no later one: the stores land in the order of
the clock. -/
def InOrder (s : State α) : Label α → Prop
  | .store caller => ∀ ns, s.pending caller = some (.error ns) → s.lastErrorNs ≤ ns
  | _ => True

/-- What `lastErrorNs` holds after the store of a call. -/
def errorAfter (s : State α) (caller : Caller α) : ℕ :=
  match s.pending caller with
  | some (.error ns) => ns
  | _ => s.lastErrorNs

/-- A store in order does not put the stored failure back. -/
theorem le_errorAfter {s : State α} {caller : Caller α} (ho : InOrder s (.store caller)) :
    s.lastErrorNs ≤ errorAfter s caller := by
  unfold errorAfter
  split
  · rename_i ns hn
    exact ho ns hn
  · exact le_rfl

/-! ## What a run keeps -/

/-- Every time is one that was read, and only the `receiveLoop` stores replies. -/
structure Inv (s : State α) : Prop where
  clock : 0 < s.clock
  reply : ∀ reply, s.lastReply = some reply → 0 < reply
  error : s.lastErrorNs = 0 ∨ s.lastErrorNs ∈ s.failures
  failing : ∀ caller ns, s.pending caller = some (.error ns) → ns ∈ s.failures
  receiving : ∀ caller ns, s.pending caller = some (.activity ns) → caller = .receiveLoop ∧ s.lastReply = some ns
  activity : (∀ ns, s.pending .receiveLoop ≠ some (.activity ns)) → s.lastActivityNs = s.lastReply.getD 0

theorem inv_init (start : ℕ+) : Inv (init start : State α) :=
  ⟨start.pos, fun _ h => (by cases h), Or.inl rfl, fun _ _ h => (by cases h), fun _ _ h => (by cases h), fun _ => rfl⟩

/-- With no call in progress, what is left to compare is the last reply with the stored failure. -/
theorem Inv.healthy_iff {s : State α} (hi : Inv s) (hq : Quiet s) :
    healthy s = true ↔ ∃ reply, s.lastReply = some reply ∧ s.lastErrorNs < reply := by
  have hact := hi.activity fun ns h => by rw [hq] at h; cases h
  unfold healthy
  rw [hact]
  cases hr : s.lastReply with
  | none => simp
  | some reply =>
    have hpos := hi.reply reply hr
    simp [Nat.pos_iff_ne_zero.1 hpos]

/-- Every failure is at most the stored one, or one that is about to be stored. -/
def Covered (s : State α) : Prop :=
  ∀ failure ∈ s.failures, failure ≤ s.lastErrorNs ∨ ∃ caller ns, s.pending caller = some (.error ns) ∧ failure ≤ ns

/-- With no call in progress, no failure is later than the stored one. -/
theorem Covered.le_of_quiet {s : State α} (hc : Covered s) (hq : Quiet s) :
    ∀ failure ∈ s.failures, failure ≤ s.lastErrorNs := by
  intro failure hf
  rcases hc failure hf with hle | ⟨caller, ns, hp, -⟩
  · exact hle
  · rw [hq caller] at hp
    cases hp

/-- The stored failure is the last one, so the last reply came after every failure when it came after this one. -/
theorem Inv.exact {s : State α} (hi : Inv s) (hc : Covered s) : HealthExact s := by
  intro hq
  rw [hi.healthy_iff hq]
  constructor
  · rintro ⟨reply, hr, hlt⟩
    exact ⟨reply, hr, fun failure hf => Nat.lt_of_le_of_lt (hc.le_of_quiet hq failure hf) hlt⟩
  · rintro ⟨reply, hr, hall⟩
    refine ⟨reply, hr, ?_⟩
    rcases hi.error with h0 | hm
    · have hpos := hi.reply reply hr
      omega
    · exact hall _ hm

variable [DecidableEq α]

/-- A call of `noteError` reads the clock while its caller has no other one in progress. -/
theorem noteError_spec {s s' : State α} {caller : Caller α} (h : step s (.noteError caller) = some s') :
    s.pending caller = none ∧ s' = { s with
      pending := Function.update s.pending caller (some (.error s.clock))
      failures := s.clock :: s.failures } := by
  simp only [step] at h
  split at h
  · cases h
  · rename_i hn
    exact ⟨hn, (Option.some.inj h).symm⟩

theorem markActivity_spec {s s' : State α} (h : step s .markActivity = some s') :
    s.pending .receiveLoop = none ∧ s' = { s with
      pending := Function.update s.pending .receiveLoop (some (.activity s.clock))
      lastReply := some s.clock } := by
  simp only [step] at h
  split at h
  · cases h
  · rename_i hn
    exact ⟨hn, (Option.some.inj h).symm⟩

/-- What a store leaves: the last reply, the failures, and the failure time it is about. -/
theorem store_spec {s s' : State α} {caller : Caller α} (h : step s (.store caller) = some s') :
    s'.lastReply = s.lastReply ∧ s'.failures = s.failures ∧ s'.lastErrorNs = errorAfter s caller ∧
      s'.pending = Function.update s.pending caller none := by
  simp only [step] at h
  unfold errorAfter
  split at h
  · cases h
  · rename_i ns hn
    cases h
    exact ⟨rfl, rfl, by rw [hn], rfl⟩
  · rename_i ns hn
    cases h
    exact ⟨rfl, rfl, by rw [hn], rfl⟩

/-- When a call has read the clock, a call in progress is that one or was in progress before. -/
theorem pending_of_update {pending : Caller α → Option Store} {caller c : Caller α} {st st' : Store}
    (h : Function.update pending caller (some st') c = some st) : c = caller ∧ st' = st ∨ pending c = some st := by
  by_cases hc : c = caller
  · subst hc
    rw [Function.update_self] at h
    exact Or.inl ⟨rfl, Option.some.inj h⟩
  · rw [Function.update_of_ne hc] at h
    exact Or.inr h

/-- When a call has stored, a call in progress was in progress before. -/
theorem pending_of_update_none {pending : Caller α → Option Store} {caller c : Caller α} {st : Store}
    (h : Function.update pending caller none c = some st) : pending c = some st := by
  by_cases hc : c = caller
  · subst hc
    rw [Function.update_self] at h
    cases h
  · rwa [Function.update_of_ne hc] at h

theorem inv_step (s : State α) (l : Label α) (s' : State α) (hi : Inv s) (h : step s l = some s') : Inv s' := by
  cases l with
  | tick ns =>
    cases h
    exact ⟨Nat.lt_of_lt_of_le hi.clock (Nat.le_add_right _ _), hi.reply, hi.error, hi.failing, hi.receiving,
      hi.activity⟩
  | noteError caller =>
    obtain ⟨hn, rfl⟩ := noteError_spec h
    refine ⟨hi.clock, hi.reply, hi.error.imp_right (List.mem_cons_of_mem _), fun c ns hp => ?_, fun c ns hp => ?_,
      fun hp => hi.activity fun ns hr => ?_⟩
    · rcases pending_of_update hp with ⟨-, he⟩ | hold
      · cases he
        exact List.mem_cons_self
      · exact List.mem_cons_of_mem _ (hi.failing c ns hold)
    · rcases pending_of_update hp with ⟨-, he⟩ | hold
      · cases he
      · exact hi.receiving c ns hold
    · -- the caller is not the receive loop, whose reply is still to be stored
      have hc : caller ≠ .receiveLoop := by rintro rfl; rw [hn] at hr; cases hr
      exact hp ns (by simpa [Function.update_of_ne hc.symm] using hr)
  | markActivity =>
    obtain ⟨hn, rfl⟩ := markActivity_spec h
    refine ⟨hi.clock, fun reply hr => ?_, hi.error, fun c ns hp => ?_, fun c ns hp => ?_,
      fun hp => (hp s.clock (by simp)).elim⟩
    · cases hr
      exact hi.clock
    · rcases pending_of_update hp with ⟨-, he⟩ | hold
      · cases he
      · exact hi.failing c ns hold
    · rcases pending_of_update hp with ⟨rfl, he⟩ | hold
      · cases he
        exact ⟨rfl, rfl⟩
      · obtain ⟨rfl, -⟩ := hi.receiving c ns hold
        rw [hn] at hold
        cases hold
  | store caller =>
    simp only [step] at h
    split at h
    · cases h
    · rename_i ns hn
      cases h
      obtain ⟨-, hreply⟩ := hi.receiving caller ns hn
      exact ⟨hi.clock, hi.reply, hi.error, fun c ns' hp => hi.failing c ns' (pending_of_update_none hp),
        fun c ns' hp => hi.receiving c ns' (pending_of_update_none hp), fun _ => by rw [hreply]; rfl⟩
    · rename_i ns hn
      cases h
      refine ⟨hi.clock, hi.reply, Or.inr (hi.failing caller ns hn),
        fun c ns' hp => hi.failing c ns' (pending_of_update_none hp),
        fun c ns' hp => hi.receiving c ns' (pending_of_update_none hp), fun hp => hi.activity fun ns' hr => ?_⟩
      have hc : caller ≠ .receiveLoop := by rintro rfl; rw [hn] at hr; cases hr
      exact hp ns' (by simpa [Function.update_of_ne hc.symm] using hr)

theorem covered_step (s : State α) (l : Label α) (s' : State α) (ho : InOrder s l) (hs : Covered s)
    (h : step s l = some s') : Covered s' := by
  cases l with
  | tick ns =>
    cases h
    exact hs
  | noteError caller =>
    obtain ⟨hn, rfl⟩ := noteError_spec h
    intro failure hf
    rcases List.mem_cons.1 hf with rfl | hf
    · exact Or.inr ⟨caller, s.clock, Function.update_self .., le_rfl⟩
    · refine (hs failure hf).imp_right fun ⟨c, ns, hp, hle⟩ => ⟨c, ns, ?_, hle⟩
      have hc : c ≠ caller := by rintro rfl; rw [hn] at hp; cases hp
      simpa [Function.update_of_ne hc] using hp
  | markActivity =>
    obtain ⟨hn, rfl⟩ := markActivity_spec h
    intro failure hf
    refine (hs failure hf).imp_right fun ⟨c, ns, hp, hle⟩ => ⟨c, ns, ?_, hle⟩
    have hc : c ≠ .receiveLoop := by rintro rfl; rw [hn] at hp; cases hp
    simpa [Function.update_of_ne hc] using hp
  | store caller =>
    obtain ⟨-, hfail, herr, hpend⟩ := store_spec h
    have hle := le_errorAfter ho
    intro failure hf
    rw [hfail] at hf
    rcases hs failure hf with hold | ⟨c, ns, hp, hns⟩
    · exact Or.inl (herr ▸ hold.trans hle)
    · by_cases hc : c = caller
      · subst hc
        refine Or.inl ?_
        rw [herr, errorAfter, hp]
        exact hns
      · exact Or.inr ⟨c, ns, by rw [hpend, Function.update_of_ne hc]; exact hp, hns⟩

/-! ## The result -/

/-- For every interleaving over a clock that does not go backwards: when the stores of `noteError` land in the
order of the clock, then all along the run, whenever no call is in progress, the bridge is healthy exactly
when a reply came after the last failure. -/
theorem healthy_of_inOrder (start : ℕ+) (tr : List (Label α))
    (h : Transition.EachStep step InOrder (init start) tr) : Transition.Always step HealthExact (init start) tr := by
  refine h.always (I := fun s => Inv s ∧ Covered s) (fun s l s' ho hs hstep => ?_) (fun s hs => hs.1.exact hs.2) ?_
  · exact ⟨inv_step s l s' hs.1 hstep, covered_step s l s' ho hs.2 hstep⟩
  · exact ⟨inv_init start, fun _ hf => (by cases hf)⟩

/-- Two failures are stored in the order they were read in, and a reply comes after them. -/
def sampleReplied : List (Label Bool) :=
  [.noteError (.other false), .tick 1, .noteError (.other true), .store (.other false), .store (.other true),
    .tick 1, .markActivity, .store .receiveLoop]

theorem healthy_of_inOrder_sample :
    Transition.Always step HealthExact (init 1) sampleReplied ∧
      ∃ s, Transition.run step (init 1) sampleReplied = some s ∧ healthy s = true := by
  refine ⟨healthy_of_inOrder 1 sampleReplied ?_, _, rfl, rfl⟩
  simp [sampleReplied, Transition.EachStep, step, init, InOrder, Function.update]

/-- A publish notes an error and is held up before its store; a reply arrives, then another publish fails
and stores, and the first store puts the failure back before the reply: healthy without a reply. -/
theorem healthy_after_failure :
    ¬ ∀ (tr : List (Label Bool)) (s : State Bool), Transition.run step (init 1) tr = some s → HealthExact s := by
  intro h
  let tr : List (Label Bool) :=
    [.noteError (.other false), .tick 1, .markActivity, .store .receiveLoop, .tick 1, .noteError (.other true),
      .store (.other true), .store (.other false)]
  have hrun : ∃ s, Transition.run step (init 1) tr = some s ∧ Quiet s ∧ healthy s = true ∧
      s.lastReply = some 2 ∧ 3 ∈ s.failures := by
    refine ⟨_, rfl, ?_, rfl, rfl, by decide⟩
    intro caller
    rcases caller with - | b
    · rfl
    · cases b <;> rfl
  obtain ⟨s, hs, hq, hhealthy, hreply, hfailure⟩ := hrun
  obtain ⟨reply, hr, hall⟩ := (h tr s hs hq).1 hhealthy
  rw [hreply] at hr
  cases hr
  exact absurd (hall 3 hfailure) (by decide)

end NodejsHelper.Health
