/-
The rate limiter of the log (`log.go`). A call reads the clock before it takes the lock, so the
readings come in any order; under the lock it counts itself as suppressed, or writes its line and
reports what was suppressed before. No call is lost from the count, and two lines of a key are at
least a window apart.
-/
import NodejsHelper.Lib.Instant
import NodejsHelper.Lib.Strings
import Mathlib.Algebra.BigOperators.Group.List.Basic
import Mathlib.Algebra.GroupWithZero.Nat
import Mathlib.Logic.Function.Basic

namespace NodejsHelper.Log

/-! ## Levels -/

/-- `logLevel`. -/
inductive LogLevel
  | debug
  | info
  | warn
  | error
  deriving DecidableEq

/-- The order of the levels. -/
def LogLevel.rank : LogLevel → ℕ
  | debug => 0
  | info => 1
  | warn => 2
  | error => 3

/-- A line of the level is written under the current one. -/
def LogLevel.enabled (level current : LogLevel) : Bool := current.rank ≤ level.rank

/-! ## The limiter -/

/-- A call of `logRateLimitedf`: its key, the formatted message, and its reading of the clock. -/
structure LogCall where
  key : String
  message : String
  now : Int

/-- `logRateLimitEntry`. -/
structure LogRateLimitEntry where
  last : Int
  suppressed : ℕ

/-- `logRateLimitState`. -/
abbrev LogRateLimitState := String → Option LogRateLimitEntry

/-- The cooldown, five seconds. -/
def logRateLimitWindow : Int := 5 * Instant.second

/-- A line of the log: how many calls were suppressed, or the message of a call. -/
inductive LogLine
  | suppressed (count : ℕ)
  | message (text : String)
  deriving DecidableEq

/-- The text of a line. -/
def LogLine.text : LogLine → String
  | suppressed count =>
    "[log] " ++ Strings.itoa count ++ " earlier message(s) of this kind were suppressed in the last 5s"
  | message text => text

/-- The entry of a key; a new one has the zero time. -/
def LogRateLimitState.entry (st : LogRateLimitState) (key : String) : LogRateLimitEntry :=
  (st key).getD ⟨Instant.zero, 0⟩

/-- `logRateLimitedf`: the new state, and the lines it writes. -/
def logRateLimitedf (current : LogLevel) (st : LogRateLimitState) (c : LogCall) :
    LogRateLimitState × List LogLine :=
  if !LogLevel.warn.enabled current then (st, [])
  else
    let entry := st.entry c.key
    if Instant.sub c.now entry.last < logRateLimitWindow then
      (Function.update st c.key (some { entry with suppressed := entry.suppressed + 1 }), [])
    else
      (Function.update st c.key (some ⟨c.now, 0⟩),
        (if 0 < entry.suppressed then [.suppressed entry.suppressed] else []) ++ [.message c.message])

/-- A sequence of calls in the order they take the lock: the state after them, and what each one writes. -/
def logCalls (current : LogLevel) : LogRateLimitState → List LogCall →
    LogRateLimitState × List (LogCall × List LogLine)
  | st, [] => (st, [])
  | st, c :: calls =>
    ((logCalls current (logRateLimitedf current st c).1 calls).1,
      (c, (logRateLimitedf current st c).2) :: (logCalls current (logRateLimitedf current st c).1 calls).2)

/-! ## What is written for a key -/

/-- The call writes its own line. -/
def writes (lines : List LogLine) : Bool := lines.any fun
  | .message _ => true
  | .suppressed _ => false

/-- The suppressed calls the lines report. -/
def reports (lines : List LogLine) : ℕ := (lines.map fun
  | .suppressed count => count
  | .message _ => 0).sum

/-- The calls of a key that write their line. -/
def written (key : String) (transcript : List (LogCall × List LogLine)) : List LogCall :=
  (transcript.filter fun r => decide (r.1.key = key) && writes r.2).map (·.1)

/-- The suppressed calls reported for a key, over all lines. -/
def reported (key : String) (transcript : List (LogCall × List LogLine)) : ℕ :=
  ((transcript.filter fun r => decide (r.1.key = key)).map fun r => reports r.2).sum

/-! ## One call -/

/-- What a call does at an enabled level: it is counted, or it writes its line, reports what was counted
and starts a new window at its own reading. -/
theorem logRateLimitedf_spec {current : LogLevel} (hlevel : LogLevel.warn.enabled current = true)
    (st : LogRateLimitState) (c : LogCall) :
    (∀ key, key ≠ c.key → (logRateLimitedf current st c).1 key = st key) ∧
      (writes (logRateLimitedf current st c).2 = false ∧ reports (logRateLimitedf current st c).2 = 0 ∧
          (logRateLimitedf current st c).1.entry c.key =
            ⟨(st.entry c.key).last, (st.entry c.key).suppressed + 1⟩ ∨
        logRateLimitWindow ≤ c.now - (st.entry c.key).last ∧
          writes (logRateLimitedf current st c).2 = true ∧
          reports (logRateLimitedf current st c).2 = (st.entry c.key).suppressed ∧
          (logRateLimitedf current st c).1.entry c.key = ⟨c.now, 0⟩) := by
  have hwindow : Instant.sub c.now (st.entry c.key).last < logRateLimitWindow ↔
      c.now - (st.entry c.key).last < logRateLimitWindow := Instant.sub_lt_iff (by decide) (by decide)
  simp only [logRateLimitedf, hlevel, Bool.not_true, Bool.false_eq_true, if_false, hwindow]
  split
  · refine ⟨fun key hk => Function.update_of_ne hk .., Or.inl ⟨rfl, rfl, ?_⟩⟩
    simp [LogRateLimitState.entry]
  · rename_i hlate
    refine ⟨fun key hk => Function.update_of_ne hk .., Or.inr ⟨by omega, ?_, ?_, ?_⟩⟩
    · split <;> rfl
    · split
      · simp [reports]
      · rename_i hzero
        simp [reports, Nat.eq_zero_of_not_pos hzero]
    · simp [LogRateLimitState.entry]

theorem entry_of_eq {st st' : LogRateLimitState} {key : String} (h : st' key = st key) :
    st'.entry key = st.entry key := by
  unfold LogRateLimitState.entry
  rw [h]

/-! ## Sequences of calls -/

/-- No call is lost: those of a key either wrote their line, or are reported as suppressed, or are still
counted in its entry. -/
theorem calls_conserved {current : LogLevel} (hlevel : LogLevel.warn.enabled current = true) (key : String)
    (st : LogRateLimitState) (calls : List LogCall) :
    (calls.filter fun c => decide (c.key = key)).length + (st.entry key).suppressed =
      (written key (logCalls current st calls).2).length + reported key (logCalls current st calls).2 +
        ((logCalls current st calls).1.entry key).suppressed := by
  induction calls generalizing st with
  | nil => simp [logCalls, written, reported]
  | cons c calls ih =>
    have hrest := ih (logRateLimitedf current st c).1
    obtain ⟨hother, hcases⟩ := logRateLimitedf_spec hlevel st c
    simp only [written, reported] at hrest ⊢
    by_cases hk : c.key = key
    · subst hk
      rcases hcases with ⟨hw, hr, he⟩ | ⟨-, hw, hr, he⟩
      all_goals
        rw [he] at hrest
        simp only [logCalls, List.filter_cons, hw, hr, decide_true, Bool.and_self, Bool.and_false, if_true,
          Bool.false_eq_true, if_false, List.map_cons, List.length_cons, List.sum_cons] at hrest ⊢
        omega
    · rw [entry_of_eq (hother key (Ne.symm hk))] at hrest
      simp only [logCalls, List.filter_cons, hk, decide_false, Bool.false_and, Bool.false_eq_true, if_false]
      exact hrest

/-- The lines of a key come at least a window after the last one before them, and after each other. -/
theorem written_spaced {current : LogLevel} (hlevel : LogLevel.warn.enabled current = true) (key : String)
    (st : LogRateLimitState) (calls : List LogCall) :
    (∀ c ∈ written key (logCalls current st calls).2, logRateLimitWindow ≤ c.now - (st.entry key).last) ∧
      (written key (logCalls current st calls).2).Pairwise fun a b => logRateLimitWindow ≤ b.now - a.now := by
  have hpos : 0 ≤ logRateLimitWindow := by decide
  induction calls generalizing st with
  | nil => exact ⟨fun c hc => (by cases hc), .nil⟩
  | cons c calls ih =>
    obtain ⟨hlast, hpair⟩ := ih (logRateLimitedf current st c).1
    obtain ⟨hother, hcases⟩ := logRateLimitedf_spec hlevel st c
    by_cases hk : c.key = key
    · subst hk
      rcases hcases with ⟨hw, -, he⟩ | ⟨hlate, hw, -, he⟩
      · have hskip : written c.key (logCalls current st (c :: calls)).2 =
            written c.key (logCalls current (logRateLimitedf current st c).1 calls).2 := by
          simp [written, logCalls, hw]
        rw [he] at hlast
        rw [hskip]
        exact ⟨hlast, hpair⟩
      · have htake : written c.key (logCalls current st (c :: calls)).2 =
            c :: written c.key (logCalls current (logRateLimitedf current st c).1 calls).2 := by
          simp [written, logCalls, hw]
        rw [he] at hlast
        rw [htake]
        refine ⟨fun d hd => ?_, .cons hlast hpair⟩
        rcases List.mem_cons.1 hd with rfl | hd
        · exact hlate
        · have hafter : logRateLimitWindow ≤ d.now - c.now := hlast d hd
          omega
    · have hskip : written key (logCalls current st (c :: calls)).2 =
          written key (logCalls current (logRateLimitedf current st c).1 calls).2 := by
        simp [written, logCalls, hk]
      rw [entry_of_eq (hother key (Ne.symm hk))] at hlast
      rw [hskip]
      exact ⟨hlast, hpair⟩

/-- At an enabled level, from the empty state, for every sequence of calls with any clock readings and
every key: two calls that write their line are at least a window apart, the calls of the key are the
written ones, the reported ones and the pending ones, and a call changes the entry of its own key only. -/
theorem rateLimit_exact {current : LogLevel} (hlevel : LogLevel.warn.enabled current = true) (calls : List LogCall)
    (key : String) :
    let r := logCalls current (fun _ => none) calls
    ((written key r.2).Pairwise fun a b => logRateLimitWindow ≤ b.now - a.now) ∧
      (calls.filter fun c => decide (c.key = key)).length =
        (written key r.2).length + reported key r.2 + (r.1.entry key).suppressed ∧
      ∀ c : LogCall, c.key ≠ key → (logRateLimitedf current r.1 c).1 key = r.1 key := by
  refine ⟨(written_spaced hlevel key _ calls).2, calls_conserved hlevel key (fun _ => none) calls, fun c hc => ?_⟩
  exact (logRateLimitedf_spec hlevel _ c).1 key (Ne.symm hc)

/-- A burst with a reading from before its first line, and a line after the window. -/
def sampleBurst : List LogCall :=
  [⟨"slow-consumer", "a", 20 * Instant.second⟩, ⟨"slow-consumer", "b", 18 * Instant.second⟩,
    ⟨"channel-binding", "c", 21 * Instant.second⟩, ⟨"slow-consumer", "d", 24 * Instant.second⟩,
    ⟨"slow-consumer", "e", 25 * Instant.second⟩]

theorem rateLimit_exact_sample :
    LogLevel.warn.enabled .info = true ∧
      (written "slow-consumer" (logCalls .info (fun _ => none) sampleBurst).2).length = 2 ∧
      reported "slow-consumer" (logCalls .info (fun _ => none) sampleBurst).2 = 2 ∧
      (sampleBurst.filter fun c => decide (c.key = "slow-consumer")).length =
        (written "slow-consumer" (logCalls .info (fun _ => none) sampleBurst).2).length +
          reported "slow-consumer" (logCalls .info (fun _ => none) sampleBurst).2 +
          ((logCalls .info (fun _ => none) sampleBurst).1.entry "slow-consumer").suppressed :=
  have hlevel : LogLevel.warn.enabled .info = true := rfl
  ⟨hlevel, by decide, by decide, (rateLimit_exact hlevel sampleBurst "slow-consumer").2.1⟩

end NodejsHelper.Log
