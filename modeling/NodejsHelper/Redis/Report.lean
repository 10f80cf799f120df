/-
The reporting of Redis problems (`redis.go`). `reportError` compares a message with the last one and
the clock with the time of the last line, so a repetition is held back for a minute; but it remembers
one message only. A message that comes back after another one is a new problem to it, whenever its last
line was written, and this is the only way two of its lines are within a minute
(`spaced_of_returnsLate`).
-/
import NodejsHelper.Lib.Instant
import NodejsHelper.Lib.Run
import NodejsHelper.Lib.Strings

namespace NodejsHelper.Report

open Strings

/-! ## Messages -/

/-- `redisHint`: the one line fix for a refusal of Redis, empty for any other error. -/
def redisHint (message : String) : String :=
  if contains message "protected mode" then
    "Redis refused the connection: protected-mode is on and no password is set, so it only " ++
      "accepts loopback clients. Fix (pick one): add `requirepass <password>` to redis.conf and set " ++
      "REDIS_PASS, or set `protected-mode no` (keep the port firewalled), then restart Redis. " ++
      "When Redis is bound to 127.0.0.1 on the Docker host, docker-compose.host-network.yml " ++
      "avoids the Redis change entirely."
  else if contains message "Client sent AUTH" then
    "Redis has no password configured but REDIS_PASS is set - remove REDIS_PASS."
  else if contains message "WRONGPASS" || contains message "invalid username-password" then
    "Redis rejected the password - check REDIS_PASS (and REDIS_USER if set)."
  else if contains message "NOAUTH" then "Redis requires a password - set REDIS_PASS."
  else ""

/-- The message an error is reported as. -/
def reportedAs (err : String) : String := if redisHint err ≠ "" then redisHint err else err

/-! ## The report -/

/-- What the bridge keeps for the suppression. -/
structure Reporter where
  lastError : String
  lastLog : Int

/-- `newRedisBridge`, as far as the suppression goes. -/
def newReporter : Reporter := ⟨"", Instant.zero⟩

def minute : Int := 60 * Instant.second

/-- `reportError` decides to log: the message is not the last one, or its last line is over a minute ago. -/
def shouldLog (b : Reporter) (message : String) (since : Int) : Bool :=
  message != b.lastError || decide (minute < Instant.sub since b.lastLog)

/-- `reportError`, with its two readings of the clock under the lock: the new state, and the message
handed to `logWarnf`. -/
def reportError (b : Reporter) (err : String) (since now : Int) : Reporter × Option String :=
  if shouldLog b (reportedAs err) since then (⟨reportedAs err, now⟩, some (reportedAs err))
  else (⟨reportedAs err, b.lastLog⟩, none)

/-! ## Sequences of errors -/

/-- The bridge, the clock, in nanoseconds since 1970, the messages seen, and the lines logged with
their times. -/
structure State where
  reporter : Reporter
  clock : ℕ
  seen : List String
  log : List (String × ℕ)

/-- An error passed to `reportError`, with its readings of the clock. -/
structure Label where
  err : String
  since : ℕ
  now : ℕ

def init : State := ⟨newReporter, 0, [], []⟩

/-- The line a report writes, with its time. -/
def lineOf (s : State) (l : Label) : List (String × ℕ) :=
  ((reportError s.reporter l.err l.since l.now).2.map fun message => (message, l.now)).toList

/-- One call; the clock does not go backwards. -/
def step (s : State) (l : Label) : Option State :=
  if s.clock ≤ l.since ∧ l.since ≤ l.now then some
    { reporter := (reportError s.reporter l.err l.since l.now).1
      clock := l.now
      seen := s.seen ++ [reportedAs l.err]
      log := s.log ++ lineOf s l }
  else none

/-- Any two lines of one message are more than a minute apart. -/
def Spaced (s : State) : Prop := s.log.Pairwise fun a b => a.1 = b.1 → (a.2 : Int) + minute < b.2

/-- A message that recurs with another one in between comes more than a minute after every earlier call
with it. -/
def ReturnsLate (tr : List Label) : Prop :=
  ∀ l between l', l :: between ++ [l'] <:+: tr → reportedAs l'.err = reportedAs l.err →
    (∃ m ∈ between, reportedAs m.err ≠ reportedAs l.err) → (l.now : Int) + minute < l'.now

/-! ## One call -/

/-- What the suppression remembers: nothing was reported yet, or the last line is of the last message. -/
structure Inv (s : State) : Prop where
  past : ∀ line ∈ s.log, line.2 ≤ s.clock
  seen : s.log = [] → s.seen = []
  logged : ∀ line ∈ s.log, line.1 ∈ s.seen
  last : s.log = [] ∧ s.reporter = newReporter ∨
    ∃ (lines : List (String × ℕ)) (time : ℕ), s.log = lines ++ [(s.reporter.lastError, time)] ∧
      s.reporter.lastLog = time ∧ ∀ line ∈ lines, line.2 ≤ time

theorem inv_init : Inv init :=
  ⟨fun _ h => (by cases h), fun _ => rfl, fun _ h => (by cases h), Or.inl ⟨rfl, rfl⟩⟩

/-- A reading of the clock is over a minute after the zero time. -/
theorem minute_lt_sub_zero (t : ℕ) : minute < Instant.sub t Instant.zero := by
  rw [Instant.lt_sub_iff (by decide) (by decide)]
  have h : minute < 0 - Instant.zero := by decide
  omega

theorem minute_lt_sub {t u : Int} : minute < Instant.sub t u ↔ u + minute < t := by
  rw [Instant.lt_sub_iff (by decide) (by decide)]
  omega

/-- A report writes its line, or its message is the last one, whose line is at most a minute old. -/
theorem lineOf_cases {s : State} (hi : Inv s) (l : Label) :
    lineOf s l = [(reportedAs l.err, l.now)] ∧
        (reportError s.reporter l.err l.since l.now).1 = ⟨reportedAs l.err, l.now⟩ ∧
        (reportedAs l.err ≠ s.reporter.lastError ∨ s.log = [] ∨ s.reporter.lastLog + minute < l.since) ∨
      lineOf s l = [] ∧ (reportError s.reporter l.err l.since l.now).1 = s.reporter ∧
        reportedAs l.err = s.reporter.lastError ∧ s.log ≠ [] := by
  unfold lineOf reportError shouldLog
  split
  · rename_i h
    refine Or.inl ⟨rfl, rfl, ?_⟩
    rcases Bool.or_eq_true_iff.1 h with h | h
    · exact Or.inl (by simpa using h)
    · exact Or.inr (Or.inr (minute_lt_sub.1 (of_decide_eq_true h)))
  · rename_i h
    obtain ⟨hsame, hrecent⟩ : reportedAs l.err = s.reporter.lastError ∧
        ¬ minute < Instant.sub l.since s.reporter.lastLog := by simpa using h
    refine Or.inr ⟨rfl, by rw [hsame], hsame, fun hempty => hrecent ?_⟩
    rcases hi.last with ⟨-, hnew⟩ | ⟨lines, time, hlog, -⟩
    · rw [hnew]; exact minute_lt_sub_zero l.since
    · simp [hlog] at hempty

theorem step_some {s s' : State} {l : Label} (h : step s l = some s') :
    s.clock ≤ l.since ∧ l.since ≤ l.now ∧ s' =
      ⟨(reportError s.reporter l.err l.since l.now).1, l.now, s.seen ++ [reportedAs l.err], s.log ++ lineOf s l⟩ := by
  obtain ⟨hc, h⟩ := Option.ite_none_right_eq_some.1 h
  exact ⟨hc.1, hc.2, (Option.some.inj h).symm⟩

theorem inv_step (s : State) (l : Label) (s' : State) (hi : Inv s) (h : step s l = some s') : Inv s' := by
  obtain ⟨h1, h2, rfl⟩ := step_some h
  have hold : ∀ line ∈ s.log, line.2 ≤ l.now := fun line hl => by
    have := hi.past line hl
    omega
  rcases lineOf_cases hi l with ⟨hline, hrep, -⟩ | ⟨hline, hrep, hsame, hne⟩
  · simp only [hline, hrep]
    refine ⟨fun line hl => ?_, fun hnil => by simp at hnil, fun line hl => ?_,
      Or.inr ⟨s.log, l.now, rfl, rfl, hold⟩⟩
    · rcases List.mem_append.1 hl with hl | hl
      · exact hold line hl
      · rw [List.mem_singleton.1 hl]
    · rcases List.mem_append.1 hl with hl | hl
      · exact List.mem_append_left _ (hi.logged line hl)
      · rw [List.mem_singleton.1 hl]; simp
  · simp only [hline, hrep, List.append_nil]
    refine ⟨hold, fun hnil => absurd hnil hne, fun line hl => List.mem_append_left _ (hi.logged line hl), ?_⟩
    rcases hi.last with ⟨hempty, -⟩ | hlast
    · exact absurd hempty hne
    · exact Or.inr hlast

/-- A call keeps the lines of every message apart, when a message other than the last one has no line within
the last minute. -/
theorem spaced_step {s : State} {l : Label} {s' : State} (hi : Inv s) (hs : Spaced s) (h : step s l = some s')
    (hback : reportedAs l.err ≠ s.reporter.lastError →
      ∀ line ∈ s.log, line.1 = reportedAs l.err → (line.2 : Int) + minute < l.now) : Spaced s' := by
  obtain ⟨h1, h2, rfl⟩ := step_some h
  unfold Spaced at *
  rcases lineOf_cases hi l with ⟨hline, -, hwhy⟩ | ⟨hline, -, hsame, -⟩
  · rw [hline, List.pairwise_append]
    refine ⟨hs, List.pairwise_singleton _ _, fun line hl line' hl' hm => ?_⟩
    rw [List.mem_singleton.1 hl'] at hm ⊢
    rcases hwhy with hnew | hempty | hlate
    · exact hback hnew line hl hm
    · rw [hempty] at hl; cases hl
    · -- the line of the last message is the last one, and every line before it is older
      rcases hi.last with ⟨hempty, -⟩ | ⟨lines, time, hlog, htime, holder⟩
      · rw [hempty] at hl; cases hl
      · have hle : line.2 ≤ time := by
          rw [hlog] at hl
          rcases List.mem_append.1 hl with hl | hl
          · exact holder line hl
          · rw [List.mem_singleton.1 hl]
        rw [htime] at hlate
        show (line.2 : Int) + minute < l.now
        omega
  · rw [hline, List.append_nil]
    exact hs

/-- The message of a call is the last one to the next call. -/
theorem lastError_reportError (b : Reporter) (err : String) (since now : Int) :
    (reportError b err since now).1.lastError = reportedAs err := by
  unfold reportError
  split <;> rfl

/-- A message not seen before is logged at once. -/
theorem logged_of_new {s : State} (hi : Inv s) {l : Label} (hnew : reportedAs l.err ∉ s.seen) :
    (reportError s.reporter l.err l.since l.now).2 = some (reportedAs l.err) := by
  rcases lineOf_cases hi l with ⟨hline, -⟩ | ⟨-, -, hsame, hne⟩
  · unfold lineOf at hline
    cases hr : (reportError s.reporter l.err l.since l.now).2 with
    | none => simp [hr] at hline
    | some message => simpa [hr] using hline
  · rcases hi.last with ⟨hempty, -⟩ | ⟨lines, time, hlog, -⟩
    · exact absurd hempty hne
    · have hmem : s.reporter.lastError ∈ s.seen := hi.logged (s.reporter.lastError, time) (by simp [hlog])
      exact absurd (hsame ▸ hmem) hnew

/-! ## Runs -/

/-- What the calls of a run have left: spaced lines, each the line of a call, and the message of the last call. -/
structure Accounted (tr : List Label) (s : State) : Prop where
  inv : Inv s
  spaced : Spaced s
  lines : ∀ line ∈ s.log, ∃ l ∈ tr, line = (reportedAs l.err, l.now)
  last : tr = [] ∨ ∃ calls l, tr = calls ++ [l] ∧ s.reporter.lastError = reportedAs l.err

theorem ReturnsLate.of_append {a b : List Label} (h : ReturnsLate (a ++ b)) : ReturnsLate a :=
  fun l between l' hin => h l between l' (hin.trans (List.prefix_append a b).isInfix)

/-- A call with a message other than the last one comes more than a minute after every line of its message. -/
theorem Accounted.late {tr : List Label} {s : State} {l : Label} (ha : Accounted tr s)
    (hr : ReturnsLate (tr ++ [l])) (hnew : reportedAs l.err ≠ s.reporter.lastError) :
    ∀ line ∈ s.log, line.1 = reportedAs l.err → (line.2 : Int) + minute < l.now := by
  intro line hl hm
  obtain ⟨call, hcall, rfl⟩ := ha.lines line hl
  obtain ⟨before, after, rfl⟩ := List.append_of_mem hcall
  rcases ha.last with hnil | ⟨calls, m, htr, hlast⟩
  · simp at hnil
  · -- the last call is one of another message, so it stands between
    have hother : reportedAs m.err ≠ reportedAs call.err := by
      rw [← hlast]
      exact fun heq => hnew (hm.symm.trans heq.symm)
    have hmem : m ∈ after := by
      rcases List.eq_nil_or_concat after with rfl | ⟨after', m', rfl⟩
      · have heq := (List.append_inj' htr rfl).2
        cases heq
        exact absurd rfl hother
      · rw [List.concat_eq_append, ← List.cons_append, ← List.append_assoc] at htr
        have heq := (List.append_inj' htr rfl).2
        cases heq
        simp
    refine hr call after l ⟨before, [], ?_⟩ hm.symm ⟨m, hmem, hother⟩
    simp

theorem accounted_step {tr : List Label} {s s' : State} {l : Label} (ha : Accounted tr s)
    (hr : ReturnsLate (tr ++ [l])) (h : step s l = some s') : Accounted (tr ++ [l]) s' := by
  have hspaced := spaced_step ha.inv ha.spaced h (ha.late hr)
  have hinv := inv_step s l s' ha.inv h
  obtain ⟨-, -, rfl⟩ := step_some h
  refine ⟨hinv, hspaced, fun line hl => ?_, Or.inr ⟨tr, l, rfl, lastError_reportError ..⟩⟩
  rcases List.mem_append.1 hl with hl | hl
  · obtain ⟨call, hcall, hline⟩ := ha.lines line hl
    exact ⟨call, List.mem_append_left _ hcall, hline⟩
  · rcases lineOf_cases ha.inv l with ⟨hline, -⟩ | ⟨hline, -⟩
    · rw [hline, List.mem_singleton] at hl
      exact ⟨l, by simp, hl⟩
    · rw [hline] at hl
      cases hl

theorem accounted_run (tr : List Label) : ∀ {s : State}, ReturnsLate tr → Transition.run step init tr = some s →
    Accounted tr s := by
  induction tr using List.reverseRecOn with
  | nil =>
    intro s _ h
    cases h
    exact ⟨inv_init, .nil, fun _ hl => (by cases hl), Or.inl rfl⟩
  | append_singleton tr l ih =>
    intro s hr h
    obtain ⟨m, hm, hl⟩ := Transition.run_append_some h
    obtain ⟨s', hs', hend⟩ := Transition.run_cons_some hl
    cases hend
    exact accounted_step (ih hr.of_append hm) hr hs'

/-! ## The result -/

/-- For every sequence of errors at non-decreasing times: a message not seen before is logged at once, and the
lines of every message are more than a minute apart when no message comes back within a minute of a call
with it, after another one. -/
theorem spaced_of_returnsLate (tr : List Label) (s : State) (h : Transition.run step init tr = some s) :
    (ReturnsLate tr → Spaced s) ∧ ∀ l : Label, reportedAs l.err ∉ s.seen →
      (reportError s.reporter l.err l.since l.now).2 = some (reportedAs l.err) :=
  ⟨fun hr => (accounted_run tr hr h).spaced,
    fun _ hnew => logged_of_new (Transition.run_invariant inv_step inv_init h) hnew⟩

/-- A message comes back after another one, more than a minute after its first call. -/
def sampleCalls : List Label :=
  [⟨"i/o timeout", 1000000000, 1000000000⟩, ⟨"EOF", 2000000000, 2000000000⟩,
    ⟨"i/o timeout", 62000000000, 62000000000⟩]

theorem returnsLate_sampleCalls : ReturnsLate sampleCalls := by
  rintro l between l' ⟨before, after, heq⟩ - ⟨m, hm, -⟩
  -- with a call in between, the stretch is all three calls
  have hpos := List.length_pos_of_mem hm
  have hlen := congrArg List.length heq
  simp only [sampleCalls, List.length_append, List.length_cons, List.length_nil] at hlen
  obtain rfl : before = [] := List.length_eq_zero_iff.1 (by omega)
  obtain rfl : after = [] := List.length_eq_zero_iff.1 (by omega)
  obtain ⟨n, rfl⟩ : ∃ n, between = [n] := List.length_eq_one_iff.1 (by omega)
  simp only [List.nil_append, List.append_nil, List.cons_append] at heq
  cases heq
  decide

theorem spaced_of_returnsLate_sample :
    ∃ s, Transition.run step init sampleCalls = some s ∧ Spaced s ∧
      s.log = [("i/o timeout", 1000000000), ("EOF", 2000000000), ("i/o timeout", 62000000000)] := by
  obtain ⟨s, hs, hlog⟩ : ∃ s, Transition.run step init sampleCalls = some s ∧
      s.log = [("i/o timeout", 1000000000), ("EOF", 2000000000), ("i/o timeout", 62000000000)] :=
    ⟨_, by rfl, by decide⟩
  exact ⟨s, hs, (spaced_of_returnsLate sampleCalls s hs).1 returnsLate_sampleCalls, hlog⟩

/-- During an outage the receive loop and a publish fail with different texts: the second line of the
first text comes two seconds after the first one. -/
theorem logged_twice_a_minute :
    ¬ ∀ (tr : List Label) (s : State), Transition.run step init tr = some s → Spaced s := by
  intro h
  let tr : List Label :=
    [⟨"dial tcp: connection refused", 1000000000, 1000000000⟩, ⟨"i/o timeout", 2000000000, 2000000000⟩,
      ⟨"dial tcp: connection refused", 3000000000, 3000000000⟩]
  have hrun : ∃ s, Transition.run step init tr = some s ∧
      s.log = [("dial tcp: connection refused", 1000000000), ("i/o timeout", 2000000000),
        ("dial tcp: connection refused", 3000000000)] := ⟨_, by rfl, by decide⟩
  obtain ⟨s, hs, hlog⟩ := hrun
  have hsp := h tr s hs
  rw [Spaced, hlog] at hsp
  exact absurd hsp (by decide)

end NodejsHelper.Report
