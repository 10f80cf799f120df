/-
Expiry along a session whose clock never goes back. A token is checked against its expiry when the
socket takes it, and not again: what a subscription relies on is the time the token was installed
(`authorised_before_expiry`). The answers to a `#handshake` or `#authenticate` that carries a token
report the result of a check made there and then.
-/
import NodejsHelper.Lib.Run
import NodejsHelper.Socket.Spec
import NodejsHelper.Auth.Sample

namespace NodejsHelper.Expiry

open Auth

/-- A socket and the last time its handlers read. -/
structure State where
  socket : Socket
  now : Int

def start (id : String) (now : Int) : State := ⟨newSocket id, now⟩

section

variable (p : Primitives) (cfg : Config)

/-- One event, at a time that is not before the last one. -/
def step (s : State) (l : InEvent × Clock) : Option State :=
  if s.now ≤ l.2.check ∧ l.2.check ≤ l.2.mint ∧ l.2.mint ≤ l.2.issue then
    some ⟨(handleEvent p cfg s.socket l.1 l.2).1, l.2.issue⟩
  else none

/-- The socket took its token at a time before the expiry, and has kept it since: an event of the
session installed it, and none after that installed or dropped one. -/
def TakenInTime (token : AuthToken) (tr : List (InEvent × Clock)) : Prop :=
  ∃ pre ev clock post, tr = pre ++ (ev, clock) :: post ∧
    newToken p cfg ev clock = some (some { token with chanelNameChat := "" }) ∧
    (∀ l ∈ post, newToken p cfg l.1 l.2 = none) ∧ (0 < token.exp → clock.check < token.exp)

end

variable {p : Primitives} {cfg : Config}

/-! ## The token of a socket -/

/-- The token a socket holds after a session was taken in time. -/
theorem takenInTime_of_run {id : String} {t0 : Int} {s : State} {token : AuthToken} (tr : List (InEvent × Clock))
    (hrun : Transition.run (step p cfg) (start id t0) tr = some s) (htok : s.socket.token = some token) :
    TakenInTime p cfg token tr := by
  induction tr using List.reverseRecOn generalizing s token with
  | nil => cases hrun; cases htok
  | append_singleton tr l ih =>
    obtain ⟨m, hm, hl⟩ := Transition.run_append_some hrun
    obtain ⟨ev, clock⟩ := l
    obtain ⟨s', hs, hnil⟩ := Transition.run_cons_some hl
    cases hnil
    simp only [step, Option.ite_none_right_eq_some, Option.some.injEq] at hs
    obtain ⟨⟨-, hle, -⟩, rfl⟩ := hs
    obtain ⟨hnew, hold⟩ := handleEvent_token p cfg m.socket ev clock
    cases hn : newToken p cfg ev clock with
    | some t =>
      have ht : t = some token := (hnew t hn).symm.trans htok
      subst ht
      have hempty : { token with chanelNameChat := "" } = token := by
        rw [← newToken_unmarked hn]
      exact ⟨tr, ev, clock, [], rfl, hempty ▸ hn, fun _ h => absurd h List.not_mem_nil, newToken_unexpired hle hn⟩
    | none =>
      -- the token was held before, and a subscription may have marked it
      obtain ⟨old, holdt, hsame⟩ := hold hn token htok
      obtain ⟨pre, ev0, clock0, post, rfl, h0, hpost, hexp⟩ := ih hm holdt
      have hexp' : old.exp = token.exp := by simpa using congrArg AuthToken.exp hsame
      refine ⟨pre, ev0, clock0, post ++ [(ev, clock)], by simp, hsame ▸ h0, fun l hl => ?_, hexp' ▸ hexp⟩
      rcases List.mem_append.1 hl with hl | hl
      · exact hpost l hl
      · rw [List.mem_singleton.1 hl]; exact hn

/-! ## What the answers report -/

/-- The outcome of a check made now: an authenticated socket holds a token before its expiry. -/
theorem verifyAuth_unexpired {s : Socket} {signed : String} {now : Int}
    (h : (verifyAuth p cfg s signed now).1.authed = true) :
    ∃ token, (verifyAuth p cfg s signed now).1.token = some token ∧ (0 < token.exp → now < token.exp) := by
  unfold verifyAuth at h ⊢
  cases hv : verifyToken p cfg.authKey signed now with
  | ok token => exact ⟨token, rfl, verifyToken_exp hv⟩
  | error e => simp [hv, Socket.setUnauthenticated] at h

theorem reports_respond {ev : InEvent} {data : Json} {e : Effect} (he : e ∈ respond ev (some data))
    (h : reportsAuthenticated e = true) :
    ∃ rid, reportsAuthenticated (.send (.response rid (some data) none)) = true := by
  unfold respond at he
  split at he
  · rename_i rid _
    rw [List.mem_singleton.1 he] at h
    exact ⟨rid, h⟩
  · cases he

/-- A `#handshake`, or an `#authenticate` that carries a token, reports an authenticated socket only
before the expiry of the token the socket then holds. -/
theorem reported_before_expiry {s : Socket} {ev : InEvent} {clock : Clock} {e : Effect}
    (hev : ev.event = "#handshake" ∨ ev.event = "#authenticate" ∧ presented ev ≠ "")
    (he : e ∈ (handleEvent p cfg s ev clock).2) (h : reportsAuthenticated e = true) :
    ∃ token, (handleEvent p cfg s ev clock).1.token = some token ∧ (0 < token.exp → clock.check < token.exp) := by
  rcases hev with hev | ⟨hev, hp⟩
  · have hr : handleEvent p cfg s ev clock = handleHandshake p cfg s ev clock := by simp [handleEvent, hev]
    rw [hr] at he ⊢
    unfold handleHandshake at he ⊢
    obtain ⟨rid, h⟩ := reports_respond he h
    have ha := reports_handshakeStatus.symm.trans h
    -- without a stored token the handshake reports no authentication
    by_cases hs : decodeHandshake ev.data = ""
    · simp [hs, Socket.setUnauthenticated, Socket.setHandshaken] at ha
    · simp only [ne_eq, hs, not_false_eq_true, if_true, Socket.setHandshaken] at ha ⊢
      exact verifyAuth_unexpired ha
  · have hr : handleEvent p cfg s ev clock = handleAuthenticate p cfg s ev clock := by simp [handleEvent, hev]
    have hs : decodeAuthenticate ev.data ≠ "" := by simpa [presented, hev] using hp
    rw [hr] at he ⊢
    unfold handleAuthenticate at he ⊢
    obtain ⟨rid, h⟩ := reports_respond he h
    have ha := reports_authenticateStatus.symm.trans h
    simp only [if_pos hs] at ha ⊢
    exact verifyAuth_unexpired ha

/-! ## The result -/

/-- At any event of a session, a subscription is accepted only under a token the socket took in time,
and an authenticated socket is reported to a `#handshake`, or to an `#authenticate` that carries a
token, only before the expiry of the token it then holds. -/
theorem authorised_before_expiry (p : Primitives) (cfg : Config) (id : String) (t0 : Int)
    (tr : List (InEvent × Clock)) (ev : InEvent) (clock : Clock) {s s' : State}
    (hrun : Transition.run (step p cfg) (start id t0) tr = some s)
    (hstep : step p cfg s (ev, clock) = some s') :
    (∀ channel, .hubAdd channel ∈ (handleEvent p cfg s.socket ev clock).2 →
      ∃ token, s.socket.token = some token ∧ TakenInTime p cfg token tr) ∧
    (∀ e ∈ (handleEvent p cfg s.socket ev clock).2, reportsAuthenticated e = true →
      ev.event = "#handshake" ∨ ev.event = "#authenticate" ∧ presented ev ≠ "" →
        ∃ token, s'.socket.token = some token ∧ (0 < token.exp → clock.check < token.exp)) := by
  constructor
  · intro channel hadd
    obtain ⟨token, ha⟩ := accepts_of_hubAdd hadd
    obtain ⟨-, -, -, -, ht, -⟩ := accepts_some.1 ha
    exact ⟨token, ht, takenInTime_of_run tr hrun ht⟩
  · intro e he h hev
    simp only [step, Option.ite_none_right_eq_some, Option.some.injEq] at hstep
    obtain ⟨-, rfl⟩ := hstep
    exact reported_before_expiry hev he h

/-- The visitor of a chat logs in. -/
def sampleSession : List (InEvent × Clock) :=
  [(handshakeEvent none 1, sampleClock), (loginEvent sampleToken.token "chat_55" 0 2, sampleClock)]

/-- A visitor subscribes to its chat a second after its login. -/
theorem authorised_before_expiry_sample :
    TakenInTime sample (defaultConfig "secret" sampleKey "") sampleToken sampleSession := by
  obtain ⟨token, ht, h⟩ := (authorised_before_expiry sample (defaultConfig "secret" sampleKey "") "s" 1700000000
    sampleSession (subscribeEvent "chat_55" 3) (.inSecond 1700000001) rfl rfl).1 "chat_55"
      (List.mem_of_getElem? (i := 1) (by rfl))
  have he : some sampleToken = some token := Eq.trans (by decide) ht
  exact Option.some.inj he ▸ h

/-- A socket that logged in subscribes after its token expired. -/
theorem subscribed_after_expiry :
    ¬ ∀ (p : Primitives) (cfg : Config) (id : String) (t0 : Int) (tr : List (InEvent × Clock)) (ev : InEvent)
        (clock : Clock) (s s' : State) (channel : String) (token : AuthToken),
      Transition.run (step p cfg) (start id t0) tr = some s → step p cfg s (ev, clock) = some s' →
        .hubAdd channel ∈ (handleEvent p cfg s.socket ev clock).2 → s'.socket.token = some token →
          clock.check < token.exp := by
  intro h
  have hlate := h sample (defaultConfig "secret" sampleKey "") "s" 1700000000 sampleSession (subscribeEvent "chat_55" 3)
    (.inSecond 1700010000) _ _ "chat_55" { sampleToken with chanelNameChat := "chat_55" } rfl rfl
    (List.mem_of_getElem? (i := 1) (by rfl)) (by decide)
  revert hlate
  decide

end NodejsHelper.Expiry
