/-
What one event can do to a socket, once for all handlers: install or drop a token, accept a
subscription, drop one, publish, close, or only answer. Every property of a session is derived from
this case analysis (`handleEvent_handles`), never from the handlers themselves.
-/
import NodejsHelper.Socket.Basic

namespace NodejsHelper

open Auth Strings

variable (p : Primitives) (cfg : Config)

/-! ## What an event asks for -/

/-- The token an accepted `login` mints, with its signed form. -/
def loginToken (ev : InEvent) (clock : Clock) : Option (AuthToken × String) :=
  match ev.data.map decodeLogin with
  | some (request, true) =>
    (loginHash request).bind fun hash =>
      (validateLoginToken p hash.1 request.chanelName cfg.secretHash clock.check).map fun kind =>
        signToken p cfg.authKey (mintToken hash.1 request.chanelName hash.2 kind.1 kind.2 clock.mint) clock.issue
  | _ => none

/-- The signed token an event presents. -/
def presented (ev : InEvent) : String :=
  if ev.event = "#handshake" then decodeHandshake ev.data
  else if ev.event = "#authenticate" then decodeAuthenticate ev.data
  else ""

/-- The token an event leaves the socket with, when it installs or drops one. -/
def newToken (ev : InEvent) (clock : Clock) : Option (Option AuthToken) :=
  if ev.event = "login" then (loginToken p cfg ev clock).map fun minted => some minted.1
  else if ev.event = "#removeAuthToken" then some none
  else if presented ev ≠ "" then some (verifyToken p cfg.authKey (presented ev) clock.check).toOption
  else if ev.event = "#handshake" then some none
  else none

/-- The channel and the token of a `#subscribe` the socket accepts. -/
def accepts (s : Socket) (ev : InEvent) : Option (String × AuthToken) :=
  let channel := (parseChannelPayload ev.data).1
  match s.token with
  | some token =>
    if ev.event = "#subscribe" ∧ channel ≠ "" ∧ s.handshaken = true ∧ refusesToken cfg token channel = false ∧
        (channel ∈ s.subs ∨ s.subs.card < cfg.channelLimit) then
      some (channel, token)
    else none
  | none => none

/-- The token after an accepted subscription: marked in place when the channel is a chat. -/
def marked (token : AuthToken) (channel : String) : AuthToken :=
  if isChatChannel token channel then { token with chanelNameChat := channel } else token

/-- The packet is the text of a ping, a response or an event: anything but a `#publish`. -/
def Packet.plain : Packet → Bool
  | .publish _ _ => false
  | _ => true

/-- An effect that only answers the client, with a response or an event of the server. -/
def Effect.isSend : Effect → Bool
  | .send (.response _ _ _) | .send (.event _ _ _) => true
  | _ => false

/-- The response of an event that reports an authenticated socket. -/
def reportsAuthenticated : Effect → Bool
  | .send (.response _ (some (.obj members)) _) => members.any fun m =>
    match m with
    | (key, .bool true) => key == "isAuthenticated"
    | _ => false
  | _ => false

/-- What an event can do to a socket. -/
inductive Handles (s : Socket) (ev : InEvent) (clock : Clock) : Socket × List Effect → Prop
  | install (token : Option AuthToken) (s' : Socket) (out : List Effect) :
      newToken p cfg ev clock = some token → accepts cfg s ev = none →
      s'.id = s.id → s'.token = token → s'.authed = token.isSome → s'.subs = s.subs →
      s'.handshaken = (s.handshaken || ev.event == "#handshake") → (∀ e ∈ out, e.isSend = true) →
      Handles s ev clock (s', out)
  | subscribe (channel : String) (token : AuthToken) (out : List Effect) :
      newToken p cfg ev clock = none → accepts cfg s ev = some (channel, token) → (∀ e ∈ out, e.isSend = true) →
      Handles s ev clock
        ({ s with subs := insert channel s.subs, token := some (marked token channel) },
          subscribePresence cfg token channel ++ .hubAdd channel :: out)
  | unsubscribe (channel : String) (out : List Effect) :
      newToken p cfg ev clock = none → accepts cfg s ev = none → channel ∈ s.subs → (∀ e ∈ out, e.isSend = true) →
      Handles s ev clock ({ s with subs := s.subs.erase channel }, .hubRemove channel :: out)
  | publish (channel : String) (data : Option Json) (out : List Effect) :
      newToken p cfg ev clock = none → accepts cfg s ev = none → cfg.allowClientPublish = true →
      (cfg.restrictClientPublish = true → channel ∈ s.subs) → (∀ e ∈ out, e.isSend = true) →
      Handles s ev clock (s, out ++ [.publish channel data])
  | close (code : Nat) (reason : String) :
      newToken p cfg ev clock = none → accepts cfg s ev = none →
      Handles s ev clock (s, [.close code reason])
  | answer (out : List Effect) :
      newToken p cfg ev clock = none → accepts cfg s ev = none → (∀ e ∈ out, e.isSend = true) →
      Handles s ev clock (s, out)

/-! ## Answers -/

theorem isSend_respond (ev : InEvent) (data : Option Json) : ∀ e ∈ respond ev data, e.isSend = true := by
  unfold respond
  split <;> simp [Effect.isSend]

theorem isSend_respondError (ev : InEvent) (name message : String) :
    ∀ e ∈ respondError ev name message, e.isSend = true := by
  unfold respondError
  split <;> simp [Effect.isSend]

variable {p cfg}

theorem reports_handshakeStatus {s : Socket} {err : Option ErrObj} {rid : Int} :
    reportsAuthenticated (.send (.response rid (some (handshakeStatus cfg s err)) none)) = s.authed := by
  cases ha : s.authed <;> cases err <;> simp [reportsAuthenticated, handshakeStatus, ErrObj.toJson, ha]

theorem reports_authenticateStatus {s : Socket} {err : Option ErrObj} {rid : Int} :
    reportsAuthenticated (.send (.response rid (some (authenticateStatus s err)) none)) = s.authed := by
  cases ha : s.authed <;> cases err <;> simp [reportsAuthenticated, authenticateStatus, ErrObj.toJson, ha]

/-! ## One handler each -/

theorem accepts_of_event {s : Socket} {ev : InEvent} (h : ev.event ≠ "#subscribe") : accepts cfg s ev = none := by
  unfold accepts
  split
  · exact if_neg fun hc => h hc.1
  · rfl

/-- When a subscription is accepted. -/
theorem accepts_some {s : Socket} {ev : InEvent} {channel : String} {token : AuthToken} :
    accepts cfg s ev = some (channel, token) ↔
      ev.event = "#subscribe" ∧ channel = (parseChannelPayload ev.data).1 ∧ channel ≠ "" ∧ s.handshaken = true ∧
        s.token = some token ∧ refusesToken cfg token channel = false ∧
        (channel ∈ s.subs ∨ s.subs.card < cfg.channelLimit) := by
  unfold accepts
  cases s.token with
  | none => simp
  | some t =>
    simp only [Option.ite_none_right_eq_some, Option.some.injEq, Prod.mk.injEq]
    constructor
    · rintro ⟨⟨h1, h2, h3, h4, h5⟩, rfl, rfl⟩
      exact ⟨h1, rfl, h2, h3, rfl, h4, h5⟩
    · rintro ⟨h1, rfl, h2, h3, rfl, h4, h5⟩
      exact ⟨⟨h1, h2, h3, h4, h5⟩, rfl, rfl⟩

variable (p cfg) in
theorem verifyAuth_spec (s : Socket) (signed : String) (now : Int) :
    let r := verifyAuth p cfg s signed now
    r.1.token = (verifyToken p cfg.authKey signed now).toOption ∧ r.1.authed = r.1.token.isSome ∧ r.1.id = s.id ∧
      r.1.subs = s.subs ∧ r.1.handshaken = s.handshaken := by
  unfold verifyAuth
  cases verifyToken p cfg.authKey signed now <;>
    simp [Socket.setAuthState, Socket.setUnauthenticated, Except.toOption]

theorem handleHandshake_handles (s : Socket) (ev : InEvent) (clock : Clock) (h : ev.event = "#handshake") :
    Handles p cfg s ev clock (handleHandshake p cfg s ev clock) := by
  have hacc : accepts cfg s ev = none := accepts_of_event (by rw [h]; decide)
  have hpres : presented ev = decodeHandshake ev.data := by simp [presented, h]
  unfold handleHandshake
  by_cases hs : decodeHandshake ev.data = ""
  · refine .install none _ _ ?_ hacc ?_ ?_ ?_ ?_ ?_ (isSend_respond ev _)
    · simp [newToken, h, hpres, hs]
    all_goals simp [hs, Socket.setUnauthenticated, Socket.setHandshaken, h]
  · obtain ⟨h1, h2, h3, h4, h5⟩ := verifyAuth_spec p cfg s (decodeHandshake ev.data) clock.check
    refine .install (verifyToken p cfg.authKey (decodeHandshake ev.data) clock.check).toOption _ _ ?_ hacc ?_ ?_ ?_
      ?_ ?_ (isSend_respond ev _)
    · simp [newToken, h, hpres, hs]
    all_goals simp [hs, Socket.setHandshaken, h1, h2, h3, h4, h]

theorem handleAuthenticate_handles (s : Socket) (ev : InEvent) (clock : Clock) (h : ev.event = "#authenticate") :
    Handles p cfg s ev clock (handleAuthenticate p cfg s ev clock) := by
  have hacc : accepts cfg s ev = none := accepts_of_event (by rw [h]; decide)
  have hpres : presented ev = decodeAuthenticate ev.data := by simp [presented, h]
  unfold handleAuthenticate
  by_cases hs : decodeAuthenticate ev.data = ""
  · simp only [hs, ne_eq, not_true_eq_false, if_false]
    exact .answer _ (by simp [newToken, h, hpres, hs]) hacc (isSend_respond ev _)
  · obtain ⟨h1, h2, h3, h4, h5⟩ := verifyAuth_spec p cfg s (decodeAuthenticate ev.data) clock.check
    refine .install (verifyToken p cfg.authKey (decodeAuthenticate ev.data) clock.check).toOption _ _ ?_ hacc ?_ ?_ ?_
      ?_ ?_ (isSend_respond ev _)
    · simp [newToken, h, hpres, hs]
    all_goals simp [hs, h1, h2, h3, h4, h5, h]

theorem handleLogin_handles (s : Socket) (ev : InEvent) (clock : Clock) (h : ev.event = "login") :
    Handles p cfg s ev clock (handleLogin p cfg s ev clock) := by
  have hacc : accepts cfg s ev = none := accepts_of_event (by rw [h]; decide)
  have hnew : newToken p cfg ev clock = (loginToken p cfg ev clock).map fun minted => some minted.1 := by
    simp [newToken, h]
  have hfail : loginToken p cfg ev clock = none → Handles p cfg s ev clock (s, loginFailed ev) := fun hl =>
    .answer _ (by rw [hnew, hl]; rfl) hacc (isSend_respondError ev _ _)
  unfold handleLogin
  split
  · rename_i request hd
    split
    · rename_i hash instanceID hh
      split
      · rename_i isVisitor isChatToken hv
        refine .install (some _) _ _ (by rw [hnew]; simp [loginToken, hd, hh, hv]) hacc rfl rfl rfl rfl ?_ ?_
        · simp [Socket.nextCallID, Socket.setAuthState, h]
        · intro e he
          rcases List.mem_append.1 he with he | he
          · exact isSend_respond ev none e he
          · rw [List.mem_singleton.1 he]; rfl
      · rename_i hv
        exact hfail (by simp [loginToken, hd, hh, hv])
    · rename_i hh
      exact hfail (by simp [loginToken, hd, hh])
  · rename_i hd
    refine hfail ?_
    unfold loginToken
    split
    · rename_i request hr; exact absurd hr (hd request)
    · rfl

theorem handleSubscribe_handles (s : Socket) (ev : InEvent) (clock : Clock) (h : ev.event = "#subscribe") :
    Handles p cfg s ev clock (handleSubscribe cfg s ev) := by
  have hnew : newToken p cfg ev clock = none := by simp [newToken, presented, h]
  have hrefuse : ∀ out, accepts cfg s ev = none → (∀ e ∈ out, e.isSend = true) → Handles p cfg s ev clock (s, out) :=
    fun out hacc hout => .answer out hnew hacc hout
  unfold handleSubscribe
  dsimp only
  split
  · rename_i hc
    refine hrefuse _ ?_ (isSend_respondError ev _ _)
    unfold accepts
    split
    · exact if_neg fun ha => ha.2.1 hc
    · rfl
  · rename_i hc
    split
    · rename_i hh
      refine hrefuse _ ?_ (isSend_respondError ev _ _)
      unfold accepts
      split
      · exact if_neg fun ha => by simp [ha.2.2.1] at hh
      · rfl
    · rename_i hh
      split
      · rename_i ht
        exact hrefuse _ (by simp [accepts, ht]) (isSend_respondError ev _ _)
      · rename_i token ht
        split
        · rename_i hr
          exact hrefuse _ (by simp [accepts, ht, hr]) (isSend_respondError ev _ _)
        · rename_i hr
          split
          · rename_i hl
            refine hrefuse _ ?_ (isSend_respondError ev _ _)
            simp only [accepts, ht]
            exact if_neg fun ha => by rcases ha.2.2.2.2 with hm | hm <;> [exact hl.1 hm; omega]
          · rename_i hl
            have hacc : accepts cfg s ev = some ((parseChannelPayload ev.data).1, token) := by
              simp only [accepts, ht]
              refine if_pos ⟨h, hc, by simpa using hh, by simpa using hr, ?_⟩
              by_cases hm : (parseChannelPayload ev.data).1 ∈ s.subs
              · exact Or.inl hm
              · exact Or.inr (by by_contra hlt; exact hl ⟨hm, by omega⟩)
            have : Handles p cfg s ev clock _ := .subscribe _ _ _ hnew hacc
              (isSend_respond ev
                (if (parseChannelPayload ev.data).2 then some (.obj [("batch", .bool true)]) else none))
            simpa [marked, List.append_assoc] using this

theorem handleUnsubscribe_handles (s : Socket) (ev : InEvent) (clock : Clock) (h : ev.event = "#unsubscribe") :
    Handles p cfg s ev clock (handleUnsubscribe s ev) := by
  have hnew : newToken p cfg ev clock = none := by simp [newToken, presented, h]
  have hacc : accepts cfg s ev = none := accepts_of_event (by rw [h]; decide)
  unfold handleUnsubscribe
  dsimp only
  split
  · exact .answer [] hnew hacc (by simp)
  · split
    · rename_i hm; exact .unsubscribe _ _ hnew hacc hm (isSend_respond ev none)
    · exact .answer _ hnew hacc (isSend_respond ev none)

theorem handlePublish_handles (s : Socket) (ev : InEvent) (clock : Clock) (h : ev.event = "#publish") :
    Handles p cfg s ev clock (handlePublish cfg s ev) := by
  have hnew : newToken p cfg ev clock = none := by simp [newToken, presented, h]
  have hacc : accepts cfg s ev = none := accepts_of_event (by rw [h]; decide)
  have hdrop : Handles p cfg s ev clock (s, respond ev none ++ []) :=
    .answer _ hnew hacc (by simpa using isSend_respond ev none)
  unfold handlePublish
  split
  · split
    · exact hdrop
    · split
      · exact hdrop
      · rename_i hallow
        split
        · exact hdrop
        · rename_i hr
          refine .publish _ _ _ hnew hacc (by simpa using hallow) ?_ (isSend_respond ev none)
          intro hres
          by_contra hm
          exact hr ⟨hres, hm⟩
  · exact hdrop

/-! ## Any event -/

variable (p cfg) in
/-- What one event does is one of the listed cases. -/
theorem handleEvent_handles (s : Socket) (ev : InEvent) (clock : Clock) :
    Handles p cfg s ev clock (handleEvent p cfg s ev clock) := by
  unfold handleEvent
  split
  · rename_i h; exact handleHandshake_handles s ev clock h
  · rename_i h; exact handleSubscribe_handles s ev clock h
  · rename_i h; exact handleUnsubscribe_handles s ev clock h
  · rename_i h; exact handlePublish_handles s ev clock h
  · rename_i h; exact handleAuthenticate_handles s ev clock h
  · rename_i h
    have hacc : accepts cfg s ev = none := accepts_of_event (by rw [h]; decide)
    refine .install none _ _ (by simp [newToken, h]) hacc rfl rfl rfl rfl ?_ (isSend_respond ev none)
    simp [Socket.setUnauthenticated, h]
  · rename_i h
    exact .close 1000 "" (by simp [newToken, presented, h]) (accepts_of_event (by rw [h]; decide))
  · rename_i h; exact handleLogin_handles s ev clock h
  · rename_i h1 h2 h3 h4 h5 h6 h7 h8
    refine .answer _ ?_ (accepts_of_event h2) (isSend_respondError ev _ _)
    have hpres : presented ev = "" := by rw [presented, if_neg h1, if_neg h5]
    rw [newToken, if_neg h8, if_neg h6, if_neg (not_not.2 hpres), if_neg h1]

/-! ## Consequences -/

/-- What an accepted `login` carries. -/
theorem loginToken_some {ev : InEvent} {clock : Clock} {minted : AuthToken × String}
    (h : loginToken p cfg ev clock = some minted) :
    ∃ request hash instanceID isVisitor isChatToken, ev.data.map decodeLogin = some (request, true) ∧
      loginHash request = some (hash, instanceID) ∧
      validateLoginToken p hash request.chanelName cfg.secretHash clock.check = some (isVisitor, isChatToken) ∧
      minted = signToken p cfg.authKey (mintToken hash request.chanelName instanceID isVisitor isChatToken clock.mint)
        clock.issue := by
  unfold loginToken at h
  split at h
  · rename_i request hd
    obtain ⟨⟨hash, instanceID⟩, hh, h⟩ := Option.bind_eq_some_iff.1 h
    obtain ⟨⟨isVisitor, isChatToken⟩, hv, rfl⟩ := Option.map_eq_some_iff.1 h
    exact ⟨request, hash, instanceID, isVisitor, isChatToken, hd, hh, hv, rfl⟩
  · cases h

/-- Signing fills in the issue time only. -/
theorem signToken_fst (key : List UInt8) (t : AuthToken) (now : Int) :
    (signToken p key t now).1 = { t with iat := if t.iat = 0 then now else t.iat } := by
  simp only [signToken]
  split <;> rfl

/-- The instance id of a `login` is one an `int64` holds. -/
theorem isInt64_loginHash {v : Json} {hash : String} {instanceID : Int}
    (h : loginHash (decodeLogin v).1 = some (hash, instanceID)) : IsInt64 instanceID := by
  have hdefault : ∀ id : Option Int, (∀ n ∈ id, IsInt64 n) → IsInt64 (id.getD 0) := by
    intro id hid
    cases id with
    | none => decide
    | some n => exact hid n rfl
  have houter : ∀ n ∈ (decodeLogin v).1.instanceID, IsInt64 n := by
    refine Json.intoStruct_invariant (P := fun r : LoginRequest => ∀ n ∈ r.instanceID, IsInt64 n) (Q := fun _ => True)
      (fun key v r _ hr => ?_) (by rintro n ⟨⟩) fun _ _ _ _ => trivial
    split_ifs
    · exact hr
    · exact hr
    · exact Json.isInt64_intoIntPtr hr v
    · exact hr
  have hnested : ∀ members, ∀ n ∈ (decodeNestedHash (.obj members)).1.2, IsInt64 n := by
    intro members
    refine Json.intoStruct_invariant (P := fun r : String × Option Int => ∀ n ∈ r.2, IsInt64 n) (Q := fun _ => True)
      (fun key v r _ hr => ?_) (by rintro n ⟨⟩) fun _ _ _ _ => trivial
    split_ifs
    · exact hr
    · exact Json.isInt64_intoIntPtr hr v
    · exact hr
  unfold loginHash at h
  split at h
  · cases h
    exact hdefault _ houter
  · rename_i members _
    split at h
    · rename_i nested hd
      cases h
      have hid := hnested members
      rw [hd] at hid
      exact hdefault _ hid
    · cases h
  · cases h
    exact hdefault _ houter

/-- What an accepted `login` mints verifies to itself before its expiry. -/
theorem verifyToken_loginToken (hj : JsonLaw p) {ev : InEvent} {clock : Clock} {minted : AuthToken × String}
    (h : loginToken p cfg ev clock = some minted) (now : Int) :
    verifyToken p cfg.authKey minted.2 now =
      if 0 < minted.1.exp ∧ minted.1.exp ≤ now then .error .expired
      else .ok { minted.1 with chanelNameChat := "" } := by
  obtain ⟨request, hash, instanceID, isVisitor, isChatToken, hd, hh, -, rfl⟩ := loginToken_some h
  obtain ⟨v, -, hv⟩ := Option.map_eq_some_iff.1 hd
  have hid : IsInt64 instanceID := isInt64_loginHash (v := v) (by rw [hv]; exact hh)
  obtain ⟨⟨hlow, -⟩, -, hhigh⟩ := clock.mint_fits
  have hfits : (mintToken hash request.chanelName instanceID isVisitor isChatToken clock.mint).Fits := by
    refine ⟨?_, show IsInt64 0 by decide, hid⟩
    cases isVisitor
    · exact show -2 ^ 63 ≤ clock.mint + 12 * 60 * 60 ∧ clock.mint + 12 * 60 * 60 < 2 ^ 63 by omega
    · exact show -2 ^ 63 ≤ clock.mint + 120 * 60 ∧ clock.mint + 120 * 60 < 2 ^ 63 by omega
  rw [verifyToken_signToken hj _ hfits clock.issue_fits]
  have hexp : (signToken p cfg.authKey (mintToken hash request.chanelName instanceID isVisitor isChatToken clock.mint)
      clock.issue).1.exp = (mintToken hash request.chanelName instanceID isVisitor isChatToken clock.mint).exp := by
    rw [signToken_fst]
  rw [hexp]

/-- A token comes from an accepted `login`, or from a signed token that verifies. -/
theorem newToken_some {ev : InEvent} {clock : Clock} {token : AuthToken}
    (h : newToken p cfg ev clock = some (some token)) :
    (ev.event = "login" ∧ ∃ signed, loginToken p cfg ev clock = some (token, signed)) ∨
      (presented ev ≠ "" ∧ verifyToken p cfg.authKey (presented ev) clock.check = .ok token) := by
  unfold newToken at h
  split at h
  · rename_i hev
    obtain ⟨⟨minted, signed⟩, hm, he⟩ := Option.map_eq_some_iff.1 h
    cases he
    exact Or.inl ⟨hev, signed, hm⟩
  · split at h
    · cases h
    · split at h
      · rename_i hp
        cases hv : verifyToken p cfg.authKey (presented ev) clock.check with
        | error e => simp [hv, Except.toOption] at h
        | ok t =>
          simp only [hv, Except.toOption, Option.some.injEq] at h
          exact Or.inr ⟨hp, h ▸ rfl⟩
      · split at h <;> cases h

/-- A token that is installed is not marked yet. -/
theorem newToken_unmarked {ev : InEvent} {clock : Clock} {token : AuthToken}
    (h : newToken p cfg ev clock = some (some token)) : token.chanelNameChat = "" := by
  rcases newToken_some h with ⟨-, signed, hl⟩ | ⟨-, hv⟩
  · obtain ⟨_, _, _, _, _, -, -, -, hm⟩ := loginToken_some hl
    have ht : token = _ := congrArg Prod.fst hm
    rw [ht, signToken_fst]; rfl
  · exact verifyToken_runtime hv

/-- A token is installed before its expiry. -/
theorem newToken_unexpired {ev : InEvent} {clock : Clock} {token : AuthToken} (hle : clock.check ≤ clock.mint)
    (h : newToken p cfg ev clock = some (some token)) : 0 < token.exp → clock.check < token.exp := by
  rcases newToken_some h with ⟨-, signed, hl⟩ | ⟨-, hv⟩
  · obtain ⟨_, _, _, isVisitor, _, -, -, -, hm⟩ := loginToken_some hl
    have ht : token = _ := congrArg Prod.fst hm
    intro _
    rw [ht, signToken_fst, mintToken]
    cases isVisitor <;> simp <;> omega
  · exact verifyToken_exp hv

variable (p cfg) in
/-- An event leaves the token it installs, or the token the socket held, marked or not. -/
theorem handleEvent_token (s : Socket) (ev : InEvent) (clock : Clock) :
    (∀ token, newToken p cfg ev clock = some token → (handleEvent p cfg s ev clock).1.token = token) ∧
      (newToken p cfg ev clock = none → ∀ token, (handleEvent p cfg s ev clock).1.token = some token →
        ∃ old, s.token = some old ∧ { old with chanelNameChat := "" } = { token with chanelNameChat := "" }) := by
  have hh := handleEvent_handles p cfg s ev clock
  generalize handleEvent p cfg s ev clock = r at hh
  have hkeep : newToken p cfg ev clock = none →
      (∀ token, newToken p cfg ev clock = some token → s.token = token) ∧
        (newToken p cfg ev clock = none → ∀ token, s.token = some token →
          ∃ old, s.token = some old ∧ { old with chanelNameChat := "" } = { token with chanelNameChat := "" }) :=
    fun hn => ⟨fun _ h => (by rw [hn] at h; cases h), fun _ token ht => ⟨token, ht, rfl⟩⟩
  cases hh with
  | answer _ hn => exact hkeep hn
  | close _ _ hn => exact hkeep hn
  | publish _ _ _ hn => exact hkeep hn
  | unsubscribe _ _ hn => exact hkeep hn
  | install token s' _ hn _ _ htok =>
    rw [hn]
    exact ⟨fun _ h => (by cases h; exact htok), fun h => nomatch h⟩
  | subscribe channel token _ hn ha =>
    obtain ⟨-, -, -, -, ht, -⟩ := accepts_some.1 ha
    refine ⟨fun _ h => (by rw [hn] at h; cases h), fun _ t h => ⟨token, ht, ?_⟩⟩
    cases h
    unfold marked
    split <;> rfl

/-- A property of tokens that every installed token has, and that does not depend on the mark, holds of
the token a socket is left with. -/
theorem handleEvent_token_invariant {P : AuthToken → Prop} {s : Socket} {ev : InEvent} {clock : Clock}
    (hmark : ∀ t channel, P t → P { t with chanelNameChat := channel })
    (hnew : ∀ token, newToken p cfg ev clock = some (some token) → P token)
    (hs : ∀ token, s.token = some token → P token) :
    ∀ token, (handleEvent p cfg s ev clock).1.token = some token → P token := by
  intro token ht
  obtain ⟨h1, h2⟩ := handleEvent_token p cfg s ev clock
  cases hn : newToken p cfg ev clock with
  | some t => exact hnew token (hn.trans (congrArg some ((h1 t hn).symm.trans ht)))
  | none =>
    obtain ⟨old, hold, hsame⟩ := h2 hn token ht
    have hempty : P { token with chanelNameChat := "" } := hsame ▸ hmark old "" (hs old hold)
    have := hmark _ token.chanelNameChat hempty
    exact this

/-- Only an accepted subscription adds the socket to the hub. -/
theorem accepts_of_hubAdd {s : Socket} {ev : InEvent} {clock : Clock} {channel : String}
    (h : .hubAdd channel ∈ (handleEvent p cfg s ev clock).2) :
    ∃ token, accepts cfg s ev = some (channel, token) := by
  have hh := handleEvent_handles p cfg s ev clock
  generalize handleEvent p cfg s ev clock = r at hh h
  have hsend : ∀ out : List Effect, (∀ e ∈ out, e.isSend = true) → .hubAdd channel ∉ out :=
    fun out ho hm => by cases ho _ hm
  cases hh with
  | answer out _ _ ho => exact absurd h (hsend out ho)
  | close => simp at h
  | publish _ _ out _ _ _ _ ho => simp [hsend out ho] at h
  | unsubscribe _ out _ _ _ ho => simp [hsend out ho] at h
  | install _ _ out _ _ _ _ _ _ _ ho => exact absurd h (hsend out ho)
  | subscribe c token out _ ha ho =>
    have hpres : .hubAdd channel ∉ subscribePresence cfg token c := by
      unfold subscribePresence
      split
      · simp
      · split <;> simp
    simp only [List.mem_append, hpres, List.mem_cons, Effect.hubAdd.injEq, hsend out ho, false_or, or_false] at h
    exact ⟨token, h ▸ ha⟩

/-- An accepted subscription adds the socket to the hub. -/
theorem hubAdd_of_accepts {s : Socket} {ev : InEvent} {channel : String} {token : AuthToken} (clock : Clock)
    (h : accepts cfg s ev = some (channel, token)) : .hubAdd channel ∈ (handleEvent p cfg s ev clock).2 := by
  have hh := handleEvent_handles p cfg s ev clock
  generalize handleEvent p cfg s ev clock = r at hh
  cases hh with
  | answer _ _ ha => rw [ha] at h; cases h
  | close _ _ _ ha => rw [ha] at h; cases h
  | publish _ _ _ _ ha => rw [ha] at h; cases h
  | unsubscribe _ _ _ ha => rw [ha] at h; cases h
  | install _ _ _ _ ha => rw [ha] at h; cases h
  | subscribe c t out _ ha =>
    rw [ha] at h
    cases h
    exact List.mem_append_right _ List.mem_cons_self

variable (cfg) in
/-- What an event that installs or drops a token leaves behind. -/
theorem handleEvent_install (s : Socket) {ev : InEvent} {clock : Clock} {token : Option AuthToken}
    (h : newToken p cfg ev clock = some token) :
    (handleEvent p cfg s ev clock).1.token = token ∧ (handleEvent p cfg s ev clock).1.subs = s.subs ∧
      (handleEvent p cfg s ev clock).1.handshaken = (s.handshaken || ev.event == "#handshake") := by
  have hh := handleEvent_handles p cfg s ev clock
  generalize handleEvent p cfg s ev clock = r at hh
  cases hh with
  | answer _ hn => rw [hn] at h; cases h
  | close _ _ hn => rw [hn] at h; cases h
  | publish _ _ _ hn => rw [hn] at h; cases h
  | unsubscribe _ _ hn => rw [hn] at h; cases h
  | subscribe _ _ _ hn => rw [hn] at h; cases h
  | install t s' _ hn _ _ htok _ hsubs hhand =>
    rw [hn] at h
    cases h
    exact ⟨htok, hsubs, hhand⟩

/-- A channel enters the subscriptions of a socket with an accepted subscription only. -/
theorem handleEvent_subs {s : Socket} {ev : InEvent} {clock : Clock} {channel : String}
    (h : channel ∈ (handleEvent p cfg s ev clock).1.subs) :
    channel ∈ s.subs ∨ ∃ token, accepts cfg s ev = some (channel, token) := by
  have hh := handleEvent_handles p cfg s ev clock
  generalize handleEvent p cfg s ev clock = r at hh h
  cases hh with
  | answer => exact Or.inl h
  | close => exact Or.inl h
  | publish => exact Or.inl h
  | unsubscribe => exact Or.inl (Finset.mem_of_mem_erase h)
  | install _ _ _ _ _ _ _ _ hsubs => exact Or.inl (hsubs ▸ h)
  | subscribe c token _ _ ha =>
    rcases Finset.mem_insert.1 h with rfl | h
    · exact Or.inr ⟨token, ha⟩
    · exact Or.inl h

/-- The presence of a subscription sends nothing to the client. -/
theorem send_notMem_subscribePresence {token : AuthToken} {channel : String} {packet : Packet} :
    .send packet ∉ subscribePresence cfg token channel := by
  unfold subscribePresence
  split
  · simp
  · split <;> simp

/-- A handler sends its client no `#publish` packet. -/
theorem plain_of_send {s : Socket} {ev : InEvent} {clock : Clock} {packet : Packet}
    (h : .send packet ∈ (handleEvent p cfg s ev clock).2) : packet.plain = true := by
  have hsend : ∀ out : List Effect, (∀ e ∈ out, e.isSend = true) → .send packet ∈ out → packet.plain = true := by
    intro out ho hm
    have := ho _ hm
    cases packet <;> first | rfl | cases this
  have hh := handleEvent_handles p cfg s ev clock
  generalize handleEvent p cfg s ev clock = r at hh h
  cases hh with
  | answer out _ _ ho => exact hsend out ho h
  | close => simp at h
  | publish _ _ out _ _ _ _ ho => exact hsend out ho (by simpa using h)
  | unsubscribe _ out _ _ _ ho => exact hsend out ho (by simpa using h)
  | install _ _ out _ _ _ _ _ _ _ ho => exact hsend out ho h
  | subscribe c token out _ ha ho =>
    exact hsend out ho (by simpa [send_notMem_subscribePresence] using h)

/-! ## The events of the browser clients -/

@[simp] theorem presented_handshakeEvent (authToken : Option String) (cid : Int) :
    presented (handshakeEvent authToken cid) = authToken.getD "" := by
  have hk : Json.keyMatches "authToken" "authToken" = true := by decide
  cases authToken <;> simp [presented, handshakeEvent, decodeHandshake, Json.intoStruct, Json.intoString, hk]

@[simp] theorem parseChannelPayload_subscribeEvent (channel : String) (cid : Int) :
    parseChannelPayload (subscribeEvent channel cid).data = (channel, false) := by
  have hk : Json.keyMatches "channel" "channel" = true := by decide
  simp [subscribeEvent, parseChannelPayload, Json.intoStruct, hk]

theorem decodeLogin_loginEvent (hash chanelName : String) {instanceID : Nat} (cid : Int) (h : instanceID < 2 ^ 63) :
    (loginEvent hash chanelName instanceID cid).data.map decodeLogin =
      some (⟨some (.str hash), chanelName, some instanceID⟩, true) := by
  have hnum : Json.intoIntPtr none (.num (itoa instanceID)) = (some (instanceID : Int), true) := by
    simp only [Json.intoIntPtr, itoa_ofNat, parseInt64_repr h]
  have hk : Json.keyMatches "hash" "hash" = true ∧ Json.keyMatches "chanelName" "hash" = false ∧
      Json.keyMatches "chanelName" "chanelName" = true ∧ Json.keyMatches "instance_id" "hash" = false ∧
      Json.keyMatches "instance_id" "chanelName" = false ∧ Json.keyMatches "instance_id" "instance_id" = true := by
    decide
  obtain ⟨h1, h2, h3, h4, h5, h6⟩ := hk
  simp only [loginEvent, decodeLogin, Json.intoStruct, List.foldl_cons, List.foldl_nil, Option.map_some, h1, h2, h3, h4,
    h5, h6, if_true, Bool.false_eq_true, if_false, Json.intoRaw, Json.intoString_str, hnum, Bool.and_self]

/-- An accepted `login` is answered without an error, and the token is sent. -/
theorem handleLogin_accepted (s : Socket) {ev : InEvent} {clock : Clock} {request : LoginRequest} {hash : String}
    {instanceID : Int} {isVisitor isChatToken : Bool} (hd : ev.data.map decodeLogin = some (request, true))
    (hh : loginHash request = some (hash, instanceID))
    (hv : validateLoginToken p hash request.chanelName cfg.secretHash clock.check = some (isVisitor, isChatToken)) :
    ∃ data cid, (handleLogin p cfg s ev clock).2 = respond ev none ++ [.send (.event "#setAuthToken" data cid)] := by
  unfold handleLogin
  simp only [hd, hh, hv]
  exact ⟨_, _, rfl⟩

/-- A `login` with a hash the server accepts installs the token it mints. -/
theorem newToken_loginEvent {hash chanelName : String} {instanceID : Nat} (cid : Int) {clock : Clock}
    {isVisitor isChatToken : Bool} (h : instanceID < 2 ^ 63)
    (hv : validateLoginToken p hash chanelName cfg.secretHash clock.check = some (isVisitor, isChatToken)) :
    newToken p cfg (loginEvent hash chanelName instanceID cid) clock =
      some (some (signToken p cfg.authKey (mintToken hash chanelName instanceID isVisitor isChatToken clock.mint)
        clock.issue).1) := by
  have hev : (loginEvent hash chanelName instanceID cid).event = "login" := rfl
  simp [newToken, hev, loginToken, decodeLogin_loginEvent hash chanelName cid h, loginHash, hv]

variable (cfg) in
/-- A chat visitor that completed the handshake logs in, and its subscription to the channel it logged in
with is accepted while there is room for it. -/
theorem accepts_after_login {s : Socket} {hash chanelName : String} {instanceID : Nat} (cid cid' : Int) (clock : Clock)
    (hid : instanceID < 2 ^ 63) (hhand : s.handshaken = true) (hne : chanelName ≠ "")
    (hv : validateLoginToken p hash chanelName cfg.secretHash clock.check = some (true, true))
    (hroom : chanelName ∈ s.subs ∨ s.subs.card < cfg.channelLimit) :
    ∃ token, accepts cfg (handleEvent p cfg s (loginEvent hash chanelName instanceID cid) clock).1
      (subscribeEvent chanelName cid') = some (chanelName, token) := by
  obtain ⟨htok, hsubs, hhand'⟩ := handleEvent_install cfg s (newToken_loginEvent cid hid hv)
  refine ⟨_, accepts_some.2 ⟨rfl, ?_, hne, ?_, htok, ?_, hsubs ▸ hroom⟩⟩
  · rw [parseChannelPayload_subscribeEvent]
  · rw [hhand', hhand]; rfl
  · simp [refusesToken, signToken_fst, mintToken]

end NodejsHelper
