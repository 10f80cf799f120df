/-
The connect sequence of the visitor's widget (`customjs-widget.js`) against the server: `#handshake`
with the token the browser has stored, then either at once the `#subscribe` to the chat of the page,
when the answer reports an authenticated socket, or first a `login` with a fresh hash. The widget
reaches its own chat exactly when the stored token is not one of another chat (`connect_accepted_iff`).
-/
import NodejsHelper.Socket.Spec
import NodejsHelper.Auth.Domain

namespace NodejsHelper.Widget

open Auth Strings

/-! ## The page and the browser -/

/-- What the page is opened for: a chat, none when its id is not positive, and the instance of an
automated hosting, none when zero. -/
structure Page where
  chatId : Int
  instanceId : Nat

/-- `chanelName`: the channel the widget logs in with and subscribes to. -/
def chanelName (page : Page) : String :=
  if 0 < page.instanceId then "chat_" ++ itoa page.instanceId ++ "_" ++ itoa page.chatId
  else "chat_" ++ itoa page.chatId

/-- The answer of `tokenvisitor.php`, its instance id a machine integer. -/
structure Answer where
  hash : String
  instanceId : Nat
  instanceId_lt : instanceId < 2 ^ 63

/-- The clocks of the three events of a connection. -/
structure Clocks where
  handshake : Clock
  login : Clock
  subscribe : Clock

/-- The response to a call carries an error. -/
def failed (rid : Int) (out : List Effect) : Bool :=
  out.any fun e =>
    match e with
    | .send (.response r _ (some _)) => r == rid
    | _ => false

section

variable (p : Primitives) (cfg : Config)

/-- The connection of a widget: what its `#subscribe` does, or nothing when its `login` fails. -/
def connect (id : String) (stored : Option String) (page : Page) (answer : Answer) (clocks : Clocks) :
    Option (Socket × List Effect) :=
  let opened := handleEvent p cfg (newSocket id) (handshakeEvent stored 1) clocks.handshake
  let isAuthenticated := opened.2.any reportsAuthenticated
  if isAuthenticated = true ∧ 0 < page.chatId then
    some (handleEvent p cfg opened.1 (subscribeEvent (chanelName page) 2) clocks.subscribe)
  else
    let login := handleEvent p cfg opened.1 (loginEvent answer.hash (chanelName page) answer.instanceId 2) clocks.login
    if failed 2 login.2 then none
    else some (handleEvent p cfg login.1 (subscribeEvent (chanelName page) 3) clocks.subscribe)

/-- The `#subscribe` of the widget is accepted. -/
def Accepted (id : String) (stored : Option String) (page : Page) (answer : Answer) (clocks : Clocks) : Prop :=
  ∃ r, connect p cfg id stored page answer clocks = some r ∧ .hubAdd (chanelName page) ∈ r.2

/-- What a browser can have stored: nothing, a token the server rejects (expired, or signed with another
key), or the token of an earlier accepted login of the widget. -/
inductive History (now : Int) : Option String → Prop
  | absent : History now none
  | rejected (signed : String) (error : TokenError) :
      verifyToken p cfg.authKey signed now = .error error → History now (some signed)
  | loggedIn (page : Page) (answer : Answer) (date : Nat) (cid : Int) (clock : Clock) (minted : AuthToken × String) :
      date < 2 ^ 63 → answer.hash = tokenvisitor p cfg.secretHash (some (itoa page.chatId)) date →
      loginToken p cfg (loginEvent answer.hash (chanelName page) answer.instanceId cid) clock = some minted →
      History now (some minted.2)

/-- The browser has stored a token that is still valid, of another channel than the page's. -/
def HoldsOther (now : Int) (stored : Option String) (page : Page) : Prop :=
  ∃ signed token, stored = some signed ∧ verifyToken p cfg.authKey signed now = .ok token ∧
    token.chanelName ≠ chanelName page

end

variable {p : Primitives} {cfg : Config}

/-! ## The channel of a page -/

theorem chanelName_chat (page : Page) : contains (chanelName page) "chat_" = true := by
  unfold chanelName
  split
  · exact contains_append_left (contains_append_left (contains_append_left (by decide) _) _) _
  · exact contains_append_left (by decide) _

theorem chanelName_ne_empty (page : Page) : chanelName page ≠ "" := by
  intro h
  have := chanelName_chat page
  rw [h] at this
  exact absurd this (by decide)

/-- The channel of a page ends in its chat's id. -/
theorem lastPart_chanelName (page : Page) : lastPart (chanelName page) '_' = itoa page.chatId := by
  have hid : '_' ∉ (itoa page.chatId).toList := notMem_itoa (by decide) (by decide)
  unfold chanelName
  split
  · rw [← singleton_underscore]
    exact lastPart_append_sep _ hid
  · have hchat : "chat_" = "chat" ++ String.singleton '_' := by decide
    rw [hchat]
    exact lastPart_append_sep _ hid

/-! ## The handshake -/

/-- The handshake reports an authenticated socket exactly when the stored token verifies, and the socket
then holds it. -/
theorem handshake_spec (p : Primitives) (cfg : Config) (id : String) (stored : Option String) (clock : Clock) :
    let opened := handleEvent p cfg (newSocket id) (handshakeEvent stored 1) clock
    opened.2.any reportsAuthenticated = opened.1.token.isSome ∧ opened.1.handshaken = true ∧ opened.1.subs = ∅ ∧
      opened.1.token = stored.bind fun signed =>
        if signed = "" then none else (verifyToken p cfg.authKey signed clock.check).toOption := by
  intro opened
  have hnew : newToken p cfg (handshakeEvent stored 1) clock = some (stored.bind fun signed =>
      if signed = "" then none else (verifyToken p cfg.authKey signed clock.check).toOption) := by
    have hev : (handshakeEvent stored 1).event = "#handshake" := rfl
    cases stored with
    | none => simp [newToken, hev]
    | some signed =>
      by_cases hs : signed = ""
      · subst hs; simp [newToken, hev]
      · simp [newToken, hev, hs]
  obtain ⟨htok, hsubs, hhand⟩ := handleEvent_install cfg (newSocket id) hnew
  refine ⟨?_, hhand.trans (by simp [handshakeEvent]), hsubs, htok⟩
  have hauthed : opened.2.any reportsAuthenticated = opened.1.authed := by
    have hr : opened = handleHandshake p cfg (newSocket id) (handshakeEvent stored 1) clock := rfl
    rw [hr]
    have hcid : ∀ data, respond (handshakeEvent stored 1) data = [.send (.response 1 data none)] := fun _ => rfl
    simp only [handleHandshake, hcid, List.any_cons, List.any_nil, Bool.or_false, reports_handshakeStatus]
  rw [hauthed]
  have hh := handleEvent_handles p cfg (newSocket id) (handshakeEvent stored 1) clock
  -- a handshake installs a token or drops it, and does nothing else
  have hgen : ∀ r, Handles p cfg (newSocket id) (handshakeEvent stored 1) clock r → r.1.authed = r.1.token.isSome := by
    intro r hr
    cases hr with
    | install token s' out _ _ _ ht ha => rw [ht]; exact ha
    | subscribe _ _ _ hn => rw [hn] at hnew; cases hnew
    | answer _ hn => rw [hn] at hnew; cases hnew
    | close _ _ hn => rw [hn] at hnew; cases hnew
    | publish _ _ _ hn => rw [hn] at hnew; cases hnew
    | unsubscribe _ _ hn => rw [hn] at hnew; cases hnew
  exact hgen _ hh

/-- A token that verifies is not the empty text. -/
theorem verifyToken_empty (key : List UInt8) (now : Int) : verifyToken p key "" now = .error .invalid := by
  have hs : split "" '.' = [""] := split_of_notMem (by simp)
  unfold verifyToken
  rw [hs]

/-- What the browser's history gives the socket: no token, or one of an accepted login of the widget. -/
theorem token_of_history (hp : Sha1Laws p) (hj : JsonLaw p) {now : Int} {stored : Option String}
    (h : History p cfg now stored) {signed : String} {token : AuthToken} (hs : stored = some signed)
    (hv : verifyToken p cfg.authKey signed now = .ok token) : token.isVisitor = true ∧ token.isChatToken = true := by
  cases h with
  | absent => cases hs
  | rejected s error he =>
    cases hs
    rw [he] at hv
    cases hv
  | loggedIn page answer date cid clock minted hdate hhash hl =>
    cases hs
    rw [verifyToken_loginToken hj hl] at hv
    obtain ⟨request, hash, instanceID, isVisitor, isChatToken, hd, hh, hval, rfl⟩ := loginToken_some hl
    rw [decodeLogin_loginEvent _ _ _ answer.instanceId_lt] at hd
    cases hd
    cases hh
    rw [hhash, validate_tokenvisitor hp hdate] at hval
    split at hval
    · -- the stored token is the one the login minted, if it has not expired
      cases hval
      split at hv
      · cases hv
      · cases hv
        rw [signToken_fst]
        exact ⟨rfl, rfl⟩
    · cases hval

/-! ## The login -/

/-- A fresh hash of the page's chat is accepted for the page's channel. -/
theorem validate_answer (hp : Sha1Laws p) {page : Page} {answer : Answer} {date : Nat} {now : Int}
    (hdate : date < 2 ^ 63)
    (hhash : answer.hash = tokenvisitor p cfg.secretHash (some (itoa page.chatId)) date)
    (hfresh : now - 60 * 60 < date) :
    validateLoginToken p answer.hash (chanelName page) cfg.secretHash now = some (true, true) := by
  rw [hhash, validate_tokenvisitor hp hdate, if_pos ⟨hfresh, chanelName_chat page, lastPart_chanelName page⟩]

/-- An accepted `login` is answered without an error. -/
theorem not_failed {s : Socket} {hash name : String} {instanceId : Nat} {cid : Int} {clock : Clock} {v c : Bool}
    (hid : instanceId < 2 ^ 63) (hv : validateLoginToken p hash name cfg.secretHash clock.check = some (v, c)) :
    failed cid (handleEvent p cfg s (loginEvent hash name instanceId cid) clock).2 = false := by
  have hr : handleEvent p cfg s (loginEvent hash name instanceId cid) clock =
      handleLogin p cfg s (loginEvent hash name instanceId cid) clock := rfl
  have hcid : respond (loginEvent hash name instanceId cid) none = [.send (.response cid none none)] := rfl
  obtain ⟨data, call, hout⟩ := handleLogin_accepted s (decodeLogin_loginEvent hash name cid hid) rfl hv
  rw [hr, hout, hcid]
  rfl

/-! ## The result -/

/-- With a stored token that verifies, on a page with a chat, the widget subscribes at once, and the
server decides by the stored token. -/
theorem accepted_of_stored (hlimit : 0 < cfg.channelLimit) {id signed : String} {page : Page} {answer : Answer}
    {clocks : Clocks} {token : AuthToken} (hchat : 0 < page.chatId)
    (hv : verifyToken p cfg.authKey signed clocks.handshake.check = .ok token) :
    Accepted p cfg id (some signed) page answer clocks ↔ refusesToken cfg token (chanelName page) = false := by
  obtain ⟨hauth, hhand, hsubs, htok⟩ := handshake_spec p cfg id (some signed) clocks.handshake
  have hne : signed ≠ "" := by
    rintro rfl
    rw [verifyToken_empty] at hv
    cases hv
  unfold Accepted connect
  dsimp only
  generalize handleEvent p cfg (newSocket id) (handshakeEvent (some signed) 1) clocks.handshake = opened at *
  have ht : opened.1.token = some token := by
    rw [htok, Option.bind_some, if_neg hne, hv]; rfl
  rw [hauth, ht, if_pos ⟨rfl, hchat⟩]
  constructor
  · rintro ⟨r, hr, hadd⟩
    cases hr
    obtain ⟨token', ha⟩ := accepts_of_hubAdd hadd
    obtain ⟨-, -, -, -, ht', href, -⟩ := accepts_some.1 ha
    cases ht.symm.trans ht'
    exact href
  · intro href
    refine ⟨_, rfl,
      hubAdd_of_accepts _ (accepts_some.2 ⟨rfl, ?_, chanelName_ne_empty page, hhand, ht, href, Or.inr ?_⟩)⟩
    · rw [parseChannelPayload_subscribeEvent]
    · rw [hsubs]; simpa using hlimit

/-- Without a stored token that verifies, or on a page without a chat, the widget logs in first, and its
subscription is accepted. -/
theorem accepted_of_login (hp : Sha1Laws p) (hlimit : 0 < cfg.channelLimit) {id : String} {stored : Option String}
    {page : Page} {answer : Answer} {clocks : Clocks} {date : Nat} (hdate : date < 2 ^ 63)
    (hhash : answer.hash = tokenvisitor p cfg.secretHash (some (itoa page.chatId)) date)
    (hfresh : clocks.login.check - 60 * 60 < date)
    (hno : 0 < page.chatId → ∀ signed token, stored = some signed →
      verifyToken p cfg.authKey signed clocks.handshake.check ≠ .ok token) :
    Accepted p cfg id stored page answer clocks := by
  obtain ⟨hauth, hhand, hsubs, htok⟩ := handshake_spec p cfg id stored clocks.handshake
  have hval := validate_answer hp hdate hhash hfresh
  unfold Accepted connect
  dsimp only
  generalize handleEvent p cfg (newSocket id) (handshakeEvent stored 1) clocks.handshake = opened at *
  have hlogin : ¬ (opened.1.token.isSome = true ∧ 0 < page.chatId) := by
    rintro ⟨hsome, hchat⟩
    obtain ⟨token, ht⟩ := Option.isSome_iff_exists.1 hsome
    obtain ⟨signed, hs, hv⟩ := Option.bind_eq_some_iff.1 (htok.symm.trans ht)
    split at hv
    · cases hv
    · cases hver : verifyToken p cfg.authKey signed clocks.handshake.check with
      | error e => rw [hver] at hv; cases hv
      | ok t => exact hno hchat signed t hs hver
  rw [hauth, if_neg hlogin, not_failed answer.instanceId_lt hval, if_neg Bool.false_ne_true]
  obtain ⟨token, ha⟩ := accepts_after_login cfg 2 3 clocks.login answer.instanceId_lt hhand (chanelName_ne_empty page)
    hval (Or.inr (by rw [hsubs]; simpa using hlimit))
  exact ⟨_, rfl, hubAdd_of_accepts _ ha⟩

/-- The widget's `#subscribe` to its own chat is accepted exactly when the page has no chat yet or the
browser has not stored a valid token of another channel. -/
theorem connect_accepted_iff (hp : Sha1Laws p) (hj : JsonLaw p) (hstrict : cfg.strictChannelBinding = true)
    (hlimit : 0 < cfg.channelLimit) {id : String} {stored : Option String} {page : Page} {answer : Answer}
    {clocks : Clocks} {date : Nat} (hdate : date < 2 ^ 63)
    (hhash : answer.hash = tokenvisitor p cfg.secretHash (some (itoa page.chatId)) date)
    (hfresh : clocks.login.check - 60 * 60 < date) (hist : History p cfg clocks.handshake.check stored) :
    Accepted p cfg id stored page answer clocks ↔
      ¬ (0 < page.chatId ∧ HoldsOther p cfg clocks.handshake.check stored page) := by
  -- with a token that verifies and a chat on the page there is no login
  by_cases hdirect : 0 < page.chatId ∧ ∃ signed token, stored = some signed ∧
      verifyToken p cfg.authKey signed clocks.handshake.check = .ok token
  · obtain ⟨hchat, signed, token, rfl, hv⟩ := hdirect
    obtain ⟨hvis, hkind⟩ := token_of_history hp hj hist rfl hv
    rw [accepted_of_stored hlimit hchat hv, and_iff_right hchat]
    have hother : HoldsOther p cfg clocks.handshake.check (some signed) page ↔ chanelName page ≠ token.chanelName := by
      constructor
      · rintro ⟨signed', token', hs, hv', hne⟩
        cases hs
        cases hv.symm.trans hv'
        exact hne.symm
      · exact fun hne => ⟨signed, token, rfl, hv, hne.symm⟩
    rw [hother]
    simp [refusesToken, isChatChannel, chanelName_chat, hvis, hkind, hstrict]
  · refine iff_of_true (accepted_of_login hp hlimit hdate hhash hfresh fun hchat signed token hs hv => ?_) ?_
    · exact hdirect ⟨hchat, signed, token, hs, hv⟩
    · rintro ⟨hchat, signed, token, hs, hv, -⟩
      exact hdirect ⟨hchat, signed, token, hs, hv⟩

/-- A first visit to chat 55. -/
def samplePage : Page := ⟨55, 0⟩

def sampleAnswer : Answer := ⟨sampleToken.token, 0, by decide⟩

/-- A browser without a stored token reaches its chat. -/
theorem connect_accepted_iff_sample :
    Accepted sample (defaultConfig "secret" sampleKey "") "s" none samplePage sampleAnswer
        ⟨sampleClock, sampleClock, sampleClock⟩ ↔
      ¬ (0 < samplePage.chatId ∧ HoldsOther sample (defaultConfig "secret" sampleKey "") 1700000000 none samplePage) :=
  connect_accepted_iff sample_sha1 sample_json rfl (by decide) (by decide : 1700000000 < 2 ^ 63) (by decide) (by decide)
    (.absent)

/-- A visitor whose chat 55 is over opens chat 56 within two hours: the widget skips the login, and its
subscription is refused. -/
theorem connect_refused :
    ¬ ∀ (p : Primitives) (cfg : Config) (id : String) (stored : Option String) (page : Page) (answer : Answer)
        (clocks : Clocks) (date : Nat), Sha1Laws p → JsonLaw p → cfg.strictChannelBinding = true →
          0 < cfg.channelLimit →
      date < 2 ^ 63 → answer.hash = tokenvisitor p cfg.secretHash (some (itoa page.chatId)) date →
        clocks.login.check - 60 * 60 < date → History p cfg clocks.handshake.check stored →
          Accepted p cfg id stored page answer clocks := by
  intro h
  let cfg := defaultConfig "secret" sampleKey ""
  let minted := signToken sample cfg.authKey (mintToken sampleToken.token "chat_55" 0 true true 1700000000) 1700000000
  let later : Clock := .inSecond 1700003600
  have hhist : History sample cfg later.check (some minted.2) :=
    .loggedIn samplePage sampleAnswer 1700000000 2 sampleClock minted (by decide) (by decide) rfl
  have hv : verifyToken sample cfg.authKey minted.2 later.check = .ok { minted.1 with chanelNameChat := "" } := by
    have hminted : loginToken sample cfg (loginEvent sampleToken.token "chat_55" 0 2) sampleClock = some minted := rfl
    rw [verifyToken_loginToken sample_json hminted, if_neg (by decide)]
  let answer : Answer := ⟨tokenvisitor sample cfg.secretHash (some (itoa 56)) 1700003600, 0, by decide⟩
  have hacc := h sample cfg "s" (some minted.2) ⟨56, 0⟩ answer ⟨later, later, later⟩ 1700003600
    sample_sha1 sample_json rfl (by decide) (by decide) rfl (by decide) hhist
  have hiff : Accepted sample cfg "s" (some minted.2) ⟨56, 0⟩ answer ⟨later, later, later⟩ ↔
      refusesToken cfg { minted.1 with chanelNameChat := "" } (chanelName ⟨56, 0⟩) = false :=
    accepted_of_stored (by decide) (by decide) hv
  exact absurd (hiff.1 hacc) (by decide)

end NodejsHelper.Widget
