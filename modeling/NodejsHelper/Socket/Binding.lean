/-
What one visitor hash opens. The hash `tokenvisitor.php` signs covers the id of a chat, which the
server finds as the last segment of the channel name a client logs in with; the binding of a visitor
token is to the whole name. So the hash opens one chat exactly when the names sent with it hold at
most one chat channel that ends in the id (`one_chat_iff`).
-/
import NodejsHelper.Lib.Run
import NodejsHelper.Socket.Spec
import NodejsHelper.Auth.Domain

namespace NodejsHelper.Binding

open Auth Strings

/-! ## Any number of sockets with one credential -/

/-- The sockets of a server. -/
abbrev Sockets := Nat → Socket

/-- Fresh connections. -/
def start (ids : Nat → String) : Sockets := fun i => newSocket (ids i)

section

variable (p : Primitives) (cfg : Config)

/-- One event of one socket. -/
def step (s : Sockets) (l : Nat × InEvent × Clock) : Option Sockets :=
  some (Function.update s l.1 (handleEvent p cfg (s l.1) l.2.1 l.2.2).1)

/-- A `login` sends no hash but this one, and none but these names. -/
def LoginsWith (hash : String) (names : Set String) (ev : InEvent) : Prop :=
  ∀ request sent instanceID, ev.data.map decodeLogin = some (request, true) →
    loginHash request = some (sent, instanceID) → sent = hash ∧ request.chanelName ∈ names

/-- The event presents no credential but the hash, or a signed token that a login with it returned. -/
def OnlyCredential (hash : String) (names : Set String) (ev : InEvent) : Prop :=
  (ev.event = "login" → LoginsWith hash names ev) ∧
    (presented ev ≠ "" → ∃ login clock minted, LoginsWith hash names login ∧
      loginToken p cfg login clock = some minted ∧ presented ev = minted.2)

/-- A `#subscribe` of the run on the chat channel is accepted. -/
def Opened (ids : Nat → String) (tr : List (Nat × InEvent × Clock)) (channel : String) : Prop :=
  contains channel "chat_" = true ∧ ∃ pre i ev clock post s, tr = pre ++ (i, ev, clock) :: post ∧
    Transition.run (step p cfg) (start ids) pre = some s ∧
      .hubAdd channel ∈ (handleEvent p cfg (s i) ev clock).2

/-- The name is a chat channel's that ends in the id. -/
def EndsIn (id chanelName : String) : Prop := contains chanelName "chat_" = true ∧ lastPart chanelName '_' = id

instance (id chanelName : String) : Decidable (EndsIn id chanelName) := inferInstanceAs (Decidable (_ ∧ _))

end

variable {p : Primitives} {cfg : Config}

/-! ## What the credential is worth -/

/-- A token the hash can pay for. -/
def Paid (id : String) (names : Set String) (token : AuthToken) : Prop :=
  token.isVisitor = true ∧ token.chanelName ∈ names ∧ EndsIn id token.chanelName

/-- A `login` with the hash mints a visitor token for a chat channel that ends in the id. -/
theorem paid_of_login (hp : Sha1Laws p) {id : String} {date : Nat} (hdate : date < 2 ^ 63) {names : Set String}
    {ev : InEvent} {clock : Clock} {minted : AuthToken × String}
    (hev : LoginsWith (tokenvisitor p cfg.secretHash (some id) date) names ev)
    (h : loginToken p cfg ev clock = some minted) : Paid id names minted.1 := by
  obtain ⟨request, hash, instanceID, isVisitor, isChatToken, hd, hh, hv, rfl⟩ := loginToken_some h
  obtain ⟨rfl, hname⟩ := hev request hash instanceID hd hh
  rw [validate_tokenvisitor hp hdate] at hv
  split at hv
  · rename_i hok
    cases hv
    rw [signToken_fst]
    exact ⟨rfl, hname, hok.2⟩
  · cases hv

theorem paid_of_newToken (hp : Sha1Laws p) (hj : JsonLaw p) {id : String} {date : Nat} (hdate : date < 2 ^ 63)
    {names : Set String} {ev : InEvent} {clock : Clock} {token : AuthToken}
    (hev : OnlyCredential p cfg (tokenvisitor p cfg.secretHash (some id) date) names ev)
    (h : newToken p cfg ev clock = some (some token)) : Paid id names token := by
  rcases newToken_some h with ⟨hlogin, signed, hl⟩ | ⟨hpres, hv⟩
  · exact paid_of_login hp hdate (hev.1 hlogin) hl
  · obtain ⟨login, clock0, minted, hl, hm, he⟩ := hev.2 hpres
    have hpaid := paid_of_login hp hdate hl hm
    rw [he, verifyToken_loginToken hj hm] at hv
    split at hv
    · cases hv
    · cases hv; exact hpaid

/-- The sockets hold paid tokens, and without a positive limit no subscription. -/
structure Inv (cfg : Config) (id : String) (names : Set String) (s : Sockets) : Prop where
  paid : ∀ i token, (s i).token = some token → Paid id names token
  limit : cfg.channelLimit ≤ 0 → ∀ i, (s i).subs = ∅

theorem inv_start {id : String} {names : Set String} (ids : Nat → String) : Inv cfg id names (start ids) :=
  ⟨fun _ _ h => (nomatch h), fun _ _ => rfl⟩

/-- Without a positive limit nothing is accepted. -/
theorem limit_of_accepts {s : Socket} {ev : InEvent} {channel : String} {token : AuthToken}
    (hs : cfg.channelLimit ≤ 0 → s.subs = ∅) (h : accepts cfg s ev = some (channel, token)) :
    0 < cfg.channelLimit := by
  obtain ⟨-, -, -, -, -, -, hroom⟩ := accepts_some.1 h
  by_contra hle
  have hempty := hs (by omega)
  rcases hroom with hm | hlt
  · rw [hempty] at hm; cases hm
  · rw [hempty, Finset.card_empty] at hlt; omega

theorem inv_step (hp : Sha1Laws p) (hj : JsonLaw p) {id : String} {date : Nat} (hdate : date < 2 ^ 63)
    {names : Set String} {s s' : Sockets} {l : Nat × InEvent × Clock}
    (hev : OnlyCredential p cfg (tokenvisitor p cfg.secretHash (some id) date) names l.2.1)
    (hi : Inv cfg id names s) (hs : step p cfg s l = some s') : Inv cfg id names s' := by
  obtain ⟨i, ev, clock⟩ := l
  simp only [step, Option.some.injEq] at hs
  subst hs
  constructor
  · intro j token
    by_cases hji : j = i
    · subst hji
      rw [Function.update_self]
      exact handleEvent_token_invariant (P := Paid id names) (fun _ _ h => h)
        (fun t ht => paid_of_newToken hp hj hdate hev ht) (hi.paid j) token
    · rw [Function.update_of_ne hji]
      exact hi.paid j token
  · intro hle j
    by_cases hji : j = i
    · subst hji
      rw [Function.update_self]
      refine Finset.eq_empty_of_forall_notMem fun c hc => ?_
      rcases handleEvent_subs hc with hc | ⟨token, ha⟩
      · rw [hi.limit hle j] at hc; cases hc
      · have := limit_of_accepts (fun _ => hi.limit hle j) ha
        omega
    · rw [Function.update_of_ne hji]
      exact hi.limit hle j

/-- Under strict binding a chat channel that was opened is one of the names and ends in the id. -/
theorem endsIn_of_opened (hp : Sha1Laws p) (hj : JsonLaw p) (hstrict : cfg.strictChannelBinding = true) {id : String}
    {date : Nat} (hdate : date < 2 ^ 63) {names : Set String} {ids : Nat → String} {tr : List (Nat × InEvent × Clock)}
    (hev : ∀ l ∈ tr, OnlyCredential p cfg (tokenvisitor p cfg.secretHash (some id) date) names l.2.1)
    {channel : String} (h : Opened p cfg ids tr channel) :
    0 < cfg.channelLimit ∧ channel ∈ names ∧ EndsIn id channel := by
  obtain ⟨hchat, pre, i, ev, clock, post, s, rfl, hrun, hadd⟩ := h
  have hi : Inv cfg id names s :=
    Transition.run_invariant_of (fun _ _ _ hc hi hs => inv_step hp hj hdate hc hi hs)
      (fun l hl => hev l (List.mem_append_left _ hl)) (inv_start ids) hrun
  obtain ⟨token, ha⟩ := accepts_of_hubAdd hadd
  obtain ⟨-, -, -, -, ht, href, -⟩ := accepts_some.1 ha
  obtain ⟨hvis, hname, hends⟩ := hi.paid i token ht
  -- strict binding: the channel is the one the token was issued for
  have hbound : channel = token.chanelName := by
    by_contra hne
    simp [refusesToken, isChatChannel, hchat, hvis, hstrict, hne] at href
  exact ⟨limit_of_accepts (fun hle => hi.limit hle i) ha, hbound ▸ hname, hbound ▸ hends⟩

/-! ## Two names open two chats -/

/-- The second of the hash, or the last one whose expiries an `int64` holds. -/
def atDate (date : Nat) : Clock :=
  let now := min date (2 ^ 63 - 12 * 60 * 60 - 1)
  ⟨date, now, now, by unfold IsInt64; omega, by unfold IsInt64; omega⟩

/-- The connection of a widget in the second of the hash: `#handshake`, `login`, `#subscribe`. -/
def opening (i : Nat) (hash chanelName : String) (date : Nat) : List (Nat × InEvent × Clock) :=
  [(i, handshakeEvent none 1, atDate date), (i, loginEvent hash chanelName 0 2, atDate date),
    (i, subscribeEvent chanelName 3, atDate date)]

theorem onlyCredential_opening {hash chanelName : String} {names : Set String} (hname : chanelName ∈ names)
    {i date : Nat} : ∀ l ∈ opening i hash chanelName date, OnlyCredential p cfg hash names l.2.1 := by
  intro l hl
  simp only [opening, List.mem_cons, List.not_mem_nil, or_false] at hl
  rcases hl with rfl | rfl | rfl
  · exact ⟨fun (h : "#handshake" = "login") => absurd h (by decide),
      fun h => absurd (presented_handshakeEvent none 1) h⟩
  · refine ⟨fun _ request sent instanceID hd hh => ?_, fun h => absurd rfl h⟩
    have hd' := decodeLogin_loginEvent hash chanelName 2 (by decide : 0 < 2 ^ 63)
    cases hd'.symm.trans hd
    cases hh
    exact ⟨rfl, hname⟩
  · exact ⟨fun (h : "#subscribe" = "login") => absurd h (by decide), fun h => absurd rfl h⟩

/-- A fresh connection with the hash opens the chat channel of the name it logs in with. -/
theorem opening_accepted (hp : Sha1Laws p) {id chanelName : String} {date : Nat} (hdate : date < 2 ^ 63)
    (hends : EndsIn id chanelName) (hlimit : 0 < cfg.channelLimit) (s : Sockets) (i : Nat) (sid : String)
    (hs : s i = newSocket sid) :
    ∃ m, Transition.run (step p cfg) s
        ((opening i (tokenvisitor p cfg.secretHash (some id) date) chanelName date).take 2) = some m ∧
      (∀ j, j ≠ i → m j = s j) ∧
      .hubAdd chanelName ∈ (handleEvent p cfg (m i) (subscribeEvent chanelName 3) (atDate date)).2 := by
  have hh : newToken p cfg (handshakeEvent none 1) (atDate date) = some none := by
    have hev : (handshakeEvent none 1).event = "#handshake" := rfl
    simp [newToken, hev]
  have hv : validateLoginToken p (tokenvisitor p cfg.secretHash (some id) date) chanelName cfg.secretHash date =
      some (true, true) := by
    rw [validate_tokenvisitor hp hdate, if_pos ⟨by omega, hends⟩]
  have hne : chanelName ≠ "" := by
    rintro rfl
    exact absurd hends.1 (by decide)
  obtain ⟨-, hsubs, hhand⟩ := handleEvent_install cfg (s i) hh
  obtain ⟨token, ha⟩ := accepts_after_login cfg 2 3 (atDate date) (by decide : 0 < 2 ^ 63)
    (hhand.trans (by simp [handshakeEvent])) hne hv (Or.inr (by rw [hsubs, hs]; simpa [newSocket] using hlimit))
  refine ⟨_, rfl, fun j hj => by simp [hj], ?_⟩
  simp only [Function.update_self]
  exact hubAdd_of_accepts _ ha

/-- With two names that end in the id, one hash opens two chats. -/
theorem opened_both (hp : Sha1Laws p) {id a b : String} {date : Nat} (hdate : date < 2 ^ 63) (ha : EndsIn id a)
    (hb : EndsIn id b) (hlimit : 0 < cfg.channelLimit) (ids : Nat → String) :
    let hash := tokenvisitor p cfg.secretHash (some id) date
    let tr := opening 0 hash a date ++ opening 1 hash b date
    Opened p cfg ids tr a ∧ Opened p cfg ids tr b := by
  intro hash tr
  obtain ⟨m, hm, hother, hadd⟩ := opening_accepted hp hdate ha hlimit (start ids) 0 (ids 0) rfl
  obtain ⟨m', hm', -, hadd'⟩ := opening_accepted hp hdate hb hlimit
    (Function.update m 0 (handleEvent p cfg (m 0) (subscribeEvent a 3) (atDate date)).1) 1 (ids 1)
    (by rw [Function.update_of_ne (by decide), hother 1 (by decide)]; rfl)
  constructor
  · exact ⟨ha.1, (opening 0 hash a date).take 2, 0, subscribeEvent a 3, atDate date, opening 1 hash b date, m,
      rfl, hm, hadd⟩
  · refine ⟨hb.1, opening 0 hash a date ++ (opening 1 hash b date).take 2, 1, subscribeEvent b 3,
      atDate date, [], m', rfl, ?_, hadd'⟩
    -- the second socket opens its chat after the whole connection of the first
    have hfirst : Transition.run (step p cfg) (start ids) (opening 0 hash a date) =
        some (Function.update m 0 (handleEvent p cfg (m 0) (subscribeEvent a 3) (atDate date)).1) := by
      have hsplit : opening 0 hash a date =
          (opening 0 hash a date).take 2 ++ [(0, subscribeEvent a 3, atDate date)] := rfl
      rw [hsplit, Transition.run_append, hm]
      rfl
    rw [Transition.run_append, hfirst]
    exact hm'

/-! ## The result -/

/-- Whatever the sockets do with one chat hash and the tokens it returns, they open at most one chat
channel, exactly when no subscription is allowed at all or at most one of the names sent with the hash
is a chat channel's that ends in the id. -/
theorem one_chat_iff (hp : Sha1Laws p) (hj : JsonLaw p) (hstrict : cfg.strictChannelBinding = true) (id : String)
    {date : Nat} (hdate : date < 2 ^ 63) (names : Set String) (ids : Nat → String) :
    (∀ tr : List (Nat × InEvent × Clock),
      (∀ l ∈ tr, OnlyCredential p cfg (tokenvisitor p cfg.secretHash (some id) date) names l.2.1) →
        ∀ a b, Opened p cfg ids tr a → Opened p cfg ids tr b → a = b) ↔
      cfg.channelLimit ≤ 0 ∨ ∀ a ∈ names, ∀ b ∈ names, EndsIn id a → EndsIn id b → a = b := by
  constructor
  · intro h
    by_contra hno
    obtain ⟨hlimit, hnames⟩ := not_or.1 hno
    refine hnames fun a ha b hb hea heb => ?_
    obtain ⟨hoa, hob⟩ := opened_both hp hdate hea heb (not_le.1 hlimit) ids
    refine h _ (fun l hl => ?_) a b hoa hob
    rcases List.mem_append.1 hl with hl | hl
    · exact onlyCredential_opening ha l hl
    · exact onlyCredential_opening hb l hl
  · intro h tr hev a b hoa hob
    obtain ⟨hlimit, hna, hea⟩ := endsIn_of_opened hp hj hstrict hdate hev hoa
    obtain ⟨-, hnb, heb⟩ := endsIn_of_opened hp hj hstrict hdate hev hob
    rcases h with hle | h
    · omega
    · exact h a hna b hnb hea heb

/-- The names of one widget: its own chat channel. -/
theorem one_chat_iff_sample :
    (∀ tr : List (Nat × InEvent × Clock),
      (∀ l ∈ tr, OnlyCredential sample (defaultConfig "secret" sampleKey "") sampleToken.token {"chat_55"} l.2.1) →
        ∀ a b, Opened sample (defaultConfig "secret" sampleKey "") Nat.repr tr a →
          Opened sample (defaultConfig "secret" sampleKey "") Nat.repr tr b → a = b) ↔
      (1000 : Int) ≤ 0 ∨ ∀ a ∈ ({"chat_55"} : Set String), ∀ b ∈ ({"chat_55"} : Set String),
        EndsIn "55" a → EndsIn "55" b → a = b :=
  one_chat_iff sample_sha1 sample_json rfl "55" (by decide : 1700000000 < 2 ^ 63) {"chat_55"} Nat.repr

/-- The hash of chat 55 also opens the chat 55 of instance 3. -/
theorem two_chats_opened :
    ¬ ∀ (p : Primitives) (cfg : Config) (id : String) (date : Nat) (ids : Nat → String)
        (tr : List (Nat × InEvent × Clock)), Sha1Laws p → JsonLaw p → cfg.strictChannelBinding = true →
      (∀ l ∈ tr, OnlyCredential p cfg (tokenvisitor p cfg.secretHash (some id) date) Set.univ l.2.1) →
        ∀ a b, Opened p cfg ids tr a → Opened p cfg ids tr b → a = b := by
  intro h
  let cfg := defaultConfig "secret" sampleKey ""
  obtain ⟨ha, hb⟩ := opened_both (p := sample) (by exact sample_sha1) (by decide : 1700000000 < 2 ^ 63)
    (by decide : EndsIn "55" "chat_55") (by decide : EndsIn "55" "chat_3_55") (by decide : 0 < cfg.channelLimit)
    fun _ => "s"
  have hsame := h sample cfg "55" 1700000000 (fun _ => "s") _ sample_sha1 sample_json rfl (fun l hl => ?_) _ _ ha hb
  · exact absurd hsame (by decide)
  · rcases List.mem_append.1 hl with hl | hl
    · exact onlyCredential_opening (Set.mem_univ _) l hl
    · exact onlyCredential_opening (Set.mem_univ _) l hl

end NodejsHelper.Binding
