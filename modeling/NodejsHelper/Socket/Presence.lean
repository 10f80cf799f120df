/-
The presence a socket announces and what its disconnect takes back. A subscription announces the
visitor on its chat channel, or with visitor tracking on the `ous_` channel of its instance;
`cleanup` takes back one target, the one of the token the socket holds at the end. The targets
announced along a session are all taken back exactly when no event of the session loses one
(`takenBack_iff_notLost`).
-/
import NodejsHelper.Lib.Run
import NodejsHelper.Socket.Spec
import NodejsHelper.Auth.Sample

namespace NodejsHelper.Presence

open Auth Strings

/-- Where a presence is announced: the channel and the `vid`. -/
abbrev Target := String × String

/-- A `vi_online` event of the server: its target and its status. -/
def presenceOf : Effect → Option (Target × Bool)
  | .presence channel status vid => some ((channel, vid), status)
  | _ => none

/-- The `vi_online` events among the effects, in order. -/
def presences (out : List Effect) : List (Target × Bool) := out.filterMap presenceOf

/-- The status of the last `vi_online` event on a target. -/
def lastStatus (target : Target) (out : List Effect) : Option Bool :=
  ((presences out).filter (·.1 = target)).getLast?.map (·.2)

/-- The last event on every target announced online is an offline one. -/
def TakenBack (out : List Effect) : Prop :=
  ∀ target, (target, true) ∈ presences out → lastStatus target out = some false

/-! ## Sessions -/

/-- A socket and everything its handlers did outside it so far. -/
structure Session where
  socket : Socket
  out : List Effect

/-- A fresh connection. -/
def start (id : String) : Session := ⟨newSocket id, []⟩

/-- The targets announced so far. -/
def Session.announced (s : Session) : List Target := (presences s.out).map (·.1)

section

variable (p : Primitives) (cfg : Config)

/-- One event of the session. -/
def step (s : Session) (l : InEvent × Clock) : Option Session :=
  some ⟨(handleEvent p cfg s.socket l.1 l.2).1, s.out ++ (handleEvent p cfg s.socket l.1 l.2).2⟩

/-- The target of an online visitor that holds the token. -/
def visitorTarget (token : AuthToken) : Target := ("ous_" ++ itoa token.instanceID, lastTokenPart token.chanelName)

/-- The target `cleanup` takes back. -/
def cleanupTarget (token : Option AuthToken) : Option Target :=
  token.bind fun token =>
    if !token.isVisitor then none
    else if token.chanelNameChat ≠ "" then some (token.chanelNameChat, "")
    else if cfg.trackVisitors then some (visitorTarget token)
    else none

/-- Were the session to end now, everything announced would be taken back. -/
def TakenBackNow (s : Session) : Prop :=
  ∀ channels, TakenBack (s.out ++ (cleanup cfg s.socket channels).2)

/-- The event loses no announced presence. A token it installs or drops leaves nothing announced
behind: whatever was announced is the `ous_` target of the new token. A chat channel it subscribes to
is the only target announced. A channel that announces the online visitor is not subscribed to with
a token marked by a chat. -/
def NotLost (s : Session) (l : InEvent × Clock) : Prop :=
  match newToken p cfg l.1 l.2, accepts cfg s.socket l.1 with
  | some none, _ => s.announced = []
  | some (some token), _ => ∀ target ∈ s.announced,
      token.isVisitor = true ∧ cfg.trackVisitors = true ∧ target = visitorTarget token
  | none, some (channel, token) =>
    if isChatChannel token channel then ∀ target ∈ s.announced, target = (channel, "")
    else token.isVisitor = true → cfg.trackVisitors = true → token.chanelNameChat = ""
  | none, none => True

end

/-! ## Presence events of the effects -/

theorem presences_append (a b : List Effect) : presences (a ++ b) = presences a ++ presences b :=
  List.filterMap_append

theorem presences_sends {out : List Effect} (h : ∀ e ∈ out, e.isSend = true) : presences out = [] := by
  refine List.filterMap_eq_nil_iff.2 fun e he => ?_
  have := h e he
  cases e <;> simp_all [Effect.isSend, presenceOf]

variable {p : Primitives} {cfg : Config}

theorem presences_cleanup (s : Socket) (channels : List String) :
    presences (cleanup cfg s channels).2 = ((cleanupTarget cfg s.token).map fun target => (target, false)).toList := by
  have hremove : presences (channels.map Effect.hubRemove) = [] := by
    induction channels with
    | nil => rfl
    | cons c cs ih => exact ih
  simp only [cleanup, presences_append, hremove, List.nil_append, cleanupPresence, cleanupTarget]
  cases s.token with
  | none => rfl
  | some token =>
    simp only [Option.bind_some]
    by_cases hv : token.isVisitor
    · by_cases hc : token.chanelNameChat = ""
      · by_cases ht : cfg.trackVisitors <;> simp [hv, hc, ht, presences, presenceOf, visitorTarget]
      · simp [hv, hc, presences, presenceOf]
    · simp [hv, presences]

/-- The events so far announce only. -/
def Announcing (s : Session) : Prop := ∀ e ∈ presences s.out, e.2 = true

/-- A list of announcements followed by one retraction is taken back on its target only. -/
theorem takenBackNow_iff {s : Session} (h : Announcing s) :
    TakenBackNow cfg s ↔ ∀ target ∈ s.announced, cleanupTarget cfg s.socket.token = some target := by
  have hlast : ∀ target channels, lastStatus target (s.out ++ (cleanup cfg s.socket channels).2) = some false ↔
      cleanupTarget cfg s.socket.token = some target := by
    intro target channels
    have hold : ∀ b, (((presences s.out).filter (·.1 = target)).getLast?.map (·.2)) = some b → b = true := by
      intro b hb
      obtain ⟨e, he, rfl⟩ := Option.map_eq_some_iff.1 hb
      exact h e (List.mem_of_mem_filter (List.mem_of_getLast? he))
    simp only [lastStatus, presences_append, presences_cleanup, List.filter_append]
    cases hc : cleanupTarget cfg s.socket.token with
    | none =>
      simp only [Option.map_none, Option.toList_none, List.filter_nil, List.append_nil]
      exact ⟨fun hf => absurd (hold false hf) (by decide), fun hf => by cases hf⟩
    | some t =>
      by_cases ht : t = target
      · simp [ht]
      · simp only [Option.map_some, Option.toList_some, List.filter_cons, ht, decide_false, List.filter_nil,
          List.append_nil, Bool.false_eq_true, if_false, Option.some.injEq, iff_false]
        exact fun hf => absurd (hold false hf) (by decide)
  constructor
  · intro hall target ht
    obtain ⟨⟨t, b⟩, he, rfl⟩ := List.mem_map.1 ht
    have hb : b = true := h (t, b) he
    subst hb
    exact (hlast t []).1 (hall [] t (by rw [presences_append]; exact List.mem_append_left _ he))
  · intro hall channels target ht
    refine (hlast target channels).2 (hall target ?_)
    rw [presences_append, presences_cleanup] at ht
    rcases List.mem_append.1 ht with ht | ht
    · exact List.mem_map.2 ⟨_, ht, rfl⟩
    · cases hc : cleanupTarget cfg s.socket.token <;> simp [hc] at ht

/-- What a subscription announces. -/
def subscribeTarget (cfg : Config) (token : AuthToken) (channel : String) : Option Target :=
  if isChatChannel token channel then some (channel, "")
  else if token.isVisitor && cfg.trackVisitors then some (visitorTarget token)
  else none

theorem presences_subscribe (token : AuthToken) (channel : String) {out : List Effect}
    (h : ∀ e ∈ out, e.isSend = true) :
    presences (subscribePresence cfg token channel ++ .hubAdd channel :: out) =
      ((subscribeTarget cfg token channel).map fun target => (target, true)).toList := by
  have hrest : presences (.hubAdd channel :: out) = presences out := rfl
  rw [presences_append, hrest, presences_sends h, List.append_nil]
  unfold subscribePresence subscribeTarget
  split
  · rfl
  · split <;> rfl

/-! ## The invariant of a session -/

/-- The token is marked, if at all, by a chat channel. -/
def MarkedByChat (s : Socket) : Prop :=
  ∀ token, s.token = some token → token.chanelNameChat ≠ "" → contains token.chanelNameChat "chat_" = true

structure Inv (s : Session) : Prop where
  announcing : Announcing s
  chat : MarkedByChat s.socket

theorem inv_start (id : String) : Inv (start id) :=
  ⟨fun _ h => absurd h List.not_mem_nil, fun _ h => nomatch h⟩

/-- The online visitor's channel is no chat channel. -/
theorem visitorTarget_ne_chat {token : AuthToken} {channel : String} (h : contains channel "chat_" = true) :
    visitorTarget token ≠ (channel, "") := by
  intro he
  have hc : "ous_" ++ itoa token.instanceID = channel := congrArg Prod.fst he
  rw [← hc] at h
  have hnot : 'c' ∉ ("ous_" ++ itoa token.instanceID).toList := by
    rw [String.toList_append, List.mem_append]
    rintro (h | h)
    · exact absurd h (by decide)
    · exact notMem_itoa (by decide) (by decide) h
  rw [contains_eq_false_of_notMem (by decide) hnot] at h
  cases h

theorem chat_of_isChatChannel {token : AuthToken} {channel : String} (h : isChatChannel token channel = true) :
    contains channel "chat_" = true ∧ token.isVisitor = true := by
  simpa [isChatChannel] using h

/-- The target taken back once a subscription marked the token. -/
theorem cleanupTarget_marked {token : AuthToken} {channel : String} (h : isChatChannel token channel = true) :
    cleanupTarget cfg (some (marked token channel)) = some (channel, "") := by
  obtain ⟨hc, hv⟩ := chat_of_isChatChannel h
  have hne : channel ≠ "" := by
    rintro rfl
    exact absurd hc (by decide)
  simp [cleanupTarget, marked, h, hv, hne]

/-! ## One event -/

section

variable {socket : Socket} {out more : List Effect} {ev : InEvent} {clock : Clock} {channel : String}
  {token : AuthToken}

/-- An event that announces nothing and leaves the token alone. -/
theorem unchanged_spec (hi : Inv ⟨socket, out⟩) {s' : Socket} (hn : newToken p cfg ev clock = none)
    (ha : accepts cfg socket ev = none) (ht : s'.token = socket.token) (hm : presences more = []) :
    Inv ⟨s', out ++ more⟩ ∧ (TakenBackNow cfg ⟨socket, out⟩ →
      (TakenBackNow cfg ⟨s', out ++ more⟩ ↔ NotLost p cfg ⟨socket, out⟩ (ev, clock))) := by
  have hp : presences (out ++ more) = presences out := by rw [presences_append, hm, List.append_nil]
  have hi' : Inv ⟨s', out ++ more⟩ :=
    ⟨by simpa only [Announcing, hp] using hi.announcing, fun token h => hi.chat token (ht ▸ h)⟩
  refine ⟨hi', fun h => ?_⟩
  simp only [NotLost, hn, ha, iff_true]
  rw [takenBackNow_iff hi'.announcing]
  rw [takenBackNow_iff hi.announcing] at h
  simpa only [Session.announced, hp, ht] using h

/-- An event that installs a token or drops it. -/
theorem install_spec (hi : Inv ⟨socket, out⟩) {s' : Socket} {token : Option AuthToken}
    (hn : newToken p cfg ev clock = some token) (htok : s'.token = token) (hsend : ∀ e ∈ more, e.isSend = true) :
    Inv ⟨s', out ++ more⟩ ∧ (TakenBackNow cfg ⟨s', out ++ more⟩ ↔ NotLost p cfg ⟨socket, out⟩ (ev, clock)) := by
  have hp : presences (out ++ more) = presences out := by
    rw [presences_append, presences_sends hsend, List.append_nil]
  have hi' : Inv ⟨s', out ++ more⟩ := by
    refine ⟨by simpa only [Announcing, hp] using hi.announcing, fun t ht hne => absurd ?_ hne⟩
    rw [htok] at ht
    exact newToken_unmarked (ht ▸ hn)
  refine ⟨hi', ?_⟩
  rw [takenBackNow_iff hi'.announcing]
  simp only [NotLost, hn, htok, Session.announced, hp]
  cases token with
  | none => simp [cleanupTarget, List.eq_nil_iff_forall_not_mem]
  | some token =>
    -- the new token is not marked by a chat yet, so only its `ous_` target can be taken back
    have hempty := newToken_unmarked hn
    simp only [cleanupTarget, Option.bind_some, hempty, ne_eq, not_true_eq_false, if_false]
    refine forall_congr' fun target => imp_congr_right fun _ => ?_
    cases token.isVisitor <;> cases cfg.trackVisitors <;> simp [eq_comm]

/-- The presence events of a session after an accepted subscription. -/
theorem presences_subscribed (hsend : ∀ e ∈ more, e.isSend = true) :
    presences (out ++ (subscribePresence cfg token channel ++ .hubAdd channel :: more)) =
      presences out ++ ((subscribeTarget cfg token channel).map fun target => (target, true)).toList := by
  rw [presences_append, presences_subscribe token channel hsend]

theorem subscribe_inv (hi : Inv ⟨socket, out⟩) (htoken : socket.token = some token)
    (hsend : ∀ e ∈ more, e.isSend = true) :
    Inv ⟨{ socket with subs := insert channel socket.subs, token := some (marked token channel) },
      out ++ (subscribePresence cfg token channel ++ .hubAdd channel :: more)⟩ := by
  refine ⟨fun e he => ?_, fun t ht hne => ?_⟩
  · rw [presences_subscribed hsend] at he
    rcases List.mem_append.1 he with he | he
    · exact hi.announcing e he
    · cases hc : subscribeTarget cfg token channel <;> simp_all
  · cases ht
    by_cases hc : isChatChannel token channel = true
    · simpa [marked, hc] using (chat_of_isChatChannel hc).1
    · simp only [marked, hc] at hne ⊢
      exact hi.chat token htoken hne

/-- A subscription of the online visitor can be taken back with the others exactly when no chat marks its token:
`cleanup` takes back the target of the chat first. -/
theorem subscribe_visitor (hchat : token.chanelNameChat ≠ "" → contains token.chanelNameChat "chat_" = true)
    (hv : token.isVisitor = true) (ht : cfg.trackVisitors = true) {announced : List Target}
    (h : ∀ target ∈ announced, cleanupTarget cfg (some token) = some target) :
    (∀ target, target ∈ announced ∨ target = visitorTarget token → cleanupTarget cfg (some token) = some target) ↔
      token.chanelNameChat = "" := by
  constructor
  · intro hall
    by_contra hne
    have hvt := hall (visitorTarget token) (Or.inr rfl)
    simp only [cleanupTarget, Option.bind_some, hv, Bool.not_true, Bool.false_eq_true, if_false, if_pos hne,
      Option.some.injEq] at hvt
    exact visitorTarget_ne_chat (hchat hne) hvt.symm
  · rintro hempty target (hold | rfl)
    · exact h target hold
    · simp [cleanupTarget, hempty, hv, ht]

/-- An accepted subscription. -/
theorem subscribe_spec (hi : Inv ⟨socket, out⟩) (hn : newToken p cfg ev clock = none)
    (ha : accepts cfg socket ev = some (channel, token)) (hsend : ∀ e ∈ more, e.isSend = true)
    (h : TakenBackNow cfg ⟨socket, out⟩) :
    TakenBackNow cfg ⟨{ socket with subs := insert channel socket.subs, token := some (marked token channel) },
      out ++ (subscribePresence cfg token channel ++ .hubAdd channel :: more)⟩ ↔
        NotLost p cfg ⟨socket, out⟩ (ev, clock) := by
  obtain ⟨-, -, -, -, htoken, -⟩ := accepts_some.1 ha
  rw [takenBackNow_iff hi.announcing, htoken] at h
  rw [takenBackNow_iff (subscribe_inv hi htoken hsend).announcing]
  simp only [NotLost, hn, ha, Session.announced, presences_subscribed hsend]
  by_cases hc : isChatChannel token channel = true
  · rw [cleanupTarget_marked hc, if_pos hc]
    simp only [subscribeTarget, hc, if_true, Option.map_some, Option.toList_some, List.map_append, List.map_cons,
      List.map_nil, List.mem_append, List.mem_singleton, Option.some.injEq]
    exact ⟨fun hall t ht => (hall t (Or.inl ht)).symm, fun hall t ht => ht.elim (fun ht => (hall t ht).symm) Eq.symm⟩
  · have hmark : marked token channel = token := by simp [marked, hc]
    rw [hmark, if_neg hc]
    by_cases hv : token.isVisitor = true ∧ cfg.trackVisitors = true
    · have hst : subscribeTarget cfg token channel = some (visitorTarget token) := by
        simp [subscribeTarget, hc, hv.1, hv.2]
      simp only [hst, Option.map_some, Option.toList_some, List.map_append, List.map_cons, List.map_nil,
        List.mem_append, List.mem_singleton, hv.1, hv.2, forall_const]
      exact subscribe_visitor (hi.chat token htoken) hv.1 hv.2 h
    · -- an operator, or tracking is off: nothing is announced
      have hst : subscribeTarget cfg token channel = none := by
        simp only [subscribeTarget, hc, Bool.false_eq_true, if_false, Bool.and_eq_true, hv]
      simp only [hst, Option.map_none, Option.toList_none, List.append_nil]
      exact ⟨fun _ h1 h2 => absurd ⟨h1, h2⟩ hv, fun _ => h⟩

end

/-- An event keeps the invariant, and from a session whose presence can be taken back it leads to one
whose presence can be taken back exactly when it loses none. -/
theorem step_spec {s s' : Session} {l : InEvent × Clock} (hi : Inv s) (hs : step p cfg s l = some s') :
    Inv s' ∧ (TakenBackNow cfg s → (TakenBackNow cfg s' ↔ NotLost p cfg s l)) := by
  obtain ⟨ev, clock⟩ := l
  obtain ⟨socket, out⟩ := s
  simp only [step, Option.some.injEq] at hs
  subst hs
  have hh := handleEvent_handles p cfg socket ev clock
  generalize handleEvent p cfg socket ev clock = r at hh
  cases hh with
  | answer more hn ha hsend => exact unchanged_spec hi hn ha rfl (presences_sends hsend)
  | close code reason hn ha => exact unchanged_spec hi hn ha rfl rfl
  | publish channel data more hn ha _ _ hsend =>
    refine unchanged_spec hi hn ha rfl ?_
    rw [presences_append, presences_sends hsend]
    rfl
  | unsubscribe channel more hn ha _ hsend =>
    have hrest : presences (.hubRemove channel :: more) = presences more := rfl
    exact unchanged_spec hi hn ha rfl (hrest.trans (presences_sends hsend))
  | install token s' more hn ha hid htok hauthed hsubs hhand hsend =>
    obtain ⟨hi', hiff⟩ := install_spec hi hn htok hsend
    exact ⟨hi', fun _ => hiff⟩
  | subscribe channel token more hn ha hsend =>
    obtain ⟨-, -, -, -, htoken, -⟩ := accepts_some.1 ha
    exact ⟨subscribe_inv hi htoken hsend, subscribe_spec hi hn ha hsend⟩

/-! ## The result -/

/-- Whatever a session announced is taken back when it ends, after each of its events, exactly when
none of its events loses an announced presence. -/
theorem takenBack_iff_notLost (p : Primitives) (cfg : Config) (id : String) (tr : List (InEvent × Clock)) :
    Transition.Always (step p cfg) (TakenBackNow cfg) (start id) tr ↔
      Transition.EachStep (step p cfg) (NotLost p cfg) (start id) tr :=
  Transition.always_iff_eachStep (I := Inv) (fun _ _ _ hi hs => (step_spec hi hs).1)
    (fun _ _ _ hi hp hs => (step_spec hi hs).2 hp) (inv_start id)
    ((takenBackNow_iff (inv_start id).announcing).2 fun _ h => by cases h)

/-- A visitor subscribes to its chat, drops its token and disconnects: it stays online for the
operators. -/
theorem presence_not_takenBack :
    ¬ ∀ (p : Primitives) (cfg : Config) (id : String) (tr : List (InEvent × Clock)) (s : Session)
        (channels : List String),
      Transition.run (step p cfg) (start id) tr = some s → TakenBack (s.out ++ (cleanup cfg s.socket channels).2) := by
  intro h
  let tr : List (InEvent × Clock) :=
    [(handshakeEvent none 1, sampleClock), (loginEvent sampleToken.token "chat_55" 0 2, sampleClock),
      (subscribeEvent "chat_55" 3, sampleClock), (⟨"#removeAuthToken", none, some 4⟩, sampleClock)]
  have hrun := h sample (defaultConfig "secret" sampleKey "") "s" tr _ ["chat_55"] rfl ("chat_55", "")
  revert hrun
  decide

end NodejsHelper.Presence
