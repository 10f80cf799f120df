/-
The operator's page (`customjs-admin.js`) on its SocketCluster client (`socketcluster.js`): the
channels of its chats are kept in `channelList` and in the client, and a `close` empties the first and
keeps the second. The two agree, with one handler a channel, as long as the page connects once, closes
with no chat and is refused none (`tracked_iff_careful`).
-/
import NodejsHelper.Lib.Run
import Mathlib.Logic.Function.Basic
import Mathlib.Tactic.Common
import Std.Data.String.ToNat

namespace NodejsHelper.Admin

/-! ## The client -/

/-- The states of an `SCChannel`. -/
inductive ChannelState
  | subscribed
  | pending
  | unsubscribed
  deriving DecidableEq, Repr

/-- An `SCClientSocket`: whether its state is `OPEN`, `active`, its channels, and how many handlers the page has
registered for each name with `_channelEmitter`. -/
structure Client where
  isOpen : Bool
  active : Bool
  channels : String → Option ChannelState
  watchers : String → ℕ

namespace Client

/-- `subscribe`: the channel that exists, or a new one. -/
def subscribe (c : Client) (channelName : String) : Client :=
  let state :=
    match c.channels channelName with
    | none | some .unsubscribed => .pending
    | some state => state
  { c with channels := Function.update c.channels channelName (some state) }

/-- `watch`. -/
def watch (c : Client) (channelName : String) : Client :=
  { c with watchers := Function.update c.watchers channelName (c.watchers channelName + 1) }

/-- `destroyChannel`, which a channel's `destroy` calls. -/
def destroyChannel (c : Client) (channelName : String) : Client :=
  match c.channels channelName with
  | none => c
  | some _ =>
    { c with
      watchers := Function.update c.watchers channelName 0
      channels := Function.update c.channels channelName none }

/-- `_onSCClose`, with `_suspendSubscriptions`. -/
def onClose (c : Client) : Client :=
  { c with
    isOpen := false
    channels := fun channelName => (c.channels channelName).map fun
      | .unsubscribed => .unsubscribed
      | _ => .pending }

def setState (c : Client) (channelName : String) (state : ChannelState) : Client :=
  { c with channels := Function.update c.channels channelName (some state) }

/-- The server answers the `#subscribe` of a pending channel. -/
def answered (c : Client) (channelName : String) (state : ChannelState) : Option Client :=
  match c.isOpen, c.channels channelName with
  | true, some .pending => some (c.setState channelName state)
  | _, _ => none

/-- `_triggerChannelSubscribe`. -/
def triggerSubscribe (c : Client) (channelName : String) : Option Client := c.answered channelName .subscribed

/-- `_triggerChannelSubscribeFail`. -/
def triggerSubscribeFail (c : Client) (channelName : String) : Option Client := c.answered channelName .unsubscribed

/-- `isSubscribed`, pending included. -/
def isSubscribed (c : Client) (channelName : String) : Bool :=
  match c.channels channelName with
  | some .subscribed | some .pending => true
  | _ => false

end Client

/-! ## The page -/

/-- What the page keeps: its client, `channelList` with the names of the channels in it, `lhinst.nodeJsMode`,
whether its listeners for the events of the page are added, `onlineUsersChannel`, and the calls of `login`
that are not yet answered; and whether it has connected at all. -/
structure Page where
  client : Client
  channelList : ℕ → Option String
  nodeJsMode : Bool
  listening : Bool
  onlineUsersChannel : Option String
  logins : ℕ
  connected : Bool

def init : Page := ⟨⟨false, true, fun _ => none, fun _ => 0⟩, fun _ => none, false, false, none, 0, false⟩

section
variable (instanceId : ℕ)

/-- The channel of a chat; the id of the instance is positive with an automated hosting only. -/
def chatName (chatId : ℕ) : String :=
  if 0 < instanceId then "chat_" ++ instanceId.repr ++ "_" ++ chatId.repr else "chat_" ++ chatId.repr

def ousName : String := "ous_" ++ instanceId.repr

/-- `addChatToNodeJS`. -/
def addChatToNodeJS (s : Page) (chatId : ℕ) : Page :=
  match s.channelList chatId with
  | some _ => s
  | none =>
    { s with
      client := (s.client.subscribe (chatName instanceId chatId)).watch (chatName instanceId chatId)
      channelList := Function.update s.channelList chatId (some (chatName instanceId chatId)) }

/-- `removeSynchroChatListener`. -/
def removeSynchroChatListener (s : Page) (chatId : ℕ) : Page :=
  match s.channelList chatId with
  | none => s
  | some channel =>
    { s with
      client := s.client.destroyChannel channel
      channelList := Function.update s.channelList chatId none }

/-- `connectAdmin`, with the chats in `lhinst.chatsSynchronising`. -/
def connectAdmin (s : Page) (chatsSynchronising : List ℕ) : Page :=
  let s := chatsSynchronising.foldl (addChatToNodeJS instanceId) { s with nodeJsMode := true }
  { s with
    listening := true
    client := (s.client.subscribe (ousName instanceId)).watch (ousName instanceId)
    onlineUsersChannel := some (ousName instanceId) }

/-- The handler of `close`. -/
def onClose (s : Page) : Page :=
  { s with client := s.client.onClose, channelList := fun _ => none, nodeJsMode := false, listening := false }

/-- What happens to the page: its socket connects or closes, its `login` is answered, a subscription is
acknowledged or refused, and the events of the page, with any chats. -/
inductive Event
  | connect (isAuthenticated : Bool) (chatsSynchronising : List ℕ)
  | login (err : Bool) (chatsSynchronising : List ℕ)
  | close
  | subscribed (channelName : String)
  | refused (channelName : String)
  | chatTabLoaded (chatId : ℕ)
  | chatTabMonitor (chatId : ℕ)
  | removeSynchroChat (chatId : ℕ)

/-- One event. A socket that is open or destroyed does not connect. -/
def step (s : Page) : Event → Option Page
  | .connect isAuthenticated chatsSynchronising =>
    if s.client.isOpen || !s.client.active then none
    else
      let s := { s with client := { s.client with isOpen := true }, connected := true }
      if isAuthenticated then some (connectAdmin instanceId s chatsSynchronising)
      else some { s with logins := s.logins + 1 }
  | .login err chatsSynchronising =>
    if s.logins = 0 then none
    else
      let s := { s with logins := s.logins - 1 }
      if err then some { s with client := { s.client with active := false } }
      else if s.client.isOpen then some (connectAdmin instanceId s chatsSynchronising)
      else none
  | .close => some (onClose s)
  | .subscribed channelName => (s.client.triggerSubscribe channelName).map fun client => { s with client := client }
  | .refused channelName => (s.client.triggerSubscribeFail channelName).map fun client => { s with client := client }
  | .chatTabLoaded chatId => some (if s.listening then addChatToNodeJS instanceId s chatId else s)
  | .chatTabMonitor chatId => some (if s.listening then addChatToNodeJS instanceId s chatId else s)
  | .removeSynchroChat chatId => some (if s.listening then removeSynchroChatListener s chatId else s)

/-- The chats of the client are those in `channelList`, each with one handler. -/
structure Chats (s : Page) : Prop where
  listed : ∀ chatId, s.client.isSubscribed (chatName instanceId chatId) = (s.channelList chatId).isSome
  once : ∀ chatId, s.client.isSubscribed (chatName instanceId chatId) = true →
    s.client.watchers (chatName instanceId chatId) = 1

/-- The chats are tracked exactly, and the channel of the online users, once the page has it, has one handler. -/
def Tracked (s : Page) : Prop :=
  Chats instanceId s ∧ (s.onlineUsersChannel ≠ none → s.client.watchers (ousName instanceId) = 1)

/-- The same, with the handler of the online users from the first connect on. -/
def TrackedAtOnce (s : Page) : Prop :=
  Chats instanceId s ∧ (s.connected = true → s.client.watchers (ousName instanceId) = 1)

/-- The event does not run `connectAdmin` a second time, does not close the socket while a chat is in
`channelList`, and is no refusal of a chat. -/
def Careful (s : Page) : Event → Prop
  | .connect true _ | .login false _ => s.onlineUsersChannel = none
  | .close => ∀ chatId, s.channelList chatId = none
  | .refused channelName => ∀ chatId, chatName instanceId chatId ≠ channelName
  | _ => True

/-- The event is no connect that has a `login` to wait for before the first `connectAdmin`. -/
def Prompt (s : Page) : Event → Prop
  | .connect false _ => s.onlineUsersChannel ≠ none
  | _ => True

end

variable {instanceId : ℕ}

/-! ## Names -/

theorem chatName_inj {a b : ℕ} : chatName instanceId a = chatName instanceId b ↔ a = b := by
  refine ⟨fun h => ?_, fun h => h ▸ rfl⟩
  unfold chatName at h
  split at h
  · exact Nat.repr_inj.1 ((String.append_right_inj _).1 h)
  · exact Nat.repr_inj.1 ((String.append_right_inj _).1 h)

theorem ousName_ne_chatName (chatId : ℕ) : ousName instanceId ≠ chatName instanceId chatId := by
  intro h
  have := congrArg String.toList h
  unfold ousName chatName at this
  split at this <;> simp at this

/-! ## The client -/

namespace Client

/-- Only channels of the client have handlers. -/
def Tidy (c : Client) : Prop := ∀ channelName, c.channels channelName = none → c.watchers channelName = 0

theorem Tidy.subscribe_watch {c : Client} (h : c.Tidy) (name : String) : ((c.subscribe name).watch name).Tidy := by
  intro channelName hc
  by_cases hn : channelName = name
  · subst hn
    simp [subscribe, watch] at hc
  · simp only [subscribe, watch, Function.update_of_ne hn] at hc ⊢
    exact h channelName hc

/-- A channel that is subscribed to and watched has a handler more; the others are as they were. -/
theorem subscribe_watch_spec (c : Client) (name channelName : String) :
    ((c.subscribe name).watch name).isSubscribed channelName =
      (decide (channelName = name) || c.isSubscribed channelName) ∧
    ((c.subscribe name).watch name).watchers channelName =
      c.watchers channelName + if channelName = name then 1 else 0 := by
  by_cases hn : channelName = name
  · subst hn
    rcases hc : c.channels channelName with _ | _ | _ | _ <;> simp [subscribe, watch, isSubscribed, hc]
  · simp [subscribe, watch, isSubscribed, hn]

/-- A channel that is subscribed to is subscribed or pending. -/
theorem subscribe_known (c : Client) (name : String) :
    (c.subscribe name).channels name ≠ some .unsubscribed := by
  rcases hc : c.channels name with _ | _ | _ | _ <;> simp [subscribe, hc]

theorem Tidy.destroyChannel {c : Client} (h : c.Tidy) (name : String) : (c.destroyChannel name).Tidy := by
  unfold Client.destroyChannel
  split
  · exact h
  · intro channelName hc
    by_cases hn : channelName = name
    · simp [hn]
    · simp only [Function.update_of_ne hn] at hc ⊢
      exact h channelName hc

/-- A channel that is destroyed is no channel and has no handler; the others are as they were. -/
theorem destroyChannel_spec {c : Client} (h : c.Tidy) (name channelName : String) :
    (c.destroyChannel name).isSubscribed channelName = (!decide (channelName = name) && c.isSubscribed channelName) ∧
    (c.destroyChannel name).watchers channelName = if channelName = name then 0 else c.watchers channelName := by
  unfold destroyChannel
  split
  · rename_i hc
    by_cases hn : channelName = name
    · subst hn
      simp [isSubscribed, hc, h channelName hc]
    · simp [hn]
  · by_cases hn : channelName = name
    · simp [isSubscribed, hn]
    · simp [isSubscribed, hn]

theorem destroyChannel_known {c : Client} {name channelName : String}
    (h : c.channels channelName ≠ some .unsubscribed) :
    (c.destroyChannel name).channels channelName ≠ some .unsubscribed := by
  unfold destroyChannel
  split
  · exact h
  · by_cases hn : channelName = name
    · simp [hn]
    · simpa [hn] using h

/-- The channels of a closed client are as subscribed or pending as before. -/
theorem isSubscribed_onClose (c : Client) : c.onClose.isSubscribed = c.isSubscribed := by
  funext channelName
  rcases hc : c.channels channelName with _ | _ | _ | _ <;> simp [Client.onClose, isSubscribed, hc]

theorem Tidy.onClose {c : Client} (h : c.Tidy) : c.onClose.Tidy :=
  fun channelName hc => h channelName (Option.map_eq_none_iff.1 hc)

/-- An answer to a `#subscribe` sets the state of its channel, which was pending, and changes nothing else. -/
theorem answered_spec {c c' : Client} {name : String} {state : ChannelState}
    (h : c.answered name state = some c') :
    c.channels name = some .pending ∧ c' = c.setState name state := by
  unfold answered at h
  split at h
  · rename_i hpending
    cases h
    exact ⟨hpending, rfl⟩
  · cases h

theorem Tidy.setState {c : Client} (h : c.Tidy) (name : String) (state : ChannelState) :
    (c.setState name state).Tidy := by
  intro channelName hc
  by_cases hn : channelName = name
  · subst hn
    simp [Client.setState] at hc
  · exact h channelName (by simpa [Client.setState, hn] using hc)

theorem isSubscribed_setState_of_ne {c : Client} {name channelName : String} (h : channelName ≠ name)
    (state : ChannelState) : (c.setState name state).isSubscribed channelName = c.isSubscribed channelName := by
  simp [isSubscribed, Client.setState, h]

end Client

/-! ## The chats -/

/-- The client is tidy, the entries of `channelList` are the channels of their chats, and no chat is refused. -/
structure Steady (instanceId : ℕ) (s : Page) : Prop where
  tidy : s.client.Tidy
  named : ∀ chatId name, s.channelList chatId = some name → name = chatName instanceId chatId
  known : ∀ chatId, s.client.channels (chatName instanceId chatId) ≠ some .unsubscribed

/-- A chat that is neither subscribed nor pending has no handler. -/
theorem Steady.bare {s : Page} (h : Steady instanceId s) {chatId : ℕ}
    (hsub : s.client.isSubscribed (chatName instanceId chatId) = false) :
    s.client.watchers (chatName instanceId chatId) = 0 := by
  refine h.tidy _ ?_
  have hknown := h.known chatId
  unfold Client.isSubscribed at hsub
  rcases hc : s.client.channels (chatName instanceId chatId) with _ | _ | _ | _
  · rfl
  · rw [hc] at hsub; cases hsub
  · rw [hc] at hsub; cases hsub
  · exact absurd hc hknown

theorem addChatToNodeJS_steady {s : Page} (h : Steady instanceId s) (chatId : ℕ) :
    Steady instanceId (addChatToNodeJS instanceId s chatId) := by
  unfold addChatToNodeJS
  split
  · exact h
  · refine ⟨h.tidy.subscribe_watch _, fun c name hc => ?_, fun c => ?_⟩
    · by_cases hn : c = chatId
      · subst hn
        simpa using hc.symm
      · exact h.named c name (by simpa [hn] using hc)
    · by_cases hn : c = chatId
      · subst hn
        exact Client.subscribe_known _ _
      · simpa [Client.subscribe, Client.watch, chatName_inj, hn] using h.known c

/-- A chat that is added is tracked with the others. -/
theorem addChatToNodeJS_chats {s : Page} (h : Steady instanceId s) (hc : Chats instanceId s) (chatId : ℕ) :
    Chats instanceId (addChatToNodeJS instanceId s chatId) := by
  unfold addChatToNodeJS
  split
  · exact hc
  · rename_i hnone
    have hspec := fun c => s.client.subscribe_watch_spec (chatName instanceId chatId) (chatName instanceId c)
    have hnew : s.client.isSubscribed (chatName instanceId chatId) = false := by rw [hc.listed, hnone]; rfl
    constructor
    · intro c
      by_cases hn : c = chatId
      · subst hn; simp [(hspec c).1]
      · simp [(hspec c).1, chatName_inj, hn, hc.listed]
    · intro c hsub
      rw [(hspec c).2]
      by_cases hn : c = chatId
      · subst hn
        simp [h.bare hnew]
      · rw [(hspec c).1] at hsub
        simp only [chatName_inj, hn, decide_false, Bool.false_or] at hsub
        simp [chatName_inj, hn, hc.once c hsub]

theorem removeSynchroChatListener_steady {s : Page} (h : Steady instanceId s) (chatId : ℕ) :
    Steady instanceId (removeSynchroChatListener s chatId) := by
  unfold removeSynchroChatListener
  split
  · exact h
  · refine ⟨h.tidy.destroyChannel _, fun c name hc => ?_, fun c => ?_⟩
    · by_cases hn : c = chatId
      · simp [hn] at hc
      · exact h.named c name (by simpa [hn] using hc)
    · exact Client.destroyChannel_known (h.known c)

/-- A chat that is removed leaves the others as they were. -/
theorem removeSynchroChatListener_chats {s : Page} (h : Steady instanceId s) (hc : Chats instanceId s) (chatId : ℕ) :
    Chats instanceId (removeSynchroChatListener s chatId) := by
  unfold removeSynchroChatListener
  split
  · exact hc
  · rename_i name hname
    rw [h.named chatId name hname]
    have hspec := fun c => Client.destroyChannel_spec h.tidy (chatName instanceId chatId) (chatName instanceId c)
    constructor
    · intro c
      by_cases hn : c = chatId
      · subst hn; simp [(hspec c).1]
      · simp [(hspec c).1, chatName_inj, hn, hc.listed]
    · intro c hsub
      rw [(hspec c).1] at hsub
      simp only [chatName_inj, Bool.and_eq_true, Bool.not_eq_true', decide_eq_false_iff_not] at hsub
      simp [(hspec c).2, chatName_inj, hsub.1, hc.once c hsub.2]

/-! ## Connecting -/

/-- What the handlers of the chats leave alone. -/
structure SamePage (s s' : Page) : Prop where
  connected : s'.connected = s.connected
  listening : s'.listening = s.listening
  onlineUsersChannel : s'.onlineUsersChannel = s.onlineUsersChannel
  logins : s'.logins = s.logins

theorem SamePage.trans {s s' s'' : Page} (h : SamePage s s') (h' : SamePage s' s'') : SamePage s s'' :=
  ⟨h'.connected.trans h.connected, h'.listening.trans h.listening,
    h'.onlineUsersChannel.trans h.onlineUsersChannel, h'.logins.trans h.logins⟩

theorem addChatToNodeJS_same (instanceId : ℕ) (s : Page) (chatId : ℕ) :
    SamePage s (addChatToNodeJS instanceId s chatId) := by
  unfold addChatToNodeJS
  split <;> exact ⟨rfl, rfl, rfl, rfl⟩

theorem removeSynchroChatListener_same (s : Page) (chatId : ℕ) :
    SamePage s (removeSynchroChatListener s chatId) := by
  unfold removeSynchroChatListener
  split <;> exact ⟨rfl, rfl, rfl, rfl⟩

theorem addChatToNodeJS_ous (instanceId : ℕ) (s : Page) (chatId : ℕ) :
    (addChatToNodeJS instanceId s chatId).client.watchers (ousName instanceId) =
      s.client.watchers (ousName instanceId) := by
  unfold addChatToNodeJS
  split
  · rfl
  · rw [(Client.subscribe_watch_spec _ _ _).2, if_neg (ousName_ne_chatName chatId), Nat.add_zero]

theorem removeSynchroChatListener_ous {s : Page} (h : Steady instanceId s) (chatId : ℕ) :
    (removeSynchroChatListener s chatId).client.watchers (ousName instanceId) =
      s.client.watchers (ousName instanceId) := by
  unfold removeSynchroChatListener
  split
  · rfl
  · rename_i name hname
    rw [h.named chatId name hname, (Client.destroyChannel_spec h.tidy _ _).2, if_neg (ousName_ne_chatName chatId)]

/-- The loop over `lhinst.chatsSynchronising`. -/
theorem foldl_addChatToNodeJS : ∀ (chats : List ℕ) {s : Page}, Steady instanceId s →
    Steady instanceId (chats.foldl (addChatToNodeJS instanceId) s) ∧
    (chats.foldl (addChatToNodeJS instanceId) s).client.watchers (ousName instanceId) =
      s.client.watchers (ousName instanceId) ∧
    (Chats instanceId s → Chats instanceId (chats.foldl (addChatToNodeJS instanceId) s))
  | [], _, h => ⟨h, rfl, id⟩
  | c :: chats, s, h => by
    obtain ⟨h1, h2, h3⟩ := foldl_addChatToNodeJS chats (addChatToNodeJS_steady h c)
    exact ⟨h1, h2.trans (addChatToNodeJS_ous instanceId s c), fun hc => h3 (addChatToNodeJS_chats h hc c)⟩

theorem foldl_addChatToNodeJS_same (instanceId : ℕ) : ∀ (chats : List ℕ) (s : Page),
    SamePage s (chats.foldl (addChatToNodeJS instanceId) s)
  | [], _ => ⟨rfl, rfl, rfl, rfl⟩
  | c :: chats, s => (addChatToNodeJS_same instanceId s c).trans (foldl_addChatToNodeJS_same instanceId chats _)

/-- `connectAdmin` adds a handler to the channel of the online users, whether it has one or not. -/
theorem connectAdmin_spec {s : Page} (h : Steady instanceId s) (chats : List ℕ) :
    Steady instanceId (connectAdmin instanceId s chats) ∧
    (connectAdmin instanceId s chats).client.watchers (ousName instanceId) =
      s.client.watchers (ousName instanceId) + 1 ∧
    (Chats instanceId s → Chats instanceId (connectAdmin instanceId s chats)) := by
  have h0 : Steady instanceId { s with nodeJsMode := true } := ⟨h.tidy, h.named, h.known⟩
  obtain ⟨h1, h2, h3⟩ := foldl_addChatToNodeJS chats h0
  have hspec := Client.subscribe_watch_spec
    (chats.foldl (addChatToNodeJS instanceId) { s with nodeJsMode := true }).client (ousName instanceId)
  have hne : ∀ c, chatName instanceId c ≠ ousName instanceId := fun c => (ousName_ne_chatName c).symm
  refine ⟨⟨h1.tidy.subscribe_watch _, h1.named, fun c => ?_⟩, ?_, fun hc => ?_⟩
  · simpa [connectAdmin, Client.subscribe, Client.watch, hne c] using h1.known c
  · rw [connectAdmin, (hspec _).2, if_pos rfl, h2]
  · have hchats := h3 ⟨hc.listed, hc.once⟩
    constructor
    · intro c
      rw [connectAdmin, (hspec _).1, decide_eq_false (hne c), Bool.false_or, hchats.listed]
    · intro c hsub
      rw [connectAdmin, (hspec _).1, decide_eq_false (hne c), Bool.false_or] at hsub
      rw [connectAdmin, (hspec _).2, if_neg (hne c), Nat.add_zero, hchats.once c hsub]

/-! ## Runs -/

/-- Before the first `connectAdmin` there is no channel, and no listener of the page; and it does not run before
the page has connected. -/
structure Inv (instanceId : ℕ) (s : Page) : Prop where
  steady : Steady instanceId s
  connected : s.onlineUsersChannel ≠ none ∨ s.logins ≠ 0 → s.connected = true
  fresh : s.onlineUsersChannel = none →
    s.listening = false ∧ (∀ name, s.client.channels name = none) ∧ ∀ chatId, s.channelList chatId = none

theorem inv_init : Inv instanceId init where
  steady := ⟨fun _ _ => rfl, nofun, fun _ => nofun⟩
  connected h := h.elim (absurd rfl) (absurd rfl)
  fresh _ := ⟨rfl, fun _ => rfl, fun _ => rfl⟩

theorem chats_init : Chats instanceId init := ⟨fun _ => rfl, nofun⟩

/-- What becomes of the page in a step: the invariant is kept while it is tracked, and it stays tracked exactly
when the event is careful. -/
def Spec (instanceId : ℕ) (s : Page) (e : Event) (s' : Page) : Prop :=
  (Tracked instanceId s' → Inv instanceId s') ∧ (Tracked instanceId s' ↔ Careful instanceId s e)

/-- After `connectAdmin` the page is tracked when it was the first. -/
theorem spec_connectAdmin {s : Page} (hi : Inv instanceId s) (ht : Tracked instanceId s) (hc : s.connected = true)
    (chats : List ℕ) :
    (Tracked instanceId (connectAdmin instanceId s chats) → Inv instanceId (connectAdmin instanceId s chats)) ∧
      (Tracked instanceId (connectAdmin instanceId s chats) ↔ s.onlineUsersChannel = none) := by
  obtain ⟨h1, h2, h3⟩ := connectAdmin_spec hi.steady chats
  have hsame := foldl_addChatToNodeJS_same instanceId chats { s with nodeJsMode := true }
  refine ⟨fun _ => ⟨h1, fun _ => hsame.connected.trans hc, nofun⟩, fun ht' => ?_, fun hnone => ⟨h3 ht.1, fun _ => ?_⟩⟩
  · by_contra hne
    have hone := ht'.2 nofun
    rw [h2, ht.2 hne] at hone
    cases hone
  · rw [h2, hi.steady.tidy _ ((hi.fresh hnone).2.1 _)]

/-- A handler of the page that keeps the chats tracked and leaves the rest alone. -/
structure Handler (instanceId : ℕ) (f : Page → Page) : Prop where
  steady : ∀ {s}, Steady instanceId s → Steady instanceId (f s)
  chats : ∀ {s}, Steady instanceId s → Chats instanceId s → Chats instanceId (f s)
  ous : ∀ {s}, Steady instanceId s →
    (f s).client.watchers (ousName instanceId) = s.client.watchers (ousName instanceId)
  same : ∀ s, SamePage s (f s)

theorem handler_add (chatId : ℕ) : Handler instanceId fun s => addChatToNodeJS instanceId s chatId :=
  ⟨fun h => addChatToNodeJS_steady h chatId, fun h hc => addChatToNodeJS_chats h hc chatId,
    fun {s} _ => addChatToNodeJS_ous instanceId s chatId, fun s => addChatToNodeJS_same instanceId s chatId⟩

theorem handler_remove (chatId : ℕ) : Handler instanceId fun s => removeSynchroChatListener s chatId :=
  ⟨fun h => removeSynchroChatListener_steady h chatId, fun h hc => removeSynchroChatListener_chats h hc chatId,
    fun h => removeSynchroChatListener_ous h chatId, fun s => removeSynchroChatListener_same s chatId⟩

/-- An event of the page reaches its handler while the listeners are added, and changes nothing otherwise. -/
theorem Handler.event {f : Page → Page} (hf : Handler instanceId f) {s : Page} (hi : Inv instanceId s)
    (ht : Tracked instanceId s) :
    Inv instanceId (if s.listening then f s else s) ∧ Tracked instanceId (if s.listening then f s else s) := by
  split
  · rename_i hl
    have hous := hf.ous hi.steady
    have hsame := hf.same s
    have hset : s.onlineUsersChannel ≠ none := fun hnone => by
      rw [(hi.fresh hnone).1] at hl; cases hl
    refine ⟨⟨hf.steady hi.steady, fun _ => hsame.connected.trans (hi.connected (Or.inl hset)), fun h => ?_⟩,
      hf.chats hi.steady ht.1, fun _ => ?_⟩
    · exact absurd (hsame.onlineUsersChannel ▸ h) hset
    · rw [hous]
      exact ht.2 hset
  · exact ⟨hi, ht⟩

theorem Handler.spec {f : Page → Page} (hf : Handler instanceId f) {s : Page} (hi : Inv instanceId s)
    (ht : Tracked instanceId s) {e : Event} (he : Careful instanceId s e) :
    Spec instanceId s e (if s.listening then f s else s) := by
  obtain ⟨h1, h2⟩ := hf.event hi ht
  exact ⟨fun _ => h1, iff_of_true h2 he⟩

/-- A `close` keeps the channels and empties `channelList`. -/
theorem spec_close {s : Page} (hi : Inv instanceId s) (ht : Tracked instanceId s) :
    Spec instanceId s .close (onClose s) := by
  have hsub : (onClose s).client.isSubscribed = s.client.isSubscribed := s.client.isSubscribed_onClose
  refine ⟨fun _ => ⟨⟨hi.steady.tidy.onClose, nofun, fun c => ?_⟩, hi.connected,
    fun hnone => ⟨rfl, fun name => ?_, fun _ => rfl⟩⟩, fun ht' c => ?_,
    fun hempty => ⟨⟨fun c => ?_, fun c hc => ?_⟩, ht.2⟩⟩
  · have hknown := hi.steady.known c
    rcases hc : s.client.channels (chatName instanceId c) with _ | _ | _ | _ <;> simp_all [onClose, Client.onClose]
  · show (s.client.channels name).map _ = none
    rw [(hi.fresh hnone).2.1 name]
    rfl
  · have hlisted := ht'.1.listed c
    rw [hsub, ht.1.listed] at hlisted
    simpa [onClose] using hlisted
  · rw [hsub, ht.1.listed, hempty]
    rfl
  · rw [hsub] at hc
    exact ht.1.once c hc

/-- An acknowledgement changes no channel from subscribed or pending to none or back. -/
theorem spec_subscribed {s : Page} {client : Client} {name : String} (hi : Inv instanceId s)
    (ht : Tracked instanceId s) (hc : s.client.triggerSubscribe name = some client) :
    Spec instanceId s (.subscribed name) { s with client := client } := by
  obtain ⟨hpending, rfl⟩ := Client.answered_spec hc
  have hsub : (s.client.setState name .subscribed).isSubscribed = s.client.isSubscribed := by
    funext channelName
    by_cases hn : channelName = name
    · subst hn; simp [Client.isSubscribed, Client.setState, hpending]
    · exact Client.isSubscribed_setState_of_ne hn _
  refine ⟨fun _ => ⟨⟨hi.steady.tidy.setState _ _, hi.steady.named, fun c => ?_⟩, hi.connected, fun hnone => ?_⟩,
    iff_of_true ⟨⟨fun c => ?_, fun c h => ?_⟩, ht.2⟩ trivial⟩
  · by_cases hn : chatName instanceId c = name
    · simp [Client.setState, hn]
    · simpa [Client.setState, hn] using hi.steady.known c
  · rw [(hi.fresh hnone).2.1 name] at hpending
    cases hpending
  · rw [hsub]; exact ht.1.listed c
  · rw [hsub] at h; exact ht.1.once c h

/-- A refused chat is in `channelList` and not subscribed any more. -/
theorem spec_refused {s : Page} {client : Client} {name : String} (hi : Inv instanceId s)
    (ht : Tracked instanceId s) (hc : s.client.triggerSubscribeFail name = some client) :
    Spec instanceId s (.refused name) { s with client := client } := by
  obtain ⟨hpending, rfl⟩ := Client.answered_spec hc
  have hcareful : Tracked instanceId { s with client := s.client.setState name .unsubscribed } →
      ∀ c, chatName instanceId c ≠ name := by
    rintro ht' c rfl
    have hafter := ht'.1.listed c
    rw [← ht.1.listed c] at hafter
    simp [Client.isSubscribed, Client.setState, hpending] at hafter
  refine ⟨fun ht' => ⟨⟨hi.steady.tidy.setState _ _, hi.steady.named, fun c => ?_⟩, hi.connected, fun hnone => ?_⟩,
    hcareful, fun hnot => ⟨⟨fun c => ?_, fun c h => ?_⟩, ht.2⟩⟩
  · simpa [Client.setState, hcareful ht' c] using hi.steady.known c
  · rw [(hi.fresh hnone).2.1 name] at hpending
    cases hpending
  · rw [Client.isSubscribed_setState_of_ne (hnot c)]; exact ht.1.listed c
  · rw [Client.isSubscribed_setState_of_ne (hnot c)] at h; exact ht.1.once c h

/-- A connect or an answer to a `login`, up to `connectAdmin`, leaves the channels as they were. -/
theorem inv_same {s : Page} (hi : Inv instanceId s) (ht : Tracked instanceId s) (client : Client)
    (hchannels : client.channels = s.client.channels) (hwatchers : client.watchers = s.client.watchers) (logins : ℕ) :
    Inv instanceId { s with client := client, logins := logins, connected := true } ∧
      Tracked instanceId { s with client := client, logins := logins, connected := true } := by
  obtain ⟨isOpen, active, channels, watchers⟩ := client
  cases hchannels
  cases hwatchers
  exact ⟨⟨⟨hi.steady.tidy, hi.steady.named, hi.steady.known⟩, fun _ => rfl, hi.fresh⟩,
    ⟨ht.1.listed, ht.1.once⟩, ht.2⟩

theorem step_spec {s s' : Page} {e : Event} (hi : Inv instanceId s) (ht : Tracked instanceId s)
    (h : step instanceId s e = some s') : Spec instanceId s e s' := by
  cases e with
  | connect isAuthenticated chats =>
    simp only [step] at h
    split at h
    · cases h
    · cases isAuthenticated with
      | true =>
        -- `connectAdmin` at once, which is where the tracking may be lost
        cases h
        obtain ⟨hi', ht'⟩ := inv_same hi ht { s.client with isOpen := true } rfl rfl s.logins
        exact spec_connectAdmin hi' ht' rfl chats
      | false =>
        cases h
        obtain ⟨hi', ht'⟩ := inv_same hi ht { s.client with isOpen := true } rfl rfl (s.logins + 1)
        exact ⟨fun _ => hi', iff_of_true ht' trivial⟩
  | login err chats =>
    simp only [step] at h
    split at h
    · cases h
    · rename_i hlogins
      have hconnected : s.connected = true := hi.connected (Or.inr hlogins)
      obtain ⟨client, channelList, nodeJsMode, listening, onlineUsersChannel, logins, connected⟩ := s
      cases hconnected
      cases err with
      | true =>
        cases h
        obtain ⟨hi', ht'⟩ := inv_same hi ht { client with active := false } rfl rfl (logins - 1)
        exact ⟨fun _ => hi', iff_of_true ht' trivial⟩
      | false =>
        simp only [Bool.false_eq_true, if_false] at h
        split at h
        · cases h
          obtain ⟨hi', ht'⟩ := inv_same hi ht client rfl rfl (logins - 1)
          exact spec_connectAdmin hi' ht' rfl chats
        · cases h
  | close =>
    cases h
    exact spec_close hi ht
  | subscribed channelName =>
    obtain ⟨client, hc, rfl⟩ := Option.map_eq_some_iff.1 h
    exact spec_subscribed hi ht hc
  | refused channelName =>
    obtain ⟨client, hc, rfl⟩ := Option.map_eq_some_iff.1 h
    exact spec_refused hi ht hc
  | chatTabLoaded chatId =>
    cases h
    exact (handler_add chatId).spec hi ht trivial
  | chatTabMonitor chatId =>
    cases h
    exact (handler_add chatId).spec hi ht trivial
  | removeSynchroChat chatId =>
    cases h
    exact (handler_remove chatId).spec hi ht trivial

/-- The handler of the online users is there at once when `connectAdmin` has run. -/
theorem trackedAtOnce_iff {s : Page} (hi : Inv instanceId s) : TrackedAtOnce instanceId s ↔
    Tracked instanceId s ∧ (s.connected = true → s.onlineUsersChannel ≠ none) := by
  constructor
  · rintro ⟨hchats, hous⟩
    refine ⟨⟨hchats, fun hset => hous (hi.connected (Or.inl hset))⟩, fun hc hnone => ?_⟩
    have hone := hous hc
    rw [hi.steady.tidy _ ((hi.fresh hnone).2.1 _)] at hone
    cases hone
  · rintro ⟨⟨hchats, hous⟩, hset⟩
    exact ⟨hchats, fun hc => hous (hset hc)⟩

/-- What a step does to `onlineUsersChannel`, the answers to wait for and `connected`: it connects, with or without
`connectAdmin`, takes up an answer, or leaves them alone. -/
theorem step_page {s s' : Page} {e : Event} (h : step instanceId s e = some s') :
    (s'.onlineUsersChannel ≠ none ∧ (s'.connected = true ∨ s'.connected = s.connected ∧ s.logins ≠ 0) ∧
        ∀ chats, e ≠ .connect false chats) ∨
      (∃ chats, e = .connect false chats ∧ s'.connected = true ∧ s'.onlineUsersChannel = s.onlineUsersChannel) ∨
      (∀ chats, e ≠ .connect false chats) ∧ s'.connected = s.connected ∧
        s'.onlineUsersChannel = s.onlineUsersChannel ∧ (s'.logins ≠ 0 → s.logins ≠ 0) := by
  have hevent : ∀ f : Page → Page, (∀ s, SamePage s (f s)) → ∀ s, SamePage s (if s.listening then f s else s) := by
    intro f hf s
    split
    · exact hf s
    · exact ⟨rfl, rfl, rfl, rfl⟩
  cases e with
  | connect isAuthenticated chats =>
    simp only [step] at h
    split at h
    · cases h
    · cases isAuthenticated with
      | true =>
        cases h
        exact Or.inl ⟨nofun, Or.inl (foldl_addChatToNodeJS_same instanceId chats _).connected, nofun⟩
      | false =>
        cases h
        exact Or.inr (Or.inl ⟨chats, rfl, rfl, rfl⟩)
  | login err chats =>
    simp only [step] at h
    split at h
    · cases h
    · rename_i hlogins
      cases err with
      | true =>
        cases h
        exact Or.inr (Or.inr ⟨nofun, rfl, rfl, fun _ => hlogins⟩)
      | false =>
        simp only [Bool.false_eq_true, if_false] at h
        split at h
        · cases h
          exact Or.inl ⟨nofun, Or.inr ⟨(foldl_addChatToNodeJS_same instanceId chats _).connected, hlogins⟩, nofun⟩
        · cases h
  | close =>
    cases h
    exact Or.inr (Or.inr ⟨nofun, rfl, rfl, id⟩)
  | subscribed channelName | refused channelName =>
    obtain ⟨client, -, rfl⟩ := Option.map_eq_some_iff.1 h
    exact Or.inr (Or.inr ⟨nofun, rfl, rfl, id⟩)
  | chatTabLoaded chatId | chatTabMonitor chatId =>
    cases h
    have hsame := hevent _ (addChatToNodeJS_same instanceId · chatId) s
    exact Or.inr (Or.inr ⟨nofun, hsame.connected, hsame.onlineUsersChannel, fun hl => hsame.logins ▸ hl⟩)
  | removeSynchroChat chatId =>
    cases h
    have hsame := hevent _ (removeSynchroChatListener_same · chatId) s
    exact Or.inr (Or.inr ⟨nofun, hsame.connected, hsame.onlineUsersChannel, fun hl => hsame.logins ▸ hl⟩)

/-- The page has connected before `connectAdmin` runs. -/
theorem connected_step {s s' : Page} {e : Event} (hc : s.onlineUsersChannel ≠ none ∨ s.logins ≠ 0 → s.connected = true)
    (h : step instanceId s e = some s') : s'.onlineUsersChannel ≠ none ∨ s'.logins ≠ 0 → s'.connected = true := by
  intro h'
  rcases step_page h with ⟨-, hconn | ⟨hconn, hlogins⟩, -⟩ | ⟨chats, -, hconn, -⟩ | ⟨-, hconn, hous, hlogins⟩
  · exact hconn
  · exact hconn.trans (hc (Or.inr hlogins))
  · exact hconn
  · rw [hous] at h'
    exact hconn.trans (hc (h'.imp_right hlogins))

/-- The handler of the online users is there from the first connect on exactly when no connect has to wait. -/
theorem prompt_iff {s s' : Page} {e : Event} (hset : s.connected = true → s.onlineUsersChannel ≠ none)
    (h : step instanceId s e = some s') :
    (s'.connected = true → s'.onlineUsersChannel ≠ none) ↔ Prompt s e := by
  have hprompt : (∀ chats, e ≠ .connect false chats) → Prompt s e := by
    intro he
    cases e with
    | connect isAuthenticated chats =>
      cases isAuthenticated with
      | true => trivial
      | false => exact absurd rfl (he chats)
    | _ => trivial
  rcases step_page h with ⟨hous, -, he⟩ | ⟨chats, rfl, hconn, hous⟩ | ⟨he, hconn, hous, -⟩
  · exact iff_of_true (fun _ => hous) (hprompt he)
  · rw [hous]
    exact ⟨fun h => h hconn, fun h _ => h⟩
  · rw [hconn, hous]
    exact iff_of_true hset (hprompt he)

theorem tracked_of_atOnce {s : Page} (hc : s.onlineUsersChannel ≠ none ∨ s.logins ≠ 0 → s.connected = true)
    (h : TrackedAtOnce instanceId s) : Tracked instanceId s :=
  ⟨h.1, fun hset => h.2 (hc (Or.inl hset))⟩

/-- A step keeps the page tracked, with the handler of the online users there at once, exactly when the event is
careful and prompt. -/
theorem atOnce_step {s s' : Page} {e : Event} (hi : Inv instanceId s) (ht : TrackedAtOnce instanceId s)
    (h : step instanceId s e = some s') :
    (TrackedAtOnce instanceId s' → Inv instanceId s') ∧
      (TrackedAtOnce instanceId s' ↔ Careful instanceId s e ∧ Prompt s e) := by
  obtain ⟨htracked, hset⟩ := (trackedAtOnce_iff hi).1 ht
  obtain ⟨hinv, hcareful⟩ := step_spec hi htracked h
  have hc := connected_step hi.connected h
  refine ⟨fun h' => hinv (tracked_of_atOnce hc h'), fun h' => ?_, fun ⟨h1, h2⟩ => ?_⟩
  · have ht' := tracked_of_atOnce hc h'
    exact ⟨hcareful.1 ht', (prompt_iff hset h).1 ((trackedAtOnce_iff (hinv ht')).1 h').2⟩
  · have ht' := hcareful.2 h1
    exact (trackedAtOnce_iff (hinv ht')).2 ⟨ht', (prompt_iff hset h).2 h2⟩

/-- In every run the chats and the channel of the online users are tracked in every state exactly when every
event is careful; and so they are with the handler of the online users from the first connect on exactly when
every event is prompt, too. -/
theorem tracked_iff_careful (instanceId : ℕ) (tr : List Event) :
    (Transition.Always (step instanceId) (Tracked instanceId) init tr ↔
      Transition.EachStep (step instanceId) (Careful instanceId) init tr) ∧
      (Transition.Always (step instanceId) (TrackedAtOnce instanceId) init tr ↔
        Transition.EachStep (step instanceId) (fun s e => Careful instanceId s e ∧ Prompt s e) init tr) :=
  ⟨Transition.always_iff_eachStep_of (I := Inv instanceId) (fun _ _ _ hi ht ht' hs => (step_spec hi ht hs).1 ht')
      (fun _ _ _ hi ht hs => (step_spec hi ht hs).2) inv_init ⟨chats_init, fun h => absurd rfl h⟩,
    Transition.always_iff_eachStep_of (I := Inv instanceId) (fun _ _ _ hi ht ht' hs => (atOnce_step hi ht hs).1 ht')
      (fun _ _ _ hi ht hs => (atOnce_step hi ht hs).2) inv_init ⟨chats_init, nofun⟩⟩

/-- The operator's connection drops and comes back: the chat in its tab has two handlers. -/
theorem reconnect_not_tracked :
    ¬ ∀ (instanceId : ℕ) (tr : List Event) (s : Page), Transition.run (step instanceId) init tr = some s →
      Tracked instanceId s := by
  intro h
  have hrun : ((Transition.run (step 0) init [.connect true [], .chatTabLoaded 5, .close, .connect true [5]]).map
      fun s => (s.client.isSubscribed (chatName 0 5), s.client.watchers (chatName 0 5))) = some (true, 2) := by
    decide +kernel
  obtain ⟨s, hs, he⟩ := Option.map_eq_some_iff.1 hrun
  simp only [Prod.mk.injEq] at he
  obtain ⟨hsub, hwatchers⟩ := he
  rw [(h 0 _ s hs).1.once 5 hsub] at hwatchers
  cases hwatchers

end NodejsHelper.Admin
