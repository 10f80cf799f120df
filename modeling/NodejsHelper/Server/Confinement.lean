/-
Whom the server lets into a chat. A membership of a chat channel starts with an accepted
`#subscribe`, and an accepted `#subscribe` reads the token of that moment; every visitor token comes
from a login hash that covers the channel it names. So a visitor of one chat is never handed a packet
of another one.
-/
import NodejsHelper.Server.Records

namespace NodejsHelper

namespace Server

open Auth Strings

variable (p : Primitives) (cfg : Config)

/-! ## Tokens -/

/-- A visitor token is for the kind of channel it names, and the hash behind it is the visitor hash of
that name under some timestamp. -/
def Genuine (token : AuthToken) : Prop :=
  token.isVisitor = true → token.isChatToken = contains token.chanelName "chat_" ∧
    ∃ ts rest, split token.token '.' = visitorHash p ts cfg.secretHash token.chanelName :: ts :: rest

/-- The token entitles its holder to a chat channel: it is an operator's, or a chat visitor's for this
channel whose login hash covers the last segment of its name. -/
def Entitles (token : AuthToken) (channel : String) : Prop :=
  token.isVisitor = false ∨ token.isChatToken = true ∧ token.chanelName = channel ∧ ∃ ts rest,
    split token.token '.' =
      p.sha1Hex (ts ++ "Visitor" ++ cfg.secretHash ++ "_" ++ lastPart channel '_') :: ts :: rest

/-- A signed token that an event presents and that verifies was returned by an accepted `login`. -/
def PresentsMinted (s : State) : Label → Prop
  | .start (.event t clock) => ∀ ev evs token, s.mem.batch t = ev :: evs → presented ev ≠ "" →
      verifyToken p cfg.authKey (presented ev) clock.check = .ok token →
      ∃ login clock' minted, loginToken p cfg login clock' = some minted ∧ presented ev = minted.2
  | _ => True

variable {p cfg}

/-- A minted token is genuine. -/
theorem genuine_of_login {ev : InEvent} {clock : Clock} {minted : AuthToken × String}
    (h : loginToken p cfg ev clock = some minted) : Genuine p cfg minted.1 := by
  obtain ⟨request, hash, instanceID, isVisitor, isChatToken, -, -, hv, rfl⟩ := loginToken_some h
  obtain ⟨head, part, rest, ts, hs, -, -, hc, hkind⟩ := validateLoginToken_some hv
  rw [signToken_fst]
  intro hvis
  rcases hkind with ⟨-, hhead⟩ | ⟨hfalse, -⟩
  · exact ⟨hc, part, rest, hs.trans (by rw [hhead]; rfl)⟩
  · exact absurd (hvis.symm.trans hfalse) (by decide)

theorem genuine_mark {token : AuthToken} (channel : String) (h : Genuine p cfg token) :
    Genuine p cfg { token with chanelNameChat := channel } := h

/-- Under strict binding an accepted subscription to a chat is one the token entitles to. -/
theorem entitles_of_accepts (hstrict : cfg.strictChannelBinding = true) {s : Socket} {ev : InEvent} {channel : String}
    {token : AuthToken} (hchat : contains channel "chat_" = true) (hg : Genuine p cfg token)
    (h : accepts cfg s ev = some (channel, token)) : Entitles p cfg token channel := by
  obtain ⟨-, -, -, -, -, hr, -⟩ := accepts_some.1 h
  cases hv : token.isVisitor with
  | false => exact Or.inl hv
  | true =>
    simp only [refusesToken, isChatChannel, hchat, hv, hstrict, Bool.and_true, Bool.true_and, Bool.or_eq_false_iff,
      Bool.not_eq_false', bne_eq_false_iff_eq] at hr
    obtain ⟨hct, rfl⟩ := hr
    obtain ⟨-, ts, rest, hs⟩ := hg hv
    refine Or.inr ⟨hct, rfl, ts, rest, ?_⟩
    rw [hs, visitorHash, if_pos hchat]

/-- Every token a socket holds is genuine. -/
def HoldGenuine (p : Primitives) (cfg : Config) (s : State) : Prop :=
  ∀ t token, (s.mem.sockets t).token = some token → Genuine p cfg token

theorem holdGenuine_step (hj : JsonLaw p) (s : State) (l : Label) (s' : State) (hl : PresentsMinted p cfg s l)
    (hs : HoldGenuine p cfg s) (h : step p cfg s l = some s') : HoldGenuine p cfg s' := by
  intro t
  have hset : ∀ (t' : ℕ) (sock : Socket), (∀ token, sock.token = some token → Genuine p cfg token) →
      ∀ token, (Function.update s.mem.sockets t' sock t).token = some token → Genuine p cfg token := by
    intro t' sock hsock
    by_cases ht : t = t'
    · subst ht; simpa using hsock
    · simpa [ht] using hs t
  cases step_cases h with
  | run g choice op rest ops m ht hx =>
    rw [Workers.State.assign_mem, hx.hub.2.1]
    exact hs t
  | stall t' => exact hs t
  | start w g ops m ht hw =>
    cases hw with
    | upgrade id => exact hset _ _ fun token h => nomatch h
    | cleanup t' channels => exact hset _ _ (hs t')
    | event t' clock ev evs hb =>
      refine hset _ _ (handleEvent_token_invariant (fun t c h => genuine_mark c h) (fun token hnew => ?_) (hs t'))
      rcases newToken_some hnew with ⟨-, signed, hl'⟩ | ⟨hpres, hv⟩
      · exact genuine_of_login hl'
      · obtain ⟨login, clock', minted, hm, he⟩ := hl ev evs token hb hpres hv
        have hg := genuine_of_login hm
        rw [he, verifyToken_loginToken hj hm] at hv
        split at hv
        · cases hv
        · cases hv; exact hg
    | _ => exact hs t

/-! ## Where a membership starts -/

/-- The socket holds the channel, is in the hub on it, or is about to be added. -/
def Subscribed (s : State) (t : ℕ) (channel : String) : Prop :=
  channel ∈ (s.mem.sockets t).subs ∨ t ∈ s.mem.hub.members channel ∨ .hubAdd t channel ∈ s.todo (.readLoop t)

/-- The step takes up a `#subscribe` to the channel that the socket accepts under the token. -/
def Admits (cfg : Config) (s : State) (l : Label) (t : ℕ) (channel : String) (token : AuthToken) : Prop :=
  ∃ clock ev evs, l = .start (.event t clock) ∧ s.mem.batch t = ev :: evs ∧
    accepts cfg (s.mem.sockets t) ev = some (channel, token)

/-- Work adds a channel to a socket by an accepted `#subscribe` only. -/
theorem Start.admits {m m' : Memory} {w : Work} {g : Goroutine} {ops : List Op} (h : Start p cfg m w g m' ops)
    {t : ℕ} {channel : String}
    (hadd : channel ∈ (m'.sockets t).subs ∨ g = .readLoop t ∧ .hubAdd t channel ∈ ops) :
    channel ∈ (m.sockets t).subs ∨ ∃ clock ev evs token, w = .event t clock ∧ m.batch t = ev :: evs ∧
      accepts cfg (m.sockets t) ev = some (channel, token) := by
  cases h with
  | upgrade id =>
    rcases hadd with hsub | ⟨-, hop⟩
    · by_cases ht : t = m.next
      · subst ht; simp [Memory.setStage, Memory.setLife, Memory.setSocket, newSocket] at hsub
      · simp only [Memory.setStage, Memory.setLife, Memory.setSocket, Function.update_of_ne ht] at hsub
        exact Or.inl hsub
    · cases hop
  | cleanup t' channels =>
    rcases hadd with hsub | ⟨hg, hop⟩
    · by_cases ht : t = t'
      · subst ht; simp [Memory.setStage, Memory.setLife, Memory.setSocket, NodejsHelper.cleanup] at hsub
      · simp only [Memory.setStage, Memory.setLife, Memory.setSocket, Function.update_of_ne ht] at hsub
        exact Or.inl hsub
    · rw [NodejsHelper.cleanup, List.map_append, List.mem_append] at hop
      rcases hop with hop | hop
      · simp [opOf] at hop
      · cases callsHub_cleanupPresence _ hop
  | event t' clock ev evs hb =>
    by_cases ht : t = t'
    · subst ht
      have hnew : channel ∈ (m.sockets t).subs ∨ ∃ token, accepts cfg (m.sockets t) ev = some (channel, token) := by
        rcases hadd with hsub | ⟨-, hop⟩
        · exact handleEvent_subs (p := p) (by simpa [Memory.setSocket] using hsub)
        · obtain ⟨e, he, hop⟩ := List.mem_map.1 hop
          cases e <;> cases hop
          exact Or.inr (accepts_of_hubAdd he)
      rcases hnew with hsub | ⟨token, ha⟩
      · exact Or.inl hsub
      · exact Or.inr ⟨clock, ev, evs, token, rfl, hb, ha⟩
    · rcases hadd with hsub | ⟨hg, -⟩
      · simp only [Memory.setSocket, Memory.setBatch, Function.update_of_ne ht] at hsub
        exact Or.inl hsub
      · cases hg; exact absurd rfl ht
  | handshakeTimeout t' ops ho =>
    rcases hadd with hsub | ⟨hg, -⟩
    · exact Or.inl hsub
    · cases hg
  | _ =>
    rcases hadd with hsub | ⟨-, hop⟩
    · exact Or.inl hsub
    · simp at hop

/-- A subscription starts with an accepted `#subscribe`. -/
theorem subscribed_step {s s' : State} {l : Label} {t : ℕ} {channel : String} (hs : Homed s)
    (h : step p cfg s l = some s') (hsub : Subscribed s' t channel) :
    Subscribed s t channel ∨ ∃ token, Admits cfg s l t channel token := by
  cases step_cases h with
  | run g choice op rest ops m ht hx =>
    obtain ⟨hhub, hsock, -, hops⟩ := hx.hub
    refine Or.inl ?_
    rcases hsub with hsub | hsub | hsub
    · rw [Workers.State.assign_mem, hsock] at hsub
      exact Or.inl hsub
    · rw [Workers.State.assign_mem, hhub, mem_hubAfter] at hsub
      -- a membership made by this section was owed before
      by_cases hop : op = .hubAdd t channel
      · subst hop
        have hg : Goroutine.readLoop t = g := hs g _ (ht ▸ List.mem_cons_self) _ rfl
        exact Or.inr (Or.inr (by rw [hg, ht]; exact List.mem_cons_self))
      · refine Or.inr (Or.inl ?_)
        cases op with
        | hubAdd t' c =>
          rcases hsub with ⟨rfl, rfl⟩ | hsub
          · exact absurd rfl hop
          · exact hsub
        | hubRemove t' c => exact hsub.2
        | _ => exact hsub
    · rcases Workers.mem_assign_append ht hsub with ⟨-, hnew⟩ | hold
      · cases hops _ hnew
      · exact Or.inr (Or.inr hold)
  | stall t' => exact Or.inl hsub
  | start w g ops m ht hw =>
    -- new in `subs` or among the hub calls: only an event brings that about
    have hadd : (channel ∈ (m.sockets t).subs ∨ g = .readLoop t ∧ .hubAdd t channel ∈ ops) ∨
        t ∈ s.mem.hub.members channel ∨ .hubAdd t channel ∈ s.todo (.readLoop t) := by
      rcases hsub with hsub | hsub | hsub
      · exact Or.inl (Or.inl hsub)
      · rw [Workers.State.assign_mem, (hw.settles t channel).1] at hsub
        exact Or.inr (Or.inl hsub)
      · rcases Workers.mem_assign hsub with ⟨hg, hnew⟩ | ⟨-, hold⟩
        · exact Or.inl (Or.inr ⟨hg.symm, hnew⟩)
        · exact Or.inr (Or.inr hold)
    rcases hadd with hadd | hold
    · rcases hw.admits hadd with hsub | ⟨clock, ev, evs, token, rfl, hb, ha⟩
      · exact Or.inl (Or.inl hsub)
      · exact Or.inr ⟨token, clock, ev, evs, rfl, hb, ha⟩
    · exact Or.inl (Or.inr hold)

/-! ## One visitor -/

/-- The socket holds no token but one of a visitor of the channel. -/
def Visits (t : ℕ) (channel : String) (s : State) : Prop :=
  ∀ token, (s.mem.sockets t).token = some token → token.isVisitor = true ∧ token.chanelName = channel

/-- The message is no packet of a chat other than the one. -/
def Message.within (chat : String) (msg : Message) : Prop :=
  ∀ channel data, msg.packet = .publish channel data → contains channel "chat_" = true → channel = chat

/-- No chat but the one is anywhere on the way to the socket. -/
structure Confined (t : ℕ) (chat : String) (s : State) : Prop where
  homed : Homed s
  subscribed : ∀ c, contains c "chat_" = true → Subscribed s t c → c = chat
  pending : ∀ g, ∀ op ∈ s.todo g, ∀ msg, op.carries = some (t, msg) → msg.within chat
  queued : ∀ msg ∈ (s.mem.conns t).queued, msg.within chat

theorem confined_init (t : ℕ) (chat : String) : Confined t chat init where
  homed := homed_init
  subscribed c _ h := by simp [Subscribed, init, newMemory, newSocket] at h
  pending _ _ h := nomatch h
  queued _ h := nomatch h

theorem within_of_plain {chat : String} {msg : Message} (h : msg.packet.plain = true) : msg.within chat := by
  intro channel data hp
  rw [hp] at h
  cases h

/-- An operation on the way to the socket after a step was on the way before, or fans out a publish to a
channel whose member the socket is. -/
theorem pending_step {s s' : State} {l : Label} {t : ℕ} {msg : Message} (h : step p cfg s l = some s')
    {g : Goroutine} {op : Op} (hop : op ∈ s'.todo g) (hc : op.carries = some (t, msg)) :
    (∃ op' ∈ s.todo g, op'.carries = some (t, msg)) ∨ msg.packet.plain = true ∨
      ∃ call channel data, t ∈ s.mem.hub.members channel ∧ msg = ⟨.publish channel data, call⟩ := by
  cases step_cases h with
  | run g' choice op' rest ops m ht hx =>
    rcases Workers.mem_assign_append ht hop with ⟨rfl, hnew⟩ | hold
    · rcases hx.carries op hnew hc with hold | ⟨call, channel, data, -, hm, rfl⟩
      · exact Or.inl ⟨op', ht ▸ List.mem_cons_self, hold⟩
      · exact Or.inr (Or.inr ⟨call, channel, data, hm, rfl⟩)
    · exact Or.inl ⟨op, hold, hc⟩
  | start w g' ops m ht hw =>
    rcases Workers.mem_assign hop with ⟨-, hnew⟩ | ⟨-, hold⟩
    · exact Or.inr (Or.inl (hw.carries op hnew hc).2)
    · exact Or.inl ⟨op, hold, hc⟩
  | stall t' => exact Or.inl ⟨op, hop, hc⟩

/-- A message in the queue after a step was there before, or an operation carried it there. -/
theorem queued_step {s s' : State} {l : Label} {t : ℕ} {msg : Message} (h : step p cfg s l = some s')
    (hm : msg ∈ (s'.mem.conns t).queued) :
    msg ∈ (s.mem.conns t).queued ∨ ∃ g, ∃ op ∈ s.todo g, op.carries = some (t, msg) := by
  cases step_cases h with
  | run g choice op rest ops m ht hx =>
    rcases hx.queued t with hq | ⟨msg', rfl, -, hq⟩
    · rw [Workers.State.assign_mem, hq] at hm
      exact Or.inl hm
    · rw [Workers.State.assign_mem, hq, List.mem_append, List.mem_singleton] at hm
      rcases hm with hm | rfl
      · exact Or.inl hm
      · exact Or.inr ⟨g, _, ht ▸ List.mem_cons_self, rfl⟩
  | start w g ops m ht hw =>
    rw [Workers.State.assign_mem, hw.queued t] at hm
    exact Or.inl hm
  | stall t' =>
    refine Or.inl ?_
    by_cases ht : t = t'
    · subst ht; simpa [Memory.setConn] using hm
    · simpa [Memory.setConn, ht] using hm

/-- While the socket only holds visitor tokens of one chat, no other chat gets on the way to it. -/
theorem confined_step (hstrict : cfg.strictChannelBinding = true) {t : ℕ} {chat : String} (s : State) (l : Label)
    (s' : State) (hv : Visits t chat s) (hs : Confined t chat s) (h : step p cfg s l = some s') :
    Confined t chat s' where
  homed := homed_step hs.homed h
  subscribed c hchat hsub := by
    rcases subscribed_step hs.homed h hsub with hold | ⟨token, clock, ev, evs, -, -, ha⟩
    · exact hs.subscribed c hchat hold
    · obtain ⟨-, -, -, -, htoken, hr, -⟩ := accepts_some.1 ha
      obtain ⟨hvis, hname⟩ := hv token htoken
      simp only [refusesToken, isChatChannel, hchat, hvis, hstrict, Bool.and_true, Bool.true_and,
        Bool.or_eq_false_iff, bne_eq_false_iff_eq] at hr
      exact hr.2.trans hname
  pending g op hop msg hc := by
    rcases pending_step h hop hc with ⟨op', hop', hc'⟩ | hplain | ⟨call, channel, data, hm, rfl⟩
    · exact hs.pending g op' hop' msg hc'
    · exact within_of_plain hplain
    · rintro c d ⟨⟩ hchat
      exact hs.subscribed _ hchat (Or.inr (Or.inl hm))
  queued msg hm := by
    rcases queued_step h hm with hold | ⟨g, op, hop, hc⟩
    · exact hs.queued msg hold
    · exact hs.pending g op hop msg hc

/-! ## The result -/

/-- The step takes up a `#publish` of the socket that the server publishes on the channel. -/
def Publishes (p : Primitives) (cfg : Config) (s : State) (l : Label) (t : ℕ) (channel : String) : Prop :=
  ∃ clock ev evs data, l = .start (.event t clock) ∧ s.mem.batch t = ev :: evs ∧
    .publish channel data ∈ (handleEvent p cfg (s.mem.sockets t) ev clock).2

/-- Under a restricted client publish a socket publishes to channels it holds only. -/
theorem subs_of_publishes (hrestrict : cfg.restrictClientPublish = true) {s : State} {l : Label} {t : ℕ}
    {channel : String} (h : Publishes p cfg s l t channel) : channel ∈ (s.mem.sockets t).subs := by
  obtain ⟨clock, ev, evs, data, -, -, hp⟩ := h
  have hh := handleEvent_handles p cfg (s.mem.sockets t) ev clock
  generalize handleEvent p cfg (s.mem.sockets t) ev clock = r at hh hp
  have hsend : ∀ out : List Effect, (∀ e ∈ out, e.isSend = true) → .publish channel data ∉ out :=
    fun out ho hm => by cases ho _ hm
  cases hh with
  | publish c d out _ _ _ hr ho =>
    simp only [List.mem_append, hsend out ho, List.mem_singleton, Effect.publish.injEq, false_or] at hp
    exact hp.1 ▸ hr hrestrict
  | answer out _ _ ho => exact absurd hp (hsend out ho)
  | install _ _ out _ _ _ _ _ _ _ ho => exact absurd hp (hsend out ho)
  | close => simp at hp
  | unsubscribe _ out _ _ _ ho => simp [hsend out ho] at hp
  | subscribe c token out _ _ ho =>
    have hpres : .publish channel data ∉ subscribePresence cfg token c := by
      unfold subscribePresence
      split
      · simp
      · split <;> simp
    simp [hpres, hsend out ho] at hp

/-- A subscription of a reachable state goes back to the step that admitted the socket, under a genuine
token, and has lasted since. -/
theorem subscribed_since (hj : JsonLaw p) {tr : List Label} {s : State}
    (hrun : Transition.run (step p cfg) init tr = some s)
    (hminted : Transition.EachStep (step p cfg) (PresentsMinted p cfg) init tr) {t : ℕ} {channel : String}
    (hsub : Subscribed s t channel) :
    ∃ pre l post a b token, tr = pre ++ l :: post ∧ Transition.run (step p cfg) init pre = some a ∧
      step p cfg a l = some b ∧ Transition.run (step p cfg) b post = some s ∧ Admits cfg a l t channel token ∧
      Genuine p cfg token ∧ Transition.Always (step p cfg) (fun m => Subscribed m t channel) b post := by
  rcases Transition.always_or_last_flip (P := fun m => Subscribed m t channel) hrun hsub with
    hall | ⟨pre, l, post, a, b, rfl, h1, h2, h3, h4, h5⟩
  · have := hall.head
    simp [Subscribed, init, newMemory, newSocket] at this
  · have hhomed : Homed a := Transition.run_invariant (fun _ _ _ hs h => homed_step hs h) homed_init h1
    have hgen : HoldGenuine p cfg a :=
      Transition.run_invariant_each (holdGenuine_step hj) hminted.left (fun _ _ h => by cases h) h1
    rcases subscribed_step hhomed h2 h5.head with hold | ⟨token, ha⟩
    · exact absurd hold h4
    · have htoken : (a.mem.sockets t).token = some token := by
        obtain ⟨clock, ev, evs, -, -, hacc⟩ := ha
        exact (accepts_some.1 hacc).2.2.2.2.1
      exact ⟨pre, l, post, a, b, token, rfl, h1, h2, h3, ha, hgen t token htoken, h5⟩

variable (p cfg) in
/-- Under strict binding, with no signed token but those `login` returned: a socket is in the hub on a
chat channel only since an accepted `#subscribe`, when it had completed the handshake and held a token
that entitles to the channel. So a socket that only ever holds visitor tokens of one chat is queued
packets of no other chat, and under a restricted client publish none of its publishes reaches another. -/
theorem visitor_confined (hj : JsonLaw p) (hstrict : cfg.strictChannelBinding = true) (tr : List Label) {s : State}
    (hrun : Transition.run (step p cfg) init tr = some s)
    (hminted : Transition.EachStep (step p cfg) (PresentsMinted p cfg) init tr) :
    (∀ t channel, contains channel "chat_" = true → t ∈ s.mem.hub.members channel →
      ∃ pre l post a b token, tr = pre ++ l :: post ∧ Transition.run (step p cfg) init pre = some a ∧
        step p cfg a l = some b ∧ Transition.run (step p cfg) b post = some s ∧ Admits cfg a l t channel token ∧
        (a.mem.sockets t).handshaken = true ∧ (a.mem.sockets t).token = some token ∧ Entitles p cfg token channel ∧
        Transition.Always (step p cfg) (fun m => Subscribed m t channel) b post) ∧
    (∀ t chat, Transition.Always (step p cfg) (Visits t chat) init tr →
      (∀ msg ∈ (s.mem.conns t).queued, ∀ channel data, msg.packet = .publish channel data →
        contains channel "chat_" = true → channel = chat) ∧
      (cfg.restrictClientPublish = true → ∀ pre l post a channel, tr = pre ++ l :: post →
        Transition.run (step p cfg) init pre = some a → Publishes p cfg a l t channel →
        contains channel "chat_" = true → channel = chat)) := by
  constructor
  · intro t channel hchat hm
    obtain ⟨pre, l, post, a, b, token, htr, h1, h2, h3, ha, hg, hall⟩ :=
      subscribed_since hj hrun hminted (Or.inr (Or.inl hm))
    refine ⟨pre, l, post, a, b, token, htr, h1, h2, h3, ha, ?_, ?_, ?_, hall⟩ <;>
      obtain ⟨clock, ev, evs, -, -, hacc⟩ := ha
    · exact (accepts_some.1 hacc).2.2.2.1
    · exact (accepts_some.1 hacc).2.2.2.2.1
    · exact entitles_of_accepts hstrict hchat hg hacc
  · intro t chat hv
    constructor
    · exact (Transition.run_invariant_each (confined_step hstrict) hv.eachStep (confined_init t chat) hrun).queued
    · rintro hrestrict pre l post a channel rfl hpre hpub hchat
      have hconf : Confined t chat a :=
        Transition.run_invariant_each (confined_step hstrict) hv.eachStep.left (confined_init t chat) hpre
      exact hconf.subscribed channel hchat (Or.inl (subs_of_publishes hrestrict hpub))

/-- The step brings in no frame that presents a signed token. -/
def presentsNone : Label → Bool
  | .start (.message _ v) => (decodeMessage v).all fun ev => presented ev == ""
  | _ => true

/-- Where no frame presents a signed token, none but minted ones are presented. -/
theorem presentsMinted_of_none {tr : List Label} (h : ∀ l ∈ tr, presentsNone l = true) :
    Transition.EachStep (step p cfg) (PresentsMinted p cfg) init tr := by
  refine Transition.eachStep_of_labels (I := fun s => ∀ t, ∀ ev ∈ s.mem.batch t, presented ev = "") ?_ ?_ h
    (fun _ _ h => nomatch h)
  · intro s l s' hl hs h t
    cases step_cases h with
    | run g choice op rest ops m ht hx => rw [Workers.State.assign_mem, hx.batch]; exact hs t
    | stall t' => exact hs t
    | start w g ops m ht hw =>
      have hset : ∀ (t' : ℕ) (evs : List InEvent), (∀ ev ∈ evs, presented ev = "") →
          ∀ ev ∈ Function.update s.mem.batch t' evs t, presented ev = "" := by
        intro t' evs hevs
        by_cases ht : t = t'
        · subst ht; simpa using hevs
        · simpa [ht] using hs t
      cases hw with
      | message t' v => exact hset t' _ (by simpa [presentsNone] using hl)
      | event t' clock ev evs hb => exact hset t' evs fun e he => hs t' e (hb ▸ List.mem_cons_of_mem ev he)
      | _ => exact hs t
  · intro s l _ hs
    cases l with
    | start w =>
      cases w with
      | event t clock =>
        intro ev evs token hb hp
        exact absurd (hs t ev (hb ▸ List.mem_cons_self)) hp
      | _ => trivial
    | _ => trivial

/-- The visitor of chat 55 was admitted under a token that entitles to it. -/
theorem visitor_confined_sample :
    ∃ s t token, Transition.run (step sample (defaultConfig "secret" sampleKey "node")) init sampleVisit = some s ∧
      t ∈ s.mem.hub.members "chat_55" ∧ Entitles sample (defaultConfig "secret" sampleKey "node") token "chat_55" := by
  have hm : ∃ s, Transition.run (step sample (defaultConfig "secret" sampleKey "node")) init sampleVisit = some s ∧
      0 ∈ s.mem.hub.members "chat_55" := ⟨_, rfl, by decide⟩
  obtain ⟨s, hrun, hmem⟩ := hm
  obtain ⟨-, -, -, -, -, token, -, -, -, -, -, -, -, hent, -⟩ :=
    (visitor_confined sample (defaultConfig "secret" sampleKey "node") sample_json rfl sampleVisit hrun
      (presentsMinted_of_none (by decide))).1 0 "chat_55" (by decide) hmem
  exact ⟨s, 0, token, hrun, hmem, hent⟩

end Server

end NodejsHelper
