/-
What the operations and the tasks of the client do to its call ids: a call keeps its event and a channel its
name, texts and entries come with a new call id only, and only a response calls a callback with a response or
shows a channel subscribed.
-/
import NodejsHelper.Client.Calls

namespace NodejsHelper.SocketCluster

open EventLoop

/-! ## Texts, channels and transports -/

/-- The call ids in a text. -/
def Sent.cids : Sent → List ℕ
  | .single e => e.cid.toList
  | .batch es => es.filterMap (·.cid)
  | .pong | .reply .. => []

/-- The channels in use have been made. -/
def Memory.Listed (m : Memory) : Prop := ∀ c ∈ m.channels, c.2 < m.made

/-- A transport to come has no WebSocket. -/
def Memory.Unborn (m : Memory) : Prop :=
  ∀ k, m.created ≤ k → (m.transports k).readyState = .closed ∧ (m.transports k).sent = []

def Op.Within (made : ℕ) : Op → Prop
  | .trySubscribe ch => ch < made
  | _ => True

/-! ## What operations keep -/

/-- What every operation keeps, apart from the channels `P` it may show subscribed and the answers `Q` it may
give. -/
structure Later (P : ℕ → Prop) (Q : ℕ × Answer → Prop) (m m' : Memory) : Prop where
  nextCid : m.nextCid ≤ m'.nextCid
  emitted : m.emitted ≤ m'.emitted
  made : m.made ≤ m'.made
  created : m.created ≤ m'.created
  calls : ∀ id < m.emitted, (m'.calls id).event = (m.calls id).event ∧ (m'.calls id).data = (m.calls id).data
  names : ∀ ch < m.made, (m'.objects ch).name = (m.objects ch).name
  listed : m.Listed → m'.Listed
  subscribed : ∀ ch, (m'.objects ch).state = .subscribed → (m.objects ch).state = .subscribed ∨ P ch
  answered : ∀ a ∈ m'.answered, a ∈ m.answered ∨ Q a
  texts : ∀ k < m.created, (m.transports k).sent ⊆ (m'.transports k).sent
  unborn : m.Unborn → m'.Unborn

/-- No entry is new, nor a text with a call id. -/
structure Subdued (P : ℕ → Prop) (Q : ℕ × Answer → Prop) (m m' : Memory) : Prop extends Later P Q m m' where
  entries : ∀ k, (m'.transports k).callbackMap ⊆ (m.transports k).callbackMap
  sent : ∀ k, ∀ text ∈ (m'.transports k).sent, text ∈ (m.transports k).sent ∨ text.cids = []

/-- A text without call ids, and any other operation. -/
def Op.Bare : Op → Prop
  | .send _ text => text.cids = []
  | _ => True

/-- The operations left are for channels that have been made, and send nothing with a call id. -/
structure Minor (P : ℕ → Prop) (Q : ℕ × Answer → Prop) (m : Memory) (o : Outcome Memory Op) : Prop where
  subdued : Subdued P Q m o.mem
  ops : ∀ op ∈ o.ops, op.Bare ∧ op.Within o.mem.made

variable {P : ℕ → Prop} {Q : ℕ × Answer → Prop}

theorem Later.refl (m : Memory) : Later P Q m m where
  nextCid := le_rfl
  emitted := le_rfl
  made := le_rfl
  created := le_rfl
  calls _ _ := ⟨rfl, rfl⟩
  names _ _ := rfl
  listed h := h
  subscribed _ h := Or.inl h
  answered _ h := Or.inl h
  texts _ _ := List.Subset.refl _
  unborn h := h

theorem Later.trans {m m' m'' : Memory} (h : Later P Q m m') (h' : Later P Q m' m'') : Later P Q m m'' where
  nextCid := h.nextCid.trans h'.nextCid
  emitted := h.emitted.trans h'.emitted
  made := h.made.trans h'.made
  created := h.created.trans h'.created
  calls id hid := by
    have h2 := h'.calls id (hid.trans_le h.emitted)
    exact ⟨h2.1.trans (h.calls id hid).1, h2.2.trans (h.calls id hid).2⟩
  names ch hch := (h'.names ch (hch.trans_le h.made)).trans (h.names ch hch)
  listed hl := h'.listed (h.listed hl)
  subscribed ch hch := (h'.subscribed ch hch).elim (h.subscribed ch) Or.inr
  answered a ha := (h'.answered a ha).elim (h.answered a) Or.inr
  texts k hk := List.Subset.trans (h.texts k hk) (h'.texts k (hk.trans_le h.created))
  unborn hu := h'.unborn (h.unborn hu)

theorem Later.imp {P' : ℕ → Prop} {Q' : ℕ × Answer → Prop} {m m' : Memory} (h : Later P Q m m')
    (hP : ∀ ch, P ch → P' ch) (hQ : ∀ a, Q a → Q' a) : Later P' Q' m m' :=
  { h with
    subscribed := fun ch hch => (h.subscribed ch hch).imp_right (hP ch)
    answered := fun a ha => (h.answered a ha).imp_right (hQ a) }

theorem Subdued.refl (m : Memory) : Subdued P Q m m :=
  ⟨Later.refl m, fun _ => List.Subset.refl _, fun _ _ => Or.inl⟩

theorem Subdued.trans {m m' m'' : Memory} (h : Subdued P Q m m') (h' : Subdued P Q m' m'') : Subdued P Q m m'' :=
  ⟨h.toLater.trans h'.toLater, fun k => List.Subset.trans (h'.entries k) (h.entries k),
    fun k text htext => (h'.sent k text htext).elim (h.sent k text) Or.inr⟩

/-! ### Changes of the parts -/

/-- A change of the flags, and of channels in use that are fewer. -/
theorem subdued_flags {m m' : Memory} (htransports : m'.transports = m.transports) (hcreated : m'.created = m.created)
    (hcalls : m'.calls = m.calls) (hemitted : m'.emitted = m.emitted) (hnext : m'.nextCid = m.nextCid)
    (hchannels : m'.channels ⊆ m.channels) (hobjects : m'.objects = m.objects) (hmade : m'.made = m.made)
    (hanswered : m'.answered = m.answered) : Subdued P Q m m' where
  nextCid := hnext.ge
  emitted := hemitted.ge
  made := hmade.ge
  created := hcreated.ge
  calls id _ := by rw [hcalls]; exact ⟨rfl, rfl⟩
  names ch _ := by rw [hobjects]
  listed hl c hc := hmade ▸ hl c (hchannels hc)
  subscribed ch hch := Or.inl (hobjects ▸ hch)
  answered a ha := Or.inl (hanswered ▸ ha)
  texts k _ := by rw [htransports]; exact List.Subset.refl _
  unborn hu k hk := by rw [htransports]; exact hu k (hcreated ▸ hk)
  entries k := by rw [htransports]; exact List.Subset.refl _
  sent k text htext := Or.inl (by rwa [htransports] at htext)

/-- A change of a transport that sends nothing, registers nothing and does not open a WebSocket anew. -/
theorem subdued_setTransport (m : Memory) (k : ℕ) {f : Transport → Transport}
    (hentries : (f (m.transports k)).callbackMap ⊆ (m.transports k).callbackMap)
    (hsent : (f (m.transports k)).sent = (m.transports k).sent)
    (hready : (m.transports k).readyState = .closed → (f (m.transports k)).readyState = .closed) :
    Subdued P Q m (m.setTransport k f) := by
  have hcases : ∀ j, (((m.setTransport k f).transports j).callbackMap ⊆ (m.transports j).callbackMap) ∧
      ((m.setTransport k f).transports j).sent = (m.transports j).sent ∧
      ((m.transports j).readyState = .closed → ((m.setTransport k f).transports j).readyState = .closed) := by
    intro j
    by_cases hj : j = k
    · subst hj
      rw [setTransport_self]
      exact ⟨hentries, hsent, hready⟩
    · rw [setTransport_of_ne hj]
      exact ⟨List.Subset.refl _, rfl, id⟩
  exact ⟨⟨le_rfl, le_rfl, le_rfl, le_rfl, fun _ _ => ⟨rfl, rfl⟩, fun _ _ => rfl, id, fun _ h => Or.inl h,
    fun _ h => Or.inl h, fun j _ => (hcases j).2.1 ▸ List.Subset.refl _,
    fun hu j hj => ⟨(hcases j).2.2 (hu j hj).1, (hcases j).2.1.trans (hu j hj).2⟩⟩,
    fun j => (hcases j).1, fun j _ htext => Or.inl ((hcases j).2.1 ▸ htext)⟩

theorem subdued_forget (m : Memory) (k cid : ℕ) : Subdued P Q m (m.forget k cid) :=
  subdued_setTransport m k List.filter_sublist.subset rfl id

theorem subdued_off (m : Memory) : Subdued P Q m m.off := by
  unfold Memory.off
  split
  · exact subdued_setTransport m _ (List.Subset.refl _) rfl id
  · exact Subdued.refl m

/-- A change of a call that is none of its event. -/
theorem subdued_setCall (m : Memory) (id : ℕ) {f : Call → Call} (hevent : (f (m.calls id)).event = (m.calls id).event)
    (hdata : (f (m.calls id)).data = (m.calls id).data) : Subdued P Q m (m.setCall id f) := by
  have hcases : ∀ j, ((m.setCall id f).calls j).event = (m.calls j).event ∧
      ((m.setCall id f).calls j).data = (m.calls j).data := by
    intro j
    by_cases hj : j = id
    · subst hj
      rw [setCall_self]
      exact ⟨hevent, hdata⟩
    · rw [setCall_of_ne hj]
      exact ⟨rfl, rfl⟩
  exact { (Subdued.refl m : Subdued P Q m m) with calls := fun j _ => hcases j }

/-- A change of a channel that keeps its name. -/
theorem subdued_setChannel (m : Memory) (ch : ℕ) {f : Channel → Channel}
    (hname : (f (m.objects ch)).name = (m.objects ch).name)
    (hstate : (f (m.objects ch)).state = .subscribed → (m.objects ch).state = .subscribed ∨ P ch) :
    Subdued P Q m (m.setChannel ch f) := by
  have hcases : ∀ j, ((m.setChannel ch f).objects j).name = (m.objects j).name ∧
      (((m.setChannel ch f).objects j).state = .subscribed → (m.objects j).state = .subscribed ∨ P j) := by
    intro j
    by_cases hj : j = ch
    · subst hj
      rw [Memory.setChannel]
      simp only [Function.update_self]
      exact ⟨hname, hstate⟩
    · rw [Memory.setChannel]
      simp only [Function.update_of_ne hj]
      exact ⟨trivial, Or.inl⟩
  exact { (Subdued.refl m : Subdued P Q m m) with
    names := fun j _ => (hcases j).1, subscribed := fun j => (hcases j).2 }

theorem subdued_answer (m : Memory) {id : ℕ} {a : Answer} (ha : Q (id, a)) : Subdued P Q m (m.answer id a) := by
  refine { (Subdued.refl m : Subdued P Q m m) with answered := fun b hb => ?_ }
  refine (List.mem_append.1 hb).imp_right fun hb => ?_
  rw [List.mem_singleton.1 hb]
  exact ha

theorem subdued_channel (m : Memory) (name : String) : Subdued P Q m (channel m name).1 := by
  unfold channel
  split
  · exact Subdued.refl m
  · have hobjects : ∀ ch, ch ≠ m.made → (m.makeChannel name).objects ch = m.objects ch :=
      fun ch hch => Function.update_of_ne hch ..
    have hnew : (m.makeChannel name).objects m.made = ⟨name, .unsubscribed, none⟩ := Function.update_self ..
    refine { (Subdued.refl m : Subdued P Q m m) with
      made := Nat.le_succ _, names := fun ch hch => ?_, listed := fun hl c hc => ?_, subscribed := fun ch hch => ?_ }
    · show ((m.makeChannel name).objects ch).name = _
      rw [hobjects ch hch.ne]
    · rcases List.mem_append.1 hc with hc | hc
      · exact Nat.lt_succ_of_lt (hl c hc)
      · rw [List.mem_singleton.1 hc]
        exact Nat.lt_succ_self _
    · have hch' : ((m.makeChannel name).objects ch).state = .subscribed := hch
      by_cases heq : ch = m.made
      · rw [heq, hnew] at hch'
        cases hch'
      · rw [hobjects ch heq] at hch'
        exact Or.inl hch'

/-! ## Operations -/

theorem Subdued.minor {m m' : Memory} {o : Outcome Memory Op} (hs : Subdued P Q m m') (h : Minor P Q m' o) :
    Minor P Q m o :=
  ⟨hs.trans h.subdued, h.ops⟩

theorem minor_returns {m m' : Memory} {ops : List Op} (h : Subdued P Q m m')
    (hops : ∀ op ∈ ops, op.Bare ∧ op.Within m'.made) : Minor P Q m (.returns m' ops) :=
  ⟨h, hops⟩

theorem minor_throws {m m' : Memory} (h : Subdued P Q m m') : Minor P Q m (.throws m') := ⟨h, by rintro op ⟨⟩⟩

theorem minor_unchanged {m : Memory} {ops : List Op} (hops : ∀ op ∈ ops, op.Bare ∧ op.Within m.made) :
    Minor P Q m (.returns m ops) :=
  ⟨Subdued.refl m, hops⟩

theorem Minor.andThen {m : Memory} {o : Outcome Memory Op} (h : Minor P Q m o) {next : List Op}
    (hnext : ∀ op ∈ next, op.Bare ∧ op.Within o.mem.made) : Minor P Q m (o.andThen next) where
  subdued := by rw [Outcome.andThen_mem]; exact h.subdued
  ops op hop := by
    rw [Outcome.andThen_mem]
    exact (Outcome.mem_andThen_ops hop).elim (h.ops op) (hnext op)

/-- The channel of a name in use has been made. -/
theorem channel_lt {m : Memory} (hl : m.Listed) {name : String} {ch : ℕ} (h : m.channel name = some ch) :
    ch < m.made := by
  obtain ⟨c, hc, rfl⟩ := Option.map_eq_some_iff.1 h
  exact hl c (List.mem_of_find?_eq_some hc)

theorem channel_snd_lt {m : Memory} (hl : m.Listed) (name : String) :
    (channel m name).2 < (channel m name).1.made := by
  unfold channel
  split
  · exact channel_lt hl ‹_›
  · exact Nat.lt_succ_self _

theorem minor_cancelPendingSubscribe (m : Memory) (ch : ℕ) : Minor P Q m (cancelPendingSubscribe m ch) := by
  unfold cancelPendingSubscribe
  split
  · exact minor_returns ((subdued_forget m _ _).trans (subdued_setChannel _ ch rfl Or.inl)) (by simp)
  · exact minor_throws (Subdued.refl m)
  · exact minor_unchanged (by simp)

theorem minor_triggerUnsubscribe (m : Memory) (ch : ℕ) {newState : SubscriptionState}
    (hstate : newState ≠ .subscribed) : Minor P Q m (triggerUnsubscribe m ch newState) := by
  unfold triggerUnsubscribe
  have hset : Subdued P Q m (m.setChannel ch fun c => { c with state := newState }) :=
    subdued_setChannel m ch rfl fun h => absurd h hstate
  refine (hset.minor (minor_cancelPendingSubscribe _ ch)).andThen ?_
  split <;> simp [Op.Bare, Op.Within]

theorem minor_suspend (m : Memory) (name : String) : Minor P Q m (suspend m name) := by
  unfold suspend
  split
  · refine minor_triggerUnsubscribe m _ ?_
    split <;> simp
  · exact minor_unchanged (by simp)

theorem minor_onSubscribe (m : Memory) (ch : ℕ) (failed : Bool) (hP : failed = false → P ch) :
    Minor P Q m (onSubscribe m ch failed) := by
  unfold onSubscribe triggerSubscribeFail triggerSubscribe
  refine (subdued_setChannel m ch (f := fun c => { c with pendingSubscriptionCid := none }) rfl Or.inl).minor ?_
  dsimp only
  cases failed with
  | true =>
    rw [if_pos rfl]
    split
    · exact minor_unchanged (by simp)
    · exact minor_returns (subdued_setChannel _ ch rfl (by rintro ⟨⟩)) (by simp [Op.Bare, Op.Within])
  | false =>
    rw [if_neg Bool.false_ne_true]
    split
    · exact minor_unchanged (by simp)
    · exact minor_returns (subdued_setChannel _ ch rfl fun _ => Or.inr (hP rfl)) (by simp [Op.Bare, Op.Within])

theorem minor_disconnect (m : Memory) (code : ℤ) (data : Option Json) : Minor P Q m (disconnect m code data) := by
  unfold disconnect
  split
  · exact minor_returns (subdued_flags rfl rfl rfl rfl rfl (List.Subset.refl _) rfl rfl rfl) (by simp)
  · split
    · exact minor_unchanged (by simp [Op.Bare, Op.Within])
    · exact minor_throws (Subdued.refl m)

theorem minor_processPending {m : Memory} (hl : m.Listed) : Minor P Q m (processPending m) := by
  refine minor_returns (subdued_flags rfl rfl rfl rfl rfl (List.Subset.refl _) rfl rfl rfl) fun op hop => ?_
  obtain ⟨ch, hch, rfl⟩ := List.mem_map.1 hop
  obtain ⟨c, hc, rfl⟩ := List.mem_map.1 (List.mem_of_mem_filter hch)
  exact ⟨trivial, hl c hc⟩

theorem minor_connect (m : Memory) : Minor P Q m (connect m) := by
  unfold connect
  split
  · exact minor_returns (subdued_flags rfl rfl rfl rfl rfl (List.Subset.refl _) rfl rfl rfl)
      (by simp [Op.Bare, Op.Within])
  · exact minor_unchanged (by simp)

theorem minor_call {m : Memory} (hl : m.Listed) (a : Api) : Minor P Q m (call m a) := by
  cases a with
  | emit event data callback =>
    rw [call, emit]
    split
    · split <;> exact minor_unchanged (by simp [Op.Bare, Op.Within])
    · split <;> exact minor_unchanged (by simp [Op.Bare, Op.Within])
  | connect => exact minor_connect m
  | disconnect code data => exact minor_disconnect m code data
  | destroy code data =>
    have hs : Subdued P Q m { m with active := false } :=
      subdued_flags rfl rfl rfl rfl rfl (List.Subset.refl _) rfl rfl rfl
    exact hs.minor (minor_disconnect _ code data)
  | processPendingSubscriptions => exact minor_processPending hl
  | channel name => exact minor_returns (subdued_channel m name) (by simp)
  | subscribe name =>
    rw [call, subscribe]
    refine (subdued_channel m name).minor ?_
    have hlt := channel_snd_lt hl name
    dsimp only
    split
    · refine minor_returns (subdued_setChannel _ _ rfl (by rintro ⟨⟩)) fun op hop => ?_
      rw [List.mem_singleton.1 hop]
      exact ⟨trivial, hlt⟩
    · exact minor_unchanged (by simp)
  | unsubscribe name =>
    rw [call, unsubscribe]
    split
    · split
      · exact minor_unchanged (by simp)
      · exact (minor_triggerUnsubscribe m _ (by simp)).andThen (by simp [Op.Bare, Op.Within])
    · exact minor_unchanged (by simp)
  | destroyChannel name =>
    rw [call, destroyChannel]
    split <;> exact minor_unchanged (by simp [Op.Bare, Op.Within])

theorem minor_authenticated (m : Memory) : Minor P Q m (changeToAuthenticatedState m) := by
  unfold changeToAuthenticatedState
  split
  · exact minor_unchanged (by simp [Op.Bare, Op.Within])
  · refine minor_returns (subdued_flags rfl rfl rfl rfl rfl (List.Subset.refl _) rfl rfl rfl) ?_
    split <;> simp [Op.Bare, Op.Within]

theorem minor_unauthenticated (m : Memory) : Minor P Q m (changeToUnauthenticatedState m) := by
  unfold changeToUnauthenticatedState
  split
  · exact minor_returns (subdued_flags rfl rfl rfl rfl rfl (List.Subset.refl _) rfl rfl rfl)
      (by simp [Op.Bare, Op.Within])
  · exact minor_unchanged (by simp)

theorem minor_onSCOpen (m : Memory) (isAuthenticated : Bool) :
    Minor P Q m (onSCOpen m isAuthenticated) := by
  have hs : Subdued P Q m { m with preparing := true } :=
    subdued_flags rfl rfl rfl rfl rfl (List.Subset.refl _) rfl rfl rfl
  refine hs.minor (Minor.andThen ?_ (by simp [Op.Bare, Op.Within]))
  split
  · exact minor_authenticated _
  · exact minor_unauthenticated _

theorem bare_respond (made k : ℕ) (cid error data : Option Json) :
    ∀ op ∈ respond k cid error data, op.Bare ∧ op.Within made := by
  unfold respond
  split
  · split <;> simp [Op.Bare, Op.Within, Sent.cids]
  · simp

theorem minor_onSCEvent (m : Memory) (k : ℕ) (name : Json) (data cid : Option Json) :
    Minor P Q m (onSCEvent m k name data cid) := by
  unfold onSCEvent
  split
  · split
    · exact minor_throws (Subdued.refl m)
    · refine minor_unchanged ?_
      split <;> simp [Op.Bare, Op.Within]
  · split
    · exact minor_throws (Subdued.refl m)
    · split <;> exact minor_unchanged (by simp [Op.Bare, Op.Within])
  · split
    · exact (minor_authenticated m).andThen (bare_respond _ k cid none none)
    · exact minor_unchanged (bare_respond _ k cid _ none)
  · refine minor_unchanged (List.forall_mem_append.2 ⟨?_, bare_respond _ k cid none none⟩)
    simp [Op.Bare, Op.Within]
  · split
    · exact minor_unchanged (by simp [Op.Bare, Op.Within])
    · exact minor_throws (Subdued.refl m)
  · exact minor_unchanged (by simp [Op.Bare, Op.Within])

/-- A text leaves the entries as they are. -/
theorem later_send (m : Memory) (k : ℕ) (text : Sent) : Later P Q m (send m k text).mem := by
  unfold send
  split
  · rename_i hopen
    have hcases : ∀ j, (m.transports j).sent ⊆
        ((m.setTransport k fun t => { t with sent := t.sent ++ [text] }).transports j).sent := by
      intro j
      by_cases hj : j = k
      · subst hj
        rw [setTransport_self]
        exact List.subset_append_left _ _
      · rw [setTransport_of_ne hj]
        exact List.Subset.refl _
    refine { (Later.refl m : Later P Q m m) with texts := fun j _ => hcases j, unborn := fun hu j hj => ?_ }
    have hjk : j ≠ k := by
      rintro rfl
      rw [(hu j hj).1] at hopen
      cases hopen
    show ((m.setTransport k _).transports j).readyState = .closed ∧ ((m.setTransport k _).transports j).sent = []
    rw [setTransport_of_ne hjk]
    exact hu j hj
  · exact Later.refl m

theorem mem_sent_send {m : Memory} {k j : ℕ} {text text' : Sent} (h : text' ∈ ((send m k text).mem.transports j).sent) :
    text' ∈ (m.transports j).sent ∨ j = k ∧ text' = text := by
  unfold send at h
  split at h
  · by_cases hj : j = k
    · subst hj
      rw [Outcome.mem, setTransport_self] at h
      exact (List.mem_append.1 h).imp_right fun h => ⟨rfl, List.mem_singleton.1 h⟩
    · rw [Outcome.mem, setTransport_of_ne hj] at h
      exact Or.inl h
  · exact Or.inl h

theorem entries_send (m : Memory) (k : ℕ) (text : Sent) (j : ℕ) :
    ((send m k text).mem.transports j).callbackMap = (m.transports j).callbackMap := by
  unfold send
  split
  · by_cases hj : j = k
    · subst hj
      rw [Outcome.mem, setTransport_self]
    · rw [Outcome.mem, setTransport_of_ne hj]
  · rfl

theorem bare_send (m : Memory) (k : ℕ) (text : Sent) (made : ℕ) :
    ∀ op ∈ (send m k text).ops, op.Bare ∧ op.Within made := by
  unfold send
  split <;> simp [Op.Bare, Op.Within]

theorem minor_send (m : Memory) (k : ℕ) {text : Sent} (htext : text.cids = []) : Minor P Q m (send m k text) where
  subdued := ⟨later_send m k text, fun j => (entries_send m k text j) ▸ List.Subset.refl _,
    fun j text' h => by
      rcases mem_sent_send h with h | ⟨-, rfl⟩
      · exact Or.inl h
      · exact Or.inr htext⟩
  ops := bare_send m k text _

theorem minor_tryUnsubscribe (m : Memory) (ch : ℕ) : Minor P Q m (tryUnsubscribe m ch) := by
  have hcancel : Minor P Q m (cancelPendingSubscribe m ch) := minor_cancelPendingSubscribe m ch
  unfold tryUnsubscribe
  split
  · split
    · rename_i heq
      rw [heq] at hcancel
      exact minor_throws hcancel.subdued
    · rename_i heq
      rw [heq] at hcancel
      split
      · exact minor_throws hcancel.subdued
      · split
        · exact hcancel.subdued.minor (minor_send _ _ rfl)
        · exact minor_returns hcancel.subdued (by simp)
  · exact minor_unchanged (by simp)

theorem minor_closeSocket (m : Memory) (k : ℕ) (code : ℤ) : Minor P Q m (closeSocket m k code) := by
  unfold closeSocket
  split
  · refine minor_returns (subdued_setTransport m k (List.Subset.refl _) rfl fun h => ?_) (by simp)
    rw [if_pos h]
  · exact minor_throws (Subdued.refl m)

theorem minor_closeTransport (m : Memory) (k : ℕ) (code : ℤ) (data : Option Json) :
    Minor P Q m (closeTransport m k code data) := by
  unfold closeTransport
  split <;> exact minor_unchanged (by simp [Op.Bare, Op.Within, Sent.cids])

theorem minor_onClose (m : Memory) (k : ℕ) (code : ℤ) : Minor P Q m (onClose m k code) := by
  have hset : Subdued P Q m (m.setTransport k fun t =>
      { t with connectTimeout := false, pingTimeout := false, state := .closed }) :=
    subdued_setTransport m k (List.Subset.refl _) rfl id
  unfold onClose
  dsimp only
  split
  · exact minor_returns hset (by simp)
  · split
    · refine minor_returns ((hset.trans (subdued_off _)).trans ?_) (by simp [Op.Bare, Op.Within])
      exact subdued_flags rfl rfl rfl rfl rfl (List.Subset.refl _) rfl rfl rfl
    · exact minor_returns hset (by simp [Op.Bare, Op.Within])

theorem minor_cleanUp (m : Memory) (id : ℕ) : Minor P Q m (cleanUp m id) := by
  unfold cleanUp
  split
  · exact minor_returns (subdued_forget m _ _) (by simp)
  · exact minor_throws (Subdued.refl m)
  · exact minor_unchanged (by simp)

theorem minor_tryReconnect (m : Memory) (code : ℤ) : Minor P Q m (tryReconnect m code) := by
  have hs : Subdued P Q m { m with reconnectTimeout := true } :=
    subdued_flags rfl rfl rfl rfl rfl (List.Subset.refl _) rfl rfl rfl
  unfold tryReconnect
  split
  · exact minor_returns hs (by simp)
  · split
    · exact minor_returns hs (by simp)
    · exact minor_unchanged (by simp)

theorem minor_append (m : Memory) (event : String) (data : Option Json) (callback : Bool) :
    Minor P Q m (append m event data callback) := by
  have hs : Subdued P Q m (append m event data callback).mem := by
    refine { (Subdued.refl m : Subdued P Q m m) with emitted := Nat.le_succ _, calls := fun id hid => ?_ }
    show (Function.update m.calls m.emitted _ id).event = _ ∧ (Function.update m.calls m.emitted _ id).data = _
    rw [Function.update_of_ne hid.ne]
    exact ⟨rfl, rfl⟩
  refine ⟨hs, ?_⟩
  unfold append
  split <;> simp [Op.Bare, Op.Within]

theorem minor_abortBuffer (m : Memory) (id : ℕ) (hQ : Q (id, .badConnection)) : Minor P Q m (abortBuffer m id) := by
  have hs : Subdued P Q m { m.setCall id fun c => { c with timeout := false, callback := false } with
      emitBuffer := m.emitBuffer.erase id } :=
    (subdued_setCall m id (f := fun c => { c with timeout := false, callback := false }) rfl rfl).trans
      (subdued_flags rfl rfl rfl rfl rfl (List.Subset.refl _) rfl rfl rfl)
  unfold abortBuffer
  dsimp only
  split
  · exact minor_returns (hs.trans (subdued_answer _ hQ)) (by simp [Op.Bare, Op.Within])
  · exact minor_returns hs (by simp [Op.Bare, Op.Within])

theorem minor_abortEach (m : Memory) (k cid : ℕ) (hQ : ∀ id, Q (id, .badConnection)) :
    Minor P Q m (abortEach m k cid) := by
  unfold abortEach
  split
  · rename_i e _
    refine (subdued_forget m k cid).minor ?_
    cases e.2 with
    | call id =>
      have hs : Subdued P Q (m.forget k cid)
          ((m.forget k cid).setCall id fun c => { c with timeout := false, callback := false }) :=
        subdued_setCall _ id rfl rfl
      unfold abortEntry
      dsimp only
      split
      · exact minor_returns (hs.trans (subdued_answer _ (hQ id))) (by simp [Op.Bare, Op.Within])
      · exact minor_throws hs
    | handshake =>
      exact minor_returns (subdued_setTransport _ k (List.Subset.refl _) rfl id)
        (by simp [handshakeFailed, Op.Bare, Op.Within])
    | subscribe ch => exact minor_onSubscribe _ ch true (by rintro ⟨⟩)
  · exact minor_unchanged (by simp)

theorem minor_respondTo (m : Memory) (k cid : ℕ) (error data : Option Json) (e : Entry)
    (hP : ∀ ch, e = .subscribe ch → error = none → P ch)
    (hQ : ∀ id, e = .call id → Q (id, .response cid error data)) : Minor P Q m (respondTo m k cid error data e) := by
  cases e with
  | call id =>
    have hs : Subdued P Q m (m.setCall id fun c => { c with timeout := false }) := subdued_setCall m id rfl rfl
    unfold respondTo
    dsimp only
    split
    · exact minor_returns (hs.trans (subdued_answer _ (hQ id rfl))) (by simp [Op.Bare, Op.Within])
    · exact minor_returns hs (by simp)
  | handshake =>
    have hs : Subdued P Q m (m.setTransport k fun t => { t with handshakeTimeout := none }) :=
      subdued_setTransport m k (List.Subset.refl _) rfl id
    unfold respondTo
    dsimp only
    split
    · exact minor_returns hs (by simp [handshakeFailed, Op.Bare, Op.Within])
    · refine hs.minor ((subdued_setTransport _ k (f := fun t => { t with state := .opened }) (List.Subset.refl _) rfl
        id).minor ?_)
      split
      · have hopened : ∀ m : Memory, Subdued P Q m { m with state := .opened } := fun m =>
          subdued_flags rfl rfl rfl rfl rfl (List.Subset.refl _) rfl rfl rfl
        refine (hopened _).minor (Minor.andThen (minor_onSCOpen _ _) ?_)
        simp [Op.Bare, Op.Within]
      · exact minor_unchanged (by simp [Op.Bare, Op.Within])
  | subscribe ch =>
    refine minor_onSubscribe m ch error.isSome fun h => hP ch rfl ?_
    exact Option.not_isSome_iff_eq_none.1 (Bool.eq_false_iff.1 h)

theorem later_register (m : Memory) (k : ℕ) (e : Entry) : Later P Q m (m.register k e) := by
  have hset : Later P Q m (m.setTransport k fun t => { t with callbackMap := t.callbackMap ++ [(m.nextCid, e)] }) := by
    have hcases : ∀ j, ((m.setTransport k fun t =>
        { t with callbackMap := t.callbackMap ++ [(m.nextCid, e)] }).transports j).sent = (m.transports j).sent ∧
        ((m.setTransport k fun t =>
          { t with callbackMap := t.callbackMap ++ [(m.nextCid, e)] }).transports j).readyState =
            (m.transports j).readyState := by
      intro j
      by_cases hj : j = k
      · subst hj
        rw [setTransport_self]
        exact ⟨rfl, rfl⟩
      · rw [setTransport_of_ne hj]
        exact ⟨rfl, rfl⟩
    exact { (Later.refl m : Later P Q m m) with
      texts := fun j _ => (hcases j).1 ▸ List.Subset.refl _,
      unborn := fun hu j hj => ⟨(hcases j).2.trans (hu j hj).1, (hcases j).1.trans (hu j hj).2⟩ }
  exact { hset with nextCid := Nat.le_succ _ }

theorem flush_later (m : Memory) (id : ℕ) : Later P Q m (flush m id).mem := by
  have hdetach : Subdued P Q m { m with emitBuffer := m.emitBuffer.erase id } :=
    subdued_flags rfl rfl rfl rfl rfl (List.Subset.refl _) rfl rfl rfl
  unfold flush
  dsimp only
  split
  · exact hdetach.toLater
  · split
    · exact (hdetach.toLater.trans (later_register _ _ _)).trans (subdued_setCall _ id rfl rfl).toLater
    · exact hdetach.toLater

theorem trySubscribe_later (m : Memory) (ch : ℕ) : Later P Q m (trySubscribe m ch).mem := by
  unfold trySubscribe
  split
  · split
    · exact Later.refl m
    · split
      · rw [Outcome.andThen_mem]
        exact (later_register m _ _).trans (later_send _ _ _)
      · exact Later.refl m
  · exact Later.refl m

/-! ## Steps -/

/-- The operation is a response that shows a channel subscribed. -/
def Op.Shows (m : Memory) (op : Op) (ch : ℕ) : Prop :=
  ∃ k rid data error cid, op = .handle k (.response rid data error) ∧
    (m.transports k).pendingResponse rid = some (cid, .subscribe ch) ∧ hydrateError error = none

/-- The operation is a response that a callback is given. -/
def Op.Gives (m : Memory) (op : Op) (a : ℕ × Answer) : Prop :=
  ∃ k rid data error cid, op = .handle k (.response rid data error) ∧
    (m.transports k).pendingResponse rid = some (cid, .call a.1) ∧ a.2 = .response cid (hydrateError error) data

/-- An answer that is no response. -/
def Unanswered (a : ℕ × Answer) : Prop := ∀ cid error data, a.2 ≠ .response cid error data

theorem minor_handle (m : Memory) (k : ℕ) (incoming : Incoming) :
    Minor ((Op.handle k incoming).Shows m) (fun a => Unanswered a ∨ (Op.handle k incoming).Gives m a) m
      (handle m k incoming) := by
  cases incoming with
  | ping =>
    refine minor_unchanged ?_
    split <;> simp [Op.Bare, Op.Within, Sent.cids]
  | event name data cid =>
    rw [handle]
    split
    · exact minor_onSCEvent m k name data cid
    · exact minor_unchanged (by simp)
  | response rid data error =>
    rw [handle]
    split
    · rename_i cid e hpending
      refine (subdued_forget m k cid).minor (minor_respondTo _ k cid _ data e ?_ ?_)
      · rintro ch rfl hnone
        exact ⟨k, rid, data, error, cid, rfl, hpending, hnone⟩
      · rintro id rfl
        exact Or.inr ⟨k, rid, data, error, cid, rfl, hpending, rfl⟩
    · exact minor_unchanged (by simp)
  | raw =>
    refine minor_unchanged ?_
    split <;> simp [Op.Bare, Op.Within]

theorem minor_construct (c : Choice) (m : Memory) : Minor P Q m (construct c m) := by
  have hoff : Subdued P Q m m.off := subdued_off m
  have hcreated : m.off.created = m.created := by
    unfold Memory.off
    split <;> rfl
  unfold construct
  split
  · exact minor_throws hoff
  · refine hoff.minor (minor_returns ?_ (by simp))
    have hother : ∀ k, k ≠ m.created → Function.update m.off.transports m.created
        ⟨.connecting, .connecting, true, [], true, false, none, []⟩ k = m.off.transports k :=
      fun k hk => Function.update_of_ne hk ..
    refine { (Subdued.refl m.off : Subdued P Q m.off m.off) with
      created := ?_, texts := fun k hk => ?_, unborn := fun hu k hk => ?_, entries := fun k => ?_,
      sent := fun k text => ?_ }
    · exact hcreated.le.trans (Nat.le_succ _)
    · dsimp only
      rw [hother k (hcreated ▸ hk).ne]
      exact List.Subset.refl _
    · dsimp only at hk ⊢
      rw [hother k (Nat.ne_of_gt hk)]
      exact hu k (hcreated ▸ Nat.le_of_succ_le hk)
    · dsimp only
      by_cases hk : k = m.created
      · subst hk
        rw [Function.update_self]
        exact List.nil_subset _
      · rw [hother k hk]
        exact List.Subset.refl _
    · dsimp only
      by_cases hk : k = m.created
      · subst hk
        rw [Function.update_self]
        rintro ⟨⟩
      · rw [hother k hk]
        exact Or.inl

/-- The operations that make call ids and those that send. -/
def Op.numbers : Op → Bool
  | .flush (some _) | .trySubscribe _ | .send .. => true
  | _ => false

/-- Every other operation. -/
theorem minor_exec {c : Choice} {m : Memory} {op : Op} {o : Outcome Memory Op} (hl : m.Listed)
    (h : exec c m op = some o) (hop : op.numbers = false) :
    Minor (op.Shows m) (fun a => Unanswered a ∨ op.Gives m a) m o := by
  have hQ : ∀ id, Unanswered (id, .badConnection) ∨ op.Gives m (id, .badConnection) :=
    fun id => Or.inl (by rintro cid error data ⟨⟩)
  cases op with
  | trySubscribe | send => cases hop
  | notify => cases h; exact minor_unchanged (by simp [Op.Bare, Op.Within])
  | listening =>
    cases h
    unfold listening
    split
    · exact minor_unchanged (by simp [Op.Bare, Op.Within])
    · exact minor_throws (Subdued.refl m)
    · exact minor_unchanged (by simp)
  | call a => cases h; exact minor_call hl a
  | construct => cases h; exact minor_construct c m
  | append event data callback => cases h; exact minor_append m event data callback
  | flushEmitBuffer =>
    cases h
    refine minor_unchanged ?_
    split <;> simp [Op.Bare, Op.Within]
  | flush node =>
    cases node with
    | none => cases h; exact minor_unchanged (by simp)
    | some id => cases hop
  | closeTransport k code data => cases h; exact minor_closeTransport m k code data
  | onClose k code => cases h; exact minor_onClose m k code
  | closeSocket k code => cases h; exact minor_closeSocket m k code
  | suspend names =>
    cases names with
    | nil => cases h; exact minor_unchanged (by simp)
    | cons name names => cases h; exact (minor_suspend m name).andThen (by simp [Op.Bare, Op.Within])
  | abortAll => cases h; exact minor_unchanged (by simp [Op.Bare, Op.Within])
  | abortBuffer node =>
    cases node with
    | none => cases h; exact minor_unchanged (by simp)
    | some id => cases h; exact minor_abortBuffer m id (hQ id)
  | cleanUp id => cases h; exact minor_cleanUp m id
  | tryReconnect code => cases h; exact minor_tryReconnect m code
  | abortPending k => cases h; exact minor_unchanged (by simp [Op.Bare, Op.Within])
  | abortEach k cids =>
    cases cids with
    | nil => cases h; exact minor_unchanged (by simp)
    | cons cid cids => cases h; exact (minor_abortEach m k cid hQ).andThen (by simp [Op.Bare, Op.Within])
  | resetPingTimeout k => cases h; exact minor_returns (subdued_setTransport m k (List.Subset.refl _) rfl id) (by simp)
  | processPending => cases h; exact minor_processPending hl
  | setPendingCid ch cid => cases h; exact minor_returns (subdued_setChannel m ch rfl Or.inl) (by simp)
  | triggerUnsubscribe ch => cases h; exact minor_triggerUnsubscribe m ch (by simp)
  | tryUnsubscribe ch => cases h; exact minor_tryUnsubscribe m ch
  | deleteChannel name =>
    cases h
    exact minor_returns (subdued_flags rfl rfl rfl rfl rfl List.filter_sublist.subset rfl rfl rfl) (by simp)
  | unauthenticate => cases h; exact minor_unauthenticated m
  | handle k incoming => cases h; exact minor_handle m k incoming

theorem later_exec {c : Choice} {m : Memory} {op : Op} {o : Outcome Memory Op} (hl : m.Listed)
    (h : exec c m op = some o) : Later (op.Shows m) (fun a => Unanswered a ∨ op.Gives m a) m o.mem := by
  by_cases hop : op.numbers = false
  · exact (minor_exec hl h hop).subdued.toLater
  · cases op with
    | flush node =>
      cases node with
      | none => exact absurd rfl hop
      | some id => cases h; exact flush_later m id
    | trySubscribe ch => cases h; exact trySubscribe_later m ch
    | send k text => cases h; exact later_send m k text
    | _ => exact absurd rfl hop

/-! ## Tasks -/

theorem later_onOpen (m : Memory) {k : ℕ} (token : Json) (hk : k < m.created) :
    Later P Q m (onOpen m k token).1 := by
  refine (later_register m k .handshake).trans ?_
  have hother : ∀ {f : Transport → Transport} {j : ℕ}, j ≠ k →
      ((m.register k .handshake).setTransport k f).transports j = (m.register k .handshake).transports j :=
    fun hj => setTransport_of_ne hj _
  refine { (Later.refl _ : Later P Q (m.register k .handshake) (m.register k .handshake)) with
    texts := fun j _ => ?_, unborn := fun hu j hj => ?_ }
  · by_cases hj : j = k
    · subst hj
      rw [onOpen, setTransport_self]
      exact List.Subset.refl _
    · rw [onOpen, hother hj]
      exact List.Subset.refl _
  · have hjk : j ≠ k := by
      rintro rfl
      exact absurd hk (Nat.not_lt.2 hj)
    rw [onOpen, hother hjk]
    exact hu j hj

/-- A call that times out is given no response. -/
theorem minor_ackTimeout (m : Memory) (id : ℕ) : Minor (fun _ => False) Unanswered m
    (.returns (handleEventAckTimeout m id).1 (handleEventAckTimeout m id).2) := by
  have hs : Subdued (fun _ => False) Unanswered m
      { m.setCall id fun c => { c with timeout := false, callback := false } with
        emitBuffer := m.emitBuffer.erase id } :=
    (subdued_setCall m id (f := fun c => { c with timeout := false, callback := false }) rfl rfl).trans
      (subdued_flags rfl rfl rfl rfl rfl (List.Subset.refl _) rfl rfl rfl)
  unfold handleEventAckTimeout
  dsimp only
  split
  · exact minor_returns (hs.trans (subdued_answer _ (by rintro cid error data ⟨⟩))) (by simp [Op.Bare, Op.Within])
  · exact minor_returns hs (by simp [Op.Bare, Op.Within])

/-- What a task starts with, but for the opening of a WebSocket. -/
theorem minor_start {m m' : Memory} {w : Task} {ops : List Op} (h : start m w = some (m', ops))
    (hw : ∀ k token, w ≠ .wsOpen k token) : Minor (fun _ => False) Unanswered m (.returns m' ops) := by
  cases start_cases h with
  | page => exact minor_unchanged (by simp [Op.Bare, Op.Within])
  | wsOpen k token => exact absurd rfl (hw k token)
  | wsMessage k text =>
    refine minor_unchanged fun op hop => ?_
    rcases List.mem_append.1 hop with hop | hop
    · split at hop
      · rw [List.mem_singleton.1 hop]
        exact ⟨trivial, trivial⟩
      · cases hop
    · obtain ⟨_, -, rfl⟩ := List.mem_map.1 hop
      exact ⟨trivial, trivial⟩
  | wsClosing k hopen =>
    refine minor_returns (subdued_setTransport m k (List.Subset.refl _) rfl fun hclosed => ?_) (by simp)
    rw [hopen] at hclosed
    cases hclosed
  | wsClose k code =>
    exact minor_returns (subdued_setTransport m k (List.Subset.refl _) rfl fun _ => rfl)
      (by simp [Op.Bare, Op.Within])
  | wsError k ops hops => exact minor_unchanged fun op hop => by rw [hops op hop]; exact ⟨trivial, trivial⟩
  | connectTimeout k | pingTimeout k =>
    exact minor_returns (subdued_setTransport m k (List.Subset.refl _) rfl id) (by simp [Op.Bare, Op.Within])
  | handshakeTimeout k cid =>
    exact minor_returns ((subdued_forget m k _).trans (subdued_setTransport _ k (List.Subset.refl _) rfl id))
      (by simp [handshakeFailed, Op.Bare, Op.Within])
  | ackTimeout id => exact minor_ackTimeout m id
  | reconnectTimeout =>
    exact minor_returns (subdued_flags rfl rfl rfl rfl rfl (List.Subset.refl _) rfl rfl rfl)
      (by simp [Op.Bare, Op.Within])

theorem later_start {m m' : Memory} {w : Task} {ops : List Op} (h : start m w = some (m', ops)) :
    Later (fun _ => False) Unanswered m m' := by
  by_cases hw : ∃ k token, w = .wsOpen k token
  · obtain ⟨k, token, rfl⟩ := hw
    cases start_cases h with
    | wsOpen _ _ hk _ => exact later_onOpen m token hk
  · exact (minor_start h fun k token heq => hw ⟨k, token, heq⟩).subdued.toLater

end NodejsHelper.SocketCluster
