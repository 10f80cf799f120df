/-
The two records of a subscription: `subs` of the socket and `hub.subs`. A read loop writes both, in
two sections with other goroutines in between, so they agree up to the hub calls it still owes
(`Agree`); what it owes is settled when it is between two events, and nothing is left of a socket
after its `cleanup`.
-/
import NodejsHelper.Server.Spec
import NodejsHelper.Auth.Sample

namespace NodejsHelper

namespace Server

variable {p : Auth.Primitives} {cfg : Config}

/-! ## What a handler owes the hub -/

theorem callsHub_opOf_of_isSend {t : ℕ} {e : Effect} (h : e.isSend = true) : (opOf t e).callsHub = false := by
  cases e <;> first | rfl | cases h

theorem callsHub_map_of_isSend {t : ℕ} {out : List Effect} (h : ∀ e ∈ out, e.isSend = true) :
    ∀ o ∈ out.map (opOf t), o.callsHub = false := by
  intro o ho
  obtain ⟨e, he, rfl⟩ := List.mem_map.1 ho
  exact callsHub_opOf_of_isSend (h e he)

theorem callsHub_subscribePresence {t : ℕ} {token : Auth.AuthToken} {channel : String} :
    ∀ o ∈ (subscribePresence cfg token channel).map (opOf t), o.callsHub = false := by
  unfold subscribePresence
  split
  · simp [opOf, Op.callsHub]
  · split <;> simp [opOf, Op.callsHub]

theorem callsHub_cleanupPresence {t : ℕ} {s : Socket} :
    ∀ o ∈ (cleanupPresence cfg s).map (opOf t), o.callsHub = false := by
  unfold cleanupPresence
  split
  · simp
  · repeat' split
    all_goals simp [opOf, Op.callsHub]

variable (p cfg) in
/-- The hub calls of a handler turn the membership of its socket into what `subs` says after it. -/
theorem settle_handleEvent (t : ℕ) (c : String) (s : Socket) (ev : InEvent) (clock : Clock) :
    settle t c ((handleEvent p cfg s ev clock).2.map (opOf t)) (c ∈ s.subs) ↔
      c ∈ (handleEvent p cfg s ev clock).1.subs := by
  have hh := handleEvent_handles p cfg s ev clock
  generalize handleEvent p cfg s ev clock = r at hh
  cases hh with
  | answer out _ _ ho => rw [settle_of_not_callsHub (callsHub_map_of_isSend ho)]
  | close code reason => exact Iff.rfl
  | publish channel data out _ _ _ _ ho =>
    rw [List.map_append, settle_append, settle_of_not_callsHub (callsHub_map_of_isSend ho)]
    exact Iff.rfl
  | install token s' out _ _ _ _ _ hsubs _ ho => rw [settle_of_not_callsHub (callsHub_map_of_isSend ho), hsubs]
  | subscribe channel token out _ _ ho =>
    rw [List.map_append, settle_append, settle_of_not_callsHub callsHub_subscribePresence, List.map_cons]
    show settle t c (out.map (opOf t)) ((t = t ∧ channel = c) ∨ c ∈ s.subs) ↔ _
    rw [settle_of_not_callsHub (callsHub_map_of_isSend ho)]
    simp [eq_comm]
  | unsubscribe channel out _ _ _ ho =>
    rw [List.map_cons]
    show settle t c (out.map (opOf t)) (¬ (t = t ∧ channel = c) ∧ c ∈ s.subs) ↔ _
    rw [settle_of_not_callsHub (callsHub_map_of_isSend ho)]
    simp [eq_comm]

theorem settle_map_hubRemove (t : ℕ) (c : String) (channels : List String) (b : Prop) :
    settle t c (channels.map (Op.hubRemove t)) b ↔ c ∉ channels ∧ b := by
  induction channels generalizing b with
  | nil => simp [settle]
  | cons d ds ih =>
    show settle t c (ds.map (Op.hubRemove t)) (¬ (t = t ∧ d = c) ∧ b) ↔ _
    rw [ih]
    simp only [List.mem_cons, not_or, true_and]
    tauto

/-- The hub calls of `cleanup` end every membership. -/
theorem settle_cleanup (t : ℕ) (c : String) {s : Socket} {channels : List String}
    (h : channels.toFinset = s.subs) :
    ¬ settle t c ((NodejsHelper.cleanup cfg s channels).2.map (opOf t)) (c ∈ s.subs) := by
  have hmap : (channels.map Effect.hubRemove).map (opOf t) = channels.map (Op.hubRemove t) := by
    rw [List.map_map]; rfl
  rw [cleanup, List.map_append, settle_append, settle_of_not_callsHub callsHub_cleanupPresence, hmap,
    settle_map_hubRemove, ← h, List.mem_toFinset]
  tauto

/-- A handler keeps the number of subscriptions within the limit. -/
theorem handleEvent_card {s : Socket} {ev : InEvent} {clock : Clock}
    (h : (s.subs.card : ℤ) ≤ max 0 cfg.channelLimit) :
    ((handleEvent p cfg s ev clock).1.subs.card : ℤ) ≤ max 0 cfg.channelLimit := by
  have hh := handleEvent_handles p cfg s ev clock
  generalize handleEvent p cfg s ev clock = r at hh
  cases hh with
  | answer => exact h
  | close => exact h
  | publish => exact h
  | install token s' out _ _ _ _ _ hsubs => rw [hsubs]; exact h
  | unsubscribe channel =>
    have := Finset.card_erase_le (s := s.subs) (a := channel)
    simp only at this ⊢
    omega
  | subscribe channel token out _ ha =>
    obtain ⟨-, -, -, -, -, -, hroom⟩ := accepts_some.1 ha
    rcases hroom with hm | hlt
    · simpa [Finset.insert_eq_of_mem hm] using h
    · have := Finset.card_insert_le channel s.subs
      simp only at this ⊢
      omega

/-! ## The invariant -/

/-- The stages in which a socket may hold subscriptions. -/
def Stage.subscribing : Stage → Bool
  | .reading | .unregisterSocket | .cleanup => true
  | _ => false

variable (cfg) in
/-- The membership of a socket in the hub is, once its read loop has made the hub calls it owes, what
its `subs` says; they are within the limit, and empty before `run` and after the drop of `cleanup`. -/
structure Agree (s : State) : Prop where
  homed : Homed s
  agree : ∀ t c, settle t c (s.todo (.readLoop t)) (t ∈ s.mem.hub.members c) ↔ c ∈ (s.mem.sockets t).subs
  limit : ∀ t, ((s.mem.sockets t).subs.card : ℤ) ≤ max 0 cfg.channelLimit
  idle : ∀ t, (s.mem.lives t).stage.subscribing = false → (s.mem.sockets t).subs = ∅
  fresh : ∀ t, s.mem.next ≤ t → (s.mem.lives t).stage = .waiting ∧ s.todo (.readLoop t) = []

theorem agree_init : Agree cfg init where
  homed := homed_init
  agree _ _ := by simp [settle, init, newMemory, newSocket]
  limit _ := by simp [init, newMemory, newSocket]
  idle _ _ := rfl
  fresh _ _ := ⟨rfl, rfl⟩

/-- A section keeps the invariant: a hub call is carried out by the read loop that owes it. -/
theorem Agree.run {s : State} (hs : Agree cfg s) {g : Goroutine} {op : Op} {rest ops : List Op}
    {m : Memory} (ht : s.todo g = op :: rest) (hx : Exec cfg s.mem g op m ops)
    (hhome : Homed (s.assign g m (ops ++ rest))) : Agree cfg (s.assign g m (ops ++ rest)) := by
  obtain ⟨hhub, hsock, hnext, hops⟩ := hx.hub
  have hop : op.AtHome g := hs.homed g op (ht ▸ List.mem_cons_self)
  refine ⟨hhome, fun t c => ?_, fun t => ?_, fun t hst => ?_, fun t hle => ?_⟩
  · simp only [Workers.State.assign_mem, hsock, hhub]
    rw [← hs.agree t c]
    -- the hub calls still owed are those of the own read loop
    by_cases hg : Goroutine.readLoop t = g
    · subst hg
      rw [Workers.State.assign_todo_self, ht, settle_append, settle_of_not_callsHub hops]
      exact settle_congr mem_hubAfter
    · rw [Workers.State.assign_todo_of_ne hg]
      refine settle_congr (mem_hubAfter.trans ?_)
      -- a hub call of another read loop is about another socket
      cases op with
      | hubAdd t' c' =>
        have ht' : t' ≠ t := fun he => hg (by rw [← hop _ rfl, he])
        simp [settleOp, ht']
      | hubRemove t' c' =>
        have ht' : t' ≠ t := fun he => hg (by rw [← hop _ rfl, he])
        simp [settleOp, ht']
      | _ => exact Iff.rfl
  · rw [Workers.State.assign_mem, hsock]
    exact hs.limit t
  · rw [Workers.State.assign_mem, hsock]
    rw [Workers.State.assign_mem] at hst
    -- a section moves a socket on only out of `reading`, where it may hold subscriptions
    rcases hx.stage t with h | ⟨-, h⟩
    · exact hs.idle t (h ▸ hst)
    · rw [h] at hst; cases hst
  · rw [Workers.State.assign_mem, hnext] at hle
    obtain ⟨hst, htodo⟩ := hs.fresh t hle
    have hg : Goroutine.readLoop t ≠ g := fun he => by rw [he, ht] at htodo; cases htodo
    rw [Workers.State.assign_todo_of_ne hg, Workers.State.assign_mem]
    refine ⟨?_, htodo⟩
    rcases hx.stage t with h | ⟨rfl, -⟩
    · rw [h]; exact hst
    · exact absurd (hop _ rfl) hg

/-- Work does not touch the hub; what it leaves to the read loop it is done by turns the membership of
its socket into what `subs` then says, and the `subs` of every other socket is as before, or empty for
a new one. -/
theorem Start.settles {m m' : Memory} {w : Work} {g : Goroutine} {ops : List Op} (h : Start p cfg m w g m' ops)
    (t : ℕ) (c : String) : m'.hub = m.hub ∧
      (g = .readLoop t → (settle t c ops (c ∈ (m.sockets t).subs) ↔ c ∈ (m'.sockets t).subs)) ∧
      (g ≠ .readLoop t → (m'.sockets t).subs = (m.sockets t).subs ∨ t = m.next ∧ (m'.sockets t).subs = ∅) := by
  rcases h.hub with ⟨id, rfl⟩ | ⟨t', clock, rfl⟩ | ⟨t', channels, rfl, hst⟩ | ⟨hhub, hsock, -, hops⟩
  · cases h
    refine ⟨rfl, fun hg => (nomatch hg), fun _ => ?_⟩
    by_cases ht : t = m.next
    · subst ht
      exact Or.inr ⟨rfl, by simp [Memory.setStage, Memory.setLife, Memory.setSocket, newSocket]⟩
    · exact Or.inl (by simp [Memory.setStage, Memory.setLife, Memory.setSocket, ht])
  · cases h with
    | event _ _ ev evs hb hst =>
      refine ⟨rfl, fun hg => ?_, fun hg => Or.inl ?_⟩
      · cases hg
        simpa [Memory.setSocket] using settle_handleEvent p cfg t c (m.sockets t) ev clock
      · have ht : t ≠ t' := fun he => hg (by rw [he])
        simp [Memory.setSocket, Memory.setBatch, ht]
  · generalize hm : m.lives t' = life at hst
    cases h with
    | cleanup _ _ hc hn hch =>
      refine ⟨rfl, fun hg => ?_, fun hg => Or.inl ?_⟩
      · cases hg
        simpa [Memory.setStage, Memory.setLife, Memory.setSocket, NodejsHelper.cleanup] using settle_cleanup t c hch
      · have ht : t ≠ t' := fun he => hg (by rw [he])
        simp [Memory.setStage, Memory.setLife, Memory.setSocket, ht]
    | unregisterSocket _ _ h' | closeDone _ _ h' | close _ _ h' | stopTimer _ _ h' =>
      rw [hm, hst] at h'
      cases h'
  · refine ⟨hhub, fun _ => ?_, fun _ => Or.inl (by rw [hsock])⟩
    rw [settle_of_not_callsHub hops, hsock]

/-- Work keeps every `subs` within the limit. -/
theorem Start.card {m m' : Memory} {w : Work} {g : Goroutine} {ops : List Op} (h : Start p cfg m w g m' ops)
    (hm : ∀ t, ((m.sockets t).subs.card : ℤ) ≤ max 0 cfg.channelLimit) (t : ℕ) :
    ((m'.sockets t).subs.card : ℤ) ≤ max 0 cfg.channelLimit := by
  have hset : ∀ (t' : ℕ) (s : Socket), (s.subs.card : ℤ) ≤ max 0 cfg.channelLimit →
      ((Function.update m.sockets t' s t).subs.card : ℤ) ≤ max 0 cfg.channelLimit := by
    intro t' s hs
    by_cases ht : t = t'
    · subst ht; simpa using hs
    · simpa [ht] using hm t
  cases h with
  | upgrade id => exact hset _ _ (by simp [newSocket])
  | event t' clock ev => exact hset _ _ (handleEvent_card (hm t'))
  | cleanup t' channels => exact hset _ _ (by simp [NodejsHelper.cleanup])
  | _ => exact hm t

/-- A socket outside the subscribing stages was there before, or its `subs` is empty. -/
theorem Start.idle {m m' : Memory} {w : Work} {g : Goroutine} {ops : List Op} (h : Start p cfg m w g m' ops)
    (t : ℕ) (hst : (m'.lives t).stage.subscribing = false) :
    (m.lives t).stage.subscribing = false ∧ (m'.sockets t).subs = (m.sockets t).subs ∨
      (m'.sockets t).subs = ∅ := by
  cases h with
  | upgrade id =>
    by_cases ht : t = m.next
    · subst ht
      exact Or.inr (by simp [Memory.setStage, Memory.setLife, Memory.setSocket, newSocket])
    · refine Or.inl ⟨?_, by simp [Memory.setStage, Memory.setLife, Memory.setSocket, ht]⟩
      simpa [Memory.setStage, Memory.setLife, Memory.setSocket, ht] using hst
  | event t' clock ev evs _ hr =>
    by_cases ht : t = t'
    · subst ht
      -- an event is handled while reading, so the hypothesis on the stage fails
      rw [show (((m.setBatch t evs).setSocket t (handleEvent p cfg (m.sockets t) ev clock).1).lives t).stage = .reading
        from hr] at hst
      cases hst
    · exact Or.inl ⟨hst, by simp [Memory.setBatch, Memory.setSocket, ht]⟩
  | cleanup t' channels =>
    by_cases ht : t = t'
    · subst ht
      exact Or.inr (by simp [Memory.setStage, Memory.setLife, Memory.setSocket, NodejsHelper.cleanup])
    · refine Or.inl ⟨?_, by simp [Memory.setStage, Memory.setLife, Memory.setSocket, ht]⟩
      simpa [Memory.setStage, Memory.setLife, Memory.setSocket, ht] using hst
  | registerSocket t' h' | runSocket t' h' | unregisterSocket t' _ h' | closeDone t' _ h' | close t' _ h'
  | stopTimer t' _ h' =>
    refine Or.inl ⟨?_, rfl⟩
    by_cases ht : t = t'
    · subst ht
      first
      | rw [h']; rfl
      | simp [Memory.setStage, Memory.setLife, Stage.subscribing] at hst
    · simpa [Memory.setStage, Memory.setLife, Memory.setConn, ht] using hst
  | stopWriting t' | pongTimeout t' | stopPinging t' | handshakeTimeout t' =>
    refine Or.inl ⟨?_, rfl⟩
    rw [stage_setLife] at hst
    split at hst
    · rename_i ht; rw [ht]; exact hst
    · exact hst
  | _ => exact Or.inl ⟨hst, rfl⟩

/-- Taking up work keeps the invariant. -/
theorem Agree.start {s : State} (hs : Agree cfg s) {w : Work} {g : Goroutine} {ops : List Op} {m : Memory}
    (ht : s.todo g = []) (hw : Start p cfg s.mem w g m ops) (hhome : Homed (s.assign g m ops)) :
    Agree cfg (s.assign g m ops) := by
  refine ⟨hhome, fun t c => ?_, hw.card hs.limit, fun t hst => ?_, fun t hle => ?_⟩
  · obtain ⟨hhub, hown, hother⟩ := hw.settles t c
    have hagree := hs.agree t c
    rw [Workers.State.assign_mem, hhub]
    by_cases hg : g = .readLoop t
    · rw [← hg, Workers.State.assign_todo_self]
      rw [← hg, ht] at hagree
      exact (settle_congr hagree).trans (hown hg)
    · rw [Workers.State.assign_todo_of_ne (Ne.symm hg), hagree]
      rcases hother hg with h | ⟨rfl, h⟩
      · rw [h]
      · rw [h, hs.idle _ (by rw [(hs.fresh _ le_rfl).1]; rfl)]
  · rcases hw.idle t hst with ⟨h1, h2⟩ | h
    · exact h2.trans (hs.idle t h1)
    · exact h
  · rw [Workers.State.assign_mem] at hle ⊢
    obtain ⟨hst, htodo⟩ := hs.fresh t (hw.next_le.trans hle)
    have hg : g ≠ .readLoop t := by rintro rfl; exact hw.readLoop hst
    rw [Workers.State.assign_todo_of_ne hg.symm]
    refine ⟨?_, htodo⟩
    rcases hw.stage t with h | ⟨rfl, hnext, -⟩ | ⟨hne, -⟩
    · rw [h]; exact hst
    · omega
    · exact absurd hst hne

theorem Agree.step {s s' : State} {l : Label} (hs : Agree cfg s) (h : step p cfg s l = some s') : Agree cfg s' := by
  have hhome := homed_step hs.homed h
  cases step_cases h with
  | run g choice op rest ops m ht hx => exact hs.run ht hx hhome
  | start w g ops m ht hw => exact hs.start ht hw hhome
  | stall t => exact ⟨hhome, hs.agree, hs.limit, hs.idle, hs.fresh⟩

/-! ## The result -/

/-- The read loop of the socket is between two events: it owes the hub no call. -/
def Between (s : State) (t : ℕ) : Prop := ∀ op ∈ s.todo (.readLoop t), op.callsHub = false

/-- `cleanup` of the socket has finished. -/
def Cleaned (s : State) (t : ℕ) : Prop :=
  ((s.mem.lives t).stage = .stopTimer ∨ (s.mem.lives t).stage = .gone) ∧ s.todo (.readLoop t) = []

theorem Agree.between {s : State} (hs : Agree cfg s) {t : ℕ} (ht : Between s t) (c : String) :
    c ∈ (s.mem.sockets t).subs ↔ t ∈ s.mem.hub.members c := by
  rw [← hs.agree t c, settle_of_not_callsHub ht]

theorem Agree.cleaned {s : State} (hs : Agree cfg s) {t : ℕ} (ht : Cleaned s t) (c : String) :
    t ∉ s.mem.hub.members c := by
  have hidle := hs.idle t (by rcases ht.1 with h | h <;> rw [h] <;> rfl)
  have hbetween : Between s t := by
    intro op hop
    rw [ht.2] at hop
    cases hop
  rw [← hs.between hbetween c, hidle]
  simp

/-- A socket stays cleaned up. -/
theorem Cleaned.step {s s' : State} {l : Label} {t : ℕ} (hs : Agree cfg s) (ht : Cleaned s t)
    (h : step p cfg s l = some s') : Cleaned s' t := by
  obtain ⟨hst, htodo⟩ := ht
  cases step_cases h with
  | run g choice op rest ops m hg hx =>
    have hne : Goroutine.readLoop t ≠ g := fun he => by rw [he, hg] at htodo; cases htodo
    refine ⟨?_, by rw [Workers.State.assign_todo_of_ne hne]; exact htodo⟩
    rcases hx.stage t with h | ⟨rfl, -⟩
    · rw [Workers.State.assign_mem, h]; exact hst
    · exact absurd (hs.homed g _ (hg ▸ List.mem_cons_self) _ rfl) hne
  | start w g ops m hg hw =>
    constructor
    · rcases hw.stage t with h | ⟨rfl, -⟩ | ⟨-, h⟩
      · rw [Workers.State.assign_mem, h]; exact hst
      · have := (hs.fresh _ le_rfl).1
        rcases hst with h | h <;> rw [h] at this <;> cases this
      · rw [Workers.State.assign_mem, h]
        rcases hst with h | h <;> rw [h] <;> exact Or.inr rfl
    · by_cases hne : Goroutine.readLoop t = g
      · subst hne
        rw [Workers.State.assign_todo_self]
        exact hw.readLoop_late hst
      · rw [Workers.State.assign_todo_of_ne hne]; exact htodo
  | stall t' => exact ⟨hst, htodo⟩

variable (p cfg) in
/-- In every state a node reaches: a socket whose read loop is between two events is in the hub on
exactly the channels of its `subs`, which are within the limit; a socket whose `cleanup` has finished
is and stays out of the hub; and the hub is empty when all sockets are cleaned up. -/
theorem subscriptions_agree (tr : List Label) {s : State} (h : Transition.run (step p cfg) init tr = some s) :
    (∀ t, Between s t → (∀ c, c ∈ (s.mem.sockets t).subs ↔ t ∈ s.mem.hub.members c) ∧
      ((s.mem.sockets t).subs.card : ℤ) ≤ max 0 cfg.channelLimit) ∧
    (∀ t, Cleaned s t → ∀ tr' s', Transition.run (step p cfg) s tr' = some s' → ∀ c, t ∉ s'.mem.hub.members c) ∧
    ((∀ t, t < s.mem.next → Cleaned s t) → ∀ c, s.mem.hub.subs c = none) := by
  have hs : Agree cfg s := Transition.run_invariant (fun _ _ _ hs hst => Agree.step hs hst) agree_init h
  refine ⟨fun t ht => ⟨hs.between ht, hs.limit t⟩, fun t ht tr' s' h' c => ?_, fun hall c => ?_⟩
  · have hboth : Agree cfg s' ∧ Cleaned s' t :=
      Transition.run_invariant (I := fun s => Agree cfg s ∧ Cleaned s t)
        (fun _ _ _ hs hst => ⟨hs.1.step hst, hs.2.step hs.1 hst⟩) ⟨hs, ht⟩ h'
    exact hboth.1.cleaned hboth.2 c
  · cases hc : s.mem.hub.subs c with
    | none => rfl
    | some set =>
      obtain ⟨t, ht⟩ := Finset.nonempty_iff_ne_empty.2 (s.mem.hub.nonempty c set hc)
      rw [← Hub.members_of_some hc] at ht
      by_cases hlt : t < s.mem.next
      · exact absurd ht (hs.cleaned (hall t hlt) c)
      · obtain ⟨hst, htodo⟩ := hs.fresh t (by omega)
        have hbetween : Between s t := fun op hop => by rw [htodo] at hop; cases hop
        have := (hs.between hbetween c).2 ht
        rw [hs.idle t (by rw [hst]; rfl)] at this
        cases this

/-- An event as a client frames it. -/
def frameOf (ev : InEvent) : Json :=
  .obj (("event", .str ev.event) :: (ev.data.map fun d => ("data", d)).toList ++
    (ev.cid.map fun cid => ("cid", .num (Strings.itoa cid))).toList)

/-- A frame with one event, the event taken up, and some sections of its handler. -/
def handled (t : ℕ) (ev : InEvent) (clock : Clock) (sections : ℕ) : List Label :=
  .start (.message t (frameOf ev)) :: .start (.event t clock) ::
    List.replicate sections (.run (.readLoop t) ⟨[], true⟩)

/-- The visitor of a chat connects, logs in and subscribes. -/
def sampleVisit : List Label :=
  [.start (.upgrade "s"), .start (.registerSocket 0), .start (.runSocket 0)] ++
    handled 0 (handshakeEvent none 1) sampleClock 2 ++
    handled 0 (loginEvent Auth.sampleToken.token "chat_55" 0 2) sampleClock 4 ++
    handled 0 (subscribeEvent "chat_55" 3) sampleClock 8

/-- The visitor is in the hub then. -/
theorem subscriptions_agree_sample :
    ∃ s, Transition.run (step Auth.sample (defaultConfig "secret" Auth.sampleKey "node")) init sampleVisit = some s ∧
      0 ∈ s.mem.hub.members "chat_55" := by
  refine ⟨_, rfl, ?_⟩
  have h := (subscriptions_agree Auth.sample (defaultConfig "secret" Auth.sampleKey "node") sampleVisit rfl).1 0
    (fun op hop => nomatch hop)
  exact (h.1 "chat_55").1 (by decide)

end Server

end NodejsHelper
