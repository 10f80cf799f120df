/-
The client comes back by itself: in every run, whenever the event loop is idle, a client that was not stopped
since it last began to connect has a timeout on that gets it going again, whatever happened to its WebSockets.
-/
import NodejsHelper.Client.Connection

namespace NodejsHelper.SocketCluster

open EventLoop

/-! ## Stopping a client -/

/-- The codes after which a client does not reconnect. -/
def permanent (code : ℤ) : Bool := decide (code = 1000 ∨ 4500 ≤ code)

/-- What is left of a `connect` or of a close, and must not be lost. -/
def Op.vital : Op → Bool
  | .construct | .tryReconnect _ => true
  | _ => false

/-- Whether the client is stopped when the operation has run: by the page, or by a permanent close. It is not
when the operation begins to connect. -/
def Op.verdict (m : Memory) (stopped : Bool) : Op → Bool
  | .call .connect => if m.active && decide (m.state = .closed) then false else stopped
  | .call (.disconnect _ _) => stopped || decide (m.state = .closed)
  | .call (.destroy _ _) => true
  | .onClose k code => stopped || (m.transports k).listened && permanent code
  | _ => stopped

/-- The operations a step loses to an exception. -/
def lost (m : Memory) (c : Choice) (unwound : ℕ) (op : Op) (rest : List Op) : List Op :=
  match exec c m op with
  | some (.throws _) => op :: rest.take unwound
  | _ => []

/-- Whether the client was stopped since it last began to connect; an exception stops it that falls into a
`connect` or a close. -/
def observe (s : State Memory Op) (l : Label Choice Task) (_ : State Memory Op) (stopped : Bool) : Bool :=
  match l, s.stack with
  | .run c unwound, op :: rest => op.verdict s.mem stopped || (lost s.mem c unwound op rest).any Op.vital
  | _, _ => stopped

def stoppedIn (tr : List (Label Choice Task)) : Bool := Transition.history system.step observe init false tr

/-- A timeout is on that gets the client going: the one to reconnect, or one of the transport it listens to,
which is not closed. -/
def Memory.Awaits (m : Memory) : Prop :=
  m.state = .closed ∧ m.reconnectTimeout = true ∨
    m.state ≠ .closed ∧ ∃ k, m.transport = some k ∧ (m.transports k).listened = true ∧
      (m.transports k).state ≠ .closed ∧ ((m.transports k).connectTimeout = true ∨ (m.transports k).pingTimeout = true)

/-! ## What most operations keep -/

/-- The timeouts of transports that are on stay on, no transport is closed or listened to anew, and the
client stays as it is, or is opened. -/
structure Steady (m m' : Memory) : Prop where
  active : m'.active = m.active
  reconnectTimeout : m'.reconnectTimeout = m.reconnectTimeout
  transport : m'.transport = m.transport
  state : m'.state = m.state ∨ m'.state = .opened
  listened : ∀ k, (m'.transports k).listened = (m.transports k).listened
  unclosed : ∀ k, (m.transports k).state ≠ .closed → (m'.transports k).state ≠ .closed
  connectTimeout : ∀ k, (m.transports k).connectTimeout = true → (m'.transports k).connectTimeout = true
  pingTimeout : ∀ k, (m.transports k).pingTimeout = true → (m'.transports k).pingTimeout = true

theorem Steady.refl (m : Memory) : Steady m m :=
  ⟨rfl, rfl, rfl, Or.inl rfl, fun _ => rfl, fun _ h => h, fun _ h => h, fun _ h => h⟩

theorem Steady.trans {m m' m'' : Memory} (h : Steady m m') (h' : Steady m' m'') : Steady m m'' where
  active := h'.active.trans h.active
  reconnectTimeout := h'.reconnectTimeout.trans h.reconnectTimeout
  transport := h'.transport.trans h.transport
  state := by
    rcases h'.state with heq | hopen
    · rw [heq]
      exact h.state
    · exact Or.inr hopen
  listened k := (h'.listened k).trans (h.listened k)
  unclosed k hk := h'.unclosed k (h.unclosed k hk)
  connectTimeout k hk := h'.connectTimeout k (h.connectTimeout k hk)
  pingTimeout k hk := h'.pingTimeout k (h.pingTimeout k hk)

/-- A change of other parts than the client's own flags and its transports. -/
theorem Steady.of_eq {m m' : Memory} (hactive : m'.active = m.active)
    (hreconnect : m'.reconnectTimeout = m.reconnectTimeout) (htransport : m'.transport = m.transport)
    (hstate : m'.state = m.state) (htransports : m'.transports = m.transports) : Steady m m' := by
  refine ⟨hactive, hreconnect, htransport, Or.inl hstate, fun k => ?_, fun k hk => ?_, fun k hk => ?_, fun k hk => ?_⟩
  · rw [htransports]
  · rwa [htransports]
  · rwa [htransports]
  · rwa [htransports]

theorem steady_setTransport (m : Memory) (k : ℕ) {f : Transport → Transport}
    (hlistened : (f (m.transports k)).listened = (m.transports k).listened)
    (hstate : (m.transports k).state ≠ .closed → (f (m.transports k)).state ≠ .closed)
    (hconnect : (m.transports k).connectTimeout = true → (f (m.transports k)).connectTimeout = true)
    (hping : (m.transports k).pingTimeout = true → (f (m.transports k)).pingTimeout = true) :
    Steady m (m.setTransport k f) := by
  have hcases : ∀ j, (j = k ∧ (m.setTransport k f).transports j = f (m.transports j)) ∨
      (m.setTransport k f).transports j = m.transports j := by
    intro j
    by_cases hj : j = k
    · subst hj
      exact Or.inl ⟨rfl, setTransport_self ..⟩
    · exact Or.inr (setTransport_of_ne hj f)
  refine ⟨rfl, rfl, rfl, Or.inl rfl, fun j => ?_, fun j hj => ?_, fun j hj => ?_, fun j hj => ?_⟩
  · rcases hcases j with ⟨rfl, h⟩ | h
    · rw [h]
      exact hlistened
    · rw [h]
  · rcases hcases j with ⟨rfl, h⟩ | h
    · rw [h]
      exact hstate hj
    · rwa [h]
  · rcases hcases j with ⟨rfl, h⟩ | h
    · rw [h]
      exact hconnect hj
    · rwa [h]
  · rcases hcases j with ⟨rfl, h⟩ | h
    · rw [h]
      exact hping hj
    · rwa [h]

theorem steady_setChannel (m : Memory) (ch : ℕ) (f : Channel → Channel) : Steady m (m.setChannel ch f) :=
  .of_eq rfl rfl rfl rfl rfl

theorem steady_setCall (m : Memory) (id : ℕ) (f : Call → Call) : Steady m (m.setCall id f) := .of_eq rfl rfl rfl rfl rfl

theorem steady_forget (m : Memory) (k cid : ℕ) : Steady m (m.forget k cid) :=
  steady_setTransport m k rfl (fun h => h) (fun h => h) fun h => h

theorem steady_register (m : Memory) (k : ℕ) (e : Entry) : Steady m (m.register k e) := by
  have hset : Steady m (m.setTransport k fun t => { t with callbackMap := t.callbackMap ++ [(m.nextCid, e)] }) :=
    steady_setTransport m k rfl (fun h => h) (fun h => h) fun h => h
  exact hset.trans (.of_eq rfl rfl rfl rfl rfl)

/-! ### The functions of the client -/

theorem steady_cancelPendingSubscribe (m : Memory) (ch : ℕ) : Steady m (cancelPendingSubscribe m ch).mem := by
  unfold cancelPendingSubscribe
  split
  · exact (steady_forget m _ _).trans (steady_setChannel _ _ _)
  · exact .refl m
  · exact .refl m

theorem steady_triggerUnsubscribe (m : Memory) (ch : ℕ) (newState : SubscriptionState) :
    Steady m (triggerUnsubscribe m ch newState).mem := by
  unfold triggerUnsubscribe
  rw [Outcome.andThen_mem]
  exact (steady_setChannel m ch _).trans (steady_cancelPendingSubscribe _ ch)

theorem steady_suspend (m : Memory) (name : String) : Steady m (suspend m name).mem := by
  unfold suspend
  split
  · exact steady_triggerUnsubscribe m _ _
  · exact .refl m

theorem steady_channel (m : Memory) (name : String) : Steady m (channel m name).1 := by
  unfold channel
  split
  · exact .refl m
  · exact .of_eq rfl rfl rfl rfl rfl

theorem steady_onSubscribe (m : Memory) (ch : ℕ) (failed : Bool) : Steady m (onSubscribe m ch failed).mem := by
  have hset := steady_setChannel m ch fun c => { c with pendingSubscriptionCid := none }
  unfold onSubscribe triggerSubscribeFail triggerSubscribe
  dsimp only
  split_ifs
  · exact hset
  · exact hset.trans (steady_setChannel _ _ _)
  · exact hset
  · exact hset.trans (steady_setChannel _ _ _)

/-- The operations of the page that neither connect nor stop the client. -/
theorem steady_call (m : Memory) {a : Api} (hconnect : a ≠ .connect)
    (hdisconnect : ∀ code data, a ≠ .disconnect code data)
    (hdestroy : ∀ code data, a ≠ .destroy code data) : Steady m (call m a).mem := by
  cases a with
  | connect => exact absurd rfl hconnect
  | disconnect code data => exact absurd rfl (hdisconnect code data)
  | destroy code data => exact absurd rfl (hdestroy code data)
  | emit event data callback =>
    rw [call, emit]
    split
    · exact .refl m
    · split <;> exact .refl m
  | processPendingSubscriptions => exact .of_eq rfl rfl rfl rfl rfl
  | channel name => exact steady_channel m name
  | subscribe name =>
    rw [call, subscribe]
    refine (steady_channel m name).trans ?_
    dsimp only
    split
    · exact steady_setChannel _ _ _
    · exact .refl _
  | unsubscribe name =>
    rw [call, unsubscribe]
    split
    · split
      · exact .refl m
      · rw [Outcome.andThen_mem]
        exact steady_triggerUnsubscribe m _ _
    · exact .refl m
  | destroyChannel name =>
    rw [call, destroyChannel]
    split <;> exact .refl m

theorem steady_authenticated (m : Memory) : Steady m (changeToAuthenticatedState m).mem := by
  unfold changeToAuthenticatedState
  split
  · exact .refl m
  · exact .of_eq rfl rfl rfl rfl rfl

theorem steady_unauthenticated (m : Memory) : Steady m (changeToUnauthenticatedState m).mem := by
  unfold changeToUnauthenticatedState
  split
  · exact .of_eq rfl rfl rfl rfl rfl
  · exact .refl m

theorem steady_onSCOpen (m : Memory) (isAuthenticated : Bool) : Steady m (onSCOpen m isAuthenticated).mem := by
  have hset : Steady m { m with preparing := true } := .of_eq rfl rfl rfl rfl rfl
  unfold onSCOpen
  dsimp only
  rw [Outcome.andThen_mem]
  split
  · exact hset.trans (steady_authenticated _)
  · exact hset.trans (steady_unauthenticated _)

theorem steady_onSCEvent (m : Memory) (k : ℕ) (name : Json) (data cid : Option Json) :
    Steady m (onSCEvent m k name data cid).mem := by
  unfold onSCEvent
  split
  · split <;> exact .refl m
  · split
    · exact .refl m
    · split <;> exact .refl m
  · split
    · rw [Outcome.andThen_mem]
      exact steady_authenticated m
    · exact .refl m
  · exact .refl m
  · split <;> exact .refl m
  · exact .refl m

theorem steady_send (m : Memory) (k : ℕ) (text : Sent) : Steady m (send m k text).mem := by
  unfold send
  split
  · exact steady_setTransport m k rfl (fun h => h) (fun h => h) fun h => h
  · exact .refl m

theorem steady_trySubscribe (m : Memory) (ch : ℕ) : Steady m (trySubscribe m ch).mem := by
  unfold trySubscribe
  split
  · split
    · exact .refl m
    · split
      · rw [Outcome.andThen_mem]
        exact (steady_register m _ _).trans (steady_send _ _ _)
      · exact .refl m
  · exact .refl m

theorem steady_tryUnsubscribe (m : Memory) (ch : ℕ) : Steady m (tryUnsubscribe m ch).mem := by
  have hcancel := steady_cancelPendingSubscribe m ch
  unfold tryUnsubscribe
  split
  · split
    · rename_i heq
      rwa [heq] at hcancel
    · rename_i heq
      rw [heq] at hcancel
      split
      · exact hcancel
      · split
        · exact hcancel.trans (steady_send _ _ _)
        · exact hcancel
  · exact .refl m

theorem steady_closeTransport (m : Memory) (k : ℕ) (code : ℤ) (data : Option Json) :
    Steady m (closeTransport m k code data).mem := by
  unfold closeTransport
  split <;> exact .refl m

theorem steady_closeSocket (m : Memory) (k : ℕ) (code : ℤ) : Steady m (closeSocket m k code).mem := by
  unfold closeSocket
  split
  · exact steady_setTransport m k rfl (fun h => h) (fun h => h) fun h => h
  · exact .refl m

theorem steady_flush (m : Memory) (id : ℕ) : Steady m (flush m id).mem := by
  have hdetach : Steady m { m with emitBuffer := m.emitBuffer.erase id } := .of_eq rfl rfl rfl rfl rfl
  unfold flush
  dsimp only
  split
  · exact hdetach
  · split
    · exact (hdetach.trans (steady_register _ _ _)).trans (steady_setCall _ _ _)
    · exact hdetach

theorem steady_abortBuffer (m : Memory) (id : ℕ) : Steady m (abortBuffer m id).mem := by
  unfold abortBuffer
  dsimp only
  split <;> exact .of_eq rfl rfl rfl rfl rfl

theorem steady_cleanUp (m : Memory) (id : ℕ) : Steady m (cleanUp m id).mem := by
  unfold cleanUp
  split
  · exact steady_forget m _ _
  · exact .refl m
  · exact .refl m

theorem steady_abortEach (m : Memory) (k cid : ℕ) : Steady m (abortEach m k cid).mem := by
  unfold abortEach
  split
  · rename_i e _
    refine (steady_forget m k cid).trans ?_
    obtain ⟨_, e⟩ := e
    cases e with
    | call id =>
      rw [abortEntry]
      split <;> exact .of_eq rfl rfl rfl rfl rfl
    | handshake => exact steady_setTransport _ k rfl (fun h => h) (fun h => h) fun h => h
    | subscribe ch => exact steady_onSubscribe _ ch true
  · exact .refl m

/-- The handshake opens the transport, and a client that listens to it. -/
theorem steady_openTransport (m : Memory) (k : ℕ) : Steady m (openTransport m k) := by
  have hset : Steady m (m.setTransport k fun t => { t with handshakeTimeout := none }) :=
    steady_setTransport m k rfl (fun h => h) (fun h => h) fun h => h
  have hopened := hset.trans (steady_setTransport _ k (f := fun t => { t with state := .opened }) rfl
    (fun _ => by rintro ⟨⟩) (fun h => h) fun h => h)
  unfold openTransport
  dsimp only
  split
  · exact ⟨hopened.active, hopened.reconnectTimeout, hopened.transport, Or.inr rfl, hopened.listened, hopened.unclosed,
      hopened.connectTimeout, hopened.pingTimeout⟩
  · exact hopened

theorem steady_respondTo (m : Memory) (k cid : ℕ) (error data : Option Json) (e : Entry) :
    Steady m (respondTo m k cid error data e).mem := by
  cases e with
  | call id =>
    rw [respondTo]
    split <;> exact .of_eq rfl rfl rfl rfl rfl
  | subscribe ch => exact steady_onSubscribe m ch error.isSome
  | handshake =>
    have hset : Steady m (m.setTransport k fun t => { t with handshakeTimeout := none }) :=
      steady_setTransport m k rfl (fun h => h) (fun h => h) fun h => h
    have hopened := steady_openTransport m k
    unfold openTransport at hopened
    unfold respondTo
    dsimp only at hopened ⊢
    split
    · exact hset
    · split
      · rename_i hl
        rw [if_pos hl] at hopened
        rw [Outcome.andThen_mem]
        exact hopened.trans (steady_onSCOpen _ _)
      · rename_i hl
        rwa [if_neg hl] at hopened

theorem steady_handle (m : Memory) (k : ℕ) (incoming : Incoming) : Steady m (handle m k incoming).mem := by
  cases incoming with
  | ping => exact .refl m
  | event name data cid =>
    rw [handle]
    split
    · exact steady_onSCEvent m k name data cid
    · exact .refl m
  | response rid data error =>
    rw [handle]
    split
    · exact (steady_forget m k _).trans (steady_respondTo _ k _ _ data _)
    · exact .refl m
  | raw => exact .refl m

/-- The operations that connect, close or stop the client. -/
def Op.turning : Op → Bool
  | .call .connect | .call (.disconnect _ _) | .call (.destroy _ _) => true
  | .construct | .onClose _ _ | .tryReconnect _ => true
  | _ => false

theorem steady_exec {c : Choice} {m : Memory} {op : Op} {o : Outcome Memory Op} (h : exec c m op = some o)
    (hop : op.turning = false) : Steady m o.mem := by
  cases op with
  | construct | onClose | tryReconnect => cases hop
  | call a =>
    cases h
    refine steady_call m ?_ ?_ ?_
    · rintro rfl
      cases hop
    · rintro code data rfl
      cases hop
    · rintro code data rfl
      cases hop
  | notify => cases h; exact .refl m
  | listening =>
    cases h
    unfold listening
    split <;> exact .refl m
  | append event data callback => cases h; exact .of_eq rfl rfl rfl rfl rfl
  | flushEmitBuffer => cases h; exact .refl m
  | flush node =>
    cases node with
    | none => cases h; exact .refl m
    | some id => cases h; exact steady_flush m id
  | send k text => cases h; exact steady_send m k text
  | closeTransport k code data => cases h; exact steady_closeTransport m k code data
  | closeSocket k code => cases h; exact steady_closeSocket m k code
  | suspend names =>
    cases names with
    | nil => cases h; exact .refl m
    | cons name names =>
      cases h
      rw [Outcome.andThen_mem]
      exact steady_suspend m name
  | abortAll => cases h; exact .refl m
  | abortBuffer node =>
    cases node with
    | none => cases h; exact .refl m
    | some id => cases h; exact steady_abortBuffer m id
  | cleanUp id => cases h; exact steady_cleanUp m id
  | abortPending k => cases h; exact .refl m
  | abortEach k cids =>
    cases cids with
    | nil => cases h; exact .refl m
    | cons cid cids =>
      cases h
      rw [Outcome.andThen_mem]
      exact steady_abortEach m k cid
  | resetPingTimeout k => cases h; exact steady_setTransport m k rfl (fun h => h) (fun h => h) fun _ => rfl
  | processPending => cases h; exact .of_eq rfl rfl rfl rfl rfl
  | trySubscribe ch => cases h; exact steady_trySubscribe m ch
  | setPendingCid ch cid => cases h; exact steady_setChannel m _ _
  | triggerUnsubscribe ch => cases h; exact steady_triggerUnsubscribe m _ _
  | tryUnsubscribe ch => cases h; exact steady_tryUnsubscribe m ch
  | deleteChannel name => cases h; exact .of_eq rfl rfl rfl rfl rfl
  | unauthenticate => cases h; exact steady_unauthenticated m
  | handle k incoming => cases h; exact steady_handle m k incoming

/-! ## The invariant -/

/-- While it is not stopped, a client that connects is about to make a transport or listens to one, and a closed
one is about to connect or to set its timeout; a transport it listens to has a timeout on or is just being
closed. -/
structure Awake (m : Memory) (stack : List Op) (stopped : Bool) : Prop where
  timed : ∀ k, (m.transports k).listened = true → (m.transports k).state ≠ .closed ∧
    ((m.transports k).connectTimeout = true ∨ (m.transports k).pingTimeout = true ∨
      ∃ code, stack.head? = some (.onClose k code))
  active : stopped = false → m.active = true
  connecting : stopped = false → m.state = .connecting →
    .construct ∈ stack ∨ ∃ k, m.transport = some k ∧ (m.transports k).listened = true
  closed : stopped = false → m.state = .closed → m.reconnectTimeout = true ∨ stack.head? = some (.call .connect) ∨
    ∃ code, permanent code = false ∧ .tryReconnect code ∈ stack

/-- The part of the invariant that is about the transports, when something else than a close runs. -/
theorem Awake.timed_on {m : Memory} {op : Op} {rest : List Op} {stopped : Bool} (h : Awake m (op :: rest) stopped)
    (hop : ∀ k code, op ≠ .onClose k code) {k : ℕ} (hk : (m.transports k).listened = true) :
    (m.transports k).state ≠ .closed ∧
      ((m.transports k).connectTimeout = true ∨ (m.transports k).pingTimeout = true) := by
  obtain ⟨hstate, htimed⟩ := h.timed k hk
  refine ⟨hstate, ?_⟩
  rcases htimed with hconnect | hping | ⟨code, hhead⟩
  · exact Or.inl hconnect
  · exact Or.inr hping
  · exact absurd (Option.some.inj hhead) (hop k code)

variable {m m' : Memory} {op : Op} {rest stack : List Op} {stopped flag : Bool}

/-- For a client that is stopped the transports alone count. -/
theorem Awake.of_stopped (h : Awake m (op :: rest) stopped) (hop : ∀ k code, op ≠ .onClose k code)
    (htransports : m'.transports = m.transports) : Awake m' stack true where
  timed k hk := by
    rw [htransports] at hk ⊢
    obtain ⟨hstate, htimed⟩ := h.timed_on hop hk
    exact ⟨hstate, htimed.imp_right Or.inl⟩
  active := by rintro ⟨⟩
  connecting := by rintro ⟨⟩
  closed := by rintro ⟨⟩

/-- What a step keeps of a client that is not stopped. -/
def Keeps (stopped flag : Bool) (rest stack : List Op) : Prop :=
  flag = false → stopped = false ∧ ∀ op ∈ rest, op.vital = true → op ∈ stack

/-- A steady operation that is not vital keeps the client awake, unless something vital is lost. -/
theorem Awake.steady (h : Awake m (op :: rest) stopped) (hs : Steady m m') (hop : ∀ k code, op ≠ .onClose k code)
    (hvital : op.vital = false) (hconnect : flag = false → op = .call .connect → m.state ≠ .closed)
    (hkeeps : Keeps stopped flag rest stack) : Awake m' stack flag where
  timed k hk := by
    rw [hs.listened] at hk
    obtain ⟨hstate, htimed⟩ := h.timed_on hop hk
    refine ⟨hs.unclosed k hstate, ?_⟩
    rcases htimed with hconnect | hping
    · exact Or.inl (hs.connectTimeout k hconnect)
    · exact Or.inr (Or.inl (hs.pingTimeout k hping))
  active hflag := hs.active.trans (h.active (hkeeps hflag).1)
  connecting hflag hconnecting := by
    have hm : m.state = .connecting := by
      rcases hs.state with heq | hopen
      · exact heq ▸ hconnecting
      · rw [hopen] at hconnecting
        cases hconnecting
    rcases h.connecting (hkeeps hflag).1 hm with hmem | ⟨k, hk, hl⟩
    · refine Or.inl ((hkeeps hflag).2 .construct ?_ rfl)
      rcases List.mem_cons.1 hmem with rfl | hmem
      · cases hvital
      · exact hmem
    · exact Or.inr ⟨k, hs.transport.trans hk, (hs.listened k).trans hl⟩
  closed hflag hclosed := by
    have hm : m.state = .closed := by
      rcases hs.state with heq | hopen
      · exact heq ▸ hclosed
      · rw [hopen] at hclosed
        cases hclosed
    rcases h.closed (hkeeps hflag).1 hm with hreconnect | hhead | ⟨code, hcode, hmem⟩
    · exact Or.inl (hs.reconnectTimeout.trans hreconnect)
    · exact absurd hm (hconnect hflag (Option.some.inj hhead))
    · refine Or.inr (Or.inr ⟨code, hcode, (hkeeps hflag).2 _ ?_ rfl⟩)
      rcases List.mem_cons.1 hmem with rfl | hmem
      · cases hvital
      · exact hmem

/-! ### The operations that turn the client -/

/-- `connect` leaves its transport to be made. -/
theorem awake_connect (h : Awake m (.call .connect :: rest) stopped) (hops : ∀ op ∈ (connect m).ops, op ∈ stack)
    (hkeeps : Keeps ((Op.call .connect).verdict m stopped) flag rest stack) : Awake (connect m).mem stack flag := by
  have hop : ∀ k code, (.call .connect : Op) ≠ .onClose k code := by rintro k code ⟨⟩
  unfold connect at hops ⊢
  by_cases hcond : (m.active && decide (m.state = .closed)) = true
  · rw [if_pos hcond] at hops ⊢
    rw [Bool.and_eq_true] at hcond
    refine ⟨fun k hk => ?_, fun _ => hcond.1, fun _ _ => ?_, by rintro - ⟨⟩⟩
    · obtain ⟨hstate, htimed⟩ := h.timed_on hop hk
      exact ⟨hstate, htimed.imp_right Or.inl⟩
    · exact Or.inl (hops _ (by simp))
  · rw [if_neg hcond]
    simp only [Op.verdict, if_neg hcond] at hkeeps
    refine h.steady (.refl m) hop rfl (fun hflag _ hclosed => hcond ?_) hkeeps
    rw [h.active (hkeeps hflag).1, hclosed]
    rfl

theorem awake_disconnect {code : ℤ} {data : Option Json} (h : Awake m (.call (.disconnect code data) :: rest) stopped)
    (hkeeps : Keeps ((Op.call (.disconnect code data)).verdict m stopped) flag rest stack) :
    Awake (disconnect m code data).mem stack flag := by
  have hop : ∀ k code', (.call (.disconnect code data) : Op) ≠ .onClose k code' := by rintro k code' ⟨⟩
  have hconnect : flag = false → (.call (.disconnect code data) : Op) = .call .connect → m.state ≠ .closed := by
    rintro - ⟨⟩
  unfold disconnect
  split
  · rename_i hclosed
    cases flag with
    | true => exact h.of_stopped hop rfl
    | false =>
      have hverdict := (hkeeps rfl).1
      simp [Op.verdict, hclosed] at hverdict
  · rename_i hclosed
    simp only [Op.verdict, hclosed, decide_false, Bool.or_false] at hkeeps
    split
    · exact h.steady (.refl m) hop rfl hconnect hkeeps
    · exact h.steady (.refl m) hop rfl hconnect hkeeps

theorem awake_destroy {code : ℤ} {data : Option Json} (h : Awake m (.call (.destroy code data) :: rest) stopped) :
    Awake (disconnect { m with active := false } code data).mem stack true := by
  have htransports : (disconnect { m with active := false } code data).mem.transports = m.transports := by
    unfold disconnect
    split
    · rfl
    · split <;> rfl
  exact h.of_stopped (by rintro k code' ⟨⟩) htransports

/-- A new transport has its connect timeout on, unless the browser refuses it. -/
theorem awake_construct {c : Choice} (ha : Attached m) (h : Awake m (.construct :: rest) stopped)
    (hkeeps : Keeps stopped flag rest stack) (hthrows : flag = false → c ≠ .refused) :
    Awake (construct c m).mem stack flag := by
  have hoff := off_listened ha.listened
  have hstate : m.off.state = m.state := off_state m
  have hflags : m.off.active = m.active ∧ m.off.reconnectTimeout = m.reconnectTimeout := by
    unfold Memory.off
    split <;> exact ⟨rfl, rfl⟩
  unfold construct
  split
  · refine ⟨fun k hk => ?_, fun hflag => absurd rfl (hthrows hflag), fun hflag => absurd rfl (hthrows hflag),
      fun hflag => absurd rfl (hthrows hflag)⟩
    rw [hoff] at hk
    cases hk
  · refine ⟨fun k hk => ?_, fun hflag => hflags.1.trans (h.active (hkeeps hflag).1), fun _ _ => Or.inr ?_,
      fun hflag hclosed => ?_⟩
    · by_cases hcreated : k = m.created
      · subst hcreated
        simp
      · simp only [Function.update_of_ne hcreated, hoff, Bool.false_eq_true] at hk
    · exact ⟨m.created, rfl, by simp⟩
    · rcases h.closed (hkeeps hflag).1 (hstate.symm.trans hclosed) with hreconnect | hhead | ⟨code, hcode, hmem⟩
      · exact Or.inl (hflags.2.trans hreconnect)
      · cases hhead
      · refine Or.inr (Or.inr ⟨code, hcode, (hkeeps hflag).2 _ ?_ rfl⟩)
        exact (List.mem_cons.1 hmem).resolve_left (by rintro ⟨⟩)

/-- A transport that is not listened to is closed beside the one that is. -/
theorem Awake.close_beside {k : ℕ} {code : ℤ} {f : Transport → Transport}
    (h : Awake m (.onClose k code :: rest) stopped) (hsilent : (m.transports k).listened = false)
    (hlistened : (f (m.transports k)).listened = (m.transports k).listened) (hkeeps : Keeps stopped flag rest stack) :
    Awake (m.setTransport k f) stack flag where
  timed j hj := by
    by_cases hjk : j = k
    · rw [hjk, setTransport_self, hlistened, hsilent] at hj
      cases hj
    · rw [setTransport_of_ne hjk] at hj ⊢
      obtain ⟨hstate, htimed⟩ := h.timed j hj
      refine ⟨hstate, htimed.imp_right fun htimed => Or.inl (htimed.resolve_right ?_)⟩
      rintro ⟨code', hhead⟩
      cases hhead
      exact hjk rfl
  active hflag := h.active (hkeeps hflag).1
  connecting hflag hconnecting := by
    rcases h.connecting (hkeeps hflag).1 hconnecting with hmem | ⟨j, hj, hl⟩
    · exact Or.inl ((hkeeps hflag).2 _ ((List.mem_cons.1 hmem).resolve_left (by rintro ⟨⟩)) rfl)
    · have hjk : j ≠ k := by
        rintro rfl
        rw [hl] at hsilent
        cases hsilent
      exact Or.inr ⟨j, hj, by rw [setTransport_of_ne hjk, hl]⟩
  closed hflag hclosed := by
    rcases h.closed (hkeeps hflag).1 hclosed with hreconnect | hhead | ⟨code', hcode, hmem⟩
    · exact Or.inl hreconnect
    · cases hhead
    · refine Or.inr (Or.inr ⟨code', hcode, (hkeeps hflag).2 _ ?_ rfl⟩)
      exact (List.mem_cons.1 hmem).resolve_left (by rintro ⟨⟩)

/-- `_onClose` of a transport the client listens to leaves `tryReconnect`. -/
theorem awake_onClose {k : ℕ} {code : ℤ} (ha : Attached m) (h : Awake m (.onClose k code :: rest) stopped)
    (hops : ∀ op ∈ (onClose m k code).ops, op ∈ stack)
    (hkeeps : Keeps ((Op.onClose k code).verdict m stopped) flag rest stack) :
    Awake (onClose m k code).mem stack flag := by
  have hsilent : (m.transports k).listened = false → Keeps stopped flag rest stack := by
    intro hl
    simpa [Op.verdict, hl] using hkeeps
  unfold onClose at hops ⊢
  dsimp only at hops ⊢
  by_cases hclosed : (m.transports k).state = .closed
  · rw [if_pos hclosed]
    have hl : (m.transports k).listened = false := Bool.eq_false_iff.2 fun hl => (h.timed k hl).1 hclosed
    exact h.close_beside hl rfl (hsilent hl)
  · rw [if_neg hclosed] at hops ⊢
    by_cases hl : (m.transports k).listened = true
    · rw [if_pos hl] at hops ⊢
      let f : Transport → Transport :=
        fun t => { t with connectTimeout := false, pingTimeout := false, state := .closed }
      have hlisten : ∀ j, ((m.setTransport k f).transports j).listened = (m.transports j).listened := by
        intro j
        by_cases hjk : j = k
        · rw [hjk, setTransport_self]
        · rw [setTransport_of_ne hjk]
      have hoff := off_listened (m := m.setTransport k f) fun j hj => ha.listened j ((hlisten j).symm.trans hj)
      have hactive : (m.setTransport k f).off.active = m.active := by
        unfold Memory.off
        split <;> rfl
      refine ⟨fun j hj => ?_, fun hflag => hactive.trans (h.active ?_), by rintro - ⟨⟩, fun hflag _ => ?_⟩
      · exact absurd ((hoff j).symm.trans hj) Bool.false_ne_true
      · exact (Bool.or_eq_false_iff.1 (hkeeps hflag).1).1
      · have hverdict := (Bool.or_eq_false_iff.1 (hkeeps hflag).1).2
        rw [hl, Bool.true_and] at hverdict
        exact Or.inr (Or.inr ⟨code, hverdict, hops _ (by simp)⟩)
    · rw [if_neg hl]
      have hl := Bool.eq_false_iff.2 hl
      exact h.close_beside hl rfl (hsilent hl)

/-- `tryReconnect` sets the timeout, unless the close was a permanent one. -/
theorem awake_tryReconnect {code : ℤ} (h : Awake m (.tryReconnect code :: rest) stopped)
    (hkeeps : Keeps stopped flag rest stack) : Awake (tryReconnect m code).mem stack flag := by
  have htimed : ∀ k, (m.transports k).listened = true → (m.transports k).state ≠ .closed ∧
      ((m.transports k).connectTimeout = true ∨ (m.transports k).pingTimeout = true ∨
        ∃ code, stack.head? = some (.onClose k code)) := by
    intro k hk
    obtain ⟨hstate, htimed⟩ := h.timed_on (by rintro k code' ⟨⟩) hk
    exact ⟨hstate, htimed.imp_right Or.inl⟩
  have hconnecting : flag = false → m.state = .connecting →
      .construct ∈ stack ∨ ∃ k, m.transport = some k ∧ (m.transports k).listened = true := by
    intro hflag hm
    refine (h.connecting (hkeeps hflag).1 hm).imp_left fun hmem => (hkeeps hflag).2 _ ?_ rfl
    exact (List.mem_cons.1 hmem).resolve_left (by rintro ⟨⟩)
  have hactive : flag = false → m.active = true := fun hflag => h.active (hkeeps hflag).1
  unfold tryReconnect
  split
  · exact ⟨htimed, hactive, hconnecting, fun _ _ => Or.inl rfl⟩
  · split
    · exact ⟨htimed, hactive, hconnecting, fun _ _ => Or.inl rfl⟩
    · rename_i hpermanent
      refine ⟨htimed, hactive, hconnecting, fun hflag hclosed => ?_⟩
      rcases h.closed (hkeeps hflag).1 hclosed with hreconnect | hhead | ⟨code', hcode, hmem⟩
      · exact Or.inl hreconnect
      · cases hhead
      · rcases List.mem_cons.1 hmem with heq | hmem
        · cases heq
          refine absurd ?_ hpermanent
          simpa [permanent] using hcode
        · exact Or.inr (Or.inr ⟨code', hcode, (hkeeps hflag).2 _ hmem rfl⟩)

/-! ### Steps -/

theorem onClose_of_turning {op : Op} (hop : op.turning = false) : ∀ k code, op ≠ .onClose k code := by
  rintro k code rfl
  cases hop

theorem verdict_of_not_turning {op : Op} (hop : op.turning = false) (m : Memory) (stopped : Bool) :
    op.verdict m stopped = stopped := by
  cases op with
  | call a => cases a <;> first | rfl | cases hop
  | onClose | construct | tryReconnect => cases hop
  | _ => rfl

/-- Every operation keeps the client awake, unless it is vital and throws, or something vital is lost. -/
theorem awake_exec {c : Choice} {o : Outcome Memory Op} (ha : Attached m) (h : Awake m (op :: rest) stopped)
    (hx : exec c m op = some o) (hops : ∀ op' ∈ o.ops, op' ∈ stack)
    (hkeeps : Keeps (op.verdict m stopped) flag rest stack)
    (hthrows : flag = false → op.vital = true → ∀ m', o ≠ .throws m') : Awake o.mem stack flag := by
  by_cases hop : op.turning = false
  · refine h.steady (steady_exec hx hop) (onClose_of_turning hop) ?_ ?_ (verdict_of_not_turning hop m stopped ▸ hkeeps)
    · cases op <;> first | rfl | cases hop
    · rintro - rfl
      cases hop
  · cases op with
    | call a =>
      cases a with
      | connect => cases hx; exact awake_connect h hops hkeeps
      | disconnect code data => cases hx; exact awake_disconnect h hkeeps
      | destroy code data =>
        cases hx
        cases flag with
        | true => exact awake_destroy h
        | false => cases (hkeeps rfl).1
      | _ => exact absurd rfl hop
    | construct =>
      cases hx
      refine awake_construct ha h hkeeps fun hflag => ?_
      rintro rfl
      exact hthrows hflag rfl _ rfl
    | onClose k code => cases hx; exact awake_onClose ha h hops hkeeps
    | tryReconnect code => cases hx; exact awake_tryReconnect h hkeeps
    | _ => exact absurd rfl hop

/-- An idle client that is awake stays so when its memory is steady. -/
theorem Awake.begin (h : Awake m [] stopped) (hs : Steady m m') (ops : List Op) : Awake m' ops stopped where
  timed k hk := by
    rw [hs.listened] at hk
    obtain ⟨hstate, hconnect | hping | ⟨code, ⟨⟩⟩⟩ := h.timed k hk
    · exact ⟨hs.unclosed k hstate, Or.inl (hs.connectTimeout k hconnect)⟩
    · exact ⟨hs.unclosed k hstate, Or.inr (Or.inl (hs.pingTimeout k hping))⟩
  active hstopped := hs.active.trans (h.active hstopped)
  connecting hstopped hconnecting := by
    rcases hs.state with heq | hopen
    · obtain ⟨⟨⟩⟩ | ⟨k, hk, hl⟩ := h.connecting hstopped (heq ▸ hconnecting)
      exact Or.inr ⟨k, hs.transport.trans hk, (hs.listened k).trans hl⟩
    · rw [hopen] at hconnecting
      cases hconnecting
  closed hstopped hclosed := by
    rcases hs.state with heq | hopen
    · obtain hreconnect | ⟨⟨⟩⟩ | ⟨code, -, ⟨⟩⟩ := h.closed hstopped (heq ▸ hclosed)
      exact Or.inl (hs.reconnectTimeout.trans hreconnect)
    · rw [hopen] at hclosed
      cases hclosed

/-- A timeout of a transport goes off to be replaced, or to close the transport. -/
theorem Awake.begin_transport (h : Awake m [] stopped) (k : ℕ) {f : Transport → Transport} {ops : List Op}
    (hlistened : (f (m.transports k)).listened = (m.transports k).listened)
    (hstate : (f (m.transports k)).state = (m.transports k).state)
    (htimed : (f (m.transports k)).pingTimeout = true ∨ ∃ code, ops.head? = some (.onClose k code)) :
    Awake (m.setTransport k f) ops stopped where
  timed j hj := by
    by_cases hjk : j = k
    · subst hjk
      rw [setTransport_self] at hj ⊢
      rw [hlistened] at hj
      rw [hstate]
      exact ⟨(h.timed j hj).1, Or.inr htimed⟩
    · rw [setTransport_of_ne hjk] at hj ⊢
      obtain ⟨hstate, hconnect | hping | ⟨code, ⟨⟩⟩⟩ := h.timed j hj
      · exact ⟨hstate, Or.inl hconnect⟩
      · exact ⟨hstate, Or.inr (Or.inl hping)⟩
  active := h.active
  connecting hstopped hconnecting := by
    obtain ⟨⟨⟩⟩ | ⟨j, hj, hl⟩ := h.connecting hstopped hconnecting
    refine Or.inr ⟨j, hj, ?_⟩
    by_cases hjk : j = k
    · subst hjk
      rw [setTransport_self, hlistened, hl]
    · rw [setTransport_of_ne hjk, hl]
  closed hstopped hclosed := by
    obtain hreconnect | ⟨⟨⟩⟩ | ⟨code, -, ⟨⟩⟩ := h.closed hstopped hclosed
    exact Or.inl hreconnect

theorem awake_start {w : Task} {ops : List Op} (h : Awake m [] stopped) (hx : start m w = some (m', ops)) :
    Awake m' ops stopped := by
  cases start_cases hx with
  | page | wsMessage | wsError => exact h.begin (.refl m) _
  | wsOpen k token =>
    simp only [onOpen]
    exact (h.begin (steady_register m k .handshake) []).begin_transport k rfl rfl (Or.inl rfl)
  | wsClosing k | wsClose k code =>
    exact h.begin (steady_setTransport m k rfl (fun h => h) (fun h => h) fun h => h) _
  | connectTimeout k | pingTimeout k => exact h.begin_transport k rfl rfl (Or.inr ⟨_, rfl⟩)
  | handshakeTimeout k cid =>
    have hset := steady_setTransport (m.forget k cid) k (f := fun t => { t with handshakeTimeout := none }) rfl
      (fun h => h) (fun h => h) fun h => h
    exact h.begin ((steady_forget m k _).trans hset) _
  | ackTimeout id =>
    have hs : Steady m (handleEventAckTimeout m id).1 := by
      unfold handleEventAckTimeout
      dsimp only
      split <;> exact .of_eq rfl rfl rfl rfl rfl
    exact h.begin hs _
  | reconnectTimeout =>
    have hbegun := h.begin (.refl m) [.call .connect]
    exact ⟨hbegun.timed, hbegun.active, fun hstopped hm => (h.connecting hstopped hm).imp (by rintro ⟨⟩) fun h => h,
      fun _ _ => Or.inr (Or.inl rfl)⟩

theorem awake_init : Awake init.mem init.stack false where
  timed := by rintro k ⟨⟩
  active _ := rfl
  connecting := by rintro - ⟨⟩
  closed _ _ := Or.inr (Or.inl rfl)

theorem awake_step {s s' : State Memory Op} {l : Label Choice Task} (ha : Attached s.mem)
    (h : Awake s.mem s.stack stopped) (hs : system.step s l = some s') :
    Awake s'.mem s'.stack (observe s l s' stopped) := by
  rcases step_iff.1 hs with ⟨c, unwound, op, rest, ops, m, hstack, hx⟩ | ⟨c, unwound, op, rest, m, hstack, hx, -⟩ |
    ⟨w, ops, m, hstack, hx⟩
  · have hexec : exec c s.mem op = some (.returns m ops) := hx
    have hnone : lost s.mem c unwound op rest = [] := by rw [lost, hexec]
    have hobserve : observe s (.run c unwound) ⟨m, ops ++ rest⟩ stopped = op.verdict s.mem stopped := by
      simp only [observe, hstack, hnone, List.any_nil, Bool.or_false]
    rw [hstack] at h
    rw [hobserve]
    exact awake_exec ha h hexec (fun _ => List.mem_append_left _)
      (fun hflag => ⟨hflag, fun _ hop _ => List.mem_append_right _ hop⟩) fun _ _ m' => by rintro ⟨⟩
  · have hexec : exec c s.mem op = some (.throws m) := hx
    have hlost : lost s.mem c unwound op rest = op :: rest.take unwound := by rw [lost, hexec]
    have hobserve : observe s (.run c unwound) ⟨m, rest.drop unwound⟩ stopped =
        (op.verdict s.mem stopped || (op.vital || (rest.take unwound).any Op.vital)) := by
      simp only [observe, hstack, hlost, List.any_cons]
    rw [hstack] at h
    rw [hobserve]
    refine awake_exec ha h hexec (by rintro _ ⟨⟩) (fun hflag => ?_) fun hflag hvital => ?_
    · simp only [Bool.or_eq_false_iff, List.any_eq_false] at hflag
      refine ⟨hflag.1, fun op' hop' hvital => ?_⟩
      rw [← List.take_append_drop unwound rest] at hop'
      exact (List.mem_append.1 hop').resolve_left fun htaken => hflag.2.2 op' htaken hvital
    · simp only [Bool.or_eq_false_iff] at hflag
      rw [hflag.2.1] at hvital
      cases hvital
  · rw [hstack] at h
    exact awake_start h hx

/-- In every run. -/
theorem awake_run {tr : List (Label Choice Task)} {s : State Memory Op}
    (h : Transition.run system.step init tr = some s) : Awake s.mem s.stack (stoppedIn tr) := by
  have hinvariant : (∃ tr, Transition.run system.step init tr = some s) ∧ Awake s.mem s.stack (stoppedIn tr) := by
    refine Transition.history_invariant
      (I := fun s stopped => (∃ tr, Transition.run system.step init tr = some s) ∧ Awake s.mem s.stack stopped)
      (fun s l s' stopped hi hs => ?_) ⟨⟨[], rfl⟩, awake_init⟩ h
    obtain ⟨tr, hrun⟩ := hi.1
    refine ⟨⟨tr ++ [l], ?_⟩, awake_step (sound_run hrun).attached hi.2 hs⟩
    rw [Transition.run_append, hrun]
    simp [hs]
  exact hinvariant.2

/-! ## The result -/

/-- Whenever nothing is left to do, a client that was not stopped has a timeout on that gets it going. -/
theorem awaits_of_idle (tr : List (Label Choice Task)) {s : State Memory Op}
    (h : Transition.run system.step init tr = some s) (hidle : s.stack = []) (hstopped : stoppedIn tr = false) :
    s.mem.Awaits := by
  have hattached := (sound_run h).attached
  have hawake := awake_run h
  rw [hidle, hstopped] at hawake
  have htransport : ∀ k, (s.mem.transports k).listened = true → (s.mem.transports k).state ≠ .closed ∧
      ((s.mem.transports k).connectTimeout = true ∨ (s.mem.transports k).pingTimeout = true) := by
    intro k hk
    obtain ⟨hstate, hconnect | hping | ⟨code, ⟨⟩⟩⟩ := hawake.timed k hk
    · exact ⟨hstate, Or.inl hconnect⟩
    · exact ⟨hstate, Or.inr hping⟩
  cases hstate : s.mem.state with
  | closed =>
    obtain hreconnect | ⟨⟨⟩⟩ | ⟨code, -, ⟨⟩⟩ := hawake.closed rfl hstate
    exact Or.inl ⟨hstate, hreconnect⟩
  | connecting =>
    obtain ⟨⟨⟩⟩ | ⟨k, hk, hl⟩ := hawake.connecting rfl hstate
    exact Or.inr ⟨by rw [hstate]; rintro ⟨⟩, k, hk, hl, htransport k hl⟩
  | opened =>
    obtain ⟨k, hk, -, hl⟩ := hattached.opened hstate
    exact Or.inr ⟨by rw [hstate]; rintro ⟨⟩, k, hk, hl, htransport k hl⟩

/-- The WebSocket of a client is closed before it opens. -/
def sampleLost : List (Label Choice Task) :=
  List.replicate 4 (.run .done 0) ++ [.start (.wsClose 0 1006)] ++ List.replicate 9 (.run .done 0)

theorem awaits_of_idle_sample :
    ∃ s, Transition.run system.step init sampleLost = some s ∧ s.stack = [] ∧ stoppedIn sampleLost = false ∧
      s.mem.Awaits := by
  obtain ⟨s, hs, hidle, hstopped⟩ : ∃ s, Transition.run system.step init sampleLost = some s ∧ s.stack = [] ∧
      stoppedIn sampleLost = false := ⟨_, rfl, rfl, rfl⟩
  exact ⟨s, hs, hidle, hstopped, awaits_of_idle sampleLost hs hidle hstopped⟩

end NodejsHelper.SocketCluster
