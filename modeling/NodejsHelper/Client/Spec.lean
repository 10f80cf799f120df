/-
What the operations of the client do to its calls, to the transport it listens to and to the stack: most
leave the calls and the connection as they are.
-/
import NodejsHelper.Client.Basic

namespace NodejsHelper.SocketCluster

open EventLoop

/-! ## What stays -/

/-- The calls that wait in a transport for a response, with their call ids. -/
def Transport.registered (t : Transport) : List (ℕ × ℕ) :=
  t.callbackMap.filterMap fun e =>
    match e.2 with
    | .call id => some (e.1, id)
    | _ => none

def Memory.registered (m : Memory) (k : ℕ) : List (ℕ × ℕ) := (m.transports k).registered

/-- The calls are the same, and none is registered anew. -/
structure SameCalls (m m' : Memory) : Prop where
  calls : m'.calls = m.calls
  emitted : m'.emitted = m.emitted
  buffer : m'.emitBuffer = m.emitBuffer
  answered : m'.answered = m.answered
  nextCid : m.nextCid ≤ m'.nextCid
  registered : ∀ k, (m'.registered k).Sublist (m.registered k)

/-- The client and its transports are in the same states, and it listens to the same transport. -/
structure SameConnection (m m' : Memory) : Prop where
  state : m'.state = m.state
  transport : m'.transport = m.transport
  transports : ∀ k, (m'.transports k).state = (m.transports k).state ∧
    (m'.transports k).listened = (m.transports k).listened

theorem SameCalls.refl (m : Memory) : SameCalls m m := ⟨rfl, rfl, rfl, rfl, le_rfl, fun _ => List.Sublist.refl _⟩

theorem SameCalls.trans {m m' m'' : Memory} (h : SameCalls m m') (h' : SameCalls m' m'') : SameCalls m m'' where
  calls := h'.calls.trans h.calls
  emitted := h'.emitted.trans h.emitted
  buffer := h'.buffer.trans h.buffer
  answered := h'.answered.trans h.answered
  nextCid := h.nextCid.trans h'.nextCid
  registered k := (h'.registered k).trans (h.registered k)

theorem SameConnection.refl (m : Memory) : SameConnection m m := ⟨rfl, rfl, fun _ => ⟨rfl, rfl⟩⟩

theorem SameConnection.trans {m m' m'' : Memory} (h : SameConnection m m') (h' : SameConnection m' m'') :
    SameConnection m m'' where
  state := h'.state.trans h.state
  transport := h'.transport.trans h.transport
  transports k := ⟨(h'.transports k).1.trans (h.transports k).1, (h'.transports k).2.trans (h.transports k).2⟩

/-- Both. -/
structure Quiet (m m' : Memory) : Prop where
  calls : SameCalls m m'
  connection : SameConnection m m'

theorem Quiet.refl (m : Memory) : Quiet m m := ⟨.refl m, .refl m⟩

theorem Quiet.trans {m m' m'' : Memory} (h : Quiet m m') (h' : Quiet m' m'') : Quiet m m'' :=
  ⟨h.calls.trans h'.calls, h.connection.trans h'.connection⟩

/-! ### Changes of the parts -/

/-- A change of flags, channels and objects. -/
theorem Quiet.of_eq {m m' : Memory} (hcalls : m'.calls = m.calls) (hemitted : m'.emitted = m.emitted)
    (hbuffer : m'.emitBuffer = m.emitBuffer) (hanswered : m'.answered = m.answered) (hnext : m'.nextCid = m.nextCid)
    (hstate : m'.state = m.state) (htransport : m'.transport = m.transport)
    (htransports : m'.transports = m.transports) : Quiet m m' where
  calls := ⟨hcalls, hemitted, hbuffer, hanswered, hnext.ge, fun k => by
    rw [Memory.registered, htransports]
    exact List.Sublist.refl _⟩
  connection := ⟨hstate, htransport, fun k => by rw [htransports]; exact ⟨rfl, rfl⟩⟩

theorem quiet_setChannel (m : Memory) (ch : ℕ) (f : Channel → Channel) : Quiet m (m.setChannel ch f) :=
  .of_eq rfl rfl rfl rfl rfl rfl rfl rfl

@[simp] theorem setTransport_self (m : Memory) (k : ℕ) (f : Transport → Transport) :
    (m.setTransport k f).transports k = f (m.transports k) :=
  Function.update_self ..

theorem setTransport_of_ne {m : Memory} {k j : ℕ} (h : j ≠ k) (f : Transport → Transport) :
    (m.setTransport k f).transports j = m.transports j :=
  Function.update_of_ne h ..

@[simp] theorem register_self (m : Memory) (k : ℕ) (e : Entry) : (m.register k e).transports k =
    { m.transports k with callbackMap := (m.transports k).callbackMap ++ [(m.nextCid, e)] } :=
  Function.update_self ..

theorem register_of_ne {m : Memory} {k j : ℕ} (h : j ≠ k) (e : Entry) :
    (m.register k e).transports j = m.transports j :=
  Function.update_of_ne h ..

theorem sameCalls_setTransport (m : Memory) (k : ℕ) {f : Transport → Transport}
    (hf : (f (m.transports k)).registered.Sublist (m.transports k).registered) : SameCalls m (m.setTransport k f) where
  calls := rfl
  emitted := rfl
  buffer := rfl
  answered := rfl
  nextCid := le_rfl
  registered j := by
    by_cases hj : j = k
    · subst hj
      rw [Memory.registered, Memory.registered, setTransport_self]
      exact hf
    · rw [Memory.registered, Memory.registered, setTransport_of_ne hj]

theorem sameConnection_setTransport (m : Memory) (k : ℕ) {f : Transport → Transport}
    (hf : (f (m.transports k)).state = (m.transports k).state ∧
      (f (m.transports k)).listened = (m.transports k).listened) : SameConnection m (m.setTransport k f) where
  state := rfl
  transport := rfl
  transports j := by
    by_cases hj : j = k
    · subst hj
      rw [setTransport_self]
      exact hf
    · rw [setTransport_of_ne hj]
      exact ⟨rfl, rfl⟩

/-- A change of the timeouts, the `readyState` or the texts of a transport. -/
theorem quiet_setTransport (m : Memory) (k : ℕ) {f : Transport → Transport}
    (hmap : (f (m.transports k)).callbackMap = (m.transports k).callbackMap)
    (hstate : (f (m.transports k)).state = (m.transports k).state)
    (hlistened : (f (m.transports k)).listened = (m.transports k).listened) : Quiet m (m.setTransport k f) :=
  ⟨sameCalls_setTransport m k (by rw [Transport.registered, hmap]; exact List.Sublist.refl _),
    sameConnection_setTransport m k ⟨hstate, hlistened⟩⟩

theorem quiet_forget (m : Memory) (k cid : ℕ) : Quiet m (m.forget k cid) :=
  ⟨sameCalls_setTransport m k (List.filter_sublist.filterMap _), sameConnection_setTransport m k ⟨rfl, rfl⟩⟩

theorem sameConnection_register (m : Memory) (k : ℕ) (e : Entry) : SameConnection m (m.register k e) := by
  have hset : SameConnection m
      (m.setTransport k fun t => { t with callbackMap := t.callbackMap ++ [(m.nextCid, e)] }) :=
    sameConnection_setTransport m k ⟨rfl, rfl⟩
  exact ⟨hset.state, hset.transport, hset.transports⟩

/-- Something other than a call is registered. -/
theorem quiet_register (m : Memory) (k : ℕ) {e : Entry} (he : ∀ id, e ≠ .call id) : Quiet m (m.register k e) := by
  have hset : SameCalls m (m.setTransport k fun t => { t with callbackMap := t.callbackMap ++ [(m.nextCid, e)] }) := by
    refine sameCalls_setTransport m k ?_
    rw [Transport.registered, Transport.registered, List.filterMap_append]
    cases e with
    | call id => exact absurd rfl (he id)
    | _ => simp
  exact ⟨⟨hset.calls, hset.emitted, hset.buffer, hset.answered, Nat.le_succ _, hset.registered⟩,
    sameConnection_register m k e⟩

theorem sameCalls_off (m : Memory) : SameCalls m m.off := by
  unfold Memory.off
  split
  · exact sameCalls_setTransport m _ (List.Sublist.refl _)
  · exact SameCalls.refl m

/-! ## Tame operations -/

/-- The call a loop over the emit buffer has come to. -/
def Op.node : Op → Option ℕ
  | .flush node | .abortBuffer node => node
  | _ => none

/-- Neither a message to come, nor a turn of a loop over the emit buffer, nor the making of a transport. -/
def Op.plain : Op → Bool
  | .handle .. | .flush (some _) | .abortBuffer (some _) | .construct => false
  | _ => true

/-- The calls and the connection stay as they are, and plain operations are left. -/
structure Tame (m : Memory) (o : Outcome Memory Op) : Prop where
  quiet : Quiet m o.mem
  plain : ∀ op ∈ o.ops, op.plain = true

theorem Tame.andThen {m : Memory} {o : Outcome Memory Op} (h : Tame m o) {next : List Op}
    (hnext : ∀ op ∈ next, op.plain = true) : Tame m (o.andThen next) where
  quiet := by rw [Outcome.andThen_mem]; exact h.quiet
  plain op hop := (Outcome.mem_andThen_ops hop).elim (h.plain op) (hnext op)

theorem Quiet.tame {m m' : Memory} {o : Outcome Memory Op} (hq : Quiet m m') (h : Tame m' o) : Tame m o :=
  ⟨hq.trans h.quiet, h.plain⟩

theorem tame_returns {m m' : Memory} (h : Quiet m m') {ops : List Op} (hops : ops.all Op.plain = true) :
    Tame m (.returns m' ops) :=
  ⟨h, List.all_eq_true.1 hops⟩

theorem tame_throws {m m' : Memory} (h : Quiet m m') : Tame m (.throws m') := ⟨h, by rintro op ⟨⟩⟩

/-- Flags, channels and objects change. -/
theorem tame_flags {m m' : Memory} {ops : List Op} (hops : ops.all Op.plain = true) (hcalls : m'.calls = m.calls)
    (hemitted : m'.emitted = m.emitted) (hbuffer : m'.emitBuffer = m.emitBuffer) (hanswered : m'.answered = m.answered)
    (hnext : m'.nextCid = m.nextCid) (hstate : m'.state = m.state) (htransport : m'.transport = m.transport)
    (htransports : m'.transports = m.transports) : Tame m (.returns m' ops) :=
  tame_returns (.of_eq hcalls hemitted hbuffer hanswered hnext hstate htransport htransports) hops

theorem tame_unchanged (m : Memory) {ops : List Op} (hops : ops.all Op.plain = true) : Tame m (.returns m ops) :=
  tame_returns (Quiet.refl m) hops

theorem tame_cancelPendingSubscribe (m : Memory) (ch : ℕ) : Tame m (cancelPendingSubscribe m ch) := by
  unfold cancelPendingSubscribe
  split
  · exact tame_returns ((quiet_forget m _ _).trans (quiet_setChannel _ _ _)) rfl
  · exact tame_throws (Quiet.refl m)
  · exact tame_unchanged m rfl

theorem tame_triggerUnsubscribe (m : Memory) (ch : ℕ) (newState : SubscriptionState) :
    Tame m (triggerUnsubscribe m ch newState) := by
  refine (quiet_setChannel m ch _).tame ((tame_cancelPendingSubscribe _ ch).andThen ?_)
  split <;> simp [Op.plain]

theorem quiet_channel (m : Memory) (name : String) : Quiet m (channel m name).1 := by
  unfold channel
  split
  · exact Quiet.refl m
  · exact .of_eq rfl rfl rfl rfl rfl rfl rfl rfl

theorem tame_onSubscribe (m : Memory) (ch : ℕ) (failed : Bool) : Tame m (onSubscribe m ch failed) := by
  unfold onSubscribe triggerSubscribeFail triggerSubscribe
  refine (quiet_setChannel m ch fun c => { c with pendingSubscriptionCid := none }).tame ?_
  dsimp only
  split_ifs <;> first | exact tame_unchanged _ rfl | exact tame_returns (quiet_setChannel _ _ _) rfl

theorem tame_disconnect (m : Memory) (code : ℤ) (data : Option Json) : Tame m (disconnect m code data) := by
  unfold disconnect
  split
  · exact tame_flags rfl rfl rfl rfl rfl rfl rfl rfl rfl
  · split
    · exact tame_unchanged m rfl
    · exact tame_throws (Quiet.refl m)

theorem tame_processPending (m : Memory) : Tame m (processPending m) :=
  tame_flags (List.all_map.trans (List.all_eq_true.2 fun _ _ => rfl)) rfl rfl rfl rfl rfl rfl rfl rfl

theorem tame_call (m : Memory) {a : Api} (ha : a ≠ .connect) : Tame m (call m a) := by
  cases a with
  | emit event data callback =>
    rw [call, emit]
    split
    · split <;> exact tame_unchanged m rfl
    · split <;> exact tame_unchanged m rfl
  | connect => exact absurd rfl ha
  | disconnect code data => exact tame_disconnect m code data
  | destroy code data =>
    have hq : Quiet m { m with active := false } := .of_eq rfl rfl rfl rfl rfl rfl rfl rfl
    exact hq.tame (tame_disconnect _ code data)
  | processPendingSubscriptions => exact tame_processPending m
  | channel name => exact tame_returns (quiet_channel m name) rfl
  | subscribe name =>
    rw [call, subscribe]
    refine (quiet_channel m name).tame ?_
    dsimp only
    split
    · exact tame_returns (quiet_setChannel _ _ _) rfl
    · exact tame_unchanged _ rfl
  | unsubscribe name =>
    rw [call, unsubscribe]
    split
    · split
      · exact tame_unchanged m rfl
      · exact (tame_triggerUnsubscribe m _ _).andThen (by simp [Op.plain])
    · exact tame_unchanged m rfl
  | destroyChannel name =>
    rw [call, destroyChannel]
    split <;> exact tame_unchanged m rfl

theorem tame_authenticated (m : Memory) : Tame m (changeToAuthenticatedState m) := by
  unfold changeToAuthenticatedState
  split
  · exact tame_unchanged m rfl
  · refine tame_flags ?_ rfl rfl rfl rfl rfl rfl rfl rfl
    split <;> rfl

theorem tame_unauthenticated (m : Memory) : Tame m (changeToUnauthenticatedState m) := by
  unfold changeToUnauthenticatedState
  split
  · exact tame_flags rfl rfl rfl rfl rfl rfl rfl rfl rfl
  · exact tame_unchanged m rfl

theorem tame_onSCOpen (m : Memory) (isAuthenticated : Bool) : Tame m (onSCOpen m isAuthenticated) := by
  have hq : Quiet m { m with preparing := true } := .of_eq rfl rfl rfl rfl rfl rfl rfl rfl
  refine hq.tame (Tame.andThen ?_ ?_)
  · split
    · exact tame_authenticated _
    · exact tame_unauthenticated _
  · simp [Op.plain]

theorem plain_respond (k : ℕ) (cid error data : Option Json) : (respond k cid error data).all Op.plain = true := by
  unfold respond
  split
  · split <;> rfl
  · rfl

theorem tame_onSCEvent (m : Memory) (k : ℕ) (name : Json) (data cid : Option Json) :
    Tame m (onSCEvent m k name data cid) := by
  unfold onSCEvent
  split
  · split
    · exact tame_throws (Quiet.refl m)
    · exact tame_unchanged m (by split <;> rfl)
  · split
    · exact tame_throws (Quiet.refl m)
    · split <;> exact tame_unchanged m rfl
  · split
    · exact (tame_authenticated m).andThen (List.all_eq_true.1 (plain_respond k cid none none))
    · exact tame_unchanged m (plain_respond k cid _ none)
  · refine tame_unchanged m ?_
    rw [List.all_append, plain_respond]
    rfl
  · split
    · exact tame_unchanged m rfl
    · exact tame_throws (Quiet.refl m)
  · exact tame_unchanged m rfl

theorem tame_send (m : Memory) (k : ℕ) (text : Sent) : Tame m (send m k text) := by
  unfold send
  split
  · exact tame_returns (quiet_setTransport m k rfl rfl rfl) rfl
  · exact tame_unchanged m rfl

theorem tame_trySubscribe (m : Memory) (ch : ℕ) : Tame m (trySubscribe m ch) := by
  unfold trySubscribe
  split
  · split
    · exact tame_throws (Quiet.refl m)
    · split
      · exact ((quiet_register m _ (by rintro id ⟨⟩)).tame (tame_send _ _ _)).andThen (by simp [Op.plain])
      · exact tame_unchanged m rfl
  · exact tame_unchanged m rfl

theorem tame_tryUnsubscribe (m : Memory) (ch : ℕ) : Tame m (tryUnsubscribe m ch) := by
  have hcancel := tame_cancelPendingSubscribe m ch
  unfold tryUnsubscribe
  split
  · split
    · rename_i heq
      rw [heq] at hcancel
      exact tame_throws hcancel.quiet
    · rename_i heq
      rw [heq] at hcancel
      split
      · exact tame_throws hcancel.quiet
      · split
        · exact hcancel.quiet.tame (tame_send _ _ _)
        · exact tame_returns hcancel.quiet rfl
  · exact tame_unchanged m rfl

theorem tame_closeTransport (m : Memory) (k : ℕ) (code : ℤ) (data : Option Json) :
    Tame m (closeTransport m k code data) := by
  unfold closeTransport
  split <;> exact tame_unchanged m rfl

theorem tame_closeSocket (m : Memory) (k : ℕ) (code : ℤ) : Tame m (closeSocket m k code) := by
  unfold closeSocket
  split
  · exact tame_returns (quiet_setTransport m k rfl rfl rfl) rfl
  · exact tame_throws (Quiet.refl m)

theorem tame_suspend (m : Memory) (name : String) : Tame m (suspend m name) := by
  unfold suspend
  split
  · exact tame_triggerUnsubscribe m _ _
  · exact tame_unchanged m rfl

theorem tame_cleanUp (m : Memory) (id : ℕ) : Tame m (cleanUp m id) := by
  unfold cleanUp
  split
  · exact tame_returns (quiet_forget m _ _) rfl
  · exact tame_throws (Quiet.refl m)
  · exact tame_unchanged m rfl

theorem tame_tryReconnect (m : Memory) (code : ℤ) : Tame m (tryReconnect m code) := by
  unfold tryReconnect
  split
  · exact tame_flags rfl rfl rfl rfl rfl rfl rfl rfl rfl
  · split
    · exact tame_flags rfl rfl rfl rfl rfl rfl rfl rfl rfl
    · exact tame_unchanged m rfl

theorem tame_listening (c : Choice) (m : Memory) : Tame m (listening c m) := by
  unfold listening
  split
  · exact tame_unchanged m rfl
  · exact tame_throws (Quiet.refl m)
  · exact tame_unchanged m rfl

/-- The operations that deal with the calls or the connection themselves. -/
def Op.loud : Op → Bool
  | .call .connect | .construct | .onClose .. => true
  | .append .. | .flushEmitBuffer | .flush (some _) | .abortAll | .abortBuffer (some _) => true
  | .abortEach _ (_ :: _) | .handle .. => true
  | _ => false

theorem tame_exec {c : Choice} {m : Memory} {op : Op} {o : Outcome Memory Op} (h : exec c m op = some o)
    (hop : op.loud = false) : Tame m o := by
  cases op with
  | construct | append | flushEmitBuffer | abortAll | onClose | handle => cases hop
  | call a =>
    cases h
    refine tame_call m ?_
    rintro rfl
    cases hop
  | flush node =>
    cases node with
    | none => cases h; exact tame_unchanged m rfl
    | some id => cases hop
  | abortBuffer node =>
    cases node with
    | none => cases h; exact tame_unchanged m rfl
    | some id => cases hop
  | suspend names =>
    cases names with
    | nil => cases h; exact tame_unchanged m rfl
    | cons name names => cases h; exact (tame_suspend m name).andThen (by simp [Op.plain])
  | abortEach k cids =>
    cases cids with
    | nil => cases h; exact tame_unchanged m rfl
    | cons cid cids => cases hop
  | notify => cases h; exact tame_unchanged m rfl
  | listening => cases h; exact tame_listening c m
  | send k text => cases h; exact tame_send m k text
  | closeTransport k code data => cases h; exact tame_closeTransport m k code data
  | closeSocket k code => cases h; exact tame_closeSocket m k code
  | cleanUp id => cases h; exact tame_cleanUp m id
  | tryReconnect code => cases h; exact tame_tryReconnect m code
  | abortPending k => cases h; exact tame_unchanged m rfl
  | resetPingTimeout k => cases h; exact tame_returns (quiet_setTransport m k rfl rfl rfl) rfl
  | processPending => cases h; exact tame_processPending m
  | trySubscribe ch => cases h; exact tame_trySubscribe m ch
  | setPendingCid ch cid => cases h; exact tame_returns (quiet_setChannel m _ _) rfl
  | triggerUnsubscribe ch => cases h; exact tame_triggerUnsubscribe m _ _
  | tryUnsubscribe ch => cases h; exact tame_tryUnsubscribe m ch
  | deleteChannel name => cases h; exact tame_flags rfl rfl rfl rfl rfl rfl rfl rfl rfl
  | unauthenticate => cases h; exact tame_unauthenticated m

/-! ## The other operations -/

theorem sameCalls_connect (m : Memory) : SameCalls m (connect m).mem := by
  unfold connect
  split
  · exact ⟨rfl, rfl, rfl, rfl, le_rfl, fun _ => List.Sublist.refl _⟩
  · exact SameCalls.refl m

theorem sameCalls_construct (c : Choice) (m : Memory) : SameCalls m (construct c m).mem := by
  unfold construct
  split
  · exact sameCalls_off m
  · refine (sameCalls_off m).trans ⟨rfl, rfl, rfl, rfl, le_rfl, fun k => ?_⟩
    rw [Memory.registered, Memory.registered]
    simp only [Function.update_apply]
    split
    · exact List.nil_sublist _
    · exact List.Sublist.refl _

theorem sameCalls_onClose (m : Memory) (k : ℕ) (code : ℤ) : SameCalls m (onClose m k code).mem := by
  have hset : SameCalls m (m.setTransport k fun t =>
      { t with connectTimeout := false, pingTimeout := false, state := .closed }) :=
    sameCalls_setTransport m k (List.Sublist.refl _)
  unfold onClose
  dsimp only
  split
  · exact hset
  · split
    · exact (hset.trans (sameCalls_off _)).trans ⟨rfl, rfl, rfl, rfl, le_rfl, fun _ => List.Sublist.refl _⟩
    · exact hset

theorem plain_construct (c : Choice) (m : Memory) : (construct c m).ops = [] := by
  unfold construct
  split <;> rfl

theorem plain_onClose (m : Memory) (k : ℕ) (code : ℤ) : (onClose m k code).ops.all Op.plain = true := by
  unfold onClose
  dsimp only
  split
  · rfl
  · split <;> rfl

/-- A handshake that succeeds opens the transport, and the client that listens to it. -/
def openTransport (m : Memory) (k : ℕ) : Memory :=
  let m := m.setTransport k fun t => { t with handshakeTimeout := none }
  let opened := m.setTransport k fun t => { t with state := .opened }
  if (m.transports k).listened then { opened with state := .opened } else opened

theorem sameCalls_openTransport (m : Memory) (k : ℕ) : SameCalls m (openTransport m k) := by
  have hset : SameCalls m (m.setTransport k fun t => { t with handshakeTimeout := none }) :=
    sameCalls_setTransport m k (List.Sublist.refl _)
  have hopened := hset.trans
    (sameCalls_setTransport _ k (f := fun t => { t with state := .opened }) (List.Sublist.refl _))
  unfold openTransport
  dsimp only
  split
  · exact ⟨hopened.calls, hopened.emitted, hopened.buffer, hopened.answered, hopened.nextCid, hopened.registered⟩
  · exact hopened

/-- What a response to the transport itself does. -/
theorem respondTo_handshake (m : Memory) (k cid : ℕ) (error data : Option Json) :
    Tame m (respondTo m k cid error data .handshake) ∨
      Tame (openTransport m k) (respondTo m k cid error data .handshake) := by
  have hq : Quiet m (m.setTransport k fun t => { t with handshakeTimeout := none }) :=
    quiet_setTransport m k rfl rfl rfl
  unfold respondTo openTransport
  dsimp only
  split
  · exact Or.inl (tame_returns hq rfl)
  · refine Or.inr ?_
    split
    · exact (tame_onSCOpen _ _).andThen (by simp [Op.plain])
    · exact tame_unchanged _ rfl

/-! ## Tasks -/

/-- What each task does. -/
inductive Start (m : Memory) : Task → Memory → List Op → Prop
  | page : Start m .page m [.listening]
  | wsOpen (k : ℕ) (token : Json) : k < m.created → (m.transports k).readyState = .connecting →
      Start m (.wsOpen k token) (onOpen m k token).1 (onOpen m k token).2
  | wsMessage (k : ℕ) (text : String) : Start m (.wsMessage k text) m (received m k (onMessage text))
  | wsClosing (k : ℕ) : (m.transports k).readyState = .opened →
      Start m (.wsClosing k) (m.setTransport k fun t => { t with readyState := .closing }) []
  | wsClose (k : ℕ) (code : ℤ) :
      Start m (.wsClose k code) (m.setTransport k fun t => { t with readyState := .closed }) [.onClose k code]
  | wsError (k : ℕ) (ops : List Op) : (∀ op ∈ ops, op = .onClose k 1006) → Start m (.wsError k) m ops
  | connectTimeout (k : ℕ) :
      Start m (.connectTimeout k) (m.setTransport k fun t => { t with connectTimeout := false })
        [.onClose k 4007, .closeSocket k 4007]
  | pingTimeout (k : ℕ) :
      Start m (.pingTimeout k) (m.setTransport k fun t => { t with pingTimeout := false })
        [.onClose k 4000, .closeSocket k 4000]
  | handshakeTimeout (k cid : ℕ) :
      Start m (.handshakeTimeout k) ((m.forget k cid).setTransport k fun t => { t with handshakeTimeout := none })
        (handshakeFailed k 4003)
  | ackTimeout (id : ℕ) : (m.calls id).timeout = true →
      Start m (.ackTimeout id) (handleEventAckTimeout m id).1 (handleEventAckTimeout m id).2
  | reconnectTimeout : Start m .reconnectTimeout { m with reconnectTimeout := false } [.call .connect]

theorem start_cases {m m' : Memory} {w : Task} {ops : List Op} (h : start m w = some (m', ops)) :
    Start m w m' ops := by
  cases w with
  | page => cases h; exact .page
  | wsOpen k token =>
    obtain ⟨hdue, h⟩ := Option.ite_none_right_eq_some.1 h
    cases h; exact .wsOpen k token hdue.1 hdue.2
  | wsMessage k text =>
    obtain ⟨-, h⟩ := Option.ite_none_right_eq_some.1 h
    cases h; exact .wsMessage k text
  | wsClosing k =>
    obtain ⟨hopen, h⟩ := Option.ite_none_right_eq_some.1 h
    cases h; exact .wsClosing k hopen
  | wsClose k code =>
    obtain ⟨-, h⟩ := Option.ite_none_right_eq_some.1 h
    cases h; exact .wsClose k code
  | wsError k =>
    obtain ⟨-, h⟩ := Option.ite_none_right_eq_some.1 h
    cases h; exact .wsError k _ (by split <;> simp)
  | connectTimeout k =>
    obtain ⟨-, h⟩ := Option.ite_none_right_eq_some.1 h
    cases h; exact .connectTimeout k
  | pingTimeout k =>
    obtain ⟨-, h⟩ := Option.ite_none_right_eq_some.1 h
    cases h; exact .pingTimeout k
  | handshakeTimeout k =>
    rw [start] at h
    split at h
    · rename_i cid _
      cases h; exact .handshakeTimeout k cid
    · cases h
  | ackTimeout id =>
    obtain ⟨htimeout, h⟩ := Option.ite_none_right_eq_some.1 h
    obtain ⟨rfl, rfl⟩ := Prod.mk.inj (Option.some.inj h).symm
    exact .ackTimeout id htimeout
  | reconnectTimeout =>
    obtain ⟨-, h⟩ := Option.ite_none_right_eq_some.1 h
    cases h; exact .reconnectTimeout

end NodejsHelper.SocketCluster
