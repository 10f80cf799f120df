/-
The browser client of `socketcluster.js`: `SCClientSocket` and its `SCTransport`s on the event loop of a
page. Every point at which listeners or a callback of the page run is an operation of its own; there the
page may call the client again, or throw. A listener set on a socket stays there: `delete` on the instance
leaves the accessors of the prototype as they are.
-/
import NodejsHelper.Lib.EventLoop
import NodejsHelper.Client.Message
import Mathlib.Logic.Function.Basic

namespace NodejsHelper.SocketCluster

open Strings Json EventLoop

/-! ## Data -/

/-- `state` of a client and of a transport. -/
inductive Phase
  | connecting
  | opened
  | closed
  deriving DecidableEq

/-- `readyState` of a WebSocket. -/
inductive ReadyState
  | connecting
  | opened
  | closing
  | closed
  deriving DecidableEq

/-- `state` of an `SCChannel`. -/
inductive SubscriptionState
  | subscribed
  | pending
  | unsubscribed
  deriving DecidableEq

/-- Whose callback waits for a response: the one of a call, `_onOpen`'s or `_trySubscribe`'s. -/
inductive Entry
  | call (id : ℕ)
  | handshake
  | subscribe (channel : ℕ)

/-- An `SCTransport` and its WebSocket, with the texts handed to it. `listened` says that the client's
listeners are on; a timeout is set or not, the handshake's with its call id. -/
structure Transport where
  state : Phase
  readyState : ReadyState
  listened : Bool
  callbackMap : List (ℕ × Entry)
  connectTimeout : Bool
  pingTimeout : Bool
  handshakeTimeout : Option ℕ
  sent : List Sent

/-- The `eventObject` of `_emit`. `asked` records that a callback was given; `callback` is the property,
which the client deletes. -/
structure Call where
  event : String
  data : Option Json
  asked : Bool
  callback : Bool
  cid : Option ℕ
  timeout : Bool

/-- An `SCChannel`. -/
structure Channel where
  name : String
  state : SubscriptionState
  pendingSubscriptionCid : Option ℕ

/-- What a callback is given. -/
inductive Answer
  | response (rid : ℕ) (error data : Option Json)
  | badConnection
  | timeout

/-- An `SCClientSocket`, its objects numbered as they are made; `emitBuffer` holds the calls that are not
yet sent, `answered` the answers the callbacks of calls were given. -/
structure Memory where
  active : Bool
  state : Phase
  authenticated : Bool
  preparing : Bool
  reconnectTimeout : Bool
  transport : Option ℕ
  transports : ℕ → Transport
  created : ℕ
  nextCid : ℕ
  calls : ℕ → Call
  emitted : ℕ
  emitBuffer : List ℕ
  channels : List (String × ℕ)
  objects : ℕ → Channel
  made : ℕ
  answered : List (ℕ × Answer)

/-- What a page may call. -/
inductive Api
  | emit (event : String) (data : Option Json) (callback : Bool)
  | connect
  | disconnect (code : ℤ) (data : Option Json)
  | destroy (code : ℤ) (data : Option Json)
  | processPendingSubscriptions
  | channel (name : String)
  | subscribe (name : String)
  | unsubscribe (name : String)
  | destroyChannel (name : String)

/-- What is left to do. `notify` is where listeners or a callback run, `listening` that they are running. -/
inductive Op
  | notify
  | listening
  | call (a : Api)
  | construct
  | append (event : String) (data : Option Json) (callback : Bool)
  | flushEmitBuffer
  | flush (node : Option ℕ)
  | send (k : ℕ) (text : Sent)
  | closeTransport (k : ℕ) (code : ℤ) (data : Option Json)
  | onClose (k : ℕ) (code : ℤ)
  | closeSocket (k : ℕ) (code : ℤ)
  | suspend (names : List String)
  | abortAll
  | abortBuffer (node : Option ℕ)
  | cleanUp (id : ℕ)
  | tryReconnect (code : ℤ)
  | abortPending (k : ℕ)
  | abortEach (k : ℕ) (cids : List ℕ)
  | resetPingTimeout (k : ℕ)
  | processPending
  | trySubscribe (channel : ℕ)
  | setPendingCid (channel : ℕ) (cid : Option ℕ)
  | triggerUnsubscribe (channel : ℕ)
  | tryUnsubscribe (channel : ℕ)
  | deleteChannel (name : String)
  | unauthenticate
  | handle (k : ℕ) (incoming : Incoming)

/-- How listeners go on, and whether the browser refuses a new WebSocket. -/
inductive Choice
  | done
  | call (a : Api)
  | throws
  | refused

/-- The tasks of the event loop: code of the page, the events of a WebSocket and the timeouts. `wsClosing`
is the other end starting to close. -/
inductive Task
  | page
  | wsOpen (k : ℕ) (token : Json)
  | wsMessage (k : ℕ) (text : String)
  | wsClosing (k : ℕ)
  | wsClose (k : ℕ) (code : ℤ)
  | wsError (k : ℕ)
  | connectTimeout (k : ℕ)
  | pingTimeout (k : ℕ)
  | handshakeTimeout (k : ℕ)
  | ackTimeout (id : ℕ)
  | reconnectTimeout

/-! ## Parts of the memory -/

def Memory.setTransport (m : Memory) (k : ℕ) (f : Transport → Transport) : Memory :=
  { m with transports := Function.update m.transports k (f (m.transports k)) }

def Memory.setCall (m : Memory) (id : ℕ) (f : Call → Call) : Memory :=
  { m with calls := Function.update m.calls id (f (m.calls id)) }

def Memory.setChannel (m : Memory) (ch : ℕ) (f : Channel → Channel) : Memory :=
  { m with objects := Function.update m.objects ch (f (m.objects ch)) }

/-- `this.channels[name]`. -/
def Memory.channel (m : Memory) (name : String) : Option ℕ := (m.channels.find? fun c => c.1 == name).map (·.2)

/-- `isSubscribed` with the pending ones. -/
def Memory.isSubscribed (m : Memory) (name : String) : Bool :=
  match m.channel name with
  | some ch => (m.objects ch).state != .unsubscribed
  | none => false

/-- `this.transport.off()`. -/
def Memory.off (m : Memory) : Memory :=
  match m.transport with
  | some k => m.setTransport k fun t => { t with listened := false }
  | none => m

/-- `delete this._callbackMap[cid]`. -/
def Memory.forget (m : Memory) (k cid : ℕ) : Memory :=
  m.setTransport k fun t => { t with callbackMap := t.callbackMap.filter fun e => e.1 != cid }

/-- The part of `emitObject` for an event with a callback: a new call id, registered. -/
def Memory.register (m : Memory) (k : ℕ) (e : Entry) : Memory :=
  { m.setTransport k fun t => { t with callbackMap := t.callbackMap ++ [(m.nextCid, e)] } with
    nextCid := m.nextCid + 1 }

/-- The callback of a call is given an answer. -/
def Memory.answer (m : Memory) (id : ℕ) (a : Answer) : Memory := { m with answered := m.answered ++ [(id, a)] }

/-- The item after one of the list; a detached item has none. -/
def next (buffer : List ℕ) (id : ℕ) : Option ℕ := ((buffer.dropWhile fun i => i != id).drop 1).head?

/-! ## The client -/

/-- `_localEvents`. -/
def localEvents : List String :=
  ["connect", "connectAbort", "close", "disconnect", "message", "error", "raw", "kickOut", "subscribe", "unsubscribe",
    "subscribeStateChange", "authStateChange", "authenticate", "deauthenticate", "removeAuthToken", "subscribeRequest"]

/-- The properties `_localEvents` inherits. -/
def inheritedProperties : List String :=
  ["constructor", "__defineGetter__", "__defineSetter__", "hasOwnProperty", "__lookupGetter__", "__lookupSetter__",
    "isPrototypeOf", "propertyIsEnumerable", "toString", "valueOf", "__proto__", "toLocaleString"]

/-- `connect`: the part before the listeners of `connecting`. -/
def connect (m : Memory) : Outcome Memory Op :=
  if m.active && decide (m.state = .closed) then
    .returns { m with reconnectTimeout := false, state := .connecting } [.notify, .construct]
  else .returns m []

/-- `new SCTransport`, the listeners of the transport before it taken off. -/
def construct (c : Choice) (m : Memory) : Outcome Memory Op :=
  match c with
  | .refused => .throws m.off
  | _ =>
    .returns { m.off with
      transport := some m.created,
      transports :=
        Function.update m.off.transports m.created ⟨.connecting, .connecting, true, [], true, false, none, []⟩,
      created := m.created + 1 } []

/-- `disconnect`; no code stands for 1000, as 0 does. -/
def disconnect (m : Memory) (code : ℤ) (data : Option Json) : Outcome Memory Op :=
  if m.state = .closed then .returns { m with reconnectTimeout := false } []
  else
    match m.transport with
    | some k => .returns m [.closeTransport k (if code = 0 then 1000 else code) data]
    | none => .throws m

/-- `emit`: the events of the client itself are not sent, nor what `_localEvents` inherits. -/
def emit (m : Memory) (event : String) (data : Option Json) (callback : Bool) : Outcome Memory Op :=
  if event ∈ localEvents ∨ event ∈ inheritedProperties then .returns m (if event = "error" then [.notify] else [])
  else if m.state = .closed then .returns m [.call .connect, .append event data callback]
  else .returns m [.append event data callback]

/-- `_emit` after its `connect`. -/
def append (m : Memory) (event : String) (data : Option Json) (callback : Bool) : Outcome Memory Op :=
  .returns { m with
    calls := Function.update m.calls m.emitted ⟨event, data, callback, callback, none, true⟩,
    emitted := m.emitted + 1,
    emitBuffer := m.emitBuffer ++ [m.emitted] } (if m.state = .opened then [.flushEmitBuffer] else [])

/-- A turn of the loop of `_flushEmitBuffer`, with `emitObject`. -/
def flush (m : Memory) (id : ℕ) : Outcome Memory Op :=
  let detached := { m with emitBuffer := m.emitBuffer.erase id }
  match m.transport with
  | none => .throws detached
  | some k =>
    let c := m.calls id
    if c.callback then
      .returns ((detached.register k (.call id)).setCall id fun c => { c with cid := some m.nextCid })
        [.send k (.single ⟨c.event, c.data, some m.nextCid⟩), .flush (next m.emitBuffer id)]
    else .returns detached [.send k (.single ⟨c.event, c.data, none⟩), .flush (next m.emitBuffer id)]

/-- A turn of the loop of `_abortAllPendingEventsDueToBadConnection`. -/
def abortBuffer (m : Memory) (id : ℕ) : Outcome Memory Op :=
  let detached :=
    { m.setCall id fun c => { c with timeout := false, callback := false } with emitBuffer := m.emitBuffer.erase id }
  if (m.calls id).callback then
    .returns (detached.answer id .badConnection) [.notify, .cleanUp id, .abortBuffer (next m.emitBuffer id)]
  else .returns detached [.cleanUp id, .abortBuffer (next m.emitBuffer id)]

/-- The end of a turn: `cancelPendingResponse` of the current transport for a call that has been sent. -/
def cleanUp (m : Memory) (id : ℕ) : Outcome Memory Op :=
  match (m.calls id).cid, m.transport with
  | some cid, some k => .returns (m.forget k cid) []
  | some _, none => .throws m
  | none, _ => .returns m []

/-- The part of `_onSCClose` that `autoReconnect` guards. -/
def tryReconnect (m : Memory) (code : ℤ) : Outcome Memory Op :=
  if code = 4000 ∨ code = 4001 ∨ code = 1005 then .returns { m with reconnectTimeout := true } []
  else if code ≠ 1000 ∧ code < 4500 then .returns { m with reconnectTimeout := true } []
  else .returns m []

/-! ### Channels -/

/-- `_cancelPendingSubscribeCallback`. -/
def cancelPendingSubscribe (m : Memory) (ch : ℕ) : Outcome Memory Op :=
  match (m.objects ch).pendingSubscriptionCid, m.transport with
  | some cid, some k => .returns ((m.forget k cid).setChannel ch fun c => { c with pendingSubscriptionCid := none }) []
  | some _, none => .throws m
  | none, _ => .returns m []

/-- `_triggerChannelUnsubscribe`. -/
def triggerUnsubscribe (m : Memory) (ch : ℕ) (newState : SubscriptionState) : Outcome Memory Op :=
  (cancelPendingSubscribe (m.setChannel ch fun c => { c with state := newState }) ch).andThen
    (if (m.objects ch).state = .subscribed then [.notify] else [])

/-- A turn of the loop of `_suspendSubscriptions`. -/
def suspend (m : Memory) (name : String) : Outcome Memory Op :=
  match m.channel name with
  | some ch => triggerUnsubscribe m ch (if (m.objects ch).state = .unsubscribed then .unsubscribed else .pending)
  | none => .returns m []

/-- `SCTransport.send`; a WebSocket that is not open is taken for closed. -/
def send (m : Memory) (k : ℕ) (text : Sent) : Outcome Memory Op :=
  if (m.transports k).readyState = .opened then
    .returns (m.setTransport k fun t => { t with sent := t.sent ++ [text] }) []
  else .returns m [.onClose k 1005]

/-- The `#subscribe` of a channel, with its `subscriptionOptions`. -/
def subscribePacket (name : String) (cid : ℕ) : Sent :=
  .single ⟨"#subscribe", some (.obj [("channel", .str name)]), some cid⟩

/-- The `#unsubscribe` of a channel. -/
def unsubscribePacket (name : String) : Sent := .single ⟨"#unsubscribe", some (.str name), none⟩

/-- `_trySubscribe`; the call id is assigned when `emit` has returned. -/
def trySubscribe (m : Memory) (ch : ℕ) : Outcome Memory Op :=
  if m.state = .opened ∧ m.preparing = false ∧ (m.objects ch).pendingSubscriptionCid = none then
    match m.transport with
    | none => .throws m
    | some k =>
      if (m.transports k).state = .opened then
        (send (m.register k (.subscribe ch)) k (subscribePacket (m.objects ch).name m.nextCid)).andThen
          [.setPendingCid ch (some m.nextCid), .notify]
      else .returns m [.setPendingCid ch none, .notify]
  else .returns m []

/-- `_tryUnsubscribe`. -/
def tryUnsubscribe (m : Memory) (ch : ℕ) : Outcome Memory Op :=
  if m.state = .opened then
    match cancelPendingSubscribe m ch with
    | .throws m => .throws m
    | .returns m _ =>
      match m.transport with
      | none => .throws m
      | some k =>
        if (m.transports k).state = .opened then send m k (unsubscribePacket (m.objects ch).name) else .returns m []
  else .returns m []

/-- `processPendingSubscriptions`; no channel has a priority. -/
def processPending (m : Memory) : Outcome Memory Op :=
  .returns { m with preparing := false }
    (((m.channels.map (·.2)).filter fun ch => decide ((m.objects ch).state = .pending)).map .trySubscribe)

/-- `new SCChannel`, kept under its name. -/
def Memory.makeChannel (m : Memory) (name : String) : Memory :=
  { m with
    channels := m.channels ++ [(name, m.made)],
    objects := Function.update m.objects m.made ⟨name, .unsubscribed, none⟩,
    made := m.made + 1 }

/-- `channel`. -/
def channel (m : Memory) (name : String) : Memory × ℕ :=
  match m.channel name with
  | some ch => (m, ch)
  | none => (m.makeChannel name, m.made)

/-- `subscribe`. -/
def subscribe (m : Memory) (name : String) : Outcome Memory Op :=
  let (m, ch) := channel m name
  if (m.objects ch).state = .unsubscribed then
    .returns (m.setChannel ch fun c => { c with state := .pending }) [.trySubscribe ch]
  else .returns m []

/-- `unsubscribe`. -/
def unsubscribe (m : Memory) (name : String) : Outcome Memory Op :=
  match m.channel name with
  | some ch =>
    if (m.objects ch).state = .unsubscribed then .returns m []
    else (triggerUnsubscribe m ch .unsubscribed).andThen [.tryUnsubscribe ch]
  | none => .returns m []

/-- `destroyChannel`. -/
def destroyChannel (m : Memory) (name : String) : Outcome Memory Op :=
  match m.channel name with
  | some _ => .returns m [.call (.unsubscribe name), .deleteChannel name]
  | none => .returns m []

/-- `_triggerChannelSubscribe`. -/
def triggerSubscribe (m : Memory) (ch : ℕ) : Outcome Memory Op :=
  if (m.objects ch).state = .subscribed then .returns m []
  else .returns (m.setChannel ch fun c => { c with state := .subscribed }) [.notify]

/-- `_triggerChannelSubscribeFail`. -/
def triggerSubscribeFail (m : Memory) (ch : ℕ) : Outcome Memory Op :=
  if (m.objects ch).state = .unsubscribed then .returns m []
  else .returns (m.setChannel ch fun c => { c with state := .unsubscribed }) [.notify]

/-- The callback of `_trySubscribe`. -/
def onSubscribe (m : Memory) (ch : ℕ) (failed : Bool) : Outcome Memory Op :=
  let m := m.setChannel ch fun c => { c with pendingSubscriptionCid := none }
  if failed then triggerSubscribeFail m ch else triggerSubscribe m ch

/-! ### Authentication -/

/-- `_changeToAuthenticatedState`. -/
def changeToAuthenticatedState (m : Memory) : Outcome Memory Op :=
  if m.authenticated then .returns m [.notify]
  else .returns { m with authenticated := true } ((if m.preparing then [] else [.processPending]) ++ [.notify])

/-- `_changeToUnauthenticatedStateAndClearTokens`. -/
def changeToUnauthenticatedState (m : Memory) : Outcome Memory Op :=
  if m.authenticated then .returns { m with authenticated := false } [.notify] else .returns m []

/-- `_onSCOpen`. -/
def onSCOpen (m : Memory) (isAuthenticated : Bool) : Outcome Memory Op :=
  let m := { m with preparing := true }
  (if isAuthenticated then changeToAuthenticatedState m else changeToUnauthenticatedState m).andThen
    [.processPending, .notify, .flushEmitBuffer]

/-! ## The transport -/

/-- `_onClose`, with the client's listeners of `close` and `openAbort`, which are `_onSCClose`. -/
def onClose (m : Memory) (k : ℕ) (code : ℤ) : Outcome Memory Op :=
  let closed := m.setTransport k fun t => { t with connectTimeout := false, pingTimeout := false, state := .closed }
  if (m.transports k).state = .closed then .returns closed []
  else if (m.transports k).listened then
    .returns { closed.off with state := .closed, reconnectTimeout := false }
      [.suspend (m.channels.map (·.1)), .abortAll, .tryReconnect code, .notify, .abortPending k]
  else .returns closed [.abortPending k]

/-- `socket.close`: a WebSocket accepts 1000 and the codes for applications. -/
def closeSocket (m : Memory) (k : ℕ) (code : ℤ) : Outcome Memory Op :=
  if code = 1000 ∨ 3000 ≤ code ∧ code ≤ 4999 then
    .returns (m.setTransport k fun t =>
      { t with readyState := if t.readyState = .closed then .closed else .closing }) []
  else .throws m

/-- `SCTransport.close`. -/
def closeTransport (m : Memory) (k : ℕ) (code : ℤ) (data : Option Json) : Outcome Memory Op :=
  match (m.transports k).state with
  | .opened =>
    let packet := Json.obj (("code", .num (itoa code)) :: omitEmpty "data" data)
    .returns m [.send k (.single ⟨"#disconnect", some packet, none⟩), .onClose k code, .closeSocket k code]
  | .connecting => .returns m [.onClose k code, .closeSocket k code]
  | .closed => .returns m []

/-- The callback of `_onOpen` for an error. -/
def handshakeFailed (k : ℕ) (code : ℤ) : List Op := [.onClose k code, .closeSocket k code]

/-- The callback of an entry is given a `BadConnectionError`. -/
def abortEntry (m : Memory) (k : ℕ) : Entry → Outcome Memory Op
  | .call id =>
    let aborted := m.setCall id fun c => { c with timeout := false, callback := false }
    if (m.calls id).callback then .returns (aborted.answer id .badConnection) [.notify] else .throws aborted
  | .handshake => .returns (m.setTransport k fun t => { t with handshakeTimeout := none }) (handshakeFailed k 4003)
  | .subscribe ch => onSubscribe m ch true

/-- A turn of the loop of the transport's `_abortAllPendingEventsDueToBadConnection`. -/
def abortEach (m : Memory) (k cid : ℕ) : Outcome Memory Op :=
  match (m.transports k).callbackMap.find? fun e => e.1 == cid with
  | some e => abortEntry (m.forget k cid) k e.2
  | none => .returns m []

/-! ### Messages -/

/-- A property that counts as true. -/
def truthy : Option Json → Bool
  | none | some .null | some (.bool false) => false
  | some (.num literal) => (literal.toList.takeWhile fun c => c ∉ ['e', 'E']).any fun c => c ∈ "123456789".toList
  | some (.str s) => s != ""
  | some _ => true

/-- The text under which a value is looked up as a property. -/
def propertyKey : Option Json → String
  | none => "undefined"
  | some .null => "null"
  | some (.bool b) => if b then "true" else "false"
  | some (.num literal) => literal
  | some (.str s) => s
  | some _ => "[object Object]"

/-- An integer property that counts as true, else the default. -/
def statusCode (v : Option Json) (default : ℤ) : ℤ :=
  match v with
  | some (.num literal) =>
    match parseInt64 literal with
    | some n => if n = 0 then default else n
    | none => default
  | _ => default

/-- The error for a token that is missing, without its stack. -/
def invalidMessageError : Json :=
  .obj [("message", .str "No token data provided by #setAuthToken event"), ("name", .str "InvalidMessageError")]

/-- `Response.end` and `Response.error`. -/
def respond (k : ℕ) (cid : Option Json) (error data : Option Json) : List Op :=
  match cid with
  | some rid => if truthy cid then [.send k (.reply rid error data)] else []
  | none => []

/-- `undefined` or `null`, of which no property can be read. -/
def absent : Option Json → Bool
  | none | some .null => true
  | some _ => false

/-- `_undecorateChannelName(data.channel)`; no channel has a prefix. -/
def channelName (data : Option Json) : String := propertyKey (data.bind (property "channel"))

/-- `_onSCEvent` with `_privateEventHandlerMap`. -/
def onSCEvent (m : Memory) (k : ℕ) (name : Json) (data cid : Option Json) : Outcome Memory Op :=
  match name with
  | .str "#publish" =>
    if absent data then .throws m else .returns m (if m.isSubscribed (channelName data) then [.notify] else [])
  | .str "#kickOut" =>
    if absent data then .throws m
    else
      match m.channel (channelName data) with
      | some ch => .returns m [.notify, .triggerUnsubscribe ch]
      | none => .returns m []
  | .str "#setAuthToken" =>
    if truthy data then (changeToAuthenticatedState m).andThen (respond k cid none none)
    else .returns m (respond k cid (some invalidMessageError) none)
  | .str "#removeAuthToken" => .returns m ([.notify, .unauthenticate] ++ respond k cid none none)
  | .str "#disconnect" =>
    match absent data, m.transport with
    | false, some k => .returns m [.closeTransport k (statusCode (data.bind (property "code")) 1000)
        (data.bind (property "data"))]
    | _, _ => .throws m
  | _ => .returns m [.notify]

/-- The entry a response is for. -/
def Transport.pendingResponse (t : Transport) (rid : Json) : Option (ℕ × Entry) :=
  t.callbackMap.find? fun e => itoa e.1 == propertyKey (some rid)

/-- `hydrateError`, as far as it says whether there is an error. -/
def hydrateError : Option Json → Option Json
  | some .null => none
  | error => error

/-- The callback of an entry is given a response. -/
def respondTo (m : Memory) (k cid : ℕ) (error data : Option Json) : Entry → Outcome Memory Op
  | .call id =>
    let m := m.setCall id fun c => { c with timeout := false }
    if (m.calls id).callback then .returns (m.answer id (.response cid error data)) [.notify] else .returns m []
  | .handshake =>
    let m := m.setTransport k fun t => { t with handshakeTimeout := none }
    match error with
    | some _ => .returns m (handshakeFailed k (statusCode (data.bind (property "code")) 4003))
    | none =>
      let opened := m.setTransport k fun t => { t with state := .opened }
      if (m.transports k).listened then
        (onSCOpen { opened with state := .opened } (truthy (data.bind (property "isAuthenticated")))).andThen
          [.resetPingTimeout k]
      else .returns opened [.resetPingTimeout k]
  | .subscribe ch => onSubscribe m ch error.isSome

/-- `_handleEventObject`, and the ping of `_onMessage`. -/
def handle (m : Memory) (k : ℕ) : Incoming → Outcome Memory Op
  | .ping =>
    .returns m (.resetPingTimeout k :: if (m.transports k).readyState = .opened then [.send k .pong] else [])
  | .event name data cid => if (m.transports k).listened then onSCEvent m k name data cid else .returns m []
  | .response rid data error =>
    match (m.transports k).pendingResponse rid with
    | some (cid, e) => respondTo (m.forget k cid) k cid (hydrateError error) data e
    | none => .returns m []
  | .raw => .returns m (if (m.transports k).listened then [.notify] else [])

/-! ## The event loop -/

def call (m : Memory) : Api → Outcome Memory Op
  | .emit event data callback => emit m event data callback
  | .connect => connect m
  | .disconnect code data => disconnect m code data
  | .destroy code data => disconnect { m with active := false } code data
  | .processPendingSubscriptions => processPending m
  | .channel name => .returns (channel m name).1 []
  | .subscribe name => subscribe m name
  | .unsubscribe name => unsubscribe m name
  | .destroyChannel name => destroyChannel m name

/-- The listeners that are running return, call the client or throw. -/
def listening (c : Choice) (m : Memory) : Outcome Memory Op :=
  match c with
  | .call a => .returns m [.call a, .listening]
  | .throws => .throws m
  | _ => .returns m []

def exec (c : Choice) (m : Memory) : Op → Option (Outcome Memory Op)
  | .notify => some (.returns m [.listening])
  | .listening => some (listening c m)
  | .call a => some (call m a)
  | .construct => some (construct c m)
  | .append event data callback => some (append m event data callback)
  | .flushEmitBuffer => some (.returns m (if m.state = .opened then [.flush m.emitBuffer.head?] else []))
  | .flush none => some (.returns m [])
  | .flush (some id) => some (flush m id)
  | .send k text => some (send m k text)
  | .closeTransport k code data => some (closeTransport m k code data)
  | .onClose k code => some (onClose m k code)
  | .closeSocket k code => some (closeSocket m k code)
  | .suspend [] => some (.returns m [])
  | .suspend (name :: names) => some ((suspend m name).andThen [.suspend names])
  | .abortAll => some (.returns m [.abortBuffer m.emitBuffer.head?])
  | .abortBuffer none => some (.returns m [])
  | .abortBuffer (some id) => some (abortBuffer m id)
  | .cleanUp id => some (cleanUp m id)
  | .tryReconnect code => some (tryReconnect m code)
  | .abortPending k => some (.returns m [.abortEach k ((m.transports k).callbackMap.map (·.1))])
  | .abortEach _ [] => some (.returns m [])
  | .abortEach k (cid :: cids) => some ((abortEach m k cid).andThen [.abortEach k cids])
  | .resetPingTimeout k => some (.returns (m.setTransport k fun t => { t with pingTimeout := true }) [])
  | .processPending => some (processPending m)
  | .trySubscribe ch => some (trySubscribe m ch)
  | .setPendingCid ch cid => some (.returns (m.setChannel ch fun c => { c with pendingSubscriptionCid := cid }) [])
  | .triggerUnsubscribe ch => some (triggerUnsubscribe m ch .unsubscribed)
  | .tryUnsubscribe ch => some (tryUnsubscribe m ch)
  | .deleteChannel name => some (.returns { m with channels := m.channels.filter fun c => c.1 != name } [])
  | .unauthenticate => some (changeToUnauthenticatedState m)
  | .handle k incoming => some (handle m k incoming)

/-- `_onOpen` with `_handshake`; the WebSocket is open, whatever the state of the transport. -/
def onOpen (m : Memory) (k : ℕ) (token : Json) : Memory × List Op :=
  ((m.register k .handshake).setTransport k fun t =>
      { t with
        readyState := .opened, connectTimeout := false, pingTimeout := true, handshakeTimeout := some m.nextCid },
    [.send k (.single ⟨"#handshake", some (.obj [("authToken", token)]), some m.nextCid⟩)])

/-- `_handleEventAckTimeout` of the client. -/
def handleEventAckTimeout (m : Memory) (id : ℕ) : Memory × List Op :=
  let timedOut :=
    { m.setCall id fun c => { c with timeout := false, callback := false } with emitBuffer := m.emitBuffer.erase id }
  if (m.calls id).callback then (timedOut.answer id .timeout, [.notify, .cleanUp id]) else (timedOut, [.cleanUp id])

/-- What a message leaves to do: the listeners of `message`, then what it means. -/
def received (m : Memory) (k : ℕ) (messages : List Incoming) : List Op :=
  (if (m.transports k).listened then [.notify] else []) ++ messages.map (.handle k)

/-- What a task starts with, where it is due. -/
def start (m : Memory) : Task → Option (Memory × List Op)
  | .page => some (m, [.listening])
  | .wsOpen k token =>
    if k < m.created ∧ (m.transports k).readyState = .connecting then some (onOpen m k token) else none
  | .wsMessage k text =>
    if (m.transports k).readyState = .opened then some (m, received m k (onMessage text)) else none
  | .wsClosing k =>
    if (m.transports k).readyState = .opened then
      some (m.setTransport k fun t => { t with readyState := .closing }, [])
    else none
  | .wsClose k code =>
    if k < m.created ∧ (m.transports k).readyState ≠ .closed then
      some (m.setTransport k fun t => { t with readyState := .closed }, [.onClose k code])
    else none
  | .wsError k =>
    if k < m.created ∧ (m.transports k).readyState ≠ .closed then
      some (m, if (m.transports k).state = .connecting then [.onClose k 1006] else [])
    else none
  | .connectTimeout k =>
    if (m.transports k).connectTimeout then
      some (m.setTransport k fun t => { t with connectTimeout := false }, [.onClose k 4007, .closeSocket k 4007])
    else none
  | .pingTimeout k =>
    if (m.transports k).pingTimeout then
      some (m.setTransport k fun t => { t with pingTimeout := false }, [.onClose k 4000, .closeSocket k 4000])
    else none
  | .handshakeTimeout k =>
    match (m.transports k).handshakeTimeout with
    | some cid =>
      some ((m.forget k cid).setTransport k fun t => { t with handshakeTimeout := none }, handshakeFailed k 4003)
    | none => none
  | .ackTimeout id => if (m.calls id).timeout then some (handleEventAckTimeout m id) else none
  | .reconnectTimeout =>
    if m.reconnectTimeout then some ({ m with reconnectTimeout := false }, [.call .connect]) else none

def system : System Memory Op Choice Task := ⟨exec, start, fun op => op matches .listening⟩

/-- A new client, about to connect. -/
def init : State Memory Op :=
  ⟨{ active := true, state := .closed, authenticated := false, preparing := false, reconnectTimeout := false,
     transport := none, transports := fun _ => ⟨.closed, .closed, false, [], false, false, none, []⟩, created := 0,
     nextCid := 1, calls := fun _ => ⟨"", none, false, false, none, false⟩, emitted := 0, emitBuffer := [],
     channels := [], objects := fun _ => ⟨"", .unsubscribed, none⟩, made := 0, answered := [] }, [.call .connect]⟩

end NodejsHelper.SocketCluster
