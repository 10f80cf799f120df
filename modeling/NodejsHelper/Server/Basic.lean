/-
One node (`main.go`, `hub.go`, `socket.go`, `websocket.go`, `redis.go`): any number of sockets, each
with its read loop, write loop, ping loop and handshake timer, the Redis `receiveLoop` and `main`.
The goroutines are workers on the node's memory; an operation is a section the code makes atomic, by
a mutex, an atomic variable or a channel operation, and a goroutine's list is what is left of the
call it is in. A handler only reads what its own read loop writes, so all of its effects are listed
when the event is taken up.
-/
import NodejsHelper.Lib.Workers
import NodejsHelper.Socket.Basic
import NodejsHelper.Hub.Basic
import NodejsHelper.Redis.Bridge
import NodejsHelper.Redis.Wire

namespace NodejsHelper

namespace Server

/-! ## Goroutines and messages -/

/-- The goroutines of a node; sockets are numbered in the order of their upgrades. -/
inductive Goroutine
  | handleHTTP (t : ℕ)
  | readLoop (t : ℕ)
  | writeLoop (t : ℕ)
  | pingLoop (t : ℕ)
  | handshakeTimer (t : ℕ)
  | receiveLoop
  | main
  deriving DecidableEq

/-- The socket a goroutine belongs to. -/
def Goroutine.socket : Goroutine → Option ℕ
  | .handleHTTP t | .readLoop t | .writeLoop t | .pingLoop t | .handshakeTimer t => some t
  | .receiveLoop | .main => none

/-- A call of `Server.publish`: the node, the socket whose read loop makes it, and its number among
the calls of the node. -/
structure CallID where
  instanceID : String
  socket : ℕ
  seq : ℕ
  deriving DecidableEq

/-- A text for the outbound queue; a `#publish` packet is tagged with the call it comes from. -/
structure Message where
  packet : Packet
  call : Option CallID

/-- A frame for `writeFrame`. -/
inductive Frame
  | text (msg : Message)
  | pong (payload : List UInt8)
  | close (code : ℕ) (reason : String)

/-! ## The memory of a node -/

/-- The connection side of a socket: its outbound channel with all it ever accepted, `closed` and
`done`, and of the `wsConn` the lock, its `closed` flag and the connection with the frames handed to
it. The peer of a stalled connection has stopped reading. -/
structure Conn where
  outbound : List Message
  queued : List Message
  closed : Bool
  done : Bool
  writeMu : Option Goroutine
  wsClosed : Bool
  connClosed : Bool
  stalled : Bool
  written : List Frame

/-- Where a socket is in `handleHTTP` and `Socket.run`: before its upgrade, before `registerSocket`,
before `run`, in the loop, or at one of the deferred calls. -/
inductive Stage
  | waiting
  | upgraded
  | registered
  | reading
  | unregisterSocket
  | cleanup
  | closeDone
  | close
  | stopTimer
  | gone
  deriving DecidableEq

/-- Sockets go through the stages in this order. -/
def Stage.succ : Stage → Stage
  | .waiting => .upgraded
  | .upgraded => .registered
  | .registered => .reading
  | .reading => .unregisterSocket
  | .unregisterSocket => .cleanup
  | .cleanup => .closeDone
  | .closeDone => .close
  | .close => .stopTimer
  | .stopTimer | .gone => .gone

/-- Where a socket is, and which goroutines `run` started are still there. -/
structure Life where
  stage : Stage
  writing : Bool
  pinging : Bool
  timer : Bool

/-- A PUBLISH command and whether Redis executed it. -/
structure Command where
  call : CallID
  channel : String
  payload : String
  ok : Bool

/-- The memory the goroutines of a node share, and the calls and commands it has made. `batch` holds
the events of the current frame that are still to be handled. -/
structure Memory where
  next : ℕ
  sockets : ℕ → Socket
  conns : ℕ → Conn
  lives : ℕ → Life
  batch : ℕ → List InEvent
  hub : Hub ℕ
  bridge : Bridge
  registered : Finset ℕ
  calls : List CallID
  commands : List Command
  stopping : Bool
  returned : Bool

def newConn : Conn := ⟨[], [], false, false, none, false, false, false, []⟩

def newMemory : Memory where
  next := 0
  sockets _ := newSocket ""
  conns _ := newConn
  lives _ := ⟨.waiting, false, false, false⟩
  batch _ := []
  hub := newHub
  bridge := newBridge
  registered := ∅
  calls := []
  commands := []
  stopping := false
  returned := false

namespace Memory

def setConn (m : Memory) (t : ℕ) (c : Conn) : Memory := { m with conns := Function.update m.conns t c }

def setLife (m : Memory) (t : ℕ) (l : Life) : Memory := { m with lives := Function.update m.lives t l }

def setSocket (m : Memory) (t : ℕ) (s : Socket) : Memory := { m with sockets := Function.update m.sockets t s }

def setBatch (m : Memory) (t : ℕ) (evs : List InEvent) : Memory := { m with batch := Function.update m.batch t evs }

def setStage (m : Memory) (t : ℕ) (stage : Stage) : Memory := m.setLife t { m.lives t with stage }

end Memory

/-! ## Operations -/

/-- The sections a goroutine executes. -/
inductive Op
  | enqueueText (t : ℕ) (msg : Message)
  | selectOutbound (t : ℕ) (msg : Message)
  | closeWith (t : ℕ) (code : ℕ) (reason : String)
  | lockFrame (t : ℕ) (frame : Frame)
  | writeFrame (t : ℕ) (frame : Frame)
  | setClosed (t : ℕ)
  | lockClosed (t : ℕ)
  | closeConn (t : ℕ)
  | endRead (t : ℕ)
  | publish (t : ℕ) (channel : String) (data : Option Json)
  | publishLocal (call : Option CallID) (channel : String) (data : Json)
  | publishRedis (call : CallID) (channel : String) (data : Option Json)
  | hubAdd (t : ℕ) (channel : String)
  | hubRemove (t : ℕ) (channel : String)
  | ensure (channel : String) (wanted : Bool)
  | command (channel : String) (wanted : Bool)
  | closeAllSockets
  | awaitSockets
  | shutdown

/-- What the code leaves open: the order of a map iteration, and the outcome of a `select`, of a
write, of a Redis command or of a wait with a deadline. -/
structure Choice where
  targets : List ℕ
  ok : Bool

/-- The call an effect of a handler is. -/
def opOf (t : ℕ) : Effect → Op
  | .send packet => .enqueueText t ⟨packet, none⟩
  | .presence channel status vid => .publish t channel (some (presencePayload status vid))
  | .publish channel data => .publish t channel data
  | .hubAdd channel => .hubAdd t channel
  | .hubRemove channel => .hubRemove t channel
  | .close code reason => .closeWith t code reason

/-! ## Sockets and connections -/

section Sections

variable (cfg : Config) (m : Memory)

/-- `enqueueText`, and the check of its callers before it: a closed socket takes nothing. -/
def enqueueText (t : ℕ) (msg : Message) : Memory × List Op :=
  (m, if (m.conns t).closed then [] else [.selectOutbound t msg])

/-- The `select` of `enqueueText`. With `done` closed and room in the queue either case may be taken;
without room it closes the slow consumer. -/
def selectOutbound (t : ℕ) (msg : Message) (ok : Bool) : Memory × List Op :=
  let c := m.conns t
  if c.done = true ∧ (cfg.sendBuffer ≤ c.outbound.length ∨ ok = false) then (m, [])
  else if c.outbound.length < cfg.sendBuffer then
    (m.setConn t { c with outbound := c.outbound ++ [msg], queued := c.queued ++ [msg] }, [])
  -- the default case: neither the receive nor the send is ready
  else (m, [.closeWith t 1008 "Outbound queue full"])

/-- `closeWith`: the caller that sets `closed` writes the close frame. -/
def closeWith (t : ℕ) (code : ℕ) (reason : String) : Memory × List Op :=
  if (m.conns t).closed then (m, [])
  else (m.setConn t { m.conns t with closed := true }, [.lockFrame t (.close code reason)])

/-- What follows `writeFrame`: `WriteClose` closes the connection either way, a failed text ends the
write loop and a failed pong the read loop. -/
def afterFrame (t : ℕ) : Frame → Bool → List Op
  | .close _ _, _ => [.lockClosed t]
  | .text _, false => [.setClosed t]
  | .pong _, false => [.endRead t]
  | _, true => []

/-- A failed text frame ends the write loop. -/
def frameFailed (t : ℕ) : Frame → Memory
  | .text _ => m.setLife t { m.lives t with writing := false }
  | _ => m

/-- `writeFrame` up to the write: it waits for `writeMu`, and a closed `wsConn` takes no frame. -/
def lockFrame (g : Goroutine) (t : ℕ) (frame : Frame) : Option (Memory × List Op) :=
  let c := m.conns t
  if c.writeMu ≠ none then none
  -- `writeFrame` returns errClosed, and the caller goes on as after a failed write
  else if c.wsClosed then some (frameFailed m t frame, afterFrame t frame false)
  else some (m.setConn t { c with writeMu := some g }, [.writeFrame t frame])

/-- The write of `writeFrame`, under `writeMu`. It does not return while the peer does not read, unless
the connection is closed. -/
def writeFrame (t : ℕ) (frame : Frame) (ok : Bool) : Option (Memory × List Op) :=
  let c := m.conns t
  if c.stalled = true ∧ c.connClosed = false then none
  else if ok = true ∧ c.connClosed = false then
    some (m.setConn t { c with writeMu := none, written := c.written ++ [frame] }, afterFrame t frame true)
  else some (frameFailed (m.setConn t { c with writeMu := none }) t frame, afterFrame t frame false)

/-- `closed.Store(true)` before `wsConn.Close`. -/
def setClosed (t : ℕ) : Memory × List Op :=
  (m.setConn t { m.conns t with closed := true }, [.lockClosed t])

/-- The section of `Close` and `WriteClose` that sets the flag of the `wsConn`, under `writeMu`. -/
def lockClosed (t : ℕ) : Option (Memory × List Op) :=
  if (m.conns t).writeMu ≠ none then none
  else some (m.setConn t { m.conns t with wsClosed := true }, [.closeConn t])

/-- `conn.Close()`. -/
def closeConn (t : ℕ) : Memory × List Op := (m.setConn t { m.conns t with connClosed := true }, [])

/-- `run` leaves its loop. -/
def endRead (t : ℕ) : Memory × List Op := (m.setStage t .unregisterSocket, [])

/-! ## Publishing -/

/-- `Server.publish`: the local sockets first, then Redis. -/
def publish (t : ℕ) (channel : String) (data : Option Json) : Memory × List Op :=
  let call : CallID := ⟨cfg.instanceID, t, m.calls.length⟩
  ({ m with calls := m.calls ++ [call] },
    [.publishLocal (some call) channel (data.getD .null), .publishRedis call channel data])

/-- `PublishLocal`: the snapshot under `hub.mu`, in any order, and the fan-out to it. -/
def publishLocal (call : Option CallID) (channel : String) (data : Json) (targets : List ℕ) :
    Option (Memory × List Op) :=
  if targets.Nodup ∧ targets.toFinset = m.hub.members channel then
    some (m, targets.map fun t => .enqueueText t ⟨.publish channel data, call⟩)
  else none

/-- `redisBridge.Publish`: one PUBLISH command, which may fail. -/
def publishRedis (call : CallID) (channel : String) (data : Option Json) (ok : Bool) : Memory × List Op :=
  ({ m with commands := m.commands ++ [⟨call, channel, encodeForRedis cfg.instanceID data, ok⟩] }, [])

/-! ## Hub and bridge -/

/-- `Hub.Add`; the first subscriber runs the hook. -/
def hubAdd (t : ℕ) (channel : String) : Memory × List Op :=
  ({ m with hub := (m.hub.add t channel).1 }, if (m.hub.add t channel).2 then [.ensure channel true] else [])

/-- `Hub.Remove`; the last subscriber runs the hook. -/
def hubRemove (t : ℕ) (channel : String) : Memory × List Op :=
  ({ m with hub := (m.hub.remove t channel).1 }, if (m.hub.remove t channel).2 then [.ensure channel false] else [])

/-- The section of `EnsureSubscribed` and `EnsureUnsubscribed` under `b.mu`. -/
def ensure (channel : String) (wanted : Bool) : Memory × List Op :=
  ({ m with bridge := (m.bridge.ensure channel wanted).1 },
    if (m.bridge.ensure channel wanted).2 then [.command channel wanted] else [])

/-- Their command on the PubSub connection. -/
def command (channel : String) (wanted : Bool) : Memory × List Op :=
  ({ m with bridge := m.bridge.command channel wanted }, [])

/-! ## The end of the process -/

/-- `closeAllSockets`: the snapshot under `socketsMu`, in any order, and a `closeWith` each. -/
def closeAllSockets (targets : List ℕ) : Option (Memory × List Op) :=
  if targets.Nodup ∧ targets.toFinset = m.registered then
    some (m, targets.map (fun t => .closeWith t 1001 "Server shutting down") ++ [.awaitSockets])
  else none

/-- `main` waits until all sockets are unregistered or its deadline has passed. -/
def awaitSockets (ok : Bool) : Option (Memory × List Op) :=
  if m.registered = ∅ ∨ ok = true then some (m, [.shutdown]) else none

/-- `main` returns, which ends the process. -/
def shutdown : Memory × List Op := ({ m with returned := true }, [])

/-- What executing a section does. -/
def exec (g : Goroutine) (choice : Choice) : Op → Option (Memory × List Op)
  | .enqueueText t msg => some (enqueueText m t msg)
  | .selectOutbound t msg => some (selectOutbound cfg m t msg choice.ok)
  | .closeWith t code reason => some (closeWith m t code reason)
  | .lockFrame t frame => lockFrame m g t frame
  | .writeFrame t frame => writeFrame m t frame choice.ok
  | .setClosed t => some (setClosed m t)
  | .lockClosed t => lockClosed m t
  | .closeConn t => some (closeConn m t)
  | .endRead t => some (endRead m t)
  | .publish t channel data => some (publish cfg m t channel data)
  | .publishLocal call channel data => publishLocal m call channel data choice.targets
  | .publishRedis call channel data => some (publishRedis cfg m call channel data choice.ok)
  | .hubAdd t channel => some (hubAdd m t channel)
  | .hubRemove t channel => some (hubRemove m t channel)
  | .ensure channel wanted => some (ensure m channel wanted)
  | .command channel wanted => some (command m channel wanted)
  | .closeAllSockets => closeAllSockets m choice.targets
  | .awaitSockets => awaitSockets m choice.ok
  | .shutdown => some (shutdown m)

end Sections

/-! ## Work -/

/-- What an idle goroutine takes up: an upgrade, its registration and the start of `run`, what
`ReadMessage` returns or answers by itself, the next event of a frame, the next deferred call of `run`,
the turns of the write and ping loops, the handshake timer, a Redis message, and the stop signal. -/
inductive Work
  | upgrade (id : String)
  | registerSocket (t : ℕ)
  | runSocket (t : ℕ)
  | message (t : ℕ) (v : Json)
  | event (t : ℕ) (clock : Clock)
  | clientPing (t : ℕ)
  | readPing (t : ℕ) (payload : List UInt8)
  | readClose (t : ℕ)
  | readError (t : ℕ)
  | teardown (t : ℕ) (channels : List String)
  | dequeue (t : ℕ)
  | stopWriting (t : ℕ)
  | ping (t : ℕ)
  | pongTimeout (t : ℕ)
  | stopPinging (t : ℕ)
  | handshakeTimeout (t : ℕ)
  | receive (channel raw : String) (call : Option CallID)
  | signal

section Works

variable (p : Auth.Primitives) (cfg : Config) (m : Memory)

/-- The read loop is in `ReadMessage`. -/
def inRead (t : ℕ) : Bool := decide ((m.lives t).stage = .reading) && (m.batch t).isEmpty

/-- The deferred calls of `run`: `unregisterSocket`, `cleanup`, which drops the channels in any order,
and the stop of the handshake timer. -/
def teardown (t : ℕ) (channels : List String) : Option (Memory × List Op) :=
  match (m.lives t).stage with
  | .unregisterSocket => some (({ m with registered := m.registered.erase t } : Memory).setStage t .cleanup, [])
  | .cleanup =>
    if channels.Nodup ∧ channels.toFinset = (m.sockets t).subs then
      some ((m.setSocket t (NodejsHelper.cleanup cfg (m.sockets t) channels).1).setStage t .closeDone,
        (NodejsHelper.cleanup cfg (m.sockets t) channels).2.map (opOf t))
    else none
  | .closeDone => some ((m.setConn t { m.conns t with done := true }).setStage t .close, [])
  | .close => some (m.setStage t .stopTimer, [.setClosed t])
  | .stopTimer => some (m.setLife t { m.lives t with stage := .gone, timer := false }, [])
  | .waiting | .upgraded | .registered | .reading | .gone => none

/-- The goroutine that takes the work up, and what it does at once and has left to do. -/
def start : Work → Option (Goroutine × Memory × List Op)
  | .upgrade id =>
    some (.handleHTTP m.next,
      { (m.setSocket m.next (newSocket id)).setStage m.next .upgraded with next := m.next + 1 }, [])
  | .registerSocket t =>
    if (m.lives t).stage = .upgraded then
      some (.handleHTTP t, ({ m with registered := insert t m.registered } : Memory).setStage t .registered, [])
    else none
  | .runSocket t =>
    if (m.lives t).stage = .registered then
      some (.handleHTTP t, m.setLife t ⟨.reading, true, true, true⟩, [])
    else none
  | .message t v => if inRead m t then some (.readLoop t, m.setBatch t (decodeMessage v), []) else none
  | .event t clock =>
    match m.batch t with
    | [] => none
    | ev :: evs =>
      -- the handler runs in the read loop and reads only what that loop writes
      if (m.lives t).stage = .reading then
        some (.readLoop t, (m.setBatch t evs).setSocket t (handleEvent p cfg (m.sockets t) ev clock).1,
          (handleEvent p cfg (m.sockets t) ev clock).2.map (opOf t))
      else none
  | .clientPing t => if inRead m t then some (.readLoop t, m, [.enqueueText t ⟨.text "#2", none⟩]) else none
  | .readPing t payload => if inRead m t then some (.readLoop t, m, [.lockFrame t (.pong payload)]) else none
  -- the echo of `ReadMessage`, after which it returns an error
  | .readClose t => if inRead m t then some (.readLoop t, m, [.lockFrame t (.close 1000 ""), .endRead t]) else none
  | .readError t => if inRead m t then some (.readLoop t, m, [.endRead t]) else none
  | .teardown t channels => (teardown cfg m t channels).map fun r => (.readLoop t, r.1, r.2)
  | .dequeue t =>
    match (m.conns t).outbound with
    | [] => none
    | msg :: rest =>
      if (m.lives t).writing then
        some (.writeLoop t, m.setConn t { m.conns t with outbound := rest }, [.lockFrame t (.text msg)])
      else none
  | .stopWriting t =>
    if (m.lives t).writing && (m.conns t).done then
      some (.writeLoop t, m.setLife t { m.lives t with writing := false }, [])
    else none
  | .ping t => if (m.lives t).pinging then some (.pingLoop t, m, [.enqueueText t ⟨.text "#1", none⟩]) else none
  | .pongTimeout t =>
    if (m.lives t).pinging then
      some (.pingLoop t, m.setLife t { m.lives t with pinging := false }, [.closeWith t 4000 "Pong timeout"])
    else none
  | .stopPinging t =>
    if (m.lives t).pinging && (m.conns t).done then
      some (.pingLoop t, m.setLife t { m.lives t with pinging := false }, [])
    else none
  | .handshakeTimeout t =>
    if (m.lives t).timer then
      some (.handshakeTimer t, m.setLife t { m.lives t with timer := false },
        if (m.sockets t).handshaken then []
        else [.closeWith t 4005 "Did not receive #handshake from client before timeout"])
    else none
  | .receive channel raw call =>
    -- an own message, or one that is no JSON, is dropped here
    some (.receiveLoop, m,
      (((handleMessage cfg.instanceID raw).bind Json.parse).map fun v => .publishLocal call channel v).toList)
  | .signal => if m.stopping then none else some (.main, { m with stopping := true }, [.closeAllSockets])

end Works

/-! ## The node -/

abbrev State := Workers.State Memory Goroutine Op

abbrev Label := Workers.Label Goroutine Choice Work ℕ

/-- The goroutines of a node as workers, until `main` returns; the environment stalls connections. -/
def system (p : Auth.Primitives) (cfg : Config) : Workers.System Memory Goroutine Op Choice Work ℕ where
  exec g choice m op := if m.returned then none else exec cfg m g choice op
  start m w := if m.returned then none else start p cfg m w
  env m t := if m.returned then none else some (m.setConn t { m.conns t with stalled := true })

/-- One step of a node. -/
def step (p : Auth.Primitives) (cfg : Config) : State → Label → Option State := (system p cfg).step

/-- A node that was just started. -/
def init : State := ⟨newMemory, fun _ => []⟩

end Server

end NodejsHelper
