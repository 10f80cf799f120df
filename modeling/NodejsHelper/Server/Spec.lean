/-
What the sections of a node can do, once for all of them (`Exec`), and what follows for the parts of
its memory: who changes the hub, the sockets and the connections, and which operations are left. The
invariants of a node are derived from these, never from the sections themselves.
-/
import NodejsHelper.Server.Basic
import NodejsHelper.Socket.Spec

namespace NodejsHelper

namespace Server

variable {p : Auth.Primitives} {cfg : Config}

/-! ## Sections -/

variable (cfg) in
/-- What executing a section can do to the memory, and what it leaves. -/
inductive Exec (m : Memory) (g : Goroutine) : Op → Memory → List Op → Prop
  | enqueueClosed (t : ℕ) (msg : Message) : (m.conns t).closed = true → Exec m g (.enqueueText t msg) m []
  | enqueue (t : ℕ) (msg : Message) : (m.conns t).closed = false →
      Exec m g (.enqueueText t msg) m [.selectOutbound t msg]
  | selectDone (t : ℕ) (msg : Message) : (m.conns t).done = true → Exec m g (.selectOutbound t msg) m []
  | selectSend (t : ℕ) (msg : Message) : (m.conns t).outbound.length < cfg.sendBuffer →
      Exec m g (.selectOutbound t msg)
        (m.setConn t { m.conns t with
          outbound := (m.conns t).outbound ++ [msg], queued := (m.conns t).queued ++ [msg] }) []
  | selectFull (t : ℕ) (msg : Message) : cfg.sendBuffer ≤ (m.conns t).outbound.length →
      Exec m g (.selectOutbound t msg) m [.closeWith t 1008 "Outbound queue full"]
  | closeLost (t code : ℕ) (reason : String) : (m.conns t).closed = true →
      Exec m g (.closeWith t code reason) m []
  | closeWon (t code : ℕ) (reason : String) : (m.conns t).closed = false →
      Exec m g (.closeWith t code reason) (m.setConn t { m.conns t with closed := true })
        [.lockFrame t (.close code reason)]
  | lockRefused (t : ℕ) (frame : Frame) : (m.conns t).writeMu = none → (m.conns t).wsClosed = true →
      Exec m g (.lockFrame t frame) (frameFailed m t frame) (afterFrame t frame false)
  | lock (t : ℕ) (frame : Frame) : (m.conns t).writeMu = none → (m.conns t).wsClosed = false →
      Exec m g (.lockFrame t frame) (m.setConn t { m.conns t with writeMu := some g }) [.writeFrame t frame]
  | written (t : ℕ) (frame : Frame) : (m.conns t).stalled = false → (m.conns t).connClosed = false →
      Exec m g (.writeFrame t frame)
        (m.setConn t { m.conns t with writeMu := none, written := (m.conns t).written ++ [frame] })
        (afterFrame t frame true)
  | writeFailed (t : ℕ) (frame : Frame) : ((m.conns t).stalled = true → (m.conns t).connClosed = true) →
      Exec m g (.writeFrame t frame) (frameFailed (m.setConn t { m.conns t with writeMu := none }) t frame)
        (afterFrame t frame false)
  | setClosed (t : ℕ) :
      Exec m g (.setClosed t) (m.setConn t { m.conns t with closed := true }) [.lockClosed t]
  | lockClosed (t : ℕ) : (m.conns t).writeMu = none →
      Exec m g (.lockClosed t) (m.setConn t { m.conns t with wsClosed := true }) [.closeConn t]
  | closeConn (t : ℕ) : Exec m g (.closeConn t) (m.setConn t { m.conns t with connClosed := true }) []
  | endRead (t : ℕ) : Exec m g (.endRead t) (m.setStage t .unregisterSocket) []
  | publish (t : ℕ) (channel : String) (data : Option Json) :
      Exec m g (.publish t channel data)
        { m with calls := m.calls ++ [⟨cfg.instanceID, t, m.calls.length⟩] }
        [.publishLocal (some ⟨cfg.instanceID, t, m.calls.length⟩) channel (data.getD .null),
          .publishRedis ⟨cfg.instanceID, t, m.calls.length⟩ channel data]
  | publishLocal (call : Option CallID) (channel : String) (data : Json) (targets : List ℕ) :
      targets.Nodup → targets.toFinset = m.hub.members channel →
      Exec m g (.publishLocal call channel data) m
        (targets.map fun t => .enqueueText t ⟨.publish channel data, call⟩)
  | publishRedis (call : CallID) (channel : String) (data : Option Json) (ok : Bool) :
      Exec m g (.publishRedis call channel data)
        { m with commands := m.commands ++ [⟨call, channel, encodeForRedis cfg.instanceID data, ok⟩] } []
  | hubAdd (t : ℕ) (channel : String) (hooks : List Op) :
      hooks = [] ∨ hooks = [.ensure channel true] →
      Exec m g (.hubAdd t channel) { m with hub := (m.hub.add t channel).1 } hooks
  | hubRemove (t : ℕ) (channel : String) (hooks : List Op) :
      hooks = [] ∨ hooks = [.ensure channel false] →
      Exec m g (.hubRemove t channel) { m with hub := (m.hub.remove t channel).1 } hooks
  | ensure (channel : String) (wanted : Bool) (commands : List Op) :
      commands = [] ∨ commands = [.command channel wanted] →
      Exec m g (.ensure channel wanted) { m with bridge := (m.bridge.ensure channel wanted).1 } commands
  | command (channel : String) (wanted : Bool) :
      Exec m g (.command channel wanted) { m with bridge := m.bridge.command channel wanted } []
  | closeAllSockets (targets : List ℕ) : targets.Nodup → targets.toFinset = m.registered →
      Exec m g .closeAllSockets m
        (targets.map (fun t => .closeWith t 1001 "Server shutting down") ++ [.awaitSockets])
  | awaitSockets : Exec m g .awaitSockets m [.shutdown]
  | shutdown : Exec m g .shutdown { m with returned := true } []

theorem exec_cases {m m' : Memory} {g : Goroutine} {choice : Choice} {op : Op} {ops : List Op}
    (h : exec cfg m g choice op = some (m', ops)) : Exec cfg m g op m' ops := by
  cases op with
  | enqueueText t msg =>
    cases h
    cases hc : (m.conns t).closed
    · exact .enqueue t msg hc
    · exact .enqueueClosed t msg hc
  | selectOutbound t msg =>
    simp only [exec, selectOutbound] at h
    split at h
    · rename_i hd; cases h; exact .selectDone t msg hd.1
    · split at h
      · rename_i hroom; cases h; exact .selectSend t msg hroom
      · rename_i hfull; cases h; exact .selectFull t msg (by omega)
  | closeWith t code reason =>
    simp only [exec, closeWith] at h
    split at h
    · rename_i hc; cases h; exact .closeLost t code reason hc
    · rename_i hc; cases h; exact .closeWon t code reason (by simpa using hc)
  | lockFrame t frame =>
    simp only [exec, lockFrame] at h
    split at h
    · cases h
    · rename_i hw
      split at h
      · rename_i hc; cases h; exact .lockRefused t frame (by simpa using hw) hc
      · rename_i hc; cases h; exact .lock t frame (by simpa using hw) (by simpa using hc)
  | writeFrame t frame =>
    simp only [exec, writeFrame] at h
    split at h
    · cases h
    · rename_i hs
      split at h
      · rename_i hok
        cases h
        exact .written t frame (by cases hst : (m.conns t).stalled <;> simp_all) hok.2
      · cases h
        exact .writeFailed t frame fun hst => by simpa [hst] using hs
  | setClosed t => cases h; exact .setClosed t
  | lockClosed t =>
    simp only [exec, lockClosed] at h
    split at h
    · cases h
    · rename_i hw; cases h; exact .lockClosed t (by simpa using hw)
  | closeConn t => cases h; exact .closeConn t
  | endRead t => cases h; exact .endRead t
  | publish t channel data => cases h; exact .publish t channel data
  | publishLocal call channel data =>
    simp only [exec, publishLocal] at h
    split at h
    · rename_i ht; cases h; exact .publishLocal call channel data _ ht.1 ht.2
    · cases h
  | publishRedis call channel data => cases h; exact .publishRedis call channel data _
  | hubAdd t channel => cases h; exact .hubAdd t channel _ (by split <;> simp)
  | hubRemove t channel => cases h; exact .hubRemove t channel _ (by split <;> simp)
  | ensure channel wanted => cases h; exact .ensure channel wanted _ (by split <;> simp)
  | command channel wanted => cases h; exact .command channel wanted
  | closeAllSockets =>
    simp only [exec, closeAllSockets] at h
    split at h
    · rename_i ht; cases h; exact .closeAllSockets _ ht.1 ht.2
    · cases h
  | awaitSockets =>
    simp only [exec, awaitSockets] at h
    split at h
    · cases h; exact .awaitSockets
    · cases h
  | shutdown => cases h; exact .shutdown

/-! ## Work -/

variable (p cfg) in
/-- What taking up work can do to the memory, and what it leaves. -/
inductive Start (m : Memory) : Work → Goroutine → Memory → List Op → Prop
  | upgrade (id : String) :
      Start m (.upgrade id) (.handleHTTP m.next)
        { (m.setSocket m.next (newSocket id)).setStage m.next .upgraded with next := m.next + 1 } []
  | registerSocket (t : ℕ) : (m.lives t).stage = .upgraded →
      Start m (.registerSocket t) (.handleHTTP t)
        (({ m with registered := insert t m.registered } : Memory).setStage t .registered) []
  | runSocket (t : ℕ) : (m.lives t).stage = .registered →
      Start m (.runSocket t) (.handleHTTP t) (m.setLife t ⟨.reading, true, true, true⟩) []
  | message (t : ℕ) (v : Json) : inRead m t = true →
      Start m (.message t v) (.readLoop t) (m.setBatch t (decodeMessage v)) []
  | event (t : ℕ) (clock : Clock) (ev : InEvent) (evs : List InEvent) :
      m.batch t = ev :: evs → (m.lives t).stage = .reading →
      Start m (.event t clock) (.readLoop t)
        ((m.setBatch t evs).setSocket t (handleEvent p cfg (m.sockets t) ev clock).1)
        ((handleEvent p cfg (m.sockets t) ev clock).2.map (opOf t))
  | clientPing (t : ℕ) : inRead m t = true →
      Start m (.clientPing t) (.readLoop t) m [.enqueueText t ⟨.text "#2", none⟩]
  | readPing (t : ℕ) (payload : List UInt8) : inRead m t = true →
      Start m (.readPing t payload) (.readLoop t) m [.lockFrame t (.pong payload)]
  | readClose (t : ℕ) : inRead m t = true →
      Start m (.readClose t) (.readLoop t) m [.lockFrame t (.close 1000 ""), .endRead t]
  | readError (t : ℕ) : inRead m t = true → Start m (.readError t) (.readLoop t) m [.endRead t]
  | unregisterSocket (t : ℕ) (channels : List String) : (m.lives t).stage = .unregisterSocket →
      Start m (.teardown t channels) (.readLoop t)
        (({ m with registered := m.registered.erase t } : Memory).setStage t .cleanup) []
  | cleanup (t : ℕ) (channels : List String) : (m.lives t).stage = .cleanup → channels.Nodup →
      channels.toFinset = (m.sockets t).subs →
      Start m (.teardown t channels) (.readLoop t)
        ((m.setSocket t (NodejsHelper.cleanup cfg (m.sockets t) channels).1).setStage t .closeDone)
        ((NodejsHelper.cleanup cfg (m.sockets t) channels).2.map (opOf t))
  | closeDone (t : ℕ) (channels : List String) : (m.lives t).stage = .closeDone →
      Start m (.teardown t channels) (.readLoop t)
        ((m.setConn t { m.conns t with done := true }).setStage t .close) []
  | close (t : ℕ) (channels : List String) : (m.lives t).stage = .close →
      Start m (.teardown t channels) (.readLoop t) (m.setStage t .stopTimer) [.setClosed t]
  | stopTimer (t : ℕ) (channels : List String) : (m.lives t).stage = .stopTimer →
      Start m (.teardown t channels) (.readLoop t) (m.setLife t { m.lives t with stage := .gone, timer := false }) []
  | dequeue (t : ℕ) (msg : Message) (rest : List Message) : (m.conns t).outbound = msg :: rest →
      (m.lives t).writing = true →
      Start m (.dequeue t) (.writeLoop t) (m.setConn t { m.conns t with outbound := rest }) [.lockFrame t (.text msg)]
  | stopWriting (t : ℕ) : (m.conns t).done = true →
      Start m (.stopWriting t) (.writeLoop t) (m.setLife t { m.lives t with writing := false }) []
  | ping (t : ℕ) : Start m (.ping t) (.pingLoop t) m [.enqueueText t ⟨.text "#1", none⟩]
  | pongTimeout (t : ℕ) :
      Start m (.pongTimeout t) (.pingLoop t) (m.setLife t { m.lives t with pinging := false })
        [.closeWith t 4000 "Pong timeout"]
  | stopPinging (t : ℕ) : (m.conns t).done = true →
      Start m (.stopPinging t) (.pingLoop t) (m.setLife t { m.lives t with pinging := false }) []
  | handshakeTimeout (t : ℕ) (ops : List Op) :
      ops = [] ∨ ops = [.closeWith t 4005 "Did not receive #handshake from client before timeout"] →
      Start m (.handshakeTimeout t) (.handshakeTimer t) (m.setLife t { m.lives t with timer := false }) ops
  | receiveNothing (channel raw : String) (call : Option CallID) :
      (handleMessage cfg.instanceID raw).bind Json.parse = none →
      Start m (.receive channel raw call) .receiveLoop m []
  | receive (channel raw : String) (call : Option CallID) (v : Json) :
      (handleMessage cfg.instanceID raw).bind Json.parse = some v →
      Start m (.receive channel raw call) .receiveLoop m [.publishLocal call channel v]
  | signal : m.stopping = false → Start m .signal .main { m with stopping := true } [.closeAllSockets]

theorem teardown_cases {m m' : Memory} {t : ℕ} {channels : List String} {ops : List Op}
    (h : teardown cfg m t channels = some (m', ops)) :
    Start p cfg m (.teardown t channels) (.readLoop t) m' ops := by
  unfold teardown at h
  split at h
  · rename_i hst; cases h; exact .unregisterSocket t channels hst
  · rename_i hst
    split at h
    · rename_i hc; cases h; exact .cleanup t channels hst hc.1 hc.2
    · cases h
  · rename_i hst; cases h; exact .closeDone t channels hst
  · rename_i hst; cases h; exact .close t channels hst
  · rename_i hst; cases h; exact .stopTimer t channels hst
  all_goals cases h

theorem start_cases {m m' : Memory} {w : Work} {g : Goroutine} {ops : List Op}
    (h : start p cfg m w = some (g, m', ops)) : Start p cfg m w g m' ops := by
  cases w with
  | upgrade id => cases h; exact .upgrade id
  | registerSocket t =>
    obtain ⟨hst, h⟩ := Option.ite_none_right_eq_some.1 h
    cases h; exact .registerSocket t hst
  | runSocket t =>
    obtain ⟨hst, h⟩ := Option.ite_none_right_eq_some.1 h
    cases h; exact .runSocket t hst
  | message t v =>
    obtain ⟨hr, h⟩ := Option.ite_none_right_eq_some.1 h
    cases h; exact .message t v hr
  | event t clock =>
    simp only [start] at h
    split at h
    · cases h
    · rename_i ev evs hb
      obtain ⟨hst, h⟩ := Option.ite_none_right_eq_some.1 h
      cases h; exact .event t clock ev evs hb hst
  | clientPing t =>
    obtain ⟨hr, h⟩ := Option.ite_none_right_eq_some.1 h
    cases h; exact .clientPing t hr
  | readPing t payload =>
    obtain ⟨hr, h⟩ := Option.ite_none_right_eq_some.1 h
    cases h; exact .readPing t payload hr
  | readClose t =>
    obtain ⟨hr, h⟩ := Option.ite_none_right_eq_some.1 h
    cases h; exact .readClose t hr
  | readError t =>
    obtain ⟨hr, h⟩ := Option.ite_none_right_eq_some.1 h
    cases h; exact .readError t hr
  | teardown t channels =>
    obtain ⟨⟨m₁, ops₁⟩, ht, he⟩ := Option.map_eq_some_iff.1 h
    cases he
    exact teardown_cases ht
  | dequeue t =>
    simp only [start] at h
    split at h
    · cases h
    · rename_i msg rest ho
      obtain ⟨hw, h⟩ := Option.ite_none_right_eq_some.1 h
      cases h; exact .dequeue t msg rest ho hw
  | stopWriting t =>
    obtain ⟨hw, h⟩ := Option.ite_none_right_eq_some.1 h
    cases h; exact .stopWriting t (Bool.and_eq_true_iff.1 hw).2
  | ping t =>
    obtain ⟨-, h⟩ := Option.ite_none_right_eq_some.1 h
    cases h; exact .ping t
  | pongTimeout t =>
    obtain ⟨-, h⟩ := Option.ite_none_right_eq_some.1 h
    cases h; exact .pongTimeout t
  | stopPinging t =>
    obtain ⟨hw, h⟩ := Option.ite_none_right_eq_some.1 h
    cases h; exact .stopPinging t (Bool.and_eq_true_iff.1 hw).2
  | handshakeTimeout t =>
    obtain ⟨-, h⟩ := Option.ite_none_right_eq_some.1 h
    cases h; exact .handshakeTimeout t _ (by split <;> simp)
  | receive channel raw call =>
    cases h
    cases hm : (handleMessage cfg.instanceID raw).bind Json.parse with
    | none => exact .receiveNothing channel raw call hm
    | some v => exact .receive channel raw call v hm
  | signal =>
    simp only [start] at h
    split at h
    · cases h
    · rename_i hs; cases h; exact .signal (by simpa using hs)

/-! ## Steps -/

variable (p cfg) in
/-- What a step of a node is. -/
inductive Step (s : State) : Label → State → Prop
  | run (g : Goroutine) (choice : Choice) (op : Op) (rest ops : List Op) (m : Memory) :
      s.todo g = op :: rest → Exec cfg s.mem g op m ops → Step s (.run g choice) (s.assign g m (ops ++ rest))
  | start (w : Work) (g : Goroutine) (ops : List Op) (m : Memory) :
      s.todo g = [] → Start p cfg s.mem w g m ops → Step s (.start w) (s.assign g m ops)
  | stall (t : ℕ) : Step s (.env t) ⟨s.mem.setConn t { s.mem.conns t with stalled := true }, s.todo⟩

theorem system_exec {g : Goroutine} {choice : Choice} {m m' : Memory} {op : Op} {ops : List Op}
    (h : (system p cfg).exec g choice m op = some (m', ops)) : Exec cfg m g op m' ops := by
  simp only [system] at h
  split at h
  · cases h
  · exact exec_cases h

theorem system_start {w : Work} {g : Goroutine} {m m' : Memory} {ops : List Op}
    (h : (system p cfg).start m w = some (g, m', ops)) : Start p cfg m w g m' ops := by
  simp only [system] at h
  split at h
  · cases h
  · exact start_cases h

theorem step_cases {s s' : State} {l : Label} (h : step p cfg s l = some s') : Step p cfg s l s' := by
  rcases Workers.step_iff.1 h with ⟨g, c, op, rest, ops, m, ht, hx⟩ | ⟨w, g, ops, m, ht, hb⟩ | ⟨t, m, hm⟩
  · exact .run g c op rest ops m ht (system_exec hx)
  · exact .start w g ops m ht (system_start hb)
  · simp only [system] at hm
    split at hm
    · cases hm
    · cases hm
      exact .stall t

/-- A node whose `main` has returned takes no step. -/
theorem not_returned_of_step {s s' : State} {l : Label} (h : step p cfg s l = some s') : s.mem.returned = false := by
  rcases Workers.step_iff.1 h with ⟨g, c, op, rest, ops, m, ht, hx⟩ | ⟨w, g, ops, m, ht, hb⟩ | ⟨t, m, hm⟩
  · cases hr : s.mem.returned with
    | false => rfl
    | true => simp [system, hr] at hx
  · cases hr : s.mem.returned with
    | false => rfl
    | true => simp [system, hr] at hb
  · cases hr : s.mem.returned with
    | false => rfl
    | true => simp [system, hr] at hm

/-! ## Whose operation it is -/

/-- The only goroutine that executes an operation, where there is one. -/
def Op.home : Op → Option Goroutine
  | .hubAdd t _ | .hubRemove t _ | .publish t _ _ | .endRead t => some (.readLoop t)
  | .publishRedis call _ _ => some (.readLoop call.socket)
  | .lockFrame t (.text _) | .writeFrame t (.text _) => some (.writeLoop t)
  | .lockFrame t (.pong _) | .writeFrame t (.pong _) => some (.readLoop t)
  | .closeAllSockets | .awaitSockets | .shutdown => some .main
  | _ => none

/-- The operation is at home with the goroutine. -/
def Op.AtHome (g : Goroutine) (op : Op) : Prop := ∀ h, op.home = some h → h = g

theorem atHome_opOf (t : ℕ) (e : Effect) : (opOf t e).AtHome (.readLoop t) := by
  intro h hh
  cases e <;> cases hh <;> rfl

theorem atHome_afterFrame {g : Goroutine} {t : ℕ} {frame : Frame} {op : Op} (hg : op.AtHome g)
    (hop : op = .lockFrame t frame ∨ op = .writeFrame t frame) (ok : Bool) :
    ∀ o ∈ afterFrame t frame ok, o.AtHome g := by
  intro o ho h hh
  cases frame <;> cases ok <;> simp only [afterFrame, List.mem_singleton, List.not_mem_nil] at ho <;> subst ho <;>
    simp only [Op.home, Option.some.injEq, reduceCtorEq] at hh
  subst hh
  rcases hop with rfl | rfl <;> exact hg _ rfl

theorem Exec.atHome {m m' : Memory} {g : Goroutine} {op : Op} {ops : List Op} (h : Exec cfg m g op m' ops)
    (hg : op.AtHome g) : ∀ o ∈ ops, o.AtHome g := by
  have hnone : ∀ o : Op, o.home = none → o.AtHome g := fun o ho h hh => by rw [ho] at hh; cases hh
  cases h with
  | lockRefused t frame | written t frame | writeFailed t frame =>
    exact atHome_afterFrame hg (by simp) _
  | lock t frame =>
    intro o ho
    rw [List.mem_singleton.1 ho]
    cases frame with
    | close code reason => exact hnone _ rfl
    | text msg => exact hg
    | pong payload => exact hg
  | publish t channel data =>
    intro o ho
    rcases List.mem_cons.1 ho with rfl | ho
    · exact hnone _ rfl
    · rw [List.mem_singleton.1 ho]; exact hg
  | publishLocal call channel data targets =>
    intro o ho
    obtain ⟨t, -, rfl⟩ := List.mem_map.1 ho
    exact hnone _ rfl
  | hubAdd t channel hooks hh | hubRemove t channel hooks hh =>
    intro o ho
    rcases hh with rfl | rfl
    · cases ho
    · rw [List.mem_singleton.1 ho]; exact hnone _ rfl
  | ensure channel wanted commands hc =>
    intro o ho
    rcases hc with rfl | rfl
    · cases ho
    · rw [List.mem_singleton.1 ho]; exact hnone _ rfl
  | closeAllSockets targets =>
    intro o ho
    rcases List.mem_append.1 ho with ho | ho
    · obtain ⟨t, -, rfl⟩ := List.mem_map.1 ho
      exact hnone _ rfl
    · rw [List.mem_singleton.1 ho]; exact hg
  | awaitSockets =>
    intro o ho
    rw [List.mem_singleton.1 ho]; exact hg
  | enqueue | selectFull | closeWon | setClosed | lockClosed =>
    intro o ho
    rw [List.mem_singleton.1 ho]; exact hnone _ rfl
  | _ => intro o ho; cases ho

theorem Start.atHome {m m' : Memory} {w : Work} {g : Goroutine} {ops : List Op} (h : Start p cfg m w g m' ops) :
    ∀ o ∈ ops, o.AtHome g := by
  have hnone : ∀ o : Op, o.home = none → o.AtHome g := fun o ho h hh => by rw [ho] at hh; cases hh
  cases h with
  | event | cleanup =>
    intro o ho
    obtain ⟨e, -, rfl⟩ := List.mem_map.1 ho
    exact atHome_opOf _ e
  | readClose t =>
    intro o ho
    rcases List.mem_cons.1 ho with rfl | ho
    · exact hnone _ rfl
    · rw [List.mem_singleton.1 ho]; intro h hh; cases hh; rfl
  | readPing | readError | dequeue | signal =>
    intro o ho
    rw [List.mem_singleton.1 ho]; intro h hh; cases hh; rfl
  | clientPing | close | ping | pongTimeout | receive =>
    intro o ho
    rw [List.mem_singleton.1 ho]; exact hnone _ rfl
  | handshakeTimeout t ops ho =>
    intro o hm
    rcases ho with rfl | rfl
    · cases hm
    · rw [List.mem_singleton.1 hm]; exact hnone _ rfl
  | _ => intro o ho; cases ho

/-- Every pending operation is at home. -/
def Homed (s : State) : Prop := ∀ g, ∀ o ∈ s.todo g, o.AtHome g

theorem homed_init : Homed init := fun _ _ h => nomatch h

theorem homed_step {s s' : State} {l : Label} (hs : Homed s) (h : step p cfg s l = some s') : Homed s' := by
  have h : (system p cfg).step s l = some s' := h
  refine Workers.pending_invariant (Q := fun (g : Goroutine) (o : Op) => o.AtHome g) ?_ ?_ hs h
  · intro g c m m' op ops hx hq
    exact (system_exec hx).atHome hq
  · intro w g m m' ops hb
    exact (system_start hb).atHome

/-! ## The hub -/

/-- The operation is a call of the hub. -/
def Op.callsHub : Op → Bool
  | .hubAdd _ _ | .hubRemove _ _ => true
  | _ => false

/-- What an operation does to the hub. -/
def hubAfter (h : Hub ℕ) : Op → Hub ℕ
  | .hubAdd t channel => (h.add t channel).1
  | .hubRemove t channel => (h.remove t channel).1
  | _ => h

/-- What an operation does to the membership of a socket in a channel. -/
def settleOp (t : ℕ) (channel : String) : Op → Prop → Prop
  | .hubAdd t' c, b => (t' = t ∧ c = channel) ∨ b
  | .hubRemove t' c, b => ¬ (t' = t ∧ c = channel) ∧ b
  | _, b => b

/-- The membership of a socket in a channel once the operations are done. -/
def settle (t : ℕ) (channel : String) : List Op → Prop → Prop
  | [], b => b
  | op :: ops, b => settle t channel ops (settleOp t channel op b)

theorem mem_hubAfter {h : Hub ℕ} {op : Op} {t : ℕ} {channel : String} :
    t ∈ (hubAfter h op).members channel ↔ settleOp t channel op (t ∈ h.members channel) := by
  cases op with
  | hubAdd t' c =>
    simp only [hubAfter, settleOp, Hub.mem_add]
    constructor
    · rintro (h | ⟨rfl, rfl⟩)
      · exact Or.inr h
      · exact Or.inl ⟨rfl, rfl⟩
    · rintro (⟨rfl, rfl⟩ | h)
      · exact Or.inr ⟨rfl, rfl⟩
      · exact Or.inl h
  | hubRemove t' c =>
    simp only [hubAfter, settleOp, Hub.mem_remove]
    constructor
    · rintro ⟨h, hn⟩
      exact ⟨fun ⟨h1, h2⟩ => hn ⟨h1.symm, h2.symm⟩, h⟩
    · rintro ⟨hn, h⟩
      exact ⟨h, fun ⟨h1, h2⟩ => hn ⟨h1.symm, h2.symm⟩⟩
  | _ => exact Iff.rfl

theorem settle_append (t : ℕ) (channel : String) (ops ops' : List Op) (b : Prop) :
    settle t channel (ops ++ ops') b = settle t channel ops' (settle t channel ops b) := by
  induction ops generalizing b with
  | nil => rfl
  | cons op ops ih => exact ih _

theorem settleOp_of_not_callsHub {t : ℕ} {channel : String} {op : Op} {b : Prop} (h : op.callsHub = false) :
    settleOp t channel op b = b := by
  cases op <;> first | rfl | cases h

theorem settle_of_not_callsHub {t : ℕ} {channel : String} {ops : List Op} {b : Prop}
    (h : ∀ o ∈ ops, o.callsHub = false) : settle t channel ops b = b := by
  induction ops with
  | nil => rfl
  | cons op ops ih =>
    simp only [settle, settleOp_of_not_callsHub (h op List.mem_cons_self)]
    exact ih fun o ho => h o (List.mem_cons_of_mem op ho)

theorem settle_congr {t : ℕ} {channel : String} {ops : List Op} {b b' : Prop} (h : b ↔ b') :
    settle t channel ops b ↔ settle t channel ops b' := by
  rw [propext h]

theorem callsHub_afterFrame {t : ℕ} {frame : Frame} {ok : Bool} :
    ∀ o ∈ afterFrame t frame ok, o.callsHub = false := by
  intro o ho
  cases frame <;> cases ok <;> simp only [afterFrame, List.mem_singleton, List.not_mem_nil] at ho <;> subst ho <;> rfl

/-- A setting of a connection that keeps a part of it keeps that part of all connections. -/
theorem setConn_same {m : Memory} {t : ℕ} {c : Conn} {α : Type} (f : Conn → α) (h : f c = f (m.conns t)) (t' : ℕ) :
    f ((m.setConn t c).conns t') = f (m.conns t') := by
  by_cases ht : t' = t
  · subst ht; simpa [Memory.setConn] using h
  · simp [Memory.setConn, ht]

theorem frameFailed_frame (m : Memory) (t : ℕ) (frame : Frame) :
    (frameFailed m t frame).hub = m.hub ∧ (frameFailed m t frame).sockets = m.sockets ∧
      (frameFailed m t frame).next = m.next ∧ (frameFailed m t frame).conns = m.conns ∧
      (frameFailed m t frame).batch = m.batch ∧ (frameFailed m t frame).calls = m.calls ∧
      (frameFailed m t frame).commands = m.commands ∧
      ∀ t', ((frameFailed m t frame).lives t').stage = (m.lives t').stage := by
  cases frame with
  | text msg =>
    refine ⟨rfl, rfl, rfl, rfl, rfl, rfl, rfl, fun t' => ?_⟩
    by_cases ht : t' = t
    · subst ht; simp [frameFailed, Memory.setLife]
    · simp [frameFailed, Memory.setLife, ht]
  | pong payload => exact ⟨rfl, rfl, rfl, rfl, rfl, rfl, rfl, fun _ => rfl⟩
  | close code reason => exact ⟨rfl, rfl, rfl, rfl, rfl, rfl, rfl, fun _ => rfl⟩

/-- A section changes the hub by its own call at most, leaves no call of the hub and no socket changed. -/
theorem Exec.hub {m m' : Memory} {g : Goroutine} {op : Op} {ops : List Op} (h : Exec cfg m g op m' ops) :
    m'.hub = hubAfter m.hub op ∧ m'.sockets = m.sockets ∧ m'.next = m.next ∧ ∀ o ∈ ops, o.callsHub = false := by
  cases h with
  | lockRefused t frame =>
    obtain ⟨h1, h2, h3, -⟩ := frameFailed_frame m t frame
    exact ⟨h1, h2, h3, callsHub_afterFrame⟩
  | writeFailed t frame =>
    obtain ⟨h1, h2, h3, -⟩ := frameFailed_frame (m.setConn t { m.conns t with writeMu := none }) t frame
    exact ⟨h1, h2, h3, callsHub_afterFrame⟩
  | written t frame => exact ⟨rfl, rfl, rfl, callsHub_afterFrame⟩
  | publishLocal => exact ⟨rfl, rfl, rfl, by simp [Op.callsHub]⟩
  | closeAllSockets targets =>
    refine ⟨rfl, rfl, rfl, fun o ho => ?_⟩
    rcases List.mem_append.1 ho with ho | ho
    · obtain ⟨t, -, rfl⟩ := List.mem_map.1 ho
      rfl
    · rw [List.mem_singleton.1 ho]; rfl
  | hubAdd t channel hooks hh | hubRemove t channel hooks hh =>
    refine ⟨rfl, rfl, rfl, ?_⟩
    rcases hh with rfl | rfl <;> simp [Op.callsHub]
  | ensure channel wanted commands hc =>
    refine ⟨rfl, rfl, rfl, ?_⟩
    rcases hc with rfl | rfl <;> simp [Op.callsHub]
  | _ => exact ⟨rfl, rfl, rfl, by simp [Op.callsHub]⟩

theorem Exec.batch {m m' : Memory} {g : Goroutine} {op : Op} {ops : List Op} (h : Exec cfg m g op m' ops) :
    m'.batch = m.batch := by
  cases h with
  | lockRefused t frame => exact (frameFailed_frame m t frame).2.2.2.2.1
  | writeFailed t frame => exact (frameFailed_frame (m.setConn t { m.conns t with writeMu := none }) t frame).2.2.2.2.1
  | _ => rfl

/-- Only `endRead` moves a socket on. -/
theorem Exec.stage {m m' : Memory} {g : Goroutine} {op : Op} {ops : List Op} (h : Exec cfg m g op m' ops) (t : ℕ) :
    (m'.lives t).stage = (m.lives t).stage ∨ op = .endRead t ∧ (m'.lives t).stage = .unregisterSocket := by
  cases h with
  | lockRefused t' frame =>
    obtain ⟨-, -, -, -, -, -, -, hst⟩ := frameFailed_frame m t' frame
    exact Or.inl (hst t)
  | writeFailed t' frame =>
    obtain ⟨-, -, -, -, -, -, -, hst⟩ := frameFailed_frame (m.setConn t' { m.conns t' with writeMu := none }) t' frame
    exact Or.inl (hst t)
  | endRead t' =>
    by_cases ht : t = t'
    · subst ht
      exact Or.inr ⟨rfl, by simp [Memory.setStage, Memory.setLife]⟩
    · exact Or.inl (by simp [Memory.setStage, Memory.setLife, ht])
  | _ => exact Or.inl rfl

theorem stage_setLife (m : Memory) (t t' : ℕ) (l : Life) :
    ((m.setLife t l).lives t').stage = if t' = t then l.stage else (m.lives t').stage := by
  by_cases ht : t' = t
  · subst ht; simp [Memory.setLife]
  · simp [Memory.setLife, ht]

/-- A setting of a life that keeps its stage keeps all stages. -/
theorem stage_setLife_same {m : Memory} {t : ℕ} {l : Life} (h : l.stage = (m.lives t).stage) (t' : ℕ) :
    ((m.setLife t l).lives t').stage = (m.lives t').stage := by
  rw [stage_setLife]
  split
  · rename_i ht; rw [ht, h]
  · rfl

/-- Work upgrades the next socket or moves one that was upgraded on by one stage. -/
theorem Start.stage {m m' : Memory} {w : Work} {g : Goroutine} {ops : List Op} (h : Start p cfg m w g m' ops)
    (t : ℕ) : (m'.lives t).stage = (m.lives t).stage ∨ t = m.next ∧ m'.next = m.next + 1 ∧
      (m'.lives t).stage = .upgraded ∨
      (m.lives t).stage ≠ .waiting ∧ (m'.lives t).stage = (m.lives t).stage.succ := by
  have hmove : ∀ (m₁ : Memory) (t' : ℕ) (l : Life) (st : Stage), m₁.lives = m.lives → (m.lives t').stage = st →
      st ≠ .waiting → l.stage = st.succ →
      ((m₁.setLife t' l).lives t).stage = (m.lives t).stage ∨
        t = m.next ∧ (m₁.setLife t' l).next = m.next + 1 ∧ ((m₁.setLife t' l).lives t).stage = .upgraded ∨
        (m.lives t).stage ≠ .waiting ∧ ((m₁.setLife t' l).lives t).stage = (m.lives t).stage.succ := by
    rintro m₁ t' l st hl rfl hne hst
    rw [stage_setLife, hl]
    by_cases ht : t = t'
    · subst ht
      exact Or.inr (Or.inr ⟨hne, by rw [if_pos rfl, hst]⟩)
    · exact Or.inl (if_neg ht)
  cases h with
  | upgrade id =>
    by_cases ht : t = m.next
    · subst ht
      exact Or.inr (Or.inl ⟨rfl, rfl, by simp [Memory.setStage, Memory.setLife]⟩)
    · exact Or.inl (by simp [Memory.setStage, Memory.setLife, Memory.setSocket, ht])
  | registerSocket t' hst | runSocket t' hst | unregisterSocket t' _ hst | cleanup t' _ hst | closeDone t' _ hst
  | close t' _ hst | stopTimer t' _ hst => exact hmove _ t' _ _ rfl hst (by decide) rfl
  | stopWriting t' | pongTimeout t' | stopPinging t' | handshakeTimeout t' =>
    refine Or.inl ?_
    rw [stage_setLife]
    split
    · rename_i ht; rw [ht]
    · rfl
  | _ => exact Or.inl rfl

theorem Start.next_le {m m' : Memory} {w : Work} {g : Goroutine} {ops : List Op} (h : Start p cfg m w g m' ops) :
    m.next ≤ m'.next := by
  cases h with
  | upgrade id => exact Nat.le_succ m.next
  | _ => exact le_rfl

/-- The read loop takes up work of its socket after `run` has started only. -/
theorem Start.readLoop {m m' : Memory} {w : Work} {t : ℕ} {ops : List Op}
    (h : Start p cfg m w (.readLoop t) m' ops) : (m.lives t).stage ≠ .waiting := by
  have hread : inRead m t = true → (m.lives t).stage ≠ .waiting := fun hr hst => by
    simp [inRead, hst] at hr
  cases h with
  | message _ _ hr | clientPing _ hr | readPing _ _ hr | readClose _ hr | readError _ hr => exact hread hr
  | event _ _ _ _ _ hst => rw [hst]; decide
  | unregisterSocket _ _ hst | cleanup _ _ hst | closeDone _ _ hst | close _ _ hst | stopTimer _ _ hst =>
    rw [hst]; decide

/-- After `cleanup` the read loop takes up nothing that leaves operations. -/
theorem Start.readLoop_late {m m' : Memory} {w : Work} {t : ℕ} {ops : List Op}
    (h : Start p cfg m w (.readLoop t) m' ops) (hst : (m.lives t).stage = .stopTimer ∨ (m.lives t).stage = .gone) :
    ops = [] := by
  have hne : ∀ st : Stage, (m.lives t).stage = st → st = .stopTimer ∨ st = .gone := fun st h => h ▸ hst
  have hread : inRead m t = true → (m.lives t).stage = .reading := fun hr => by
    simpa using (Bool.and_eq_true_iff.1 hr).1
  cases h with
  | message _ _ hr | clientPing _ hr | readPing _ _ hr | readClose _ hr | readError _ hr =>
    exact absurd (hne _ (hread hr)) (by decide)
  | event _ _ _ _ _ h' | unregisterSocket _ _ h' | cleanup _ _ h' | closeDone _ _ h' | close _ _ h' =>
    exact absurd (hne _ h') (by decide)
  | stopTimer => rfl

/-- Apart from an upgrade, a handler and `cleanup`, work changes neither hub nor sockets and leaves no
call of the hub. -/
theorem Start.hub {m m' : Memory} {w : Work} {g : Goroutine} {ops : List Op} (h : Start p cfg m w g m' ops) :
    (∃ id, w = .upgrade id) ∨ (∃ t clock, w = .event t clock) ∨
      (∃ t channels, w = .teardown t channels ∧ (m.lives t).stage = .cleanup) ∨
      m'.hub = m.hub ∧ m'.sockets = m.sockets ∧ m'.next = m.next ∧ ∀ o ∈ ops, o.callsHub = false := by
  cases h with
  | upgrade id => exact Or.inl ⟨id, rfl⟩
  | event t clock => exact Or.inr (Or.inl ⟨t, clock, rfl⟩)
  | cleanup t channels hst => exact Or.inr (Or.inr (Or.inl ⟨t, channels, rfl, hst⟩))
  | handshakeTimeout t ops ho =>
    refine Or.inr (Or.inr (Or.inr ⟨rfl, rfl, rfl, ?_⟩))
    rcases ho with rfl | rfl <;> simp [Op.callsHub]
  | _ => exact Or.inr (Or.inr (Or.inr ⟨rfl, rfl, rfl, by simp [Op.callsHub]⟩))

/-! ## Messages -/

/-- The socket and the message of an operation that is to queue it. -/
def Op.carries : Op → Option (ℕ × Message)
  | .enqueueText t msg | .selectOutbound t msg => some (t, msg)
  | _ => none

theorem carries_afterFrame {t : ℕ} {frame : Frame} {ok : Bool} : ∀ o ∈ afterFrame t frame ok, o.carries = none := by
  intro o ho
  cases frame <;> cases ok <;> simp only [afterFrame, List.mem_singleton, List.not_mem_nil] at ho <;> subst ho <;> rfl

/-- A section hands on the message it carries, or fans a publish out to the members of its channel. -/
theorem Exec.carries {m m' : Memory} {g : Goroutine} {op : Op} {ops : List Op} (h : Exec cfg m g op m' ops)
    {t : ℕ} {msg : Message} : ∀ o ∈ ops, o.carries = some (t, msg) → op.carries = some (t, msg) ∨
      ∃ call channel data, op = .publishLocal call channel data ∧ t ∈ m.hub.members channel ∧
        msg = ⟨.publish channel data, call⟩ := by
  intro o ho hc
  cases h with
  | enqueue t' msg' => rw [List.mem_singleton.1 ho] at hc; exact Or.inl hc
  | publishLocal call channel data targets hn ht =>
    obtain ⟨t', ht', rfl⟩ := List.mem_map.1 ho
    cases hc
    exact Or.inr ⟨call, channel, data, rfl, by rw [← ht]; exact List.mem_toFinset.2 ht', rfl⟩
  | lockRefused | written | writeFailed => rw [carries_afterFrame o ho] at hc; cases hc
  | closeAllSockets targets =>
    rcases List.mem_append.1 ho with ho | ho
    · obtain ⟨t', -, rfl⟩ := List.mem_map.1 ho; cases hc
    · rw [List.mem_singleton.1 ho] at hc; cases hc
  | publish t' channel data =>
    rcases List.mem_cons.1 ho with rfl | ho
    · cases hc
    · rw [List.mem_singleton.1 ho] at hc; cases hc
  | hubAdd t' channel hooks hh | hubRemove t' channel hooks hh | ensure channel wanted hooks hh =>
    rcases hh with rfl | rfl
    · cases ho
    · rw [List.mem_singleton.1 ho] at hc; cases hc
  | selectFull | closeWon | lock | setClosed | lockClosed | awaitSockets =>
    rw [List.mem_singleton.1 ho] at hc; cases hc
  | _ => cases ho

/-- A queue grows by the message an operation carries to it. -/
theorem Exec.queued {m m' : Memory} {g : Goroutine} {op : Op} {ops : List Op} (h : Exec cfg m g op m' ops) (t : ℕ) :
    (m'.conns t).queued = (m.conns t).queued ∨
      ∃ msg, op = .selectOutbound t msg ∧ ops = [] ∧ (m'.conns t).queued = (m.conns t).queued ++ [msg] := by
  cases h with
  | selectSend t' msg =>
    by_cases ht : t = t'
    · subst ht
      exact Or.inr ⟨msg, rfl, rfl, by simp [Memory.setConn]⟩
    · exact Or.inl (by simp [Memory.setConn, ht])
  | lockRefused t' frame => exact Or.inl (by rw [(frameFailed_frame m t' frame).2.2.2.1])
  | writeFailed t' frame =>
    refine Or.inl ?_
    rw [(frameFailed_frame (m.setConn t' { m.conns t' with writeMu := none }) t' frame).2.2.2.1]
    exact setConn_same Conn.queued (by rfl) t
  | closeWon | lock | written | setClosed | lockClosed | closeConn => exact Or.inl (setConn_same Conn.queued (by rfl) t)
  | _ => exact Or.inl rfl

/-- Work leaves no `#publish` packet to queue, only texts for its own client. -/
theorem Start.carries {m m' : Memory} {w : Work} {g : Goroutine} {ops : List Op} (h : Start p cfg m w g m' ops)
    {t : ℕ} {msg : Message} : ∀ o ∈ ops, o.carries = some (t, msg) → msg.call = none ∧ msg.packet.plain = true := by
  intro o ho hc
  cases h with
  | event t' clock ev =>
    obtain ⟨e, he, rfl⟩ := List.mem_map.1 ho
    cases e <;> cases hc
    exact ⟨rfl, plain_of_send he⟩
  | cleanup t' channels =>
    obtain ⟨e, he, rfl⟩ := List.mem_map.1 ho
    have hsend : ∀ packet, .send packet ∉ (NodejsHelper.cleanup cfg (m.sockets t') channels).2 := by
      intro packet
      unfold NodejsHelper.cleanup cleanupPresence
      split
      · simp
      · repeat' split
        all_goals simp
    cases e <;> cases hc
    exact absurd he (hsend _)
  | clientPing | ping => rw [List.mem_singleton.1 ho] at hc; cases hc; exact ⟨rfl, rfl⟩
  | readClose t' =>
    rcases List.mem_cons.1 ho with rfl | ho
    · cases hc
    · rw [List.mem_singleton.1 ho] at hc; cases hc
  | handshakeTimeout t' ops hops =>
    rcases hops with rfl | rfl
    · cases ho
    · rw [List.mem_singleton.1 ho] at hc; cases hc
  | readPing | readError | close | dequeue | pongTimeout | receive | signal =>
    rw [List.mem_singleton.1 ho] at hc; cases hc
  | _ => cases ho

/-- Work queues nothing. -/
theorem Start.queued {m m' : Memory} {w : Work} {g : Goroutine} {ops : List Op} (h : Start p cfg m w g m' ops)
    (t : ℕ) : (m'.conns t).queued = (m.conns t).queued := by
  cases h with
  | closeDone | dequeue => exact setConn_same Conn.queued (by rfl) t
  | _ => rfl

end Server

end NodejsHelper
