/-
The books of a node's publishes. A call of `Server.publish` is one PUBLISH command, issued or still to
be issued; a section that has a packet of a call to deliver hands on at most one copy of it for each
socket, and a socket that is fanned out to is served unless it is closed or about to be.
-/
import NodejsHelper.Server.Spec

namespace NodejsHelper

namespace Server

variable {p : Auth.Primitives} {cfg : Config}

/-! ## The operations of a call -/

/-- The call whose packet an operation is to bring to local sockets. -/
def Op.delivers : Op → Option CallID
  | .enqueueText _ msg | .selectOutbound _ msg => msg.call
  | .publishLocal call _ _ => call
  | _ => none

/-- The operation may still bring the packet of the call into the queue of the socket. -/
def Op.reaches (t : ℕ) (k : CallID) : Op → Bool
  | .enqueueText t' msg | .selectOutbound t' msg => decide (t' = t) && decide (msg.call = some k)
  | .publishLocal call _ _ => decide (call = some k)
  | _ => false

/-- The operation is to issue the PUBLISH command of the call. -/
def Op.issues (k : CallID) : Op → Bool
  | .publishRedis call _ _ => decide (call = k)
  | _ => false

/-- The operation is a section of a publish: the call itself, the fan-out, its copies, or the command. -/
def Op.publishing : Op → Bool
  | .publish _ _ _ | .publishLocal _ _ _ | .publishRedis _ _ _ | .enqueueText _ _ | .selectOutbound _ _ => true
  | _ => false

/-- How many packets of a call the queue of a socket has taken. -/
def received (m : Memory) (t : ℕ) (k : CallID) : ℕ := (m.conns t).queued.countP fun msg => decide (msg.call = some k)

/-- How many PUBLISH commands of a call were issued. -/
def issued (m : Memory) (k : CallID) : ℕ := m.commands.countP fun c => decide (c.call = k)

theorem delivers_of_reaches {t : ℕ} {k : CallID} {op : Op} (h : op.reaches t k = true) : op.delivers = some k := by
  cases op <;> simp_all [Op.reaches, Op.delivers]

theorem publishing_of_delivers {k : CallID} {op : Op} (h : op.delivers = some k) : op.publishing = true := by
  cases op <;> first | rfl | cases h

theorem publishing_of_issues {k : CallID} {op : Op} (h : op.issues k = true) : op.publishing = true := by
  cases op <;> first | rfl | cases h

theorem countP_reaches_zero {t : ℕ} {k : CallID} {ops : List Op} (h : ∀ o ∈ ops, o.publishing = false) :
    ops.countP (Op.reaches t k) = 0 :=
  List.countP_eq_zero.2 fun o ho hr => by
    have := publishing_of_delivers (delivers_of_reaches hr)
    rw [h o ho] at this
    cases this

theorem countP_issues_zero {k : CallID} {ops : List Op} (h : ∀ o ∈ ops, o.publishing = false) :
    ops.countP (Op.issues k) = 0 :=
  List.countP_eq_zero.2 fun o ho hi => by
    have := publishing_of_issues hi
    rw [h o ho] at this
    cases this

theorem received_setConn {m : Memory} {t' : ℕ} {c : Conn} (h : c.queued = (m.conns t').queued) (t : ℕ)
    (k : CallID) : received (m.setConn t' c) t k = received m t k := by
  rw [received, received, setConn_same Conn.queued h]

theorem received_frameFailed (m : Memory) (t' : ℕ) (frame : Frame) (t : ℕ) (k : CallID) :
    received (frameFailed m t' frame) t k = received m t k := by
  unfold received
  rw [(frameFailed_frame m t' frame).2.2.2.1]

/-! ## Sections -/

theorem publishing_afterFrame {t : ℕ} {frame : Frame} {ok : Bool} :
    ∀ o ∈ afterFrame t frame ok, o.publishing = false := by
  intro o ho
  cases frame <;> cases ok <;> simp only [afterFrame, List.mem_singleton, List.not_mem_nil] at ho <;> subst ho <;> rfl

/-- Every other section leaves the calls, the commands and the queues alone, and nothing of a publish. -/
theorem Exec.apart {m m' : Memory} {g : Goroutine} {op : Op} {ops : List Op} (h : Exec cfg m g op m' ops)
    (hop : op.publishing = false) : (∀ o ∈ ops, o.publishing = false) ∧ m'.calls = m.calls ∧
      m'.commands = m.commands ∧ ∀ t k, received m' t k = received m t k := by
  cases h with
  | enqueueClosed | enqueue | selectDone | selectSend | selectFull | publish | publishLocal | publishRedis => cases hop
  | lockRefused t' frame =>
    obtain ⟨-, -, -, -, -, hc, hcmd, -⟩ := frameFailed_frame m t' frame
    exact ⟨publishing_afterFrame, hc, hcmd, received_frameFailed m t' frame⟩
  | writeFailed t' frame =>
    obtain ⟨-, -, -, -, -, hc, hcmd, -⟩ := frameFailed_frame (m.setConn t' { m.conns t' with writeMu := none }) t' frame
    exact ⟨publishing_afterFrame, hc, hcmd,
      fun t k => (received_frameFailed _ t' frame t k).trans (received_setConn (by rfl) t k)⟩
  | written t' frame => exact ⟨publishing_afterFrame, rfl, rfl, received_setConn (by rfl)⟩
  | closeAllSockets targets =>
    refine ⟨fun o ho => ?_, rfl, rfl, fun _ _ => rfl⟩
    rcases List.mem_append.1 ho with ho | ho
    · obtain ⟨t, -, rfl⟩ := List.mem_map.1 ho
      rfl
    · rw [List.mem_singleton.1 ho]; rfl
  | hubAdd t' channel hooks hh | hubRemove t' channel hooks hh | ensure channel wanted hooks hh =>
    refine ⟨?_, rfl, rfl, fun _ _ => rfl⟩
    rcases hh with rfl | rfl <;> simp [Op.publishing]
  | closeWon | lock | setClosed | lockClosed | closeConn =>
    exact ⟨by simp [Op.publishing], rfl, rfl, received_setConn (by rfl)⟩
  | _ => exact ⟨by simp [Op.publishing], rfl, rfl, fun _ _ => rfl⟩

/-- A section leaves what it delivers itself, or, as the call itself, the fan-out of the new call. -/
theorem Exec.delivers {m m' : Memory} {g : Goroutine} {op : Op} {ops : List Op} (h : Exec cfg m g op m' ops)
    {k : CallID} : ∀ o ∈ ops, o.delivers = some k → op.delivers = some k ∨
      k.instanceID = cfg.instanceID ∧ ∃ channel data, op = .publish k.socket channel data := by
  intro o ho hk
  cases hop : op.publishing with
  | false =>
    have := publishing_of_delivers hk
    rw [h.apart hop |>.1 o ho] at this
    cases this
  | true =>
    cases h with
    | enqueue t msg => rw [List.mem_singleton.1 ho] at hk; exact Or.inl hk
    | publishLocal call channel data targets =>
      obtain ⟨t, -, rfl⟩ := List.mem_map.1 ho
      exact Or.inl hk
    | publish t channel data =>
      rcases List.mem_cons.1 ho with rfl | ho
      · cases hk
        exact Or.inr ⟨rfl, channel, data, rfl⟩
      · rw [List.mem_singleton.1 ho] at hk; cases hk
    | selectFull => rw [List.mem_singleton.1 ho] at hk; cases hk
    | enqueueClosed | selectDone | selectSend | publishRedis => cases ho
    | _ => cases hop

/-- The snapshot holds a socket at most once, so the fan-out of a call holds its packet for it at most once. -/
theorem countP_reaches_fanOut {targets : List ℕ} (hn : targets.Nodup) (t : ℕ) (k : CallID) (call : Option CallID)
    (packet : Packet) : (targets.map fun t' => Op.enqueueText t' ⟨packet, call⟩).countP (Op.reaches t k) ≤
      if call = some k then 1 else 0 := by
  rw [List.countP_map]
  split
  · rename_i hc
    calc targets.countP (Op.reaches t k ∘ fun t' => Op.enqueueText t' ⟨packet, call⟩)
        = targets.count t := List.countP_congr fun t' _ => by simp [Op.reaches, hc]
      _ ≤ 1 := List.nodup_iff_count_le_one.1 hn t
  · rename_i hc
    exact le_of_eq (List.countP_eq_zero.2 fun t' _ => by simp [Op.reaches, hc])

/-- What a call leaves of it: one fan-out and one command. -/
theorem countP_publish (k₀ k : CallID) (t : ℕ) (channel : String) (data : Option Json) :
    ([.publishLocal (some k₀) channel (data.getD .null), .publishRedis k₀ channel data] : List Op).countP
        (Op.reaches t k) = [k₀].count k ∧
      ([.publishLocal (some k₀) channel (data.getD .null), .publishRedis k₀ channel data] : List Op).countP
        (Op.issues k) = [k₀].count k := by
  by_cases hk : k₀ = k <;> simp [Op.reaches, Op.issues, hk]

/-- A section never adds to the packets of a call a socket has received or may still receive, except that
a call begins with one. -/
theorem Exec.reaches {m m' : Memory} {g : Goroutine} {op : Op} {ops : List Op} (h : Exec cfg m g op m' ops)
    (t : ℕ) (k : CallID) : ops.countP (Op.reaches t k) + received m' t k + m.calls.count k ≤
      [op].countP (Op.reaches t k) + received m t k + m'.calls.count k := by
  cases hop : op.publishing with
  | false =>
    obtain ⟨hops, hcalls, -, hr⟩ := h.apart hop
    rw [countP_reaches_zero hops, hcalls, hr]
    omega
  | true =>
    cases h with
    | publish t' channel data =>
      rw [(countP_publish _ k t channel data).1, List.count_append]
      simp only [received]
      omega
    | publishLocal call channel data targets hn =>
      have := countP_reaches_fanOut hn t k call (.publish channel data)
      simp only [List.countP_singleton, Op.reaches, decide_eq_true_eq]
      omega
    | selectSend t' msg =>
      have hq : received (m.setConn t' { m.conns t' with
          outbound := (m.conns t').outbound ++ [msg], queued := (m.conns t').queued ++ [msg] }) t k =
            received m t k + [Op.selectOutbound t' msg].countP (Op.reaches t k) := by
        unfold received
        by_cases ht : t = t'
        · subst ht; simp [Memory.setConn, List.countP_append, List.countP_singleton, Op.reaches]
        · simp [Memory.setConn, ht, Op.reaches, Ne.symm ht]
      rw [hq, List.countP_nil]
      show _ ≤ _ + m.calls.count k
      omega
    | enqueue t' msg => exact le_rfl
    | enqueueClosed | selectDone | publishRedis => exact Nat.add_le_add_right (by simp [received]) _
    | selectFull => exact Nat.add_le_add_right (by simp [Op.reaches]) _
    | _ => cases hop

/-- A call is one PUBLISH command, which its last section issues. -/
theorem Exec.issues {m m' : Memory} {g : Goroutine} {op : Op} {ops : List Op} (h : Exec cfg m g op m' ops)
    (k : CallID) : ops.countP (Op.issues k) + issued m' k + m.calls.count k =
      [op].countP (Op.issues k) + issued m k + m'.calls.count k := by
  cases hop : op.publishing with
  | false =>
    obtain ⟨hops, hcalls, hcmd, -⟩ := h.apart hop
    have hsingle : ∀ o ∈ [op], o.publishing = false := by simpa using hop
    rw [countP_issues_zero hops, hcalls, countP_issues_zero hsingle, issued, issued, hcmd]
  | true =>
    cases h with
    | publish t' channel data =>
      rw [(countP_publish _ k t' channel data).2, List.count_append]
      simp only [issued, List.countP_singleton, Op.issues, Bool.false_eq_true, if_false]
      omega
    | publishRedis call channel data ok =>
      by_cases hk : call = k <;> simp [issued, Op.issues, List.countP_append, hk]
      omega
    | publishLocal call channel data targets =>
      have hz : (targets.map fun t => Op.enqueueText t ⟨.publish channel data, call⟩).countP (Op.issues k) = 0 := by
        simp [List.countP_eq_zero, Op.issues]
      rw [hz]
      rfl
    | enqueue | enqueueClosed | selectDone | selectFull | selectSend => rfl
    | _ => cases hop

/-- The calls a section makes. -/
theorem Exec.calls {m m' : Memory} {g : Goroutine} {op : Op} {ops : List Op} (h : Exec cfg m g op m' ops) :
    m'.calls = m.calls ∨ ∃ t channel data, op = .publish t channel data ∧
      m'.calls = m.calls ++ [⟨cfg.instanceID, t, m.calls.length⟩] ∧
      .publishLocal (some ⟨cfg.instanceID, t, m.calls.length⟩) channel (data.getD .null) ∈ ops := by
  cases hop : op.publishing with
  | false => exact Or.inl (h.apart hop).2.1
  | true =>
    cases h with
    | publish t channel data => exact Or.inr ⟨t, channel, data, rfl, rfl, List.mem_cons_self⟩
    | enqueue | enqueueClosed | selectDone | selectFull | selectSend | publishLocal | publishRedis => exact Or.inl rfl
    | _ => cases hop

/-- The commands a section issues. -/
theorem Exec.commands {m m' : Memory} {g : Goroutine} {op : Op} {ops : List Op} (h : Exec cfg m g op m' ops) :
    m'.commands = m.commands ∨ ∃ k channel data ok, op = .publishRedis k channel data ∧
      m'.commands = m.commands ++ [⟨k, channel, encodeForRedis cfg.instanceID data, ok⟩] := by
  cases hop : op.publishing with
  | false => exact Or.inl (h.apart hop).2.2.1
  | true =>
    cases h with
    | publishRedis k channel data ok => exact Or.inr ⟨k, channel, data, ok, rfl, rfl⟩
    | enqueue | enqueueClosed | selectDone | selectFull | selectSend | publishLocal | publish => exact Or.inl rfl
    | _ => cases hop

/-! ## Work -/

theorem Start.apart {m m' : Memory} {w : Work} {g : Goroutine} {ops : List Op} (h : Start p cfg m w g m' ops) :
    m'.calls = m.calls ∧ m'.commands = m.commands ∧ ∀ t k, received m' t k = received m t k :=
  ⟨by cases h <;> rfl, by cases h <;> rfl, fun t k => by rw [received, h.queued t]; rfl⟩

/-- Work leaves no command of a call that was not made. -/
theorem Start.issues {m m' : Memory} {w : Work} {g : Goroutine} {ops : List Op} (h : Start p cfg m w g m' ops)
    (k : CallID) : ops.countP (Op.issues k) = 0 := by
  refine List.countP_eq_zero.2 fun o ho => ?_
  cases h with
  | event | cleanup =>
    obtain ⟨e, -, rfl⟩ := List.mem_map.1 ho
    cases e <;> exact Bool.false_ne_true
  | readClose => rcases List.mem_cons.1 ho with rfl | ho <;> simp_all [Op.issues]
  | handshakeTimeout t ops hops => rcases hops with rfl | rfl <;> simp_all [Op.issues]
  | _ => simp_all [Op.issues]

/-- Only a message from Redis leaves a packet of a call to deliver. -/
theorem Start.delivers {m m' : Memory} {w : Work} {g : Goroutine} {ops : List Op} (h : Start p cfg m w g m' ops)
    {k : CallID} {o : Op} (ho : o ∈ ops) (hk : o.delivers = some k) : g = .receiveLoop ∧ ∃ channel raw v,
      w = .receive channel raw (some k) ∧ (handleMessage cfg.instanceID raw).bind Json.parse = some v ∧
        ops = [.publishLocal (some k) channel v] := by
  cases o with
  | enqueueText t msg | selectOutbound t msg =>
    have hm := (h.carries _ ho rfl).1
    rw [show msg.call = some k from hk] at hm
    cases hm
  | publishLocal call channel data =>
    cases h with
    | receive channel' raw call' v hv =>
      cases List.mem_singleton.1 ho
      cases hk
      exact ⟨rfl, channel, raw, _, rfl, hv, rfl⟩
    | event | cleanup =>
      obtain ⟨e, -, he⟩ := List.mem_map.1 ho
      cases e <;> cases he
    | handshakeTimeout t ops hops => rcases hops with rfl | rfl <;> simp at ho
    | _ => simp at ho
  | _ => cases hk

/-! ## The books of a node -/

variable (cfg) in
/-- The calls of a node are its own and all different, and each is one command, issued or pending in the
read loop that made the call. -/
structure Booked (s : State) : Prop where
  homed : Homed s
  own : ∀ k ∈ s.mem.calls, k.instanceID = cfg.instanceID ∧ k.seq < s.mem.calls.length
  nodup : s.mem.calls.Nodup
  issued : ∀ k, (s.todo (.readLoop k.socket)).countP (Op.issues k) + issued s.mem k = s.mem.calls.count k

theorem booked_init : Booked cfg init where
  homed := homed_init
  own _ h := nomatch h
  nodup := List.nodup_nil
  issued _ := rfl

/-- A command is issued by the read loop that made the call. -/
theorem Homed.issues {s : State} (hs : Homed s) {k : CallID} :
    ∀ g, ∀ o ∈ s.todo g, o.issues k = true → g = .readLoop k.socket := by
  intro g o ho hi
  cases o with
  | publishRedis call channel data =>
    rw [← show call = k by simpa [Op.issues] using hi]
    exact (hs g _ ho _ rfl).symm
  | _ => cases hi

theorem Booked.step {s s' : State} {l : Label} (hs : Booked cfg s) (h : step p cfg s l = some s') : Booked cfg s' := by
  have hhome := homed_step hs.homed h
  cases step_cases h with
  | stall t => exact ⟨hhome, hs.own, hs.nodup, hs.issued⟩
  | start w g ops m ht hw =>
    obtain ⟨hcalls, hcmd, -⟩ := hw.apart
    refine ⟨hhome, ?_, ?_, fun k => ?_⟩
    · rw [Workers.State.assign_mem, hcalls]; exact hs.own
    · rw [Workers.State.assign_mem, hcalls]; exact hs.nodup
    · rw [Workers.countP_start ht hhome.issues, hw.issues, Workers.State.assign_mem, Server.issued, hcmd, hcalls]
      exact hs.issued k
  | run g choice op rest ops m ht hx =>
    refine ⟨hhome, ?_, ?_, fun k => ?_⟩
    · rw [Workers.State.assign_mem]
      rcases hx.calls with hc | ⟨t, channel, data, -, hc, -⟩
      · rw [hc]; exact hs.own
      · rw [hc]
        intro k hk
        rw [List.length_append, List.length_singleton]
        rcases List.mem_append.1 hk with hk | hk
        · obtain ⟨h1, h2⟩ := hs.own k hk
          exact ⟨h1, by omega⟩
        · rw [List.mem_singleton.1 hk]
          exact ⟨rfl, Nat.lt_succ_self _⟩
    · rw [Workers.State.assign_mem]
      rcases hx.calls with hc | ⟨t, channel, data, -, hc, -⟩
      · rw [hc]; exact hs.nodup
      · rw [hc]
        refine List.nodup_append.2 ⟨hs.nodup, List.nodup_singleton _, ?_⟩
        -- the new call is numbered by the length of the list
        rintro k hk k' hk' rfl
        rw [List.mem_singleton.1 hk'] at hk
        exact absurd (hs.own _ hk).2 (Nat.lt_irrefl _)
    · -- what is pending, issued and made moves between the three counters
      have hcount := Workers.countP_run ht hs.homed.issues hhome.issues (q := Op.issues k)
      have hbook := hs.issued k
      have hops := hx.issues k
      rw [Workers.State.assign_mem]
      omega

/-- A call that is not the node's has no command there. -/
theorem Booked.foreign {s : State} (hs : Booked cfg s) {k : CallID} (hk : k.instanceID ≠ cfg.instanceID) :
    s.mem.calls.count k = 0 ∧ Server.issued s.mem k = 0 := by
  have hc : s.mem.calls.count k = 0 := List.count_eq_zero.2 fun hm => hk (hs.own k hm).1
  have := hs.issued k
  omega

/-- A command is of a call of the node. -/
theorem Booked.command {s : State} (hs : Booked cfg s) {c : Command} (hc : c ∈ s.mem.commands) :
    c.call.instanceID = cfg.instanceID := by
  have hpos : 0 < Server.issued s.mem c.call := List.countP_pos_iff.2 ⟨c, hc, by simp⟩
  have := hs.issued c.call
  exact (hs.own c.call (List.count_pos_iff.1 (by omega))).1

/-- Once no command is pending, the commands are the calls. -/
theorem Booked.commands_perm {s : State} (hs : Booked cfg s) (hq : ∀ g, ∀ op ∈ s.todo g, ∀ k, op.issues k = false) :
    (s.mem.commands.map Command.call).Perm s.mem.calls := by
  refine List.perm_iff_count.2 fun k => ?_
  have hz : (s.todo (.readLoop k.socket)).countP (Op.issues k) = 0 :=
    List.countP_eq_zero.2 fun o ho => by simp [hq _ o ho k]
  have := hs.issued k
  rw [List.count_eq_countP, List.countP_map]
  have hcount : s.mem.commands.countP ((fun x => x == k) ∘ Command.call) = Server.issued s.mem k :=
    List.countP_congr fun c _ => by simp
  omega

/-- The commands a step adds carry the id of the node. -/
theorem commands_step {s s' : State} {l : Label} (h : step p cfg s l = some s') :
    ∃ new, s'.mem.commands = s.mem.commands ++ new ∧
      ∀ c ∈ new, ∃ data, c.payload = encodeForRedis cfg.instanceID data := by
  cases step_cases h with
  | stall t => exact ⟨[], by simp [Memory.setConn], by simp⟩
  | start w g ops m ht hw => exact ⟨[], by simp [hw.apart.2.1], by simp⟩
  | run g choice op rest ops m ht hx =>
    rcases hx.commands with hc | ⟨k, channel, data, ok, -, hc⟩
    · exact ⟨[], by simp [hc], by simp⟩
    · exact ⟨_, hc, fun c hm => ⟨data, by rw [List.mem_singleton.1 hm]⟩⟩

/-! ## The packets of one call -/

/-- A message from Redis that leaves the packet of the call to deliver. -/
def brings (cfg : Config) (k : CallID) : Label → Bool
  | .start (.receive _ raw call) =>
    decide (call = some k) && ((handleMessage cfg.instanceID raw).bind Json.parse).isSome
  | _ => false

/-- What there is to deliver after a step was so before, belongs to a call the step made, or came from Redis. -/
theorem delivers_step {s s' : State} {l : Label} {k : CallID} (hs : Homed s) (h : step p cfg s l = some s')
    {g : Goroutine} {o : Op} (ho : o ∈ s'.todo g) (hk : o.delivers = some k) :
    (∃ o' ∈ s.todo g, o'.delivers = some k) ∨ (k.instanceID = cfg.instanceID ∧ g = .readLoop k.socket) ∨
      (g = .receiveLoop ∧ brings cfg k l = true) := by
  cases step_cases h with
  | stall t => exact Or.inl ⟨o, ho, hk⟩
  | start w g' ops m ht hw =>
    rcases Workers.mem_assign ho with ⟨rfl, hnew⟩ | ⟨-, hold⟩
    · obtain ⟨rfl, channel, raw, v, rfl, hv, -⟩ := hw.delivers hnew hk
      exact Or.inr (Or.inr ⟨rfl, by simp [brings, hv]⟩)
    · exact Or.inl ⟨o, hold, hk⟩
  | run g' choice op rest ops m ht hx =>
    rcases Workers.mem_assign_append ht ho with ⟨rfl, hnew⟩ | hold
    · rcases hx.delivers o hnew hk with hop | ⟨hid, channel, data, rfl⟩
      · exact Or.inl ⟨op, ht ▸ List.mem_cons_self, hop⟩
      · exact Or.inr (Or.inl ⟨hid, (hs g _ (ht ▸ List.mem_cons_self) _ rfl).symm⟩)
    · exact Or.inl ⟨o, hold, hk⟩

/-- Where one goroutine delivers the packets of a call, a step adds none to those a socket has received or
may still receive, except for the call itself and a message from Redis. -/
theorem reaches_step {s s' : State} {l : Label} {g₀ : Goroutine} {k : CallID}
    (hs : ∀ g, ∀ o ∈ s.todo g, o.delivers = some k → g = g₀) (hs' : ∀ g, ∀ o ∈ s'.todo g, o.delivers = some k → g = g₀)
    (h : step p cfg s l = some s') (t : ℕ) :
    (s'.todo g₀).countP (Op.reaches t k) + received s'.mem t k + s.mem.calls.count k ≤
      (s.todo g₀).countP (Op.reaches t k) + received s.mem t k + s'.mem.calls.count k +
        if brings cfg k l = true then 1 else 0 := by
  have hr' : ∀ g, ∀ o ∈ s'.todo g, o.reaches t k = true → g = g₀ := fun g o ho hr => hs' g o ho (delivers_of_reaches hr)
  cases step_cases h with
  | stall t' =>
    have hr : received (s.mem.setConn t' { s.mem.conns t' with stalled := true }) t k = received s.mem t k :=
      received_setConn (by rfl) t k
    rw [hr]
    exact Nat.le_add_right _ _
  | start w g ops m ht hw =>
    obtain ⟨hcalls, -, hrec⟩ := hw.apart
    have hops : ops.countP (Op.reaches t k) ≤ if brings cfg k (.start w) = true then 1 else 0 := by
      by_cases hz : ∃ o ∈ ops, o.reaches t k = true
      · obtain ⟨o, ho, hr⟩ := hz
        obtain ⟨-, channel, raw, v, rfl, hv, rfl⟩ := hw.delivers ho (delivers_of_reaches hr)
        simp [brings, hv, Op.reaches]
      · rw [List.countP_eq_zero.2 fun o ho hr => hz ⟨o, ho, hr⟩]
        exact Nat.zero_le _
    rw [Workers.countP_start ht hr', Workers.State.assign_mem, hcalls, hrec]
    omega
  | run g choice op rest ops m ht hx =>
    have hcount := Workers.countP_run (q := Op.reaches t k) ht
      (fun g' o ho hr => hs g' o ho (delivers_of_reaches hr)) hr'
    have hsec := hx.reaches t k
    rw [Workers.State.assign_mem]
    omega

/-- Taking up work makes no call and issues no command. -/
theorem start_step {s s' : State} {w : Work} (h : step p cfg s (.start w) = some s') :
    s'.mem.calls = s.mem.calls ∧ s'.mem.commands = s.mem.commands := by
  cases step_cases h with
  | start _ g ops m ht hw => exact ⟨hw.apart.1, hw.apart.2.1⟩

/-! ## Who is served -/

/-- The packet of the call has reached the socket or will, unless the socket is closed, its `run` has
ended, or it is about to be closed for its full queue. -/
def Due (s : State) (t : ℕ) (k : CallID) : Prop :=
  (∃ g, ∃ op ∈ s.todo g, op.reaches t k = true ∨ op = .closeWith t 1008 "Outbound queue full") ∨
    (s.mem.conns t).closed = true ∨ (s.mem.conns t).done = true ∨ 0 < received s.mem t k

/-- The channel an operation fans a call out to. -/
def Op.fansOut (k : CallID) : Op → Option String
  | .publishLocal call channel _ => if call = some k then some channel else none
  | _ => none

/-- A step that fans the call out finds the socket in the hub on the channel. -/
def Present (t : ℕ) (k : CallID) (s : State) : Label → Prop
  | .run g _ => ∀ channel ∈ (s.todo g).head?.bind (Op.fansOut k), t ∈ s.mem.hub.members channel
  | _ => True

instance Present.decidable (t : ℕ) (k : CallID) (s : State) : ∀ l, Decidable (Present t k s l)
  | .run g _ => inferInstanceAs
      (Decidable (∀ channel ∈ (s.todo g).head?.bind (Op.fansOut k), t ∈ s.mem.hub.members channel))
  | .start _ | .env _ => isTrue trivial

theorem lasting_setConn {m : Memory} {t' : ℕ} {c : Conn} (hc : (m.conns t').closed = true → c.closed = true)
    (hd : (m.conns t').done = true → c.done = true) (t : ℕ) :
    ((m.conns t).closed = true → ((m.setConn t' c).conns t).closed = true) ∧
      ((m.conns t).done = true → ((m.setConn t' c).conns t).done = true) := by
  by_cases ht : t = t'
  · subst ht; simpa [Memory.setConn] using ⟨hc, hd⟩
  · simp [Memory.setConn, ht]

/-- Nothing opens a closed socket or restarts an ended `run`. -/
theorem Exec.lasting {m m' : Memory} {g : Goroutine} {op : Op} {ops : List Op} (h : Exec cfg m g op m' ops) (t : ℕ) :
    ((m.conns t).closed = true → (m'.conns t).closed = true) ∧
      ((m.conns t).done = true → (m'.conns t).done = true) := by
  cases h with
  | lockRefused t' frame => rw [(frameFailed_frame m t' frame).2.2.2.1]; exact ⟨id, id⟩
  | writeFailed t' frame =>
    rw [(frameFailed_frame (m.setConn t' { m.conns t' with writeMu := none }) t' frame).2.2.2.1]
    exact lasting_setConn (by exact id) (by exact id) t
  | closeWon | setClosed => exact lasting_setConn (by exact fun _ => rfl) (by exact id) t
  | selectSend | lock | written | lockClosed | closeConn => exact lasting_setConn (by exact id) (by exact id) t
  | _ => exact ⟨id, id⟩

/-- Nothing takes a packet out of what was queued. -/
theorem Exec.received_le {m m' : Memory} {g : Goroutine} {op : Op} {ops : List Op} (h : Exec cfg m g op m' ops) (t : ℕ)
    (k : CallID) : received m t k ≤ received m' t k := by
  rcases h.queued t with hq | ⟨msg, -, -, hq⟩
  · rw [received, received, hq]
  · rw [received, received, hq, List.countP_append]
    exact Nat.le_add_right _ _

/-- A socket is closed when `closeWith` has been called on it. -/
theorem Exec.closes {m m' : Memory} {g : Goroutine} {ops : List Op} {t code : ℕ} {reason : String}
    (h : Exec cfg m g (.closeWith t code reason) m' ops) : (m'.conns t).closed = true := by
  cases h with
  | closeLost _ _ _ hc => exact hc
  | closeWon => simp [Memory.setConn]

theorem Start.lasting {m m' : Memory} {w : Work} {g : Goroutine} {ops : List Op} (h : Start p cfg m w g m' ops)
    (t : ℕ) :
    ((m.conns t).closed = true → (m'.conns t).closed = true) ∧
      ((m.conns t).done = true → (m'.conns t).done = true) := by
  cases h with
  | closeDone => exact lasting_setConn (by exact id) (by exact fun _ => rfl) t
  | dequeue => exact lasting_setConn (by exact id) (by exact id) t
  | _ => exact ⟨id, id⟩

/-- The section that holds the packet of a call for a socket hands it on, queues it, or finds the socket
closed, ended, or its queue full; the fan-out finds it in the hub. -/
theorem Exec.serves {m m' : Memory} {g : Goroutine} {op : Op} {ops : List Op} (h : Exec cfg m g op m' ops) {t : ℕ}
    {k : CallID} (hop : op.reaches t k = true ∨ op = .closeWith t 1008 "Outbound queue full")
    (hm : ∀ channel data, op = .publishLocal (some k) channel data → t ∈ m.hub.members channel) :
    (∃ o ∈ ops, o.reaches t k = true ∨ o = .closeWith t 1008 "Outbound queue full") ∨
      (m'.conns t).closed = true ∨ (m'.conns t).done = true ∨ 0 < received m' t k := by
  rcases hop with hop | rfl
  · cases h with
    | enqueueClosed t' msg hc =>
      simp only [Op.reaches, Bool.and_eq_true, decide_eq_true_eq] at hop
      exact Or.inr (Or.inl (hop.1 ▸ hc))
    | enqueue t' msg => exact Or.inl ⟨_, List.mem_singleton_self _, Or.inl hop⟩
    | selectDone t' msg hd =>
      simp only [Op.reaches, Bool.and_eq_true, decide_eq_true_eq] at hop
      exact Or.inr (Or.inr (Or.inl (hop.1 ▸ hd)))
    | selectSend t' msg =>
      simp only [Op.reaches, Bool.and_eq_true, decide_eq_true_eq] at hop
      obtain ⟨rfl, hk⟩ := hop
      refine Or.inr (Or.inr (Or.inr ?_))
      simp [received, Memory.setConn, List.countP_append, hk]
    | selectFull t' msg =>
      simp only [Op.reaches, Bool.and_eq_true, decide_eq_true_eq] at hop
      exact Or.inl ⟨_, List.mem_singleton_self _, Or.inr (by rw [hop.1])⟩
    | publishLocal call channel data targets hn ht =>
      simp only [Op.reaches, decide_eq_true_eq] at hop
      subst hop
      have hmem := hm channel data rfl
      rw [← ht, List.mem_toFinset] at hmem
      exact Or.inl ⟨_, List.mem_map.2 ⟨t, hmem, rfl⟩, Or.inl (by simp [Op.reaches])⟩
    | _ => cases hop
  · exact Or.inr (Or.inl h.closes)

theorem due_step {s s' : State} {l : Label} {t : ℕ} {k : CallID} (hs : Due s t k) (hp : Present t k s l)
    (h : step p cfg s l = some s') : Due s' t k := by
  cases step_cases h with
  | stall t' =>
    have hr : received (s.mem.setConn t' { s.mem.conns t' with stalled := true }) t k = received s.mem t k :=
      received_setConn (by rfl) t k
    have hlast : ((s.mem.conns t).closed = true →
          ((s.mem.setConn t' { s.mem.conns t' with stalled := true }).conns t).closed = true) ∧
        ((s.mem.conns t).done = true →
          ((s.mem.setConn t' { s.mem.conns t' with stalled := true }).conns t).done = true) := by
      refine lasting_setConn ?_ ?_ t
      · exact id
      · exact id
    obtain ⟨hclosed, hdone⟩ := hlast
    rcases hs with hs | hs | hs | hs
    · exact Or.inl hs
    · exact Or.inr (Or.inl (hclosed hs))
    · exact Or.inr (Or.inr (Or.inl (hdone hs)))
    · exact Or.inr (Or.inr (Or.inr (hr ▸ hs)))
  | start w g ops m ht hw =>
    obtain ⟨hclosed, hdone⟩ := hw.lasting t
    rcases hs with ⟨g', op, hop, hr⟩ | hs | hs | hs
    · have hg : g' ≠ g := fun he => by rw [he, ht] at hop; cases hop
      exact Or.inl ⟨g', op, by rw [Workers.State.assign_todo_of_ne hg]; exact hop, hr⟩
    · exact Or.inr (Or.inl (hclosed hs))
    · exact Or.inr (Or.inr (Or.inl (hdone hs)))
    · exact Or.inr (Or.inr (Or.inr (by rw [Workers.State.assign_mem, hw.apart.2.2]; exact hs)))
  | run g choice op rest ops m ht hx =>
    obtain ⟨hclosed, hdone⟩ := hx.lasting t
    rcases hs with ⟨g', o, ho, hr⟩ | hs | hs | hs
    · rcases Workers.mem_assign_of_mem ht ho with ⟨rfl, rfl⟩ | hkept
      · -- the section that the packet waited for
        have hmember : ∀ channel data, o = .publishLocal (some k) channel data → t ∈ s.mem.hub.members channel :=
          fun channel data he => hp channel (by simp [ht, he, Op.fansOut])
        rcases hx.serves hr hmember with ⟨o', ho', hr'⟩ | hr'
        · exact Or.inl ⟨g', o', by rw [Workers.State.assign_todo_self]; exact List.mem_append_left rest ho', hr'⟩
        · exact Or.inr hr'
      · exact Or.inl ⟨g', o, hkept, hr⟩
    · exact Or.inr (Or.inl (hclosed hs))
    · exact Or.inr (Or.inr (Or.inl (hdone hs)))
    · exact Or.inr (Or.inr (Or.inr (hs.trans_le (hx.received_le t k))))

/-- A call is owed to every socket when it is made. -/
theorem due_made {s s' : State} {l : Label} {k : CallID} (h : step p cfg s l = some s') (hold : k ∉ s.mem.calls)
    (hnew : k ∈ s'.mem.calls) (t : ℕ) : Due s' t k := by
  cases step_cases h with
  | stall t' => exact absurd hnew hold
  | start w g ops m ht hw =>
    rw [Workers.State.assign_mem, hw.apart.1] at hnew
    exact absurd hnew hold
  | run g choice op rest ops m ht hx =>
    rw [Workers.State.assign_mem] at hnew
    rcases hx.calls with hc | ⟨t', channel, data, rfl, hc, hop⟩
    · exact absurd (hc ▸ hnew) hold
    · rw [hc] at hnew
      rcases List.mem_append.1 hnew with hnew | hnew
      · exact absurd hnew hold
      · rw [List.mem_singleton.1 hnew]
        exact Or.inl ⟨g, _, by rw [Workers.State.assign_todo_self]; exact List.mem_append_left rest hop,
          Or.inl (by simp [Op.reaches])⟩

/-- A message from Redis is owed to every socket when it is taken up. -/
theorem due_received {s s' : State} {channel raw : String} {k : CallID} {v : Json}
    (h : step p cfg s (.start (.receive channel raw (some k))) = some s')
    (hv : (handleMessage cfg.instanceID raw).bind Json.parse = some v) (t : ℕ) : Due s' t k := by
  cases step_cases h with
  | start w g ops m ht hw =>
    cases hw with
    | receiveNothing _ _ _ hn => rw [hv] at hn; cases hn
    | receive _ _ _ v' =>
      exact Or.inl ⟨.receiveLoop, .publishLocal (some k) channel v', by simp, Or.inl (by simp [Op.reaches])⟩

end Server

end NodejsHelper
