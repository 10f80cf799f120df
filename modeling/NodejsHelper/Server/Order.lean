/-
The order of a publisher's packets. A goroutine fans its publishes out one after the other, while any
number of others fill, drain and close the same queues. It hands each member of the snapshot one packet,
and the first packet a socket does not take is the last one of this goroutine it could have taken: it is
closed by then, or closed by this goroutine next, or it has left the hub for good (`Cut`). So what a
socket takes from a publisher is a prefix of what the publisher fanned out to it.
-/
import NodejsHelper.Server.Queue
import NodejsHelper.Server.Log

namespace NodejsHelper

namespace Server

variable {p : Auth.Primitives} {cfg : Config}

/-! ## One publisher and one socket -/

/-- The publish of the goroutine a text comes from. -/
def Entry.note (g : Goroutine) (e : Entry) : Option Note :=
  e.source.bind fun source => if source.1 = g then some source.2 else none

/-- The publishes of the goroutine whose packets the channel of the socket accepted. -/
def Log.got (log : Log) (g : Goroutine) (r : ℕ) : List Note := (log.accepted r).filterMap (Entry.note g)

/-- The publishes of the goroutine with the socket in their snapshot. -/
def Log.sent (log : Log) (g : Goroutine) (r : ℕ) : List Note := (log.published g).filter fun n => decide (r ∈ n.targets)

/-- The publish whose packet the goroutine still has for the socket. -/
def underway (s : State) (log : Log) (g : Goroutine) (r : ℕ) : List Note :=
  if (s.todo g).any (Op.brings r) then (log.published g).getLast?.toList else []

/-- The socket takes nothing more from the goroutine: it is closed, or about to be closed by the goroutine,
or it has ended, and the goroutine is past the checks of all packets it has for it. -/
structure Cut (g : Goroutine) (r : ℕ) (s : State) : Prop where
  unsent : ∀ o ∈ s.todo g, o.sends r = false
  refusing : (s.mem.conns r).closed = true ∨
    (s.todo g).head? = some (.closeWith r 1008 "Outbound queue full") ∨
    (s.mem.conns r).done = true ∧ ∀ o ∈ s.todo g, o.brings r = false

/-- The socket has got what was fanned out to it, up to the packet underway, or a beginning of it. -/
def Flow (g : Goroutine) (r : ℕ) (s : State) (log : Log) : Prop :=
  log.got g r ++ underway s log g r = log.sent g r ∨ log.got g r <+: log.sent g r ∧ Cut g r s

/-- What a section that fans nothing out and queues nothing can do with a packet for the socket: it has none,
hands it on to an open socket, or finds the socket refusing it. -/
inductive Hands (r : ℕ) (m : Memory) (op : Op) (m' : Memory) (ops : List Op) : Prop
  | none : op.brings r = false → (∀ o ∈ ops, o.brings r = false) →
      (∀ code reason, op = .closeWith r code reason → (m'.conns r).closed = true) → Hands r m op m' ops
  | check (msg : Message) : op.brings r = true → (m.conns r).closed = false → ops = [.selectOutbound r msg] →
      msg.packet.plain = false → Hands r m op m' ops
  | refuse : op.brings r = true → (∀ o ∈ ops, o.brings r = false) →
      (m'.conns r).closed = true ∨ ops.head? = some (.closeWith r 1008 "Outbound queue full") ∨
        (m'.conns r).done = true → Hands r m op m' ops

theorem Exec.hands {m m' : Memory} {g : Goroutine} {op : Op} {ops : List Op} (h : Exec cfg m g op m' ops) {r : ℕ}
    (hq : (m'.conns r).queued = (m.conns r).queued) (hop : ∀ call channel data, op ≠ .publishLocal call channel data) :
    Hands r m op m' ops := by
  cases hb : op.brings r with
  | false =>
    refine .none hb (fun o ho => ?_) (by rintro code reason rfl; exact h.closes)
    by_contra hc
    rcases h.brings o ho (by simpa using hc) with hb' | hf
    · rw [hb] at hb'; cases hb'
    · cases h with
      | publish t channel data =>
        rcases List.mem_cons.1 ho with rfl | ho
        · exact hc rfl
        · rw [List.mem_singleton.1 ho] at hc; exact hc rfl
      | publishLocal => exact hop _ _ _ rfl
      | _ => cases hf
  | true =>
    obtain ⟨msg, hc, hp⟩ := carries_of_brings hb
    cases h with
    | enqueueClosed _ _ hcl => cases hc; exact .refuse hb (by simp) (Or.inl hcl)
    | enqueue _ _ hcl => cases hc; exact .check msg hb hcl rfl hp
    | selectDone _ _ hd => cases hc; exact .refuse hb (by simp) (Or.inr (Or.inr hd))
    | selectSend => cases hc; simp [Memory.setConn] at hq
    | selectFull => cases hc; exact .refuse hb (by simp [Op.brings]) (Or.inr (Or.inl rfl))
    | _ => cases hc

theorem sends_of_not_brings {r : ℕ} {op : Op} (h : op.brings r = false) : op.sends r = false := by
  by_contra hs
  rw [brings_of_sends (by simpa using hs)] at h
  cases h

theorem any_brings_false {r : ℕ} {ops : List Op} (h : ∀ o ∈ ops, o.brings r = false) :
    ops.any (Op.brings r) = false := by
  simpa using h

/-- A socket stays cut off while the goroutine does nothing. -/
theorem Cut.other {g : Goroutine} {r : ℕ} {s s' : State} (h : Cut g r s) (ht : s'.todo g = s.todo g)
    (hc : (s.mem.conns r).closed = true → (s'.mem.conns r).closed = true)
    (hd : (s.mem.conns r).done = true → (s'.mem.conns r).done = true) : Cut g r s' := by
  refine ⟨ht ▸ h.unsent, ?_⟩
  rw [ht]
  rcases h.refusing with h | h | ⟨h, hb⟩
  · exact Or.inl (hc h)
  · exact Or.inr (Or.inl h)
  · exact Or.inr (Or.inr ⟨hd h, hb⟩)

/-- A step of the goroutine leaves a socket cut off if it hands nothing more to the channel, closes the socket
it was about to close, and has nothing new for an ended one. -/
theorem Cut.assign {g : Goroutine} {r : ℕ} {s : State} (h : Cut g r s) {m : Memory} {ops : List Op}
    (hm : ((s.mem.conns r).closed = true → (m.conns r).closed = true) ∧
      ((s.mem.conns r).done = true → (m.conns r).done = true))
    (hsends : ∀ o ∈ ops, o.sends r = false)
    (hclose : (s.todo g).head? = some (.closeWith r 1008 "Outbound queue full") → (m.conns r).closed = true)
    (hbrings : (s.mem.conns r).done = true → (∀ o ∈ s.todo g, o.brings r = false) → ∀ o ∈ ops, o.brings r = false) :
    Cut g r (s.assign g m ops) := by
  refine ⟨?_, ?_⟩
  · rw [Workers.State.assign_todo_self]
    exact hsends
  · rw [Workers.State.assign_todo_self, Workers.State.assign_mem]
    rcases h.refusing with h | h | ⟨h, hb⟩
    · exact Or.inl (hm.1 h)
    · exact Or.inl (hclose h)
    · exact Or.inr (Or.inr ⟨hm.2 h, hbrings h hb⟩)

/-- It is cut off by the section that finds it refusing a packet. -/
theorem cut_of_refuse {g : Goroutine} {r : ℕ} {s : State} {op : Op} {rest ops : List Op} {m : Memory} (hs : Spaced s)
    (hg : s.todo g = op :: rest) (hb : op.brings r = true) (ho : ∀ o ∈ ops, o.brings r = false)
    (h : (m.conns r).closed = true ∨ ops.head? = some (.closeWith r 1008 "Outbound queue full") ∨
      (m.conns r).done = true) : Cut g r (s.assign g m (ops ++ rest)) := by
  have hnone : ∀ o ∈ ops ++ rest, o.brings r = false := by
    intro o hm
    rcases List.mem_append.1 hm with hm | hm
    · exact ho o hm
    · exact hs.rest hg (Or.inr hb) o hm
  refine ⟨?_, ?_⟩
  · rw [Workers.State.assign_todo_self]
    exact fun o hm => sends_of_not_brings (hnone o hm)
  · rw [Workers.State.assign_todo_self, Workers.State.assign_mem]
    rcases h with h | h | h
    · exact Or.inl h
    · exact Or.inr (Or.inl (by rw [List.head?_append, h]; rfl))
    · exact Or.inr (Or.inr ⟨h, hnone⟩)

/-- In all its sections a goroutine leaves a socket cut off. -/
theorem Cut.run {g : Goroutine} {r : ℕ} {s : State} (h : Cut g r s) (hs : Spaced s) {op : Op} {rest ops : List Op}
    {m : Memory} (hg : s.todo g = op :: rest) (hx : Exec cfg s.mem g op m ops) (hh : Hands r s.mem op m ops) :
    Cut g r (s.assign g m (ops ++ rest)) := by
  cases hh with
  | none hb ho hclose =>
    refine h.assign (hx.lasting r) (fun o hm => ?_) (fun hhead => ?_) (fun _ hnone o hm => ?_)
    · rcases List.mem_append.1 hm with hm | hm
      · exact sends_of_not_brings (ho o hm)
      · exact h.unsent o (hg ▸ List.mem_cons_of_mem op hm)
    · rw [hg] at hhead
      cases hhead
      exact hclose _ _ rfl
    · rcases List.mem_append.1 hm with hm | hm
      · exact ho o hm
      · exact hnone o (hg ▸ List.mem_cons_of_mem op hm)
  | check msg hb hopen =>
    -- a packet is handed on to open sockets only, and this one is not
    exfalso
    rcases h.refusing with h | h | ⟨-, hnone⟩
    · rw [hopen] at h; cases h
    · rw [hg] at h; cases h; cases hb
    · rw [hnone op (hg ▸ List.mem_cons_self)] at hb; cases hb
  | refuse hb ho hr => exact cut_of_refuse hs hg hb ho hr

theorem Flow.run {g : Goroutine} {r : ℕ} {s : State} {log : Log} (h : Flow g r s log) (hs : Spaced s) {op : Op}
    {rest ops : List Op} {m : Memory} (hg : s.todo g = op :: rest) (hx : Exec cfg s.mem g op m ops)
    (hh : Hands r s.mem op m ops) : Flow g r (s.assign g m (ops ++ rest)) log := by
  rcases h with h | ⟨hpre, hcut⟩
  · have hsame : ops.any (Op.brings r) = op.brings r →
        log.got g r ++ underway (s.assign g m (ops ++ rest)) log g r = log.sent g r := by
      intro ho
      rw [underway, Workers.State.assign_todo_self, List.any_append, ho, ← List.any_cons, ← hg]
      exact h
    cases hh with
    | none hb ho => exact Or.inl (hsame (by rw [any_brings_false ho, hb]))
    | check msg hb _ ho hp => subst ho; exact Or.inl (hsame (by rw [hb]; simp [Op.brings, hp]))
    | refuse hb ho hr => exact Or.inr ⟨by rw [← h]; exact List.prefix_append _ _, cut_of_refuse hs hg hb ho hr⟩
  · exact Or.inr ⟨hpre, hcut.run hs hg hx hh⟩

theorem Cut.start {g : Goroutine} {r : ℕ} {s : State} (h : Cut g r s) {w : Work} {ops : List Op} {m : Memory}
    (hg : s.todo g = []) (hw : Start p cfg s.mem w g m ops) : Cut g r (s.assign g m ops) := by
  refine h.assign (hw.lasting r) (fun o ho => sends_of_not_brings (hw.brings o ho r)) (fun hhead => ?_)
    fun _ _ o ho => hw.brings o ho r
  rw [hg] at hhead
  cases hhead

/-- A fan-out has no packet for an ended socket, and finds a closed one closed. -/
theorem Cut.publish {g : Goroutine} {r : ℕ} {s : State} (h : Cut g r s) (hs : Spaced s) (hd : DoneEnded s)
    (ha : Agree cfg s) {call : Option CallID} {channel : String} {data : Json} {targets : List ℕ} {rest : List Op}
    (hg : s.todo g = .publishLocal call channel data :: rest)
    (ht : targets.toFinset = s.mem.hub.members channel) :
    Cut g r (s.assign g s.mem (targets.map (fun t => .enqueueText t ⟨.publish channel data, call⟩) ++ rest)) := by
  have hrest : ∀ o ∈ rest, o.brings r = false := hs.rest hg (Or.inl rfl)
  refine h.assign ⟨id, id⟩ (fun o ho => ?_) (fun hhead => ?_) (fun hdone _ o ho => ?_)
  · rcases List.mem_append.1 ho with ho | ho
    · obtain ⟨t, -, rfl⟩ := List.mem_map.1 ho
      rfl
    · exact sends_of_not_brings (hrest o ho)
  · rw [hg] at hhead
    cases hhead
  · rcases List.mem_append.1 ho with ho | ho
    · obtain ⟨t, htm, rfl⟩ := List.mem_map.1 ho
      have hne : t ≠ r := by
        rintro rfl
        exact (hd t hdone).notMem ha channel (by rw [← ht]; exact List.mem_toFinset.2 htm)
      simp [Op.brings, hne]
    · exact hrest o ho

/-- What the channel of the socket accepts is of another publisher, or the packet underway. -/
theorem got_accept {log : Log} {g g' : Goroutine} {r t : ℕ} {msg : Message}
    (h : g' ≠ g ∨ (Op.selectOutbound t msg).brings r = false) : (log.accept g' t msg).got g r = log.got g r := by
  by_cases ht : r = t
  · subst ht
    have hnote : Entry.note g ⟨msg, log.source g' msg⟩ = none := by
      rcases h with h | h
      · unfold Entry.note Log.source
        split
        · rfl
        · cases (log.published g').getLast? with
          | none => rfl
          | some n => exact if_neg h
      · have hp : msg.packet.plain = true := by simpa [Op.brings] using h
        simp [Entry.note, Log.source, hp]
    rw [Log.got, Log.accept_self, List.filterMap_append, List.filterMap_cons, hnote, List.filterMap_nil,
      List.append_nil]
    rfl
  · rw [Log.got, Log.accept_of_ne _ _ ht]
    rfl

/-- The flow to a socket is kept while its goroutine does nothing. -/
theorem Flow.other {g : Goroutine} {r : ℕ} {s s' : State} {log log' : Log} (h : Flow g r s log)
    (ht : s'.todo g = s.todo g) (hp : log'.published g = log.published g) (hgot : log'.got g r = log.got g r)
    (hc : (s.mem.conns r).closed = true → (s'.mem.conns r).closed = true)
    (hd : (s.mem.conns r).done = true → (s'.mem.conns r).done = true) : Flow g r s' log' := by
  have hsent : log'.sent g r = log.sent g r := by rw [Log.sent, hp, Log.sent]
  rcases h with h | ⟨hpre, hcut⟩
  · exact Or.inl (by rw [hgot, hsent, underway, ht, hp]; exact h)
  · exact Or.inr ⟨by rw [hgot, hsent]; exact hpre, hcut.other ht hc hd⟩

theorem any_brings_fanOut (r : ℕ) (targets : List ℕ) (channel : String) (data : Json) (call : Option CallID) :
    (targets.map fun t => Op.enqueueText t ⟨.publish channel data, call⟩).any (Op.brings r) = decide (r ∈ targets) := by
  rw [List.any_map]
  by_cases h : r ∈ targets
  · rw [decide_eq_true h]
    exact List.any_eq_true.2 ⟨r, h, by simp [Op.brings, Packet.plain]⟩
  · rw [decide_eq_false h]
    refine List.any_eq_false.2 fun t ht => ?_
    have hne : t ≠ r := by rintro rfl; exact h ht
    simp [Op.brings, hne]

/-- A fan-out puts a packet underway to the sockets of its snapshot. -/
theorem Flow.publish {g : Goroutine} {r : ℕ} {s : State} {log : Log} (h : Flow g r s log) (hs : Spaced s)
    (hd : DoneEnded s) (ha : Agree cfg s) {call : Option CallID} {channel : String} {data : Json} {targets : List ℕ}
    {rest : List Op} (hg : s.todo g = .publishLocal call channel data :: rest)
    (ht : targets.toFinset = s.mem.hub.members channel) :
    Flow g r (s.assign g s.mem (targets.map (fun t => .enqueueText t ⟨.publish channel data, call⟩) ++ rest))
      (log.publish g channel data targets) := by
  have hrest : rest.any (Op.brings r) = false := any_brings_false (hs.rest hg (Or.inl rfl))
  have hsent : (log.publish g channel data targets).sent g r = log.sent g r ++
      if r ∈ targets then [⟨(log.published g).length, channel, data, targets⟩] else [] := by
    rw [Log.sent, Log.publish_self, List.filter_append]
    by_cases hr : r ∈ targets <;> simp [Log.sent, hr]
  rcases h with h | ⟨hpre, hcut⟩
  · have hidle : underway s log g r = [] := by
      rw [underway, hg, List.any_cons, hrest]
      rfl
    rw [hidle, List.append_nil] at h
    left
    rw [hsent, underway, Workers.State.assign_todo_self, List.any_append, any_brings_fanOut, hrest, Log.publish_self,
      show (log.publish g channel data targets).got g r = log.got g r from rfl, h]
    by_cases hr : r ∈ targets <;> simp [hr]
  · refine Or.inr ⟨?_, hcut.publish hs hd ha hg ht⟩
    rw [hsent]
    exact hpre.trans (List.prefix_append _ _)

theorem closed_accept (m : Memory) (t r : ℕ) (msg : Message) :
    let m' := m.setConn t { m.conns t with
      outbound := (m.conns t).outbound ++ [msg], queued := (m.conns t).queued ++ [msg] }
    ((m.conns r).closed = true → (m'.conns r).closed = true) ∧ ((m.conns r).done = true → (m'.conns r).done = true) :=
  lasting_setConn (by exact id) (by exact id) r

/-- The channel accepts the packet underway. -/
theorem Flow.accept {g : Goroutine} {r t : ℕ} {s : State} {log : Log} (hl : Logged s log) (hs : Spaced s)
    {msg : Message} {rest : List Op} {m : Memory} (hg : s.todo g = .selectOutbound t msg :: rest)
    (hm : ((s.mem.conns r).closed = true → (m.conns r).closed = true) ∧
      ((s.mem.conns r).done = true → (m.conns r).done = true)) :
    (Flow g r s log → Flow g r (s.assign g m rest) (log.accept g t msg)) ∧
      (Cut g r s → Cut g r (s.assign g m rest) ∧ (log.accept g t msg).got g r = log.got g r) := by
  have hmem : Op.selectOutbound t msg ∈ s.todo g := hg ▸ List.mem_cons_self
  cases hb : (Op.selectOutbound t msg).brings r with
  | false =>
    have hgot : (log.accept g t msg).got g r = log.got g r := got_accept (Or.inr hb)
    have hcut : Cut g r s → Cut g r (s.assign g m rest) := by
      intro h
      refine h.assign hm (fun o ho => h.unsent o (hg ▸ List.mem_cons_of_mem _ ho)) (fun hhead => ?_)
        fun _ hnone o ho => hnone o (hg ▸ List.mem_cons_of_mem _ ho)
      rw [hg] at hhead
      cases hhead
    refine ⟨?_, fun h => ⟨hcut h, hgot⟩⟩
    rintro (h | ⟨hpre, h⟩)
    · left
      rw [underway, hg, List.any_cons, hb, Bool.false_or] at h
      rw [hgot, underway, Workers.State.assign_todo_self]
      exact h
    · exact Or.inr ⟨by rw [hgot]; exact hpre, hcut h⟩
  | true =>
    have hsends : ¬ Cut g r s := fun h => by
      have hns := h.unsent _ hmem
      rw [show (Op.selectOutbound t msg).sends r = true from hb] at hns
      cases hns
    refine ⟨?_, fun h => absurd h hsends⟩
    rintro (h | ⟨-, h⟩)
    · obtain ⟨n, msg', hlast, hc, hpacket, -⟩ := hl.pending g _ hmem r hb
      cases hc
      have hp : msg.packet.plain = false := by rw [hpacket]; rfl
      have hrest : rest.any (Op.brings r) = false := any_brings_false (hs.rest hg (Or.inr hb))
      left
      rw [underway, hg, List.any_cons, hb, Bool.true_or, if_pos rfl, hlast] at h
      rw [underway, Workers.State.assign_todo_self, hrest, Log.got, Log.accept_self, List.filterMap_append,
        List.filterMap_cons, source_of_getLast hp hlast, show (log.accept g r msg).sent g r = log.sent g r from rfl]
      simpa [Entry.note, Log.got] using h
    · exact absurd h hsends

/-- Each step keeps the flow, and a goroutine that is cut off from a socket stays so: the socket accepts
nothing more from it. -/
theorem Flow.observed {g : Goroutine} {r : ℕ} {s s' : State} {log log' : Log} (hl : Logged s log) (hs : Spaced s)
    (hd : DoneEnded s) (ha : Agree cfg s) (h : Observed p cfg s log s' log') :
    (Flow g r s log → Flow g r s' log') ∧ (Cut g r s → Cut g r s' ∧ log'.got g r = log.got g r) := by
  have hother : s'.todo g = s.todo g → log'.published g = log.published g → log'.got g r = log.got g r →
      ((s.mem.conns r).closed = true → (s'.mem.conns r).closed = true) ∧
        ((s.mem.conns r).done = true → (s'.mem.conns r).done = true) →
      (Flow g r s log → Flow g r s' log') ∧ (Cut g r s → Cut g r s' ∧ log'.got g r = log.got g r) :=
    fun ht hp hgot hm => ⟨fun h => h.other ht hp hgot hm.1 hm.2, fun h => ⟨h.other ht hm.1 hm.2, hgot⟩⟩
  cases h with
  | publish g' call channel data targets rest hg hn ht =>
    by_cases he : g = g'
    · subst he
      exact ⟨fun h => h.publish hs hd ha hg ht, fun h => ⟨h.publish hs hd ha hg ht, rfl⟩⟩
    · exact hother (Workers.State.assign_todo_of_ne he) (Log.publish_of_ne _ he _ _ _) rfl ⟨id, id⟩
  | accept g' t msg rest hg =>
    by_cases he : g = g'
    · subst he
      exact Flow.accept hl hs hg (closed_accept s.mem t r msg)
    · exact hother (Workers.State.assign_todo_of_ne he) rfl (got_accept (Or.inl (Ne.symm he)))
        (closed_accept s.mem t r msg)
  | run g' op rest ops m hg hx hq hop =>
    by_cases he : g = g'
    · subst he
      have hh := hx.hands (hq r) hop
      exact ⟨fun h => h.run hs hg hx hh, fun h => ⟨h.run hs hg hx hh, rfl⟩⟩
    · exact hother (Workers.State.assign_todo_of_ne he) rfl rfl (hx.lasting r)
  | start w g' ops m hg hw =>
    by_cases he : g = g'
    · subst he
      refine ⟨?_, fun h => ⟨h.start hg hw, rfl⟩⟩
      rintro (h | ⟨hpre, h⟩)
      · left
        rw [underway, hg] at h
        rw [underway, Workers.State.assign_todo_self, any_brings_false fun o ho => hw.brings o ho r]
        exact h
      · exact Or.inr ⟨hpre, h.start hg hw⟩
    · exact hother (Workers.State.assign_todo_of_ne he) rfl rfl (hw.lasting r)
  | stall t => exact hother rfl rfl rfl (lasting_setConn (by exact id) (by exact id) r)

/-! ## Runs -/

variable (cfg) in
/-- What holds of a node and its log all along. -/
structure Sound (s : State) (log : Log) : Prop where
  agree : Agree cfg s
  tidy : Tidy s
  spaced : Spaced s
  ended : DoneEnded s
  logged : Logged s log
  fifo : ∀ r, Fifo r s
  flow : ∀ g r, Flow g r s log

theorem sound_init : Sound cfg init newLog where
  agree := agree_init
  tidy := tidy_init
  spaced := spaced_init
  ended := doneEnded_init
  logged := logged_init
  fifo := fifo_init
  flow _ _ := Or.inl rfl

theorem Sound.step {s s' : State} {l : Label} {log : Log} (hs : Sound cfg s log) (h : step p cfg s l = some s') :
    Sound cfg s' (observe s l s' log) := by
  have ho := observed_of_step log h
  refine ⟨hs.agree.step h, tidy_step s l s' hs.tidy h, spaced_step hs.spaced h, doneEnded_step hs.ended hs.agree h,
    hs.logged.observed hs.spaced ho, fun r => (hs.fifo r).step hs.tidy hs.agree h, fun g r => ?_⟩
  exact (Flow.observed hs.logged hs.spaced hs.ended hs.agree ho).1 (hs.flow g r)

theorem sound_run {tr : List Label} {s : State} (h : Transition.run (step p cfg) init tr = some s) :
    Sound cfg s (logOf p cfg tr) :=
  Transition.history_invariant (fun s l _ log (hs : Sound cfg s log) hst => hs.step (l := l) hst) sound_init h

/-- The publish is one on the channel, from the given number on. -/
def Note.since (number : ℕ) (channel : String) (n : Note) : Bool := decide (number ≤ n.number) && n.channel == channel

/-- Publishes on a channel while a socket is in it have the socket in their snapshots. -/
theorem member_observed {g : Goroutine} {r number : ℕ} {c : String} {s s' : State} {log log' : Log}
    (hm : r ∈ s.mem.hub.members c) (hn : ∀ n ∈ log.published g, n.since number c = true → r ∈ n.targets)
    (h : Observed p cfg s log s' log') : ∀ n ∈ log'.published g, n.since number c = true → r ∈ n.targets := by
  cases h with
  | publish g' call channel data targets rest hg hnd ht =>
    by_cases he : g = g'
    · subst he
      intro n hmem hsince
      rw [Log.publish_self] at hmem
      rcases List.mem_append.1 hmem with hmem | hmem
      · exact hn n hmem hsince
      · rw [List.mem_singleton.1 hmem] at hsince ⊢
        have hc : channel = c := by simpa [Note.since] using (Bool.and_eq_true_iff.1 hsince).2
        subst hc
        exact List.mem_toFinset.1 (by rw [ht]; exact hm)
    · rw [Log.publish_of_ne _ he]
      exact hn
  | _ => exact hn

theorem members_since {pre post : List Label} {s₀ s : State} (h₀ : Transition.run (step p cfg) init pre = some s₀)
    {g : Goroutine} {r : ℕ} {c : String}
    (hm : Transition.Always (step p cfg) (fun s => r ∈ s.mem.hub.members c) s₀ post)
    (h : Transition.run (step p cfg) s₀ post = some s) :
    ∀ n ∈ (logOf p cfg (pre ++ post)).published g,
      n.since ((logOf p cfg pre).published g).length c = true → r ∈ n.targets := by
  rw [logOf, Transition.history_append h₀]
  refine Transition.history_invariant_each (I := fun _ log => ∀ n ∈ log.published g,
    n.since ((logOf p cfg pre).published g).length c = true → r ∈ n.targets)
    (fun s l s' log hr hn hst => member_observed hr hn (observed_of_step log hst)) hm.eachStep ?_ h
  intro n hn hsince
  have hlt : n.number ∈ List.range ((logOf p cfg pre).published g).length := by
    rw [← (sound_run h₀).logged.numbers g]
    exact List.mem_map_of_mem hn
  have hle : ((logOf p cfg pre).published g).length ≤ n.number := of_decide_eq_true (Bool.and_eq_true_iff.1 hsince).1
  have := List.mem_range.1 hlt
  omega

theorem Flow.beginning {g : Goroutine} {r : ℕ} {s : State} {log : Log} (h : Flow g r s log) :
    log.got g r <+: log.sent g r := by
  rcases h with h | ⟨h, -⟩
  · rw [← h]
    exact List.prefix_append _ _
  · exact h

/-! ## The result -/

/-- The texts that were written to the connection of a socket, with their sources. -/
def Log.written (log : Log) (s : State) (r : ℕ) : List Entry := (log.accepted r).take (s.mem.conns r).texts.length

/-- What the write loop of a socket has written of the publishes a goroutine made on a channel since the
first log: the written texts are the first ones the channel accepted, a `#publish` packet among them is the
packet of the publish it comes from, publishes are told apart by their numbers, and those written are the
first ones made, in their order, each once. -/
structure InOrder (g : Goroutine) (r : ℕ) (c : String) (log₀ log : Log) (s : State) : Prop where
  texts : (log.written s r).map Entry.msg = (s.mem.conns r).texts
  genuine : ∀ e ∈ log.written s r, e.Genuine
  numbers : (log.published g).map Note.number = List.range (log.published g).length
  order : ((log.written s r).filterMap (Entry.note g)).filter (Note.since (log₀.published g).length c) <+:
    (log.published g).filter (Note.since (log₀.published g).length c)

/-- The socket is closed, or the goroutine closes it next. -/
def Shut (g : Goroutine) (r : ℕ) (s : State) : Prop :=
  (s.mem.conns r).closed = true ∨ (s.todo g).head? = some (.closeWith r 1008 "Outbound queue full")

/-- A member's full queue refuses the packet: the log has nothing of it, and the socket is cut off. -/
theorem refused {g : Goroutine} {r : ℕ} {s s' : State} {log : Log} (hs : Sound cfg s log) {msg : Message}
    {rest : List Op} {choice : Choice} (hg : s.todo g = .selectOutbound r msg :: rest)
    (hd : (s.mem.conns r).done = false) (hp : msg.packet.plain = false)
    (hfull : cfg.sendBuffer ≤ (s.mem.conns r).outbound.length) (h : step p cfg s (.run g choice) = some s') :
    observe s (.run g choice) s' log = log ∧ Cut g r s' ∧ Shut g r s' := by
  have hb : (Op.selectOutbound r msg).brings r = true := by simp [Op.brings, hp]
  cases step_cases h with
  | run _ _ op rest' ops m hg' hx =>
    rw [hg] at hg'
    cases hg'
    cases hx with
    | selectDone _ _ hd' => rw [hd] at hd'; cases hd'
    | selectSend _ _ hroom => omega
    | selectFull =>
      refine ⟨by simp [observe, hg], ?_, Or.inr (by simp)⟩
      exact cut_of_refuse hs.spaced hg hb (by simp [Op.brings]) (Or.inr (Or.inl rfl))

theorem Shut.step {g : Goroutine} {r : ℕ} {s s' : State} {l : Label} (hs : Shut g r s)
    (h : step p cfg s l = some s') : Shut g r s' := by
  cases step_cases h with
  | run g' choice op rest ops m hg hx =>
    rcases hs with hc | hhead
    · exact Or.inl ((hx.lasting r).1 hc)
    · by_cases he : g = g'
      · subst he
        rw [hg] at hhead
        cases hhead
        exact Or.inl hx.closes
      · exact Or.inr (by rw [Workers.State.assign_todo_of_ne he]; exact hhead)
  | start w g' ops m hg hw =>
    rcases hs with hc | hhead
    · exact Or.inl ((hw.lasting r).1 hc)
    · have he : g ≠ g' := by rintro rfl; rw [hg] at hhead; cases hhead
      exact Or.inr (by rw [Workers.State.assign_todo_of_ne he]; exact hhead)
  | stall t => exact hs.imp (lasting_setConn (by exact id) (by exact id) r).1 id

variable (p cfg) in
/-- For every run of a node, every goroutine that publishes and every socket. While the socket is in a
channel, its write loop writes the packets of the goroutine's publishes on the channel in their order, without
gap or duplicate, from the first one on; and once its queue has refused a packet of the goroutine, the socket
is closed, at the latest by the goroutine's next section, and its queue never gets a packet of the goroutine
again. -/
theorem publishes_in_order (pre : List Label) {s₀ : State} (h₀ : Transition.run (step p cfg) init pre = some s₀)
    (g : Goroutine) (r : ℕ) :
    (∀ c post s, Transition.Always (step p cfg) (fun s => r ∈ s.mem.hub.members c) s₀ post →
      Transition.run (step p cfg) s₀ post = some s →
      InOrder g r c (logOf p cfg pre) (logOf p cfg (pre ++ post)) s) ∧
    ∀ c msg rest choice s₁, r ∈ s₀.mem.hub.members c → s₀.todo g = .selectOutbound r msg :: rest →
      msg.packet.plain = false → cfg.sendBuffer ≤ (s₀.mem.conns r).outbound.length →
      step p cfg s₀ (.run g choice) = some s₁ →
      ∀ post s, Transition.run (step p cfg) s₁ post = some s →
        (logOf p cfg (pre ++ .run g choice :: post)).got g r = (logOf p cfg pre).got g r ∧ Shut g r s := by
  have hs₀ := sound_run h₀
  refine ⟨fun c post s hm h => ?_, fun c msg rest choice s₁ hr hg hp hfull hst post s h => ?_⟩
  · have hall : Transition.run (step p cfg) init (pre ++ post) = some s := by
      rw [Transition.run_append, h₀]
      exact h
    have hs := sound_run hall
    refine ⟨?_, fun e he => hs.logged.source r e (List.mem_of_mem_take he), hs.logged.numbers g, ?_⟩
    · rw [Log.written, List.map_take, hs.logged.accepted]
      exact (List.prefix_iff_eq_take.1 (hs.fifo r).texts_beginning).symm
    · have hwritten : ((logOf p cfg (pre ++ post)).written s r).filterMap (Entry.note g) <+:
          (logOf p cfg (pre ++ post)).sent g r :=
        (List.IsPrefix.filterMap _ ⟨_, List.take_append_drop _ _⟩).trans (hs.flow g r).beginning
      have hsent : ((logOf p cfg (pre ++ post)).sent g r).filter (Note.since ((logOf p cfg pre).published g).length c) =
          ((logOf p cfg (pre ++ post)).published g).filter (Note.since ((logOf p cfg pre).published g).length c) := by
        rw [Log.sent, List.filter_filter]
        refine List.filter_congr fun n hn => ?_
        cases hsince : n.since ((logOf p cfg pre).published g).length c with
        | false => rfl
        | true => simp [members_since h₀ hm h n hn hsince]
      rw [← hsent]
      exact hwritten.filter _
  · have hd : (s₀.mem.conns r).done = false := by
      by_contra hd
      exact (hs₀.ended r (by simpa using hd)).notMem hs₀.agree c hr
    obtain ⟨hlog, hcut, hshut⟩ := refused hs₀ hg hd hp hfull hst
    have hs₁ := hs₀.step hst
    rw [logOf, Transition.history_append h₀, Transition.history_cons hst]
    rw [show observe s₀ (.run g choice) s₁ (Transition.history (step p cfg) observe init newLog pre) = logOf p cfg pre
      from hlog]
    rw [hlog] at hs₁
    -- from here on the goroutine is cut off from the socket
    refine (Transition.history_invariant (I := fun s log => Sound cfg s log ∧ Cut g r s ∧
      log.got g r = (logOf p cfg pre).got g r ∧ Shut g r s) ?_ ⟨hs₁, hcut, rfl, hshut⟩ h).2.2
    rintro a l b log ⟨hs, hcut, hgot, hshut⟩ hab
    obtain ⟨hcut', hgot'⟩ :=
      (Flow.observed hs.logged hs.spaced hs.ended hs.agree (observed_of_step log hab)).2 hcut
    exact ⟨hs.step hab, hcut', hgot'.trans hgot, hshut.step hab⟩

/-- A visitor publishes to its chat, and its write loop writes all that was queued for it. -/
def sampleWritten : List Label :=
  handled 0 ⟨"#publish", some (.obj [("channel", .str "chat_55"), ("data", .str "hi")]), none⟩ sampleClock 1 ++
    [.run (.readLoop 0) ⟨[0], true⟩, .run (.readLoop 0) ⟨[], true⟩, .run (.readLoop 0) ⟨[], true⟩] ++
    (List.replicate 5 [.start (.dequeue 0), .run (.writeLoop 0) ⟨[], true⟩, .run (.writeLoop 0) ⟨[], true⟩]).flatten

theorem publishes_in_order_sample :
    ∃ s₀ s, Transition.run (step Auth.sample sampleNode) init sampleVisit = some s₀ ∧
      Transition.run (step Auth.sample sampleNode) s₀ sampleWritten = some s ∧
      InOrder (.readLoop 0) 0 "chat_55" (logOf Auth.sample sampleNode sampleVisit)
        (logOf Auth.sample sampleNode (sampleVisit ++ sampleWritten)) s ∧
      (((logOf Auth.sample sampleNode (sampleVisit ++ sampleWritten)).written s 0).filterMap
        (Entry.note (.readLoop 0))).length = 1 :=
  ⟨_, _, rfl, rfl,
    (publishes_in_order Auth.sample sampleNode sampleVisit rfl (.readLoop 0) 0).1 "chat_55" sampleWritten _
      (by decide) rfl, rfl⟩

end Server

end NodejsHelper
