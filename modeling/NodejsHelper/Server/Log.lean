/-
The log of a run: what every goroutine publishes, with its snapshots, and what the channel of every
socket accepts, with its source. A goroutine has at most one packet for a socket, and none behind a
publish that is still to come, so the packet it hands over is one of its last publish (`Logged`), and
an ended socket is in no snapshot (`Ended.notMem`).
-/
import NodejsHelper.Server.Answer

namespace NodejsHelper

namespace Server

variable {p : Auth.Primitives} {cfg : Config}

/-! ## The log of a run -/

/-- A publish of a goroutine: its number among them, its channel and payload, and the snapshot. -/
structure Note where
  number : ℕ
  channel : String
  data : Json
  targets : List ℕ

/-- A text the channel of a socket accepted, with the goroutine and the publish it comes from. -/
structure Entry where
  msg : Message
  source : Option (Goroutine × Note)

/-- The publishes of every goroutine and the texts every channel accepted, in their orders. -/
structure Log where
  published : Goroutine → List Note
  accepted : ℕ → List Entry

def newLog : Log := ⟨fun _ => [], fun _ => []⟩

namespace Log

def publish (log : Log) (g : Goroutine) (channel : String) (data : Json) (targets : List ℕ) : Log :=
  let note : Note := ⟨(log.published g).length, channel, data, targets⟩
  { log with published := Function.update log.published g (log.published g ++ [note]) }

/-- A packet comes from the last publish of the goroutine that hands it over. -/
def source (log : Log) (g : Goroutine) (msg : Message) : Option (Goroutine × Note) :=
  if msg.packet.plain then none else (log.published g).getLast?.map fun n => (g, n)

def accept (log : Log) (g : Goroutine) (t : ℕ) (msg : Message) : Log :=
  { log with accepted := Function.update log.accepted t (log.accepted t ++ [⟨msg, log.source g msg⟩]) }

theorem publish_self (log : Log) (g : Goroutine) (channel : String) (data : Json) (targets : List ℕ) :
    (log.publish g channel data targets).published g =
      log.published g ++ [⟨(log.published g).length, channel, data, targets⟩] :=
  Function.update_self ..

theorem publish_of_ne (log : Log) {g g' : Goroutine} (h : g' ≠ g) (channel : String) (data : Json)
    (targets : List ℕ) : (log.publish g channel data targets).published g' = log.published g' :=
  Function.update_of_ne h ..

theorem accept_self (log : Log) (g : Goroutine) (t : ℕ) (msg : Message) :
    (log.accept g t msg).accepted t = log.accepted t ++ [⟨msg, log.source g msg⟩] :=
  Function.update_self ..

theorem accept_of_ne (log : Log) (g : Goroutine) {t t' : ℕ} (h : t' ≠ t) (msg : Message) :
    (log.accept g t msg).accepted t' = log.accepted t' :=
  Function.update_of_ne h ..

end Log

/-- What a step adds to the log. -/
def observe (s : State) (l : Label) (s' : State) (log : Log) : Log :=
  match l with
  | .run g choice =>
    match s.todo g with
    | .publishLocal _ channel data :: _ => log.publish g channel data choice.targets
    | .selectOutbound t msg :: _ =>
      if (s.mem.conns t).queued.length < (s'.mem.conns t).queued.length then log.accept g t msg else log
    | _ => log
  | _ => log

variable (p cfg) in
/-- The log of a run from the start of a node. -/
def logOf (tr : List Label) : Log := Transition.history (step p cfg) observe init newLog tr

variable (p cfg) in
/-- What a step is and what the log has after it. -/
inductive Observed (s : State) (log : Log) : State → Log → Prop
  | publish (g : Goroutine) (call : Option CallID) (channel : String) (data : Json) (targets : List ℕ)
      (rest : List Op) : s.todo g = .publishLocal call channel data :: rest → targets.Nodup →
      targets.toFinset = s.mem.hub.members channel →
      Observed s log
        (s.assign g s.mem (targets.map (fun t => .enqueueText t ⟨.publish channel data, call⟩) ++ rest))
        (log.publish g channel data targets)
  | accept (g : Goroutine) (t : ℕ) (msg : Message) (rest : List Op) : s.todo g = .selectOutbound t msg :: rest →
      Observed s log
        (s.assign g (s.mem.setConn t { s.mem.conns t with
          outbound := (s.mem.conns t).outbound ++ [msg], queued := (s.mem.conns t).queued ++ [msg] }) rest)
        (log.accept g t msg)
  | run (g : Goroutine) (op : Op) (rest ops : List Op) (m : Memory) : s.todo g = op :: rest →
      Exec cfg s.mem g op m ops → (∀ t, (m.conns t).queued = (s.mem.conns t).queued) →
      (∀ call channel data, op ≠ .publishLocal call channel data) → Observed s log (s.assign g m (ops ++ rest)) log
  | start (w : Work) (g : Goroutine) (ops : List Op) (m : Memory) : s.todo g = [] →
      Start p cfg s.mem w g m ops → Observed s log (s.assign g m ops) log
  | stall (t : ℕ) : Observed s log ⟨s.mem.setConn t { s.mem.conns t with stalled := true }, s.todo⟩ log

theorem observed_of_step {s s' : State} {l : Label} (log : Log) (h : step p cfg s l = some s') :
    Observed p cfg s log s' (observe s l s' log) := by
  rcases Workers.step_iff.1 h with ⟨g, choice, op, rest, ops, m, ht, hx⟩ | ⟨w, g, ops, m, ht, hb⟩ | ⟨t, m, hm⟩
  · have hexec := system_exec hx
    cases op with
    | publishLocal call channel data =>
      simp only [system, exec, publishLocal] at hx
      split at hx
      · cases hx
      · obtain ⟨⟨hn, hm⟩, hx⟩ := Option.ite_none_right_eq_some.1 hx
        cases hx
        simp only [observe, ht]
        exact .publish g call channel data choice.targets rest ht hn hm
    | selectOutbound t msg =>
      simp only [observe, ht]
      cases hexec with
      | selectSend =>
        rw [if_pos (by simp [Memory.setConn])]
        exact .accept g t msg rest ht
      | selectDone _ _ hd =>
        rw [if_neg (by simp)]
        exact .run g _ rest _ _ ht (.selectDone t msg hd) (fun _ => rfl) (by simp)
      | selectFull _ _ hf =>
        rw [if_neg (by simp)]
        exact .run g _ rest _ _ ht (.selectFull t msg hf) (fun _ => rfl) (by simp)
    | _ =>
      simp only [observe, ht]
      refine .run g _ rest ops m ht hexec (fun t => ?_) (by simp)
      rcases hexec.queued t with hq | ⟨msg, he, -⟩
      · exact hq
      · cases he
  · exact .start w g ops m ht (system_start hb)
  · simp only [system] at hm
    split at hm
    · cases hm
    · cases hm
      exact .stall t

/-! ## Packets in a list -/

/-- The operation has a `#publish` packet for the socket. -/
def Op.brings (r : ℕ) : Op → Bool
  | .enqueueText t msg | .selectOutbound t msg => decide (t = r) && !msg.packet.plain
  | _ => false

/-- The operation hands it to the channel. -/
def Op.sends (r : ℕ) : Op → Bool
  | .selectOutbound t msg => decide (t = r) && !msg.packet.plain
  | _ => false

/-- The operation leaves packets of a fan-out that is still to come. -/
def Op.fans : Op → Bool
  | .publish _ _ _ | .publishLocal _ _ _ => true
  | _ => false

/-- No packet waits behind a fan-out that is still to come, nor behind another one for the same socket. -/
def Apart (a b : Op) : Prop := ∀ r, a.fans = true ∨ a.brings r = true → b.brings r = false

theorem carries_of_brings {r : ℕ} {op : Op} (h : op.brings r = true) :
    ∃ msg, op.carries = some (r, msg) ∧ msg.packet.plain = false := by
  cases op with
  | enqueueText t msg | selectOutbound t msg =>
    obtain ⟨ht, hp⟩ := Bool.and_eq_true_iff.1 h
    exact ⟨msg, by rw [← of_decide_eq_true ht]; rfl, by simpa using hp⟩
  | _ => cases h

theorem brings_of_carries {r : ℕ} {op : Op} {msg : Message} (h : op.carries = some (r, msg))
    (hp : msg.packet.plain = false) : op.brings r = true := by
  cases op with
  | enqueueText t msg' | selectOutbound t msg' => cases h; simp [Op.brings, hp]
  | _ => cases h

theorem brings_of_sends {r : ℕ} {op : Op} (h : op.sends r = true) : op.brings r = true := by
  cases op with
  | selectOutbound t msg => exact h
  | _ => cases h

/-- What a section leaves for a socket it had itself, or fans out. -/
theorem Exec.brings {m m' : Memory} {g : Goroutine} {op : Op} {ops : List Op} (h : Exec cfg m g op m' ops) {r : ℕ} :
    ∀ o ∈ ops, o.brings r = true → op.brings r = true ∨ op.fans = true := by
  intro o ho hb
  obtain ⟨msg, hc, hp⟩ := carries_of_brings hb
  rcases h.carries o ho hc with h | ⟨_, _, _, rfl, -, -⟩
  · exact Or.inl (brings_of_carries h hp)
  · exact Or.inr rfl

theorem fans_afterFrame {t : ℕ} {frame : Frame} {ok : Bool} : ∀ o ∈ afterFrame t frame ok, o.fans = false := by
  intro o ho
  cases frame <;> cases ok <;> simp only [afterFrame, List.mem_singleton, List.not_mem_nil] at ho <;> subst ho <;> rfl

theorem Exec.fans {m m' : Memory} {g : Goroutine} {op : Op} {ops : List Op} (h : Exec cfg m g op m' ops) :
    ∀ o ∈ ops, o.fans = true → op.fans = true := by
  intro o ho hf
  cases h with
  | publish => rfl
  | publishLocal => rfl
  | lockRefused | written | writeFailed => rw [fans_afterFrame o ho] at hf; cases hf
  | closeAllSockets targets =>
    rcases List.mem_append.1 ho with ho | ho
    · obtain ⟨t, -, rfl⟩ := List.mem_map.1 ho; cases hf
    · rw [List.mem_singleton.1 ho] at hf; cases hf
  | hubAdd _ _ hooks hh | hubRemove _ _ hooks hh | ensure _ _ hooks hh =>
    rcases hh with rfl | rfl
    · cases ho
    · rw [List.mem_singleton.1 ho] at hf; cases hf
  | enqueue | selectFull | closeWon | lock | setClosed | lockClosed | awaitSockets =>
    rw [List.mem_singleton.1 ho] at hf; cases hf
  | _ => cases ho

theorem apart_of_not_brings {ops : List Op} (h : ∀ o ∈ ops, ∀ r, o.brings r = false) : ops.Pairwise Apart :=
  (List.pairwise_of_forall (R := fun _ _ => True) fun _ _ => trivial).imp_of_mem fun _ hb _ r _ => h _ hb r

/-- A section leaves at most one packet for each socket, and none behind a fan-out. -/
theorem Exec.spaced {m m' : Memory} {g : Goroutine} {op : Op} {ops : List Op} (h : Exec cfg m g op m' ops) :
    ops.Pairwise Apart := by
  have hb : ∀ o ∈ ops, ∀ r, o.brings r = true → op.brings r = true ∨ op.fans = true := fun o ho r => h.brings o ho
  cases h with
  | publishLocal call channel data targets hn =>
    rw [List.pairwise_map]
    refine hn.imp fun hne r hr => ?_
    rcases hr with hr | hr
    · cases hr
    · have := of_decide_eq_true (Bool.and_eq_true_iff.1 hr).1
      subst this
      simp [Op.brings, hne.symm]
  | enqueue | selectFull => exact List.pairwise_singleton _ _
  | enqueueClosed | selectDone | selectSend => exact List.Pairwise.nil
  | publish => exact apart_of_not_brings (by simp [Op.brings])
  | _ =>
    refine apart_of_not_brings fun o ho r => ?_
    by_contra hr
    rcases hb o ho r (by simpa using hr) with h | h <;> cases h

theorem Start.brings {m m' : Memory} {w : Work} {g : Goroutine} {ops : List Op} (h : Start p cfg m w g m' ops) :
    ∀ o ∈ ops, ∀ r, o.brings r = false := by
  intro o ho r
  by_contra hb
  obtain ⟨msg, hc, hp⟩ := carries_of_brings (by simpa using hb)
  rw [(h.carries o ho hc).2] at hp
  cases hp

/-- In every list the packets of one fan-out are apart. -/
def Spaced (s : State) : Prop := ∀ g, (s.todo g).Pairwise Apart

theorem spaced_init : Spaced init := fun _ => List.Pairwise.nil

theorem spaced_step {s s' : State} {l : Label} (hs : Spaced s) (h : step p cfg s l = some s') : Spaced s' := by
  have h : (system p cfg).step s l = some s' := h
  refine Workers.todo_invariant (R := fun (_ : Goroutine) (ops : List Op) => ops.Pairwise Apart) ?_ ?_ hs h
  · intro g c m m' op ops rest hx hr
    have hx := system_exec hx
    obtain ⟨hop, hrest⟩ := List.pairwise_cons.1 hr
    refine List.pairwise_append.2 ⟨hx.spaced, hrest, fun a ha b hb r har => ?_⟩
    -- what the section leaves is behind nothing that the section itself was not behind
    rcases har with har | har
    · exact hop b hb r (Or.inl (hx.fans a ha har))
    · exact hop b hb r ((hx.brings a ha har).symm)
  · intro w g m m' ops hb
    exact apart_of_not_brings (system_start hb).brings

/-! ## The end of a socket -/

/-- The operation belongs to the close of the connection at the end of `run`. -/
def Op.ends : Op → Bool
  | .setClosed _ | .lockClosed _ | .closeConn _ => true
  | _ => false

def Stage.ending : Stage → Bool
  | .close | .stopTimer | .gone => true
  | _ => false

/-- The read loop of the socket is past its `cleanup` and calls the hub no more. -/
structure Ended (s : State) (t : ℕ) : Prop where
  stage : (s.mem.lives t).stage.ending = true
  pending : ∀ op ∈ s.todo (.readLoop t), op.ends = true

/-- The `done` of a socket is closed when it is. -/
def DoneEnded (s : State) : Prop := ∀ t, (s.mem.conns t).done = true → Ended s t

theorem Exec.ends {m m' : Memory} {g : Goroutine} {op : Op} {ops : List Op} (h : Exec cfg m g op m' ops)
    (he : op.ends = true) : ∀ o ∈ ops, o.ends = true := by
  cases h with
  | setClosed | lockClosed => simp [Op.ends]
  | closeConn => simp
  | _ => cases he

theorem Start.ends {m m' : Memory} {w : Work} {t : ℕ} {ops : List Op} (h : Start p cfg m w (.readLoop t) m' ops)
    (hst : (m.lives t).stage.ending = true) : ∀ o ∈ ops, o.ends = true := by
  have hread : inRead m t = true → (m.lives t).stage = .reading := fun hr => by
    simpa using (Bool.and_eq_true_iff.1 hr).1
  cases h with
  | message _ _ hr | clientPing _ hr | readPing _ _ hr | readClose _ hr | readError _ hr =>
    rw [hread hr] at hst; cases hst
  | event _ _ _ _ _ h' | unregisterSocket _ _ h' | cleanup _ _ h' | closeDone _ _ h' => rw [h'] at hst; cases hst
  | close => simp [Op.ends]
  | stopTimer => simp

theorem Ended.step {s s' : State} {l : Label} {t : ℕ} (hs : Agree cfg s) (ht : Ended s t)
    (h : step p cfg s l = some s') : Ended s' t := by
  cases step_cases h with
  | run g choice op rest ops m hg hx =>
    have hstage : (m.lives t).stage = (s.mem.lives t).stage := by
      rcases hx.stage t with h | ⟨rfl, -⟩
      · exact h
      · have hhome : Goroutine.readLoop t = g := hs.homed g _ (hg ▸ List.mem_cons_self) _ rfl
        rw [← hhome] at hg
        cases ht.pending _ (hg ▸ List.mem_cons_self)
    refine ⟨by rw [Workers.State.assign_mem, hstage]; exact ht.stage, fun o ho => ?_⟩
    rcases Workers.mem_assign_append hg ho with ⟨rfl, hnew⟩ | hold
    · exact hx.ends (ht.pending op (hg ▸ List.mem_cons_self)) o hnew
    · exact ht.pending o hold
  | start w g ops m hg hw =>
    constructor
    · rw [Workers.State.assign_mem]
      rcases hw.stage t with h | ⟨rfl, -⟩ | ⟨-, h⟩
      · rw [h]; exact ht.stage
      · have hst := ht.stage
        rw [(hs.fresh _ le_rfl).1] at hst
        cases hst
      · rw [h]
        have hst := ht.stage
        revert hst
        cases (s.mem.lives t).stage <;> decide
    · intro o ho
      rcases Workers.mem_assign ho with ⟨rfl, hnew⟩ | ⟨-, hold⟩
      · exact hw.ends ht.stage o hnew
      · exact ht.pending o hold
  | stall t' => exact ⟨ht.stage, ht.pending⟩

theorem doneEnded_init : DoneEnded init := fun _ h => by cases h

theorem doneEnded_step {s s' : State} {l : Label} (hs : DoneEnded s) (ha : Agree cfg s)
    (h : step p cfg s l = some s') : DoneEnded s' := by
  intro t hd
  by_cases hold : (s.mem.conns t).done = true
  · exact (hs t hold).step ha h
  · cases step_cases h with
    | run g choice op rest ops m hg hx =>
      rw [Workers.State.assign_mem, hx.done t] at hd
      exact absurd hd hold
    | start w g ops m hg hw =>
      by_cases hne : g = .readLoop t
      · subst hne
        cases hw with
        | closeDone => exact ⟨by simp [Memory.setStage, Memory.setLife, Stage.ending], by simp⟩
        | _ => exact absurd hd hold
      · rw [Workers.State.assign_mem, hw.done hne] at hd
        exact absurd hd hold
    | stall t' =>
      refine absurd ?_ hold
      rwa [← setConn_same (m := s.mem) (t := t') (c := { s.mem.conns t' with stalled := true }) Conn.done rfl t]

/-- An ended socket is in no channel. -/
theorem Ended.notMem {s : State} {t : ℕ} (ht : Ended s t) (ha : Agree cfg s) (c : String) :
    t ∉ s.mem.hub.members c := by
  have hbetween : Between s t := fun op hop => by
    have := ht.pending op hop
    cases op <;> first | rfl | cases this
  have hidle := ha.idle t (by
    have hst := ht.stage
    revert hst
    cases (s.mem.lives t).stage <;> decide)
  rw [← ha.between hbetween c, hidle]
  simp

/-! ## What the log says -/

/-- The text is no `#publish` packet, or the packet of the publish it is said to come from. -/
def Entry.Genuine (e : Entry) : Prop :=
  e.msg.packet.plain = true ∧ e.source = none ∨
    ∃ g n, e.source = some (g, n) ∧ e.msg.packet = .publish n.channel n.data

/-- The log is right: a packet on its way is the one of the last publish of its goroutine, for a socket of
its snapshot, and the texts a channel accepted are there with their sources. -/
structure Logged (s : State) (log : Log) : Prop where
  pending : ∀ g, ∀ o ∈ s.todo g, ∀ r, o.brings r = true → ∃ n msg, (log.published g).getLast? = some n ∧
    o.carries = some (r, msg) ∧ msg.packet = .publish n.channel n.data ∧ r ∈ n.targets
  accepted : ∀ t, (log.accepted t).map Entry.msg = (s.mem.conns t).queued
  source : ∀ t, ∀ e ∈ log.accepted t, e.Genuine
  numbers : ∀ g, (log.published g).map Note.number = List.range (log.published g).length

theorem logged_init : Logged init newLog where
  pending _ _ h := nomatch h
  accepted _ := rfl
  source _ _ h := nomatch h
  numbers _ := rfl

theorem queued_setConn {m : Memory} {t' : ℕ} {c : Conn} (h : c.queued = (m.conns t').queued) (t : ℕ) :
    ((m.setConn t' c).conns t).queued = (m.conns t).queued :=
  setConn_same Conn.queued h t

theorem source_of_getLast {log : Log} {g : Goroutine} {n : Note} {msg : Message}
    (hp : msg.packet.plain = false) (h : (log.published g).getLast? = some n) : log.source g msg = some (g, n) := by
  simp [Log.source, hp, h]

/-- Behind a packet for the socket, or a fan-out, there is no packet for it. -/
theorem Spaced.rest {s : State} (hs : Spaced s) {g : Goroutine} {op : Op} {rest : List Op} (hg : s.todo g = op :: rest)
    {r : ℕ} (h : op.fans = true ∨ op.brings r = true) : ∀ o ∈ rest, o.brings r = false := fun o ho =>
  (List.pairwise_cons.1 (show (op :: rest).Pairwise Apart from hg ▸ hs g)).1 o ho r h

/-- The text a goroutine hands to a channel is as the log has it. -/
theorem Logged.genuine {s : State} {log : Log} (hl : Logged s log) {g : Goroutine} {t : ℕ} {msg : Message}
    (h : Op.selectOutbound t msg ∈ s.todo g) : Entry.Genuine ⟨msg, log.source g msg⟩ := by
  cases hp : msg.packet.plain with
  | true => exact Or.inl ⟨hp, by simp [Log.source, hp]⟩
  | false =>
    have hb : (Op.selectOutbound t msg).brings t = true := by simp [Op.brings, hp]
    obtain ⟨n, msg', hlast, hc, hpacket, -⟩ := hl.pending g _ h t hb
    cases hc
    exact Or.inr ⟨g, n, source_of_getLast hp hlast, hpacket⟩

theorem Logged.observed {s s' : State} {log log' : Log} (hl : Logged s log) (hs : Spaced s)
    (h : Observed p cfg s log s' log') : Logged s' log' := by
  cases h with
  | publish g call channel data targets rest hg hn ht =>
    have hrest : ∀ o ∈ rest, ∀ r, o.brings r = false := fun o ho r => hs.rest hg (Or.inl rfl) o ho
    refine ⟨fun g' o ho r hb => ?_, hl.accepted, hl.source, fun g' => ?_⟩
    · rcases Workers.mem_assign ho with ⟨rfl, hself⟩ | ⟨he, hold⟩
      · rcases List.mem_append.1 hself with hnew | hold
        · obtain ⟨t, htm, rfl⟩ := List.mem_map.1 hnew
          obtain rfl := of_decide_eq_true (Bool.and_eq_true_iff.1 hb).1
          exact ⟨⟨(log.published g').length, channel, data, targets⟩, _, by simp [Log.publish_self], rfl, rfl, htm⟩
        · rw [hrest o hold r] at hb
          cases hb
      · rw [Log.publish_of_ne _ he]
        exact hl.pending g' o hold r hb
    · by_cases he : g' = g
      · subst he
        simp [Log.publish_self, hl.numbers, List.range_succ]
      · rw [Log.publish_of_ne _ he]
        exact hl.numbers g'
  | accept g t msg rest hg =>
    refine ⟨fun g' o ho r hb => ?_, fun t' => ?_, fun t' e he => ?_, hl.numbers⟩
    · rcases Workers.mem_assign ho with ⟨rfl, hself⟩ | ⟨-, hold⟩
      · exact hl.pending g' o (hg ▸ List.mem_cons_of_mem _ hself) r hb
      · exact hl.pending g' o hold r hb
    · by_cases he : t' = t
      · subst he
        simp [Log.accept_self, Memory.setConn, hl.accepted]
      · simp [Log.accept_of_ne _ _ he, Memory.setConn, he, hl.accepted]
    · by_cases ht : t' = t
      · subst ht
        rw [Log.accept_self] at he
        rcases List.mem_append.1 he with he | he
        · exact hl.source t' e he
        · rw [List.mem_singleton.1 he]
          exact hl.genuine (hg ▸ List.mem_cons_self)
      · rw [Log.accept_of_ne _ _ ht] at he
        exact hl.source t' e he
  | run g op rest ops m hg hx hq hop =>
    refine ⟨fun g' o ho r hb => ?_, fun t => by rw [Workers.State.assign_mem, hq, hl.accepted], hl.source, hl.numbers⟩
    rcases Workers.mem_assign_append hg ho with ⟨rfl, hnew⟩ | hold
    · obtain ⟨msg, hc, hp⟩ := carries_of_brings hb
      rcases hx.carries o hnew hc with hc' | ⟨_, _, _, rfl, -, -⟩
      · obtain ⟨n, msg', hlast, hcm, hpacket, hr⟩ :=
          hl.pending g' op (hg ▸ List.mem_cons_self) r (brings_of_carries hc' hp)
        rw [hc'] at hcm
        cases hcm
        exact ⟨n, msg, hlast, hc, hpacket, hr⟩
      · exact absurd rfl (hop _ _ _)
    · exact hl.pending g' o hold r hb
  | start w g ops m hg hw =>
    refine ⟨fun g' o ho r hb => ?_, fun t => by rw [Workers.State.assign_mem, hw.queued, hl.accepted], hl.source,
      hl.numbers⟩
    rcases Workers.mem_assign ho with ⟨-, hnew⟩ | ⟨-, hold⟩
    · rw [hw.brings o hnew r] at hb
      cases hb
    · exact hl.pending g' o hold r hb
  | stall t =>
    exact ⟨hl.pending, fun t' => (hl.accepted t').trans (queued_setConn (by rfl) t').symm, hl.source, hl.numbers⟩
end Server

end NodejsHelper
