/-
Calls and their answers. A handler has some twenty ways to return, and each answers the call exactly
once, except for an `#unsubscribe` whose payload names no channel, which answers nothing
(`handleEvent_answers`). On the node, only the read loop of a socket sends responses to it, and what
it sends is in the queue when the handler is done, unless the socket is closed (`answered_iff`).
-/
import NodejsHelper.Server.Ledger
import NodejsHelper.Server.Records

namespace NodejsHelper

/-! ## Handlers -/

/-- A response to the call. -/
def Packet.answers (rid : Int) : Packet → Bool
  | .response rid' _ _ => decide (rid' = rid)
  | _ => false

/-- The effect hands a response to the call to the outbound queue. -/
def Effect.answers (rid : Int) : Effect → Bool
  | .send packet => packet.answers rid
  | _ => false

/-- An `#unsubscribe` whose payload names no channel. -/
def InEvent.Unanswered (ev : InEvent) : Prop := ev.event = "#unsubscribe" ∧ (parseChannelPayload ev.data).1 = ""

instance (ev : InEvent) : Decidable ev.Unanswered := inferInstanceAs (Decidable (_ ∧ _))

/-- How many responses to the call the event is to get: one when it carries this cid. -/
def InEvent.calls (ev : InEvent) (rid : Int) : ℕ := if ev.cid = some rid then 1 else 0

section

variable {p : Auth.Primitives} {cfg : Config}

theorem respond_answers (ev : InEvent) (data : Option Json) (rid : Int) :
    (respond ev data).countP (Effect.answers rid) = ev.calls rid := by
  unfold respond InEvent.calls
  cases ev.cid with
  | none => rfl
  | some c => by_cases hc : c = rid <;> simp [Effect.answers, Packet.answers, hc]

theorem respondError_answers (ev : InEvent) (name message : String) (rid : Int) :
    (respondError ev name message).countP (Effect.answers rid) = ev.calls rid := by
  unfold respondError InEvent.calls
  cases ev.cid with
  | none => rfl
  | some c => by_cases hc : c = rid <;> simp [Effect.answers, Packet.answers, hc]

theorem handleLogin_answers (s : Socket) (ev : InEvent) (clock : Clock) (rid : Int) :
    (handleLogin p cfg s ev clock).2.countP (Effect.answers rid) = ev.calls rid := by
  unfold handleLogin
  split
  · split
    · split
      · simp [List.countP_append, respond_answers, Effect.answers, Packet.answers]
      · exact respondError_answers ev _ _ rid
    · exact respondError_answers ev _ _ rid
  · exact respondError_answers ev _ _ rid

theorem handleSubscribe_answers (s : Socket) (ev : InEvent) (rid : Int) :
    (handleSubscribe cfg s ev).2.countP (Effect.answers rid) = ev.calls rid := by
  have hpresence : ∀ token channel, (subscribePresence cfg token channel).countP (Effect.answers rid) = 0 := by
    intro token channel
    unfold subscribePresence
    split
    · rfl
    · split <;> rfl
  unfold handleSubscribe
  simp only
  split
  · exact respondError_answers ev _ _ rid
  · split
    · exact respondError_answers ev _ _ rid
    · split
      · exact respondError_answers ev _ _ rid
      · split
        · exact respondError_answers ev _ _ rid
        · split
          · exact respondError_answers ev _ _ rid
          · rw [List.countP_append, List.countP_append, hpresence, respond_answers]
            simp [Effect.answers]

theorem handleUnsubscribe_answers (s : Socket) (ev : InEvent) (rid : Int) :
    (handleUnsubscribe s ev).2.countP (Effect.answers rid) =
      if (parseChannelPayload ev.data).1 = "" then 0 else ev.calls rid := by
  unfold handleUnsubscribe
  simp only
  split
  · rfl
  · split
    · rw [List.countP_cons, respond_answers]
      simp [Effect.answers]
    · exact respond_answers ev _ rid

theorem handlePublish_answers (s : Socket) (ev : InEvent) (rid : Int) :
    (handlePublish cfg s ev).2.countP (Effect.answers rid) = ev.calls rid := by
  unfold handlePublish
  rw [List.countP_append, respond_answers, Nat.add_eq_left]
  split
  · repeat' split
    all_goals rfl
  · rfl

/-- Every event gets the responses its cid asks for, in whatever state and configuration, but for an
unanswered one; a `#disconnect` is not a call. -/
theorem handleEvent_answers (s : Socket) {ev : InEvent} (clock : Clock) (hd : ev.event = "#disconnect" → ev.cid = none)
    (rid : Int) :
    (handleEvent p cfg s ev clock).2.countP (Effect.answers rid) = if ev.Unanswered then 0 else ev.calls rid := by
  have hother : ev.event ≠ "#unsubscribe" → (if ev.Unanswered then 0 else ev.calls rid) = ev.calls rid :=
    fun h => if_neg fun hu => h hu.1
  unfold handleEvent
  split
  case h_1 h => rw [hother (by rw [h]; decide)]; exact respond_answers ev _ rid
  case h_2 h => rw [hother (by rw [h]; decide)]; exact handleSubscribe_answers s ev rid
  case h_3 h =>
    rw [handleUnsubscribe_answers]
    simp only [InEvent.Unanswered, h, true_and]
  case h_4 h => rw [hother (by rw [h]; decide)]; exact handlePublish_answers s ev rid
  case h_5 h => rw [hother (by rw [h]; decide)]; exact respond_answers ev _ rid
  case h_6 h => rw [hother (by rw [h]; decide)]; exact respond_answers ev _ rid
  case h_7 h =>
    rw [hother (by rw [h]; decide), InEvent.calls, hd h]
    rfl
  case h_8 h => rw [hother (by rw [h]; decide)]; exact handleLogin_answers s ev clock rid
  case h_9 => exact (respondError_answers ev _ _ rid).trans (hother (by assumption)).symm

end

namespace Server

variable {p : Auth.Primitives} {cfg : Config}

/-! ## The way into the queue -/

/-- The operation may still bring a response to the call into the queue of the socket. -/
def Op.answers (t : ℕ) (rid : Int) : Op → Bool
  | .enqueueText t' msg | .selectOutbound t' msg => decide (t' = t) && msg.packet.answers rid
  | _ => false

/-- How many responses to the call the queue of a socket has taken. -/
def answered (m : Memory) (t : ℕ) (rid : Int) : ℕ := (m.conns t).queued.countP fun msg => msg.packet.answers rid

theorem carries_of_answers {t : ℕ} {rid : Int} {op : Op} (h : op.answers t rid = true) :
    ∃ msg, op.carries = some (t, msg) ∧ msg.packet.answers rid = true := by
  cases op with
  | enqueueText t' msg | selectOutbound t' msg =>
    simp only [Op.answers, Bool.and_eq_true, decide_eq_true_eq] at h
    exact ⟨msg, by rw [← h.1]; rfl, h.2⟩
  | _ => cases h

theorem answers_opOf (t : ℕ) (rid : Int) (e : Effect) : (opOf t e).answers t rid = e.answers rid := by
  cases e <;> simp [opOf, Op.answers, Effect.answers]

/-- A response is on its way to a socket from the read loop of that socket only. -/
def Answering (s : State) : Prop := ∀ g, ∀ o ∈ s.todo g, ∀ t rid, o.answers t rid = true → g = .readLoop t

theorem Start.answers {m m' : Memory} {w : Work} {g : Goroutine} {ops : List Op} (h : Start p cfg m w g m' ops)
    {t : ℕ} {rid : Int} : ∀ o ∈ ops, o.answers t rid = true → g = .readLoop t := by
  intro o ho ha
  have hmap : ∀ t' (out : List Effect), o ∈ out.map (opOf t') → Goroutine.readLoop t' = .readLoop t := by
    rintro t' out hm
    obtain ⟨e, -, rfl⟩ := List.mem_map.1 hm
    cases e <;> simp_all [opOf, Op.answers]
  cases h with
  | event t' | cleanup t' => exact hmap t' _ ho
  | readClose => rcases List.mem_cons.1 ho with rfl | ho <;> simp_all [Op.answers]
  | handshakeTimeout t ops hops => rcases hops with rfl | rfl <;> simp_all [Op.answers]
  | _ => simp_all [Op.answers, Packet.answers]

theorem answering_init : Answering init := fun _ _ ho => nomatch ho

theorem answering_step {s s' : State} {l : Label} (hs : Answering s) (h : step p cfg s l = some s') : Answering s' := by
  have h : (system p cfg).step s l = some s' := h
  refine Workers.pending_invariant
    (Q := fun (g : Goroutine) (o : Op) => ∀ t rid, o.answers t rid = true → g = .readLoop t) ?_ ?_ hs h
  · intro g c m m' op ops hx hq o ho t rid ha
    obtain ⟨msg, hc, hm⟩ := carries_of_answers ha
    rcases (system_exec hx).carries o ho hc with hold | ⟨call, channel, data, -, -, rfl⟩
    · refine hq t rid ?_
      cases op with
      | enqueueText t' msg' | selectOutbound t' msg' => cases hold; simp [Op.answers, hm]
      | _ => cases hold
    · cases hm
  · intro w g m m' ops hb o ho t rid
    exact (system_start hb).answers o ho

/-! ## While a handler runs -/

theorem Exec.answers_of_not {m m' : Memory} {g : Goroutine} {op : Op} {ops : List Op} (h : Exec cfg m g op m' ops)
    {t : ℕ} {rid : Int} (hop : op.answers t rid = false) :
    ops.countP (Op.answers t rid) = 0 ∧ answered m' t rid = answered m t rid := by
  constructor
  · refine List.countP_eq_zero.2 fun o ho ha => ?_
    obtain ⟨msg, hc, hm⟩ := carries_of_answers ha
    rcases h.carries o ho hc with hold | ⟨call, channel, data, -, -, rfl⟩
    · cases op with
      | enqueueText t' msg' | selectOutbound t' msg' => cases hold; simp [Op.answers, hm] at hop
      | _ => cases hold
    · cases hm
  · rcases h.queued t with hq | ⟨msg, rfl, -, hq⟩
    · rw [answered, answered, hq]
    · rw [answered, answered, hq, List.countP_append, List.countP_singleton]
      simp only [Op.answers, decide_true, Bool.true_and] at hop
      simp [hop]

/-- A section hands a response on, queues it, or drops it because the socket is closed, its `run` has
ended, or its queue is full. -/
theorem Exec.answers {m m' : Memory} {g : Goroutine} {op : Op} {ops : List Op} (h : Exec cfg m g op m' ops) (t : ℕ)
    (rid : Int) : ops.countP (Op.answers t rid) + answered m' t rid =
      [op].countP (Op.answers t rid) + answered m t rid ∨
      [op].countP (Op.answers t rid) = 1 ∧ ops.countP (Op.answers t rid) + answered m' t rid = answered m t rid ∧
        ((m.conns t).closed = true ∨ (m.conns t).done = true ∨ ops = [.closeWith t 1008 "Outbound queue full"]) := by
  cases hop : op.answers t rid with
  | false =>
    obtain ⟨hops, ha⟩ := h.answers_of_not hop
    exact Or.inl (by rw [hops, ha, List.countP_singleton, hop]; rfl)
  | true =>
    have hone : [op].countP (Op.answers t rid) = 1 := by rw [List.countP_singleton, hop]; rfl
    cases h with
    | enqueueClosed t' msg hc =>
      simp only [Op.answers, Bool.and_eq_true, decide_eq_true_eq] at hop
      exact Or.inr ⟨hone, Nat.zero_add _, Or.inl (hop.1 ▸ hc)⟩
    | enqueue t' msg => exact Or.inl rfl
    | selectDone t' msg hd =>
      simp only [Op.answers, Bool.and_eq_true, decide_eq_true_eq] at hop
      exact Or.inr ⟨hone, Nat.zero_add _, Or.inr (Or.inl (hop.1 ▸ hd))⟩
    | selectSend t' msg =>
      simp only [Op.answers, Bool.and_eq_true, decide_eq_true_eq] at hop
      obtain ⟨rfl, hm⟩ := hop
      refine Or.inl ?_
      rw [hone, List.countP_nil, Nat.zero_add, Nat.add_comm]
      simp [answered, Memory.setConn, List.countP_append, hm]
    | selectFull t' msg =>
      simp only [Op.answers, Bool.and_eq_true, decide_eq_true_eq] at hop
      exact Or.inr ⟨hone, Nat.zero_add _, Or.inr (Or.inr (by rw [hop.1]))⟩
    | _ => cases hop

/-- The `done` of a socket is closed by the teardown of its own read loop only. -/
theorem Exec.done {m m' : Memory} {g : Goroutine} {op : Op} {ops : List Op} (h : Exec cfg m g op m' ops) (t : ℕ) :
    (m'.conns t).done = (m.conns t).done := by
  cases h with
  | lockRefused t' frame => rw [(frameFailed_frame m t' frame).2.2.2.1]
  | writeFailed t' frame =>
    rw [(frameFailed_frame (m.setConn t' { m.conns t' with writeMu := none }) t' frame).2.2.2.1]
    exact setConn_same Conn.done (by rfl) t
  | selectSend | closeWon | lock | written | setClosed | lockClosed | closeConn =>
    exact setConn_same Conn.done (by rfl) t
  | _ => rfl

theorem Start.done {m m' : Memory} {w : Work} {g : Goroutine} {ops : List Op} (h : Start p cfg m w g m' ops) {t : ℕ}
    (hg : g ≠ .readLoop t) : (m'.conns t).done = (m.conns t).done := by
  cases h with
  | closeDone t' =>
    have ht : t ≠ t' := by rintro rfl; exact hg rfl
    simp [Memory.setConn, Memory.setStage, Memory.setLife, ht]
  | dequeue => exact setConn_same Conn.done (by rfl) t
  | _ => rfl

/-- How many responses to the call the read loop of the socket is still to hand over. -/
def owed (s : State) (t : ℕ) (rid : Int) : ℕ := (s.todo (.readLoop t)).countP (Op.answers t rid)

/-- The read loop is about to close its socket for a full queue. -/
def Overflowing (s : State) (t : ℕ) : Prop := .closeWith t 1008 "Outbound queue full" ∈ s.todo (.readLoop t)

/-- A handler of a call is at work: the queue had taken `before` responses and is to take `due` more,
unless the socket is closed or about to be. -/
structure Serving (t : ℕ) (before due : Int → ℕ) (s : State) : Prop where
  answering : Answering s
  running : (s.mem.conns t).done = false
  lower : ∀ rid, before rid ≤ answered s.mem t rid
  upper : ∀ rid, owed s t rid + answered s.mem t rid ≤ before rid + due rid
  exact : ∀ rid, owed s t rid + answered s.mem t rid = before rid + due rid ∨ (s.mem.conns t).closed = true ∨
    Overflowing s t

theorem answered_setConn {m : Memory} {t' : ℕ} {c : Conn} (h : c.queued = (m.conns t').queued) (t : ℕ) (rid : Int) :
    answered (m.setConn t' c) t rid = answered m t rid := by
  rw [answered, answered, setConn_same Conn.queued h]

theorem Exec.answered_le {m m' : Memory} {g : Goroutine} {op : Op} {ops : List Op} (h : Exec cfg m g op m' ops) (t : ℕ)
    (rid : Int) : answered m t rid ≤ answered m' t rid := by
  rcases h.queued t with hq | ⟨msg, -, -, hq⟩
  · rw [answered, answered, hq]
  · rw [answered, answered, hq, List.countP_append]
    exact Nat.le_add_right _ _

/-- A section of any goroutine keeps the books of the handler. -/
theorem Serving.run {t : ℕ} {before due : Int → ℕ} {s : State} (hs : Serving t before due s) {g : Goroutine}
    {op : Op} {rest ops : List Op} {m : Memory} (ht : s.todo g = op :: rest) (hx : Exec cfg s.mem g op m ops)
    (ha' : Answering (s.assign g m (ops ++ rest))) : Serving t before due (s.assign g m (ops ++ rest)) := by
  have hmine : ∀ rid, ∀ g', ∀ o ∈ s.todo g', o.answers t rid = true → g' = .readLoop t :=
    fun rid g' o ho => hs.answering g' o ho t rid
  have hcount : ∀ rid, owed (s.assign g m (ops ++ rest)) t rid + [op].countP (Op.answers t rid) =
      owed s t rid + ops.countP (Op.answers t rid) :=
    fun rid => Workers.countP_run ht (hmine rid) fun g' o ho => ha' g' o ho t rid
  obtain ⟨hclosed, -⟩ := hx.lasting t
  refine ⟨ha', (hx.done t).trans hs.running, fun rid => (hs.lower rid).trans (hx.answered_le t rid), fun rid => ?_,
    fun rid => ?_⟩
  · have := hcount rid
    have := hs.upper rid
    rw [Workers.State.assign_mem]
    rcases hx.answers t rid with he | ⟨hone, he, -⟩ <;> omega
  · rw [Workers.State.assign_mem]
    have hcl : Overflowing s t → (m.conns t).closed = true ∨ Overflowing (s.assign g m (ops ++ rest)) t := by
      intro hcl
      rcases Workers.mem_assign_of_mem ht hcl with ⟨-, rfl⟩ | hkept
      · exact Or.inl hx.closes
      · exact Or.inr hkept
    have hc := hcount rid
    -- exact so far, or the socket is closed, or its queue has overflown
    rcases hs.exact rid with hs' | hs' | hs'
    · rcases hx.answers t rid with he | ⟨hone, he, hshut⟩
      · exact Or.inl (by omega)
      · rcases hshut with hshut | hshut | rfl
        · exact Or.inr (Or.inl (hclosed hshut))
        · rw [hs.running] at hshut; cases hshut
        · have hg : g = .readLoop t := by
            refine hs.answering g op (ht ▸ List.mem_cons_self) t rid ?_
            by_contra hno
            rw [List.countP_singleton, if_neg hno] at hone
            cases hone
          -- the answer found the queue full
          subst hg
          exact Or.inr (Or.inr (by unfold Overflowing; rw [Workers.State.assign_todo_self]; exact List.mem_cons_self))
    · exact Or.inr (Or.inl (hclosed hs'))
    · exact Or.inr (hcl hs')

/-- No step but of the handler's own read loop touches its books, and no other work is taken up there. -/
theorem serving_step {t : ℕ} {before due : Int → ℕ} {s s' : State} {l : Label} (hbusy : s.todo (.readLoop t) ≠ [])
    (hs : Serving t before due s) (h : step p cfg s l = some s') : Serving t before due s' := by
  have ha' := answering_step hs.answering h
  cases step_cases h with
  | run g choice op rest ops m ht hx => exact hs.run ht hx ha'
  | start w g ops m ht hw =>
    have hg : Goroutine.readLoop t ≠ g := fun he => hbusy (he ▸ ht)
    have howed : ∀ rid, owed (s.assign g m ops) t rid = owed s t rid := fun rid => by
      rw [owed, Workers.State.assign_todo_of_ne hg]; rfl
    have hans : ∀ rid, answered m t rid = answered s.mem t rid := fun rid => by rw [answered, hw.queued t]; rfl
    refine ⟨ha', (hw.done hg.symm).trans hs.running, fun rid => ?_, fun rid => ?_, fun rid => ?_⟩
    · rw [Workers.State.assign_mem, hans]; exact hs.lower rid
    · rw [Workers.State.assign_mem, hans, howed]; exact hs.upper rid
    · rw [Workers.State.assign_mem, hans, howed]
      rcases hs.exact rid with hs' | hs' | hs'
      · exact Or.inl hs'
      · exact Or.inr (Or.inl ((hw.lasting t).1 hs'))
      · exact Or.inr (Or.inr (by unfold Overflowing; rw [Workers.State.assign_todo_of_ne hg]; exact hs'))
  | stall t' =>
    have hans : ∀ rid, answered (s.mem.setConn t' { s.mem.conns t' with stalled := true }) t rid =
      answered s.mem t rid :=
      answered_setConn (by rfl) t
    have hdone : ((s.mem.setConn t' { s.mem.conns t' with stalled := true }).conns t).done = (s.mem.conns t).done :=
      setConn_same Conn.done (by rfl) t
    have hclosed : ((s.mem.setConn t' { s.mem.conns t' with stalled := true }).conns t).closed =
      (s.mem.conns t).closed :=
      setConn_same Conn.closed (by rfl) t
    refine ⟨ha', hdone.trans hs.running, fun rid => ?_, fun rid => ?_, fun rid => ?_⟩
    · rw [hans]; exact hs.lower rid
    · rw [hans]; exact hs.upper rid
    · rw [hans, hclosed]; exact hs.exact rid

/-! ## Every call is answered exactly once -/

/-- The socket is open: it is not closed, and its `run` has not ended. -/
structure Open (s : State) (t : ℕ) : Prop where
  closed : (s.mem.conns t).closed = false
  done : (s.mem.conns t).done = false

variable (p cfg) in
/-- The read loop of the socket takes up the event in `s` and is done with it in `s'`, whatever the rest
of the node does in between. -/
structure HandledIn (t : ℕ) (ev : InEvent) (s s' : State) : Prop where
  next : (s.mem.batch t).head? = some ev
  handled : ∃ clock s₁ tr, step p cfg s (.start (.event t clock)) = some s₁ ∧
    Transition.EachStep (step p cfg) (fun m _ => m.todo (.readLoop t) ≠ []) s₁ tr ∧
    Transition.run (step p cfg) s₁ tr = some s' ∧ s'.todo (.readLoop t) = []

variable (p cfg) in
/-- The event is answered as its cid asks for: the handler hands the queue exactly one response with
this cid, or none without one, and when the read loop is done with the event the queue has taken it,
or the socket is closed. -/
structure Answered (t : ℕ) (ev : InEvent) (s : State) : Prop where
  handed : ∀ clock rid, (handleEvent p cfg (s.mem.sockets t) ev clock).2.countP (Effect.answers rid) = ev.calls rid
  queued : ∀ s', HandledIn p cfg t ev s s' → ∀ rid, answered s'.mem t rid = answered s.mem t rid + ev.calls rid ∨
    (s'.mem.conns t).closed = true ∧ answered s'.mem t rid = answered s.mem t rid

theorem countP_opOf (t : ℕ) (rid : Int) (out : List Effect) :
    (out.map (opOf t)).countP (Op.answers t rid) = out.countP (Effect.answers rid) := by
  rw [List.countP_map]
  exact List.countP_congr fun e _ => by rw [Function.comp_apply, answers_opOf]

/-- Taking up an event opens its books: the handler owes the responses it is to hand over. -/
theorem serving_start {t : ℕ} {ev : InEvent} {s s₁ : State} {clock : Clock} {due : Int → ℕ} (hs : Answering s)
    (hopen : Open s t) (hnext : (s.mem.batch t).head? = some ev)
    (hdue : ∀ rid, (handleEvent p cfg (s.mem.sockets t) ev clock).2.countP (Effect.answers rid) = due rid)
    (h : step p cfg s (.start (.event t clock)) = some s₁) : Serving t (answered s.mem t) due s₁ := by
  have ha := answering_step hs h
  cases step_cases h with
  | start w g ops m ht hw =>
    cases hw with
    | event _ _ ev' evs hb =>
      rw [hb, List.head?_cons, Option.some.injEq] at hnext
      subst hnext
      have howed : ∀ rid, owed (s.assign (.readLoop t)
          ((s.mem.setBatch t evs).setSocket t (handleEvent p cfg (s.mem.sockets t) ev' clock).1)
          ((handleEvent p cfg (s.mem.sockets t) ev' clock).2.map (opOf t))) t rid = due rid := by
        intro rid
        rw [owed, Workers.State.assign_todo_self, countP_opOf, hdue]
      refine ⟨ha, hopen.done, fun rid => le_rfl, fun rid => ?_, fun rid => Or.inl ?_⟩
      · rw [howed, Nat.add_comm]; exact le_rfl
      · rw [howed, Nat.add_comm]; rfl

variable (p cfg) in
/-- Every event of an open socket is answered exactly once if it carries a cid, and never otherwise, if
and only if it is no `#unsubscribe` with a cid and without a channel. -/
theorem answered_iff (tr : List Label) {s : State} (h : Transition.run (step p cfg) init tr = some s) {t : ℕ}
    (hopen : Open s t) {ev : InEvent} (hd : ev.event = "#disconnect" → ev.cid = none) :
    Answered p cfg t ev s ↔ ev.cid = none ∨ ¬ ev.Unanswered := by
  have hanswers : ∀ clock rid, (handleEvent p cfg (s.mem.sockets t) ev clock).2.countP (Effect.answers rid) =
      if ev.Unanswered then 0 else ev.calls rid := fun clock rid => handleEvent_answers (s.mem.sockets t) clock hd rid
  constructor
  · intro ha
    by_contra hno
    rw [not_or, not_not] at hno
    obtain ⟨c, hc⟩ := Option.ne_none_iff_exists'.1 hno.1
    have hone := (ha.handed (.inSecond 0) c).symm.trans (hanswers (.inSecond 0) c)
    rw [if_pos hno.2, InEvent.calls, if_pos hc] at hone
    cases hone
  · intro hev
    have hdue : ∀ clock rid, (handleEvent p cfg (s.mem.sockets t) ev clock).2.countP (Effect.answers rid) =
      ev.calls rid := by
      intro clock rid
      rw [hanswers clock rid]
      split
      · rename_i hu
        rcases hev with hev | hev
        · simp [InEvent.calls, hev]
        · exact absurd hu hev
      · rfl
    refine ⟨hdue, ?_⟩
    rintro s' ⟨hnext, clock, s₁, tr', hstart, hbusy, hrun, hidle⟩ rid
    have hall : Answering s := Transition.run_invariant (fun _ _ _ hs hst => answering_step hs hst) answering_init h
    have hserving := Transition.run_invariant_each (fun _ _ _ hb hs hst => serving_step hb hs hst) hbusy
      (serving_start hall hopen hnext (hdue clock) hstart) hrun
    have hzero : owed s' t rid = 0 := by rw [owed, hidle]; rfl
    have hlower := hserving.lower rid
    have hupper := hserving.upper rid
    have hcalls : ev.calls rid ≤ 1 := by unfold InEvent.calls; split <;> omega
    rcases hserving.exact rid with he | hc | hc
    · exact Or.inl (by omega)
    · by_cases he : answered s'.mem t rid = answered s.mem t rid
      · exact Or.inr ⟨hc, he⟩
      · exact Or.inl (by omega)
    · unfold Overflowing at hc
      rw [hidle] at hc
      cases hc

/-- A client connects and sends an event. -/
def sampleCall (ev : InEvent) : List Label :=
  [.start (.upgrade "s"), .start (.registerSocket 0), .start (.runSocket 0), .start (.message 0 (frameOf ev))]

def sampleNode : Config := defaultConfig "secret" Auth.sampleKey "node"

/-- A login without data is a call that is answered, with a failure. -/
theorem answered_iff_sample :
    ∃ s, Transition.run (step Auth.sample sampleNode) init (sampleCall ⟨"login", none, some 7⟩) = some s ∧
      Answered Auth.sample sampleNode 0 ⟨"login", none, some 7⟩ s := by
  refine ⟨_, rfl, (answered_iff Auth.sample sampleNode (sampleCall ⟨"login", none, some 7⟩) (by rfl) ⟨rfl, rfl⟩
    (by decide)).2 (Or.inr (by decide))⟩

/-- An `#unsubscribe` without a channel is a call that is never answered: the read loop is done with it
at once, and the socket is open with no response in its queue. -/
theorem unsubscribe_unanswered :
    ∃ s s', Transition.run (step Auth.sample sampleNode) init (sampleCall ⟨"#unsubscribe", some .null, some 7⟩) =
      some s ∧
      Open s 0 ∧ HandledIn Auth.sample sampleNode 0 ⟨"#unsubscribe", some .null, some 7⟩ s s' ∧ Open s' 0 ∧
      answered s'.mem 0 7 = 0 :=
  ⟨_, _, rfl, ⟨rfl, rfl⟩, ⟨rfl, sampleClock, _, [], rfl, trivial, rfl, rfl⟩, ⟨rfl, rfl⟩, rfl⟩

end Server

end NodejsHelper
