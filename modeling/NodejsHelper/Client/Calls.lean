/-
Every call of a client is answered once: in every run, whatever the page does in its listeners and
callbacks and whatever it throws, a callback that was given has been called once or its timeout is set.
-/
import NodejsHelper.Client.Connection

namespace NodejsHelper.SocketCluster

open EventLoop

/-! ## The invariant -/

/-- How often the callback of a call was called. -/
def Memory.answers (m : Memory) (id : ℕ) : ℕ := (m.answered.map (·.1)).count id

/-- The account of a call: its callback has been called once if it has one and the timeout is off, and while
the timeout is on the callback is still there. -/
structure Accounted (m : Memory) (id : ℕ) : Prop where
  answers : m.answers id = if (m.calls id).asked && !(m.calls id).timeout then 1 else 0
  present : (m.calls id).timeout = true → (m.calls id).callback = (m.calls id).asked
  asked : (m.calls id).callback = true → (m.calls id).asked = true

/-- Nothing refers to the call any more. -/
structure Spent (m : Memory) (stack : List Op) (id : ℕ) : Prop where
  detached : id ∉ m.emitBuffer
  unregistered : ∀ k, ∀ e ∈ m.registered k, e.2 ≠ id
  passed : ∀ op ∈ stack, op.node ≠ some id

structure Kept (m : Memory) (stack : List Op) : Prop where
  fresh : ∀ id, m.emitted ≤ id → (m.calls id).asked = false
  buffer_lt : ∀ id ∈ m.emitBuffer, id < m.emitted
  buffer_nodup : m.emitBuffer.Nodup
  registered : ∀ k, ∀ e ∈ m.registered k, e.1 < m.nextCid ∧ e.2 < m.emitted ∧ (m.calls e.2).cid = some e.1 ∧
    e.2 ∉ m.emitBuffer
  once : ∀ k k' e e', e ∈ m.registered k → e' ∈ m.registered k' → e.1 = e'.1 → k = k'
  nodes : ∀ op ∈ stack, ∀ id ∈ op.node, id < m.emitted
  flushing : ∀ id, .flush (some id) ∈ stack → id ∈ m.emitBuffer ∨ (m.calls id).callback = false
  accounted : ∀ id, Accounted m id
  spent : ∀ id, (m.calls id).callback = true → (m.calls id).timeout = false → Spent m stack id
  own : ∀ id rid error data, (id, Answer.response rid error data) ∈ m.answered → (m.calls id).cid = some rid

/-- A callback that is still there and to which something refers has its timeout on. -/
theorem Kept.timeout_on {m : Memory} {stack : List Op} {id : ℕ} (h : Kept m stack)
    (hcallback : (m.calls id).callback = true) (hs : ¬ Spent m stack id) : (m.calls id).timeout = true := by
  by_contra hoff
  exact hs (h.spent id hcallback (Bool.eq_false_iff.2 hoff))

/-! ## Stacks -/

/-- Fewer operations are left. -/
theorem Kept.mono {m : Memory} {stack stack' : List Op} (h : Kept m stack) (hsub : ∀ op ∈ stack', op ∈ stack) :
    Kept m stack' where
  fresh := h.fresh
  buffer_lt := h.buffer_lt
  buffer_nodup := h.buffer_nodup
  registered := h.registered
  once := h.once
  nodes op hop := h.nodes op (hsub op hop)
  flushing id hid := h.flushing id (hsub _ hid)
  accounted := h.accounted
  spent id hcallback htimeout :=
    ⟨(h.spent id hcallback htimeout).detached, (h.spent id hcallback htimeout).unregistered,
      fun op hop => (h.spent id hcallback htimeout).passed op (hsub op hop)⟩
  own := h.own

theorem Kept.tail {m : Memory} {op : Op} {rest : List Op} (h : Kept m (op :: rest)) : Kept m rest :=
  h.mono fun _ ho => List.mem_cons_of_mem op ho

/-- Further operations are left, and the turns among them are for calls in the buffer. -/
theorem Kept.push {m : Memory} {ops rest : List Op} (h : Kept m rest)
    (hops : ∀ op ∈ ops, ∀ id ∈ op.node, id ∈ m.emitBuffer) : Kept m (ops ++ rest) where
  fresh := h.fresh
  buffer_lt := h.buffer_lt
  buffer_nodup := h.buffer_nodup
  registered := h.registered
  once := h.once
  nodes op hop id hid := (List.mem_append.1 hop).elim (fun ho => h.buffer_lt id (hops op ho id hid))
    fun ho => h.nodes op ho id hid
  flushing id hid := (List.mem_append.1 hid).elim (fun ho => Or.inl (hops _ ho id rfl)) (h.flushing id)
  accounted := h.accounted
  spent id hcallback htimeout := by
    have hs := h.spent id hcallback htimeout
    refine ⟨hs.detached, hs.unregistered, fun op hop hnode => ?_⟩
    rcases List.mem_append.1 hop with ho | ho
    · exact hs.detached (hops op ho id hnode)
    · exact hs.passed op ho hnode
  own := h.own

theorem node_of_plain {op : Op} (h : op.plain = true) : op.node = none := by
  cases op with
  | flush node => cases node <;> first | rfl | cases h
  | abortBuffer node => cases node <;> first | rfl | cases h
  | _ => rfl

theorem Kept.push_plain {m : Memory} {ops rest : List Op} (h : Kept m rest) (hops : ∀ op ∈ ops, op.plain = true) :
    Kept m (ops ++ rest) := by
  refine h.push fun op hop id hid => ?_
  rw [node_of_plain (hops op hop)] at hid
  cases hid

/-! ## Memories -/

theorem Kept.of_same {m m' : Memory} {stack : List Op} (h : Kept m stack) (hs : SameCalls m m') : Kept m' stack where
  fresh id hid := by
    rw [hs.calls]
    exact h.fresh id (hs.emitted ▸ hid)
  buffer_lt id hid := by
    rw [hs.emitted]
    exact h.buffer_lt id (hs.buffer ▸ hid)
  buffer_nodup := hs.buffer ▸ h.buffer_nodup
  registered k e he := by
    obtain ⟨hlt, hemitted, hcid, hbuffer⟩ := h.registered k e ((hs.registered k).subset he)
    rw [hs.emitted, hs.calls, hs.buffer]
    exact ⟨hlt.trans_le hs.nextCid, hemitted, hcid, hbuffer⟩
  once k k' e e' he he' := h.once k k' e e' ((hs.registered k).subset he) ((hs.registered k').subset he')
  nodes op hop id hid := by
    rw [hs.emitted]
    exact h.nodes op hop id hid
  flushing id hid := by
    rw [hs.buffer, hs.calls]
    exact h.flushing id hid
  accounted id := by
    obtain ⟨hanswers, hpresent, hasked⟩ := h.accounted id
    refine ⟨?_, ?_, ?_⟩
    · rw [Memory.answers, hs.answered, hs.calls]
      exact hanswers
    · rw [hs.calls]
      exact hpresent
    · rw [hs.calls]
      exact hasked
  spent id := by
    rw [hs.calls]
    intro hcallback htimeout
    have hsp := h.spent id hcallback htimeout
    exact ⟨hs.buffer ▸ hsp.detached, fun k e he => hsp.unregistered k e ((hs.registered k).subset he), hsp.passed⟩
  own id rid error data hmem := by
    rw [hs.calls]
    exact h.own id rid error data (hs.answered ▸ hmem)

@[simp] theorem setCall_self (m : Memory) (id : ℕ) (f : Call → Call) : (m.setCall id f).calls id = f (m.calls id) :=
  Function.update_self ..

theorem setCall_of_ne {m : Memory} {id j : ℕ} (h : j ≠ id) (f : Call → Call) : (m.setCall id f).calls j = m.calls j :=
  Function.update_of_ne h ..

theorem answers_answer (m : Memory) (id : ℕ) (a : Answer) (j : ℕ) :
    (m.answer id a).answers j = m.answers j + if j = id then 1 else 0 := by
  rw [Memory.answers, Memory.answers, Memory.answer, List.map_append, List.count_append]
  congr 1
  by_cases h : j = id
  · subst h
    simp
  · rw [if_neg h, List.count_eq_zero]
    simpa using h

/-- A call has been let go: off the buffer, its timeout off and its callback deleted, after it was called if
there was one. -/
structure Dismissed (m m' : Memory) (id : ℕ) : Prop where
  calls : m'.calls = (m.setCall id fun c => { c with timeout := false, callback := false }).calls
  emitted : m'.emitted = m.emitted
  buffer : m'.emitBuffer = m.emitBuffer.erase id
  nextCid : m'.nextCid = m.nextCid
  registered : ∀ k, m'.registered k = m.registered k
  answers : ∀ j, m'.answers j = m.answers j + if j = id ∧ (m.calls id).callback = true then 1 else 0
  responses : ∀ j rid error data, (j, Answer.response rid error data) ∈ m'.answered →
    (j, .response rid error data) ∈ m.answered

theorem Dismissed.calls_self {m m' : Memory} {id : ℕ} (h : Dismissed m m' id) :
    m'.calls id = { m.calls id with timeout := false, callback := false } := by
  rw [h.calls, setCall_self]

theorem Dismissed.calls_of_ne {m m' : Memory} {id j : ℕ} (h : Dismissed m m' id) (hj : j ≠ id) :
    m'.calls j = m.calls j := by
  rw [h.calls, setCall_of_ne hj]

theorem Kept.dismissed {m m' : Memory} {stack : List Op} {id : ℕ} (h : Kept m stack) (hd : Dismissed m m' id)
    (hon : (m.calls id).callback = true → (m.calls id).timeout = true) : Kept m' stack where
  fresh j hj := by
    rw [hd.emitted] at hj
    by_cases hji : j = id
    · subst hji
      rw [hd.calls_self]
      exact h.fresh j hj
    · rw [hd.calls_of_ne hji]
      exact h.fresh j hj
  buffer_lt j hj := by
    rw [hd.buffer] at hj
    rw [hd.emitted]
    exact h.buffer_lt j (List.mem_of_mem_erase hj)
  buffer_nodup := by
    rw [hd.buffer]
    exact h.buffer_nodup.erase id
  registered k e he := by
    rw [hd.registered] at he
    obtain ⟨hlt, hemitted, hcid, hbuffer⟩ := h.registered k e he
    rw [hd.nextCid, hd.emitted, hd.buffer]
    refine ⟨hlt, hemitted, ?_, fun hb => hbuffer (List.mem_of_mem_erase hb)⟩
    by_cases hji : e.2 = id
    · rw [hji] at hcid ⊢
      rw [hd.calls_self]
      exact hcid
    · rw [hd.calls_of_ne hji]
      exact hcid
  once k k' e e' he he' := h.once k k' e e' (hd.registered k ▸ he) (hd.registered k' ▸ he')
  nodes op hop j hj := by
    rw [hd.emitted]
    exact h.nodes op hop j hj
  flushing j hj := by
    by_cases hji : j = id
    · subst hji
      rw [hd.calls_self]
      exact Or.inr rfl
    · rw [hd.calls_of_ne hji, hd.buffer, List.mem_erase_of_ne hji]
      exact h.flushing j hj
  accounted j := by
    obtain ⟨hanswers, hpresent, hasked⟩ := h.accounted j
    by_cases hji : j = id
    · subst hji
      refine ⟨?_, ?_, ?_⟩ <;> rw [hd.calls_self]
      · -- The callback was there just when the call was asked for and its timeout on.
        rw [hd.answers, hanswers]
        cases hc : (m.calls j).callback <;> cases ht : (m.calls j).timeout <;> cases ha : (m.calls j).asked <;>
          simp_all
      · rintro ⟨⟩
      · rintro ⟨⟩
    · refine ⟨?_, ?_, ?_⟩
      · rw [hd.answers, hd.calls_of_ne hji, if_neg fun hc => hji hc.1]
        exact hanswers
      · rw [hd.calls_of_ne hji]
        exact hpresent
      · rw [hd.calls_of_ne hji]
        exact hasked
  spent j hcallback htimeout := by
    have hji : j ≠ id := by
      rintro rfl
      rw [hd.calls_self] at hcallback
      cases hcallback
    rw [hd.calls_of_ne hji] at hcallback htimeout
    have hs := h.spent j hcallback htimeout
    refine ⟨fun hb => hs.detached ?_, fun k e he => hs.unregistered k e (hd.registered k ▸ he), hs.passed⟩
    rw [hd.buffer] at hb
    exact List.mem_of_mem_erase hb
  own j rid error data hmem := by
    have hcid := h.own j rid error data (hd.responses j rid error data hmem)
    by_cases hji : j = id
    · subst hji
      rw [hd.calls_self]
      exact hcid
    · rw [hd.calls_of_ne hji]
      exact hcid

/-- A call leaves the buffer; if it is to be flushed later still, it has no callback any more. -/
theorem Kept.detach {m : Memory} {stack : List Op} {id : ℕ} (h : Kept m stack)
    (hflush : .flush (some id) ∉ stack ∨ (m.calls id).callback = false) :
    Kept { m with emitBuffer := m.emitBuffer.erase id } stack where
  fresh := h.fresh
  buffer_lt j hj := h.buffer_lt j (List.mem_of_mem_erase hj)
  buffer_nodup := h.buffer_nodup.erase id
  registered k e he :=
    ⟨(h.registered k e he).1, (h.registered k e he).2.1, (h.registered k e he).2.2.1,
      fun hb => (h.registered k e he).2.2.2 (List.mem_of_mem_erase hb)⟩
  once := h.once
  nodes := h.nodes
  flushing j hj := by
    by_cases hji : j = id
    · subst hji
      exact hflush.elim (fun hnot => absurd hj hnot) Or.inr
    · rcases h.flushing j hj with hb | hc
      · exact Or.inl ((List.mem_erase_of_ne hji).2 hb)
      · exact Or.inr hc
  accounted id := ⟨(h.accounted id).answers, (h.accounted id).present, (h.accounted id).asked⟩
  spent j hcallback htimeout :=
    ⟨fun hb => (h.spent j hcallback htimeout).detached (List.mem_of_mem_erase hb),
      (h.spent j hcallback htimeout).unregistered, (h.spent j hcallback htimeout).passed⟩
  own := h.own

/-! ## Operations -/

/-- The item after one of a list is another one of it. -/
theorem next_mem {buffer : List ℕ} (hnodup : buffer.Nodup) {id j : ℕ} (h : j ∈ next buffer id) :
    j ∈ buffer.erase id := by
  induction buffer with
  | nil => cases h
  | cons i buffer ih =>
    obtain ⟨hi, hnodup⟩ := List.nodup_cons.1 hnodup
    by_cases hid : i = id
    · subst hid
      have hj : j ∈ buffer.head? := by simpa [next] using h
      rw [List.erase_cons_head]
      exact List.mem_of_mem_head? hj
    · have hj : j ∈ next buffer id := by simpa [next, List.dropWhile_cons, hid] using h
      rw [List.erase_cons_tail (by simpa using hid)]
      exact List.mem_cons_of_mem i (ih hnodup hj)

/-- A call whose callback is there and is given something other than a response. -/
theorem dismissed_answered {m detached : Memory} {id : ℕ} {a : Answer} (hc : (m.calls id).callback = true)
    (ha : ∀ rid error data, a ≠ .response rid error data)
    (hcalls : detached.calls = (m.setCall id fun c => { c with timeout := false, callback := false }).calls)
    (hemitted : detached.emitted = m.emitted) (hbuffer : detached.emitBuffer = m.emitBuffer.erase id)
    (hnext : detached.nextCid = m.nextCid) (htransports : detached.transports = m.transports)
    (hanswered : detached.answered = m.answered) : Dismissed m (detached.answer id a) id where
  calls := hcalls
  emitted := hemitted
  buffer := hbuffer
  nextCid := hnext
  registered k := by rw [Memory.registered, Memory.registered, ← htransports]; rfl
  answers j := by
    rw [answers_answer, hc, Memory.answers, hanswered, Memory.answers]
    simp only [and_true]
  responses j rid error data hmem := by
    rcases List.mem_append.1 hmem with hmem | hmem
    · exact hanswered ▸ hmem
    · exact absurd (Prod.mk.inj (List.mem_singleton.1 hmem)).2.symm (ha rid error data)

/-- A call whose callback is gone. -/
theorem dismissed_silent {m detached : Memory} {id : ℕ} (hc : ¬ (m.calls id).callback = true)
    (hcalls : detached.calls = (m.setCall id fun c => { c with timeout := false, callback := false }).calls)
    (hemitted : detached.emitted = m.emitted) (hbuffer : detached.emitBuffer = m.emitBuffer.erase id)
    (hnext : detached.nextCid = m.nextCid) (htransports : detached.transports = m.transports)
    (hanswered : detached.answered = m.answered) : Dismissed m detached id where
  calls := hcalls
  emitted := hemitted
  buffer := hbuffer
  nextCid := hnext
  registered k := by rw [Memory.registered, htransports, Memory.registered]
  answers j := by rw [if_neg fun hj => hc hj.2, Memory.answers, hanswered, Memory.answers, Nat.add_zero]
  responses j rid error data hmem := hanswered ▸ hmem

theorem dismissed_abortBuffer (m : Memory) (id : ℕ) : Dismissed m (abortBuffer m id).mem id := by
  unfold abortBuffer
  dsimp only
  split
  · rename_i hc
    exact dismissed_answered hc (by rintro rid error data ⟨⟩) rfl rfl rfl rfl rfl rfl
  · rename_i hc
    exact dismissed_silent hc rfl rfl rfl rfl rfl rfl

theorem dismissed_ackTimeout (m : Memory) (id : ℕ) : Dismissed m (handleEventAckTimeout m id).1 id := by
  unfold handleEventAckTimeout
  dsimp only
  split
  · rename_i hc
    exact dismissed_answered hc (by rintro rid error data ⟨⟩) rfl rfl rfl rfl rfl rfl
  · rename_i hc
    exact dismissed_silent hc rfl rfl rfl rfl rfl rfl

/-- A call in the map of a transport is not in the buffer any more. -/
theorem dismissed_abortEntry {m : Memory} {k id : ℕ} (hid : id ∉ m.emitBuffer) :
    Dismissed m (abortEntry m k (.call id)).mem id := by
  have hbuffer : m.emitBuffer = m.emitBuffer.erase id := (List.erase_of_not_mem hid).symm
  unfold abortEntry
  dsimp only
  split
  · rename_i hc
    exact dismissed_answered hc (by rintro rid error data ⟨⟩) rfl rfl hbuffer rfl rfl rfl
  · rename_i hc
    exact dismissed_silent hc rfl rfl hbuffer rfl rfl rfl

theorem kept_abortBuffer {m : Memory} {id : ℕ} {rest : List Op} (h : Kept m (.abortBuffer (some id) :: rest)) :
    Kept (abortBuffer m id).mem ((abortBuffer m id).ops ++ rest) := by
  have hon : (m.calls id).callback = true → (m.calls id).timeout = true := fun hc =>
    h.timeout_on hc fun hs => hs.passed _ List.mem_cons_self rfl
  have hd := dismissed_abortBuffer m id
  refine (h.tail.dismissed hd hon).push fun op hop j hj => ?_
  rw [hd.buffer]
  have hops : op.node = none ∨ op.node = next m.emitBuffer id := by
    unfold abortBuffer at hop
    dsimp only at hop
    split at hop <;> simp at hop <;> rcases hop with rfl | rfl | rfl <;> simp [Op.node]
  rcases hops with hnone | hnext
  · rw [hnone] at hj
    cases hj
  · exact next_mem h.buffer_nodup (hnext ▸ hj)

/-- An entry of a call in the map of a transport. -/
theorem registered_of_mem {m : Memory} {k cid id : ℕ} (h : (cid, Entry.call id) ∈ (m.transports k).callbackMap) :
    (cid, id) ∈ m.registered k :=
  List.mem_filterMap.2 ⟨_, h, rfl⟩

theorem kept_abortEach {m : Memory} {k cid : ℕ} {stack : List Op} (h : Kept m stack) :
    Kept (abortEach m k cid).mem stack := by
  unfold abortEach
  split
  · rename_i e hfind
    obtain ⟨cid', e⟩ := e
    have hmem := List.mem_of_find?_eq_some hfind
    have hforget := h.of_same (quiet_forget m k cid).calls
    cases e with
    | call id =>
      have hreg := registered_of_mem hmem
      have hdetached := (h.registered k _ hreg).2.2.2
      refine hforget.dismissed (dismissed_abortEntry hdetached) fun hc => ?_
      exact h.timeout_on hc fun hs => hs.unregistered k _ hreg rfl
    | handshake =>
      have ht := tame_abortEntry (m.forget k cid) k (e := .handshake) (by rintro id ⟨⟩)
      exact hforget.of_same ht.quiet.calls
    | subscribe ch =>
      have ht := tame_abortEntry (m.forget k cid) k (e := .subscribe ch) (by rintro id ⟨⟩)
      exact hforget.of_same ht.quiet.calls
  · exact h

theorem kept_append {m : Memory} {event : String} {data : Option Json} {callback : Bool} {stack : List Op}
    (h : Kept m stack) : Kept (append m event data callback).mem stack := by
  have hne : ∀ j, j < m.emitted → j ≠ m.emitted := fun j hj => hj.ne
  have hcalls : ∀ j, j ≠ m.emitted → (append m event data callback).mem.calls j = m.calls j :=
    fun j hj => Function.update_of_ne hj ..
  have hnew : (append m event data callback).mem.calls m.emitted = ⟨event, data, callback, callback, none, true⟩ :=
    Function.update_self ..
  have hzero : m.answers m.emitted = 0 := by
    rw [(h.accounted m.emitted).answers, h.fresh m.emitted le_rfl]
    rfl
  refine ⟨?_, ?_, ?_, ?_, h.once, ?_, ?_, ?_, ?_, ?_⟩
  · intro j hj
    rw [hcalls j (Nat.ne_of_gt hj)]
    exact h.fresh j (Nat.le_of_succ_le hj)
  · intro j hj
    rcases List.mem_append.1 hj with hj | hj
    · exact Nat.lt_succ_of_lt (h.buffer_lt j hj)
    · rw [List.mem_singleton.1 hj]
      exact Nat.lt_succ_self _
  · refine List.nodup_append.2 ⟨h.buffer_nodup, List.pairwise_singleton _ _, fun a ha b hb => ?_⟩
    rw [List.mem_singleton.1 hb]
    exact hne a (h.buffer_lt a ha)
  · intro k e he
    obtain ⟨hlt, hemitted, hcid, hbuffer⟩ := h.registered k e he
    refine ⟨hlt, Nat.lt_succ_of_lt hemitted, ?_, fun hb => ?_⟩
    · rw [hcalls _ (hne _ hemitted)]
      exact hcid
    · rcases List.mem_append.1 hb with hb | hb
      · exact hbuffer hb
      · exact hne _ hemitted (List.mem_singleton.1 hb)
  · exact fun op hop id hid => Nat.lt_succ_of_lt (h.nodes op hop id hid)
  · intro j hj
    rw [hcalls j (hne j (h.nodes _ hj j rfl))]
    exact (h.flushing j hj).imp_left fun hb => List.mem_append_left _ hb
  · intro j
    by_cases hj : j = m.emitted
    · subst hj
      refine ⟨?_, ?_, ?_⟩ <;> rw [hnew]
      · rw [Bool.not_true, Bool.and_false, if_neg Bool.false_ne_true]
        exact hzero
      · exact fun _ => rfl
      · exact id
    · refine ⟨?_, ?_, ?_⟩ <;> rw [hcalls j hj]
      · exact (h.accounted j).answers
      · exact (h.accounted j).present
      · exact (h.accounted j).asked
  · intro j hcallback htimeout
    have hj : j ≠ m.emitted := by
      rintro rfl
      rw [hnew] at htimeout
      cases htimeout
    rw [hcalls j hj] at hcallback htimeout
    have hs := h.spent j hcallback htimeout
    refine ⟨fun hb => ?_, hs.unregistered, hs.passed⟩
    rcases List.mem_append.1 hb with hb | hb
    · exact hs.detached hb
    · exact hj (List.mem_singleton.1 hb)
  · intro j rid error data hmem
    have hj : j ≠ m.emitted := by
      rintro rfl
      have hpos : 0 < m.answers m.emitted := List.count_pos_iff.2 (List.mem_map.2 ⟨_, hmem, rfl⟩)
      rw [hzero] at hpos
      cases hpos
    rw [hcalls j hj]
    exact h.own j rid error data hmem

/-- What the registration of a call by `emitObject` adds. -/
theorem mem_registered_register {m : Memory} {k id j : ℕ} {e : ℕ × ℕ} (h : e ∈ (m.register k (.call id)).registered j) :
    e ∈ m.registered j ∨ j = k ∧ e = (m.nextCid, id) := by
  by_cases hj : j = k
  · subst hj
    have hreg : (m.register j (.call id)).registered j = m.registered j ++ [(m.nextCid, id)] := by
      rw [Memory.registered, Memory.registered, Transport.registered, Transport.registered]
      rw [register_self, List.filterMap_append]
      rfl
    rw [hreg] at h
    exact (List.mem_append.1 h).imp_right fun he => ⟨rfl, List.mem_singleton.1 he⟩
  · rw [Memory.registered, register_of_ne hj] at h
    exact Or.inl h

/-- A call that waits nowhere and has no answer yet is given a call id. -/
theorem Kept.setCid {m : Memory} {stack : List Op} {id : ℕ} (h : Kept m stack)
    (hunregistered : ∀ k, ∀ e ∈ m.registered k, e.2 ≠ id) (hunanswered : m.answers id = 0) (cid : ℕ) :
    Kept (m.setCall id fun c => { c with cid := some cid }) stack := by
  have hfields : ∀ j, ((m.setCall id fun c => { c with cid := some cid }).calls j).asked = (m.calls j).asked ∧
      ((m.setCall id fun c => { c with cid := some cid }).calls j).callback = (m.calls j).callback ∧
      ((m.setCall id fun c => { c with cid := some cid }).calls j).timeout = (m.calls j).timeout := by
    intro j
    by_cases hj : j = id
    · subst hj
      rw [setCall_self]
      exact ⟨rfl, rfl, rfl⟩
    · rw [setCall_of_ne hj]
      exact ⟨rfl, rfl, rfl⟩
  refine ⟨fun j hj => ?_, h.buffer_lt, h.buffer_nodup, fun k e he => ?_, h.once, h.nodes, fun j hj => ?_,
    fun j => ⟨?_, ?_, ?_⟩, fun j => ?_, fun j rid error data hmem => ?_⟩
  · rw [(hfields j).1]
    exact h.fresh j hj
  · rw [setCall_of_ne (hunregistered k e he)]
    exact h.registered k e he
  · rw [(hfields j).2.1]
    exact h.flushing j hj
  · rw [(hfields j).1, (hfields j).2.2]
    exact (h.accounted j).answers
  · rw [(hfields j).1, (hfields j).2.1, (hfields j).2.2]
    exact (h.accounted j).present
  · rw [(hfields j).1, (hfields j).2.1]
    exact (h.accounted j).asked
  · rw [(hfields j).2.1, (hfields j).2.2]
    intro hcallback htimeout
    exact ⟨(h.spent j hcallback htimeout).detached, (h.spent j hcallback htimeout).unregistered,
      (h.spent j hcallback htimeout).passed⟩
  · have hj : j ≠ id := by
      rintro rfl
      have hpos : 0 < m.answers j := List.count_pos_iff.2 (List.mem_map.2 ⟨_, hmem, rfl⟩)
      rw [hunanswered] at hpos
      cases hpos
    rw [setCall_of_ne hj]
    exact h.own j rid error data hmem

/-- A call is registered under the next call id. -/
theorem Kept.register {m : Memory} {stack : List Op} {id : ℕ} (h : Kept m stack) (k : ℕ)
    (hlt : id < m.emitted) (hcid : (m.calls id).cid = some m.nextCid) (hdetached : id ∉ m.emitBuffer)
    (hon : (m.calls id).timeout = true) : Kept (m.register k (.call id)) stack := by
  refine ⟨h.fresh, h.buffer_lt, h.buffer_nodup, fun j e he => ?_, fun j j' e e' he he' heq => ?_, h.nodes, h.flushing,
    fun j => ⟨(h.accounted j).answers, (h.accounted j).present, (h.accounted j).asked⟩,
    fun j hcallback htimeout => ?_, h.own⟩
  · rcases mem_registered_register he with he | ⟨rfl, rfl⟩
    · obtain ⟨h1, h2, h3, h4⟩ := h.registered j e he
      exact ⟨Nat.lt_succ_of_lt h1, h2, h3, h4⟩
    · exact ⟨Nat.lt_succ_self _, hlt, hcid, hdetached⟩
  · -- The new call id is above every other.
    rcases mem_registered_register he with hold | ⟨rfl, rfl⟩ <;>
      rcases mem_registered_register he' with hold' | ⟨rfl, rfl⟩
    · exact h.once j j' e e' hold hold' heq
    · exact absurd heq (h.registered j e hold).1.ne
    · exact absurd heq.symm (h.registered j' e' hold').1.ne
    · rfl
  · have hs := h.spent j hcallback htimeout
    refine ⟨hs.detached, fun k' e he => ?_, hs.passed⟩
    rcases mem_registered_register he with he | ⟨rfl, rfl⟩
    · exact hs.unregistered k' e he
    · rintro rfl
      have htimeout' : (m.calls id).timeout = false := htimeout
      rw [hon] at htimeout'
      cases htimeout'

/-- A turn of `_flushEmitBuffer`: a call with a callback leaves the buffer for the map of the transport. -/
theorem kept_flush {m : Memory} {id : ℕ} {rest : List Op} (hsound : Sound m (.flush (some id) :: rest))
    (h : Kept m (.flush (some id) :: rest)) : Kept (flush m id).mem ((flush m id).ops ++ rest) := by
  have hrest : .flush (some id) ∉ rest := by
    intro hmem
    have hover := ((List.pairwise_cons.1 hsound.ordered).1 _ hmem).2 rfl
    cases hover
  have hdetach := h.tail.detach (Or.inl hrest)
  have hnext : ∀ op ∈ (flush m id).ops, ∀ j ∈ op.node, j ∈ m.emitBuffer.erase id := by
    intro op hop j hj
    rcases flush_ops m id with hops | ⟨k, text, -, hops⟩
    · rw [hops] at hop
      cases hop
    · rw [hops] at hop
      rcases List.mem_cons.1 hop with rfl | hop
      · cases hj
      · rw [List.mem_singleton.1 hop] at hj
        exact next_mem h.buffer_nodup hj
  have hkept : Kept (flush m id).mem rest ∧ (flush m id).mem.emitBuffer = m.emitBuffer.erase id := by
    unfold flush
    dsimp only
    split
    · exact ⟨hdetach, rfl⟩
    · split
      · rename_i k _ hcallback
        refine ⟨?_, rfl⟩
        have hid : id ∈ m.emitBuffer := by
          refine (h.flushing id List.mem_cons_self).resolve_right fun hc => ?_
          rw [hcallback] at hc
          cases hc
        have hon := h.timeout_on hcallback fun hs => hs.detached hid
        have hunregistered : ∀ j, ∀ e ∈ m.registered j, e.2 ≠ id := by
          rintro j e he rfl
          exact (h.registered j e he).2.2.2 hid
        have hunanswered : m.answers id = 0 := by
          rw [(h.accounted id).answers, hon, Bool.not_true, Bool.and_false]
          rfl
        have hcid := hdetach.setCid hunregistered hunanswered m.nextCid
        refine hcid.register k (h.buffer_lt id hid) ?_ (fun hb => ?_) ?_
        · rw [setCall_self]
          rfl
        · exact (h.buffer_nodup.mem_erase_iff.1 hb).1 rfl
        · rw [setCall_self]
          exact hon
      · exact ⟨hdetach, rfl⟩
  exact hkept.1.push fun op hop j hj => hkept.2 ▸ hnext op hop j hj

/-- A call to which nothing refers any more has its response: the timeout is off, and the callback was called
if it was there. -/
theorem Kept.responded {m m' : Memory} {stack : List Op} {id cid : ℕ} (error data : Option Json) (h : Kept m stack)
    (hspent : Spent m stack id) (hcid : (m.calls id).cid = some cid)
    (hon : (m.calls id).callback = true → (m.calls id).timeout = true)
    (hm' : m' = if (m.calls id).callback then
        (m.setCall id fun c => { c with timeout := false }).answer id (.response cid error data)
      else m.setCall id fun c => { c with timeout := false }) : Kept m' stack := by
  have hself : m'.calls id = { m.calls id with timeout := false } := by
    rw [hm']
    split <;> exact Function.update_self ..
  have hother : ∀ j, j ≠ id → m'.calls j = m.calls j := by
    intro j hj
    rw [hm']
    split <;> exact Function.update_of_ne hj ..
  have hanswers : ∀ j, m'.answers j = m.answers j + if j = id ∧ (m.calls id).callback = true then 1 else 0 := by
    intro j
    rw [hm']
    split
    · rename_i hc
      rw [answers_answer, hc]
      simp only [and_true]
      rfl
    · rename_i hc
      rw [if_neg fun hj => hc hj.2]
      rfl
  have hanswered : ∀ j rid error data, (j, Answer.response rid error data) ∈ m'.answered →
      (j, .response rid error data) ∈ m.answered ∨ j = id ∧ rid = cid := by
    intro j rid error' data' hmem
    rw [hm'] at hmem
    split at hmem
    · refine (List.mem_append.1 hmem).imp_right fun hmem => ?_
      cases List.mem_singleton.1 hmem
      exact ⟨rfl, rfl⟩
    · exact Or.inl hmem
  have hframe : m'.emitted = m.emitted ∧ m'.emitBuffer = m.emitBuffer ∧ m'.nextCid = m.nextCid ∧
      ∀ k, m'.registered k = m.registered k := by
    rw [hm']
    split <;> exact ⟨rfl, rfl, rfl, fun _ => rfl⟩
  obtain ⟨hemitted, hbuffer, hnext, hregistered⟩ := hframe
  have hfields : ∀ j, (m'.calls j).asked = (m.calls j).asked ∧ (m'.calls j).callback = (m.calls j).callback ∧
      (m'.calls j).cid = (m.calls j).cid := by
    intro j
    by_cases hj : j = id
    · subst hj
      rw [hself]
      exact ⟨rfl, rfl, rfl⟩
    · rw [hother j hj]
      exact ⟨rfl, rfl, rfl⟩
  refine ⟨fun j hj => ?_, fun j hj => ?_, hbuffer ▸ h.buffer_nodup, fun k e he => ?_, fun k k' e e' he he' => ?_,
    fun op hop j hj => hemitted ▸ h.nodes op hop j hj, fun j hj => ?_, fun j => ?_, fun j hcallback htimeout => ?_,
    fun j rid error data hmem => ?_⟩
  · rw [(hfields j).1]
    exact h.fresh j (hemitted ▸ hj)
  · exact hemitted ▸ h.buffer_lt j (hbuffer ▸ hj)
  · rw [hnext, hemitted, hbuffer, (hfields e.2).2.2]
    exact h.registered k e (hregistered k ▸ he)
  · exact h.once k k' e e' (hregistered k ▸ he) (hregistered k' ▸ he')
  · rw [hbuffer, (hfields j).2.1]
    exact h.flushing j hj
  · obtain ⟨hcount, hpresent, hasked⟩ := h.accounted j
    by_cases hj : j = id
    · subst hj
      refine ⟨?_, ?_, ?_⟩
      · rw [hanswers, hcount, hself]
        cases hc : (m.calls j).callback <;> cases ht : (m.calls j).timeout <;> cases ha : (m.calls j).asked <;>
          simp_all
      · rw [hself]
        rintro ⟨⟩
      · rw [hself]
        exact hasked
    · refine ⟨?_, ?_, ?_⟩
      · rw [hanswers, hother j hj, if_neg fun hc => hj hc.1]
        exact hcount
      · rw [hother j hj]
        exact hpresent
      · rw [hother j hj]
        exact hasked
  · rw [(hfields j).2.1] at hcallback
    have hs : Spent m stack j := by
      by_cases hj : j = id
      · exact hj ▸ hspent
      · rw [hother j hj] at htimeout
        exact h.spent j hcallback htimeout
    exact ⟨hbuffer ▸ hs.detached, fun k e he => hs.unregistered k e (hregistered k ▸ he), hs.passed⟩
  · rw [(hfields j).2.2]
    rcases hanswered j rid error data hmem with hmem | ⟨rfl, rfl⟩
    · exact h.own j rid error data hmem
    · exact hcid

/-- A response that a call waits for; what is left to do then are other messages. -/
theorem kept_respondTo {m : Memory} {k cid id : ℕ} {error data : Option Json} {rest : List Op} (h : Kept m rest)
    (hmem : (cid, Entry.call id) ∈ (m.transports k).callbackMap) (hrest : ∀ op ∈ rest, op.node = none) :
    Kept (respondTo (m.forget k cid) k cid error data (.call id)).mem rest := by
  have hreg := registered_of_mem hmem
  obtain ⟨-, -, hcid, hdetached⟩ := h.registered k _ hreg
  have hunregistered : ∀ j, ∀ e ∈ (m.forget k cid).registered j, e.2 ≠ id := by
    rintro j e he rfl
    have he' := ((quiet_forget m k cid).calls.registered j).subset he
    have hsame : cid = e.1 := Option.some.inj (hcid.symm.trans (h.registered j e he').2.2.1)
    obtain rfl := h.once k j _ e hreg he' hsame
    obtain ⟨⟨n, entry⟩, hentry, heq⟩ := List.mem_filterMap.1 he
    rw [Memory.forget, setTransport_self] at hentry
    have hne := (List.mem_filter.1 hentry).2
    cases entry with
    | call j =>
      cases heq
      simp [hsame] at hne
    | _ => cases heq
  have hspent : Spent (m.forget k cid) rest id :=
    ⟨hdetached, hunregistered, fun op hop hnode => by rw [hrest op hop] at hnode; cases hnode⟩
  refine Kept.responded error data (h.of_same (quiet_forget m k cid).calls) hspent hcid
    (fun hc => h.timeout_on hc fun hs => hs.unregistered k _ hreg rfl) ?_
  unfold respondTo
  dsimp only
  rw [setCall_self]
  split <;> rfl

theorem kept_handle {m : Memory} {k : ℕ} {incoming : Incoming} {rest : List Op}
    (hsound : Sound m (.handle k incoming :: rest)) (h : Kept m (.handle k incoming :: rest)) :
    Kept (handle m k incoming).mem ((handle m k incoming).ops ++ rest) := by
  refine Kept.push_plain ?_ (attached_handle hsound.attached k incoming).2
  have hrest : ∀ op ∈ rest, op.node = none := by
    intro op hop
    have hhandle := ((List.pairwise_cons.1 hsound.ordered).1 op hop).1 rfl
    cases op <;> first | rfl | cases hhandle
  rcases handle_cases m k incoming with ht | ⟨cid, e, error, data, hmem, heq⟩
  · exact h.tail.of_same ht.quiet.calls
  · have hforget := h.tail.of_same (quiet_forget m k cid).calls
    rw [heq]
    cases e with
    | call id => exact kept_respondTo h.tail hmem hrest
    | handshake =>
      rcases respondTo_handshake (m.forget k cid) k cid error data with ht | ht
      · exact hforget.of_same ht.quiet.calls
      · exact (hforget.of_same (sameCalls_openTransport _ k)).of_same ht.quiet.calls
    | subscribe ch =>
      have ht : Tame (m.forget k cid) (respondTo (m.forget k cid) k cid error data (.subscribe ch)) :=
        tame_onSubscribe _ ch error.isSome
      exact hforget.of_same ht.quiet.calls

/-- Every operation keeps the accounts. -/
theorem kept_exec {c : Choice} {m : Memory} {op : Op} {rest : List Op} {o : Outcome Memory Op}
    (hsound : Sound m (op :: rest)) (h : Kept m (op :: rest)) (hx : exec c m op = some o) :
    Kept o.mem (o.ops ++ rest) := by
  by_cases hop : op.loud = false
  · have ht := tame_exec hx hop
    exact (h.tail.of_same ht.quiet.calls).push_plain ht.plain
  · cases op with
    | call a =>
      cases a with
      | connect =>
        cases hx
        refine (h.tail.of_same (sameCalls_connect m)).push fun op hop id hid => ?_
        rw [call, connect] at hop
        split at hop
        · rcases List.mem_pair.1 hop with rfl | rfl <;> cases hid
        · cases hop
      | _ => exact absurd rfl hop
    | construct =>
      cases hx
      rw [plain_construct]
      exact h.tail.of_same (sameCalls_construct c m)
    | onClose k code =>
      cases hx
      exact (h.tail.of_same (sameCalls_onClose m k code)).push_plain (List.all_eq_true.1 (plain_onClose m k code))
    | append event data callback =>
      cases hx
      refine (kept_append h.tail).push_plain ?_
      unfold append
      split <;> simp [Op.plain]
    | flushEmitBuffer =>
      cases hx
      refine h.tail.push fun op hop id hid => ?_
      split at hop
      · rw [List.mem_singleton.1 hop] at hid
        exact List.mem_of_mem_head? hid
      · cases hop
    | flush node =>
      cases node with
      | none => exact absurd rfl hop
      | some id => cases hx; exact kept_flush hsound h
    | abortAll =>
      cases hx
      refine h.tail.push fun op hop id hid => ?_
      rw [List.mem_singleton.1 hop] at hid
      exact List.mem_of_mem_head? hid
    | abortBuffer node =>
      cases node with
      | none => exact absurd rfl hop
      | some id => cases hx; exact kept_abortBuffer h
    | abortEach k cids =>
      cases cids with
      | nil => exact absurd rfl hop
      | cons cid cids =>
        cases hx
        refine Kept.push_plain ?_ fun op hop => ?_
        · rw [Outcome.andThen_mem]
          exact kept_abortEach h.tail
        · rcases Outcome.mem_andThen_ops hop with hop | hop
          · exact (connection_abortEach m k cid).2 op hop
          · rw [List.mem_singleton.1 hop]
            rfl
    | handle k incoming => cases hx; exact kept_handle hsound h
    | _ => exact absurd rfl hop

theorem kept_start {m m' : Memory} {w : Task} {ops : List Op} (h : Kept m []) (hx : start m w = some (m', ops)) :
    Kept m' ops := by
  have hpush : ∀ {m' : Memory} {ops : List Op}, Kept m' [] → (∀ op ∈ ops, op.plain = true) → Kept m' ops := by
    intro m' ops h hplain
    have hpushed := h.push_plain hplain
    rwa [List.append_nil] at hpushed
  rcases start_plain hx with ⟨hq, hplain⟩ | ⟨rfl, front, k, text, -, hplain, rfl⟩ | ⟨id, htimeout, heq⟩
  · exact hpush (h.of_same hq.calls) hplain
  · refine Kept.push_plain ?_ hplain
    have hmessages : Kept m' ((onMessage text).map (Op.handle k) ++ []) := by
      refine h.push fun op hop id hid => ?_
      obtain ⟨_, -, rfl⟩ := List.mem_map.1 hop
      cases hid
    rwa [List.append_nil] at hmessages
  · have hd := dismissed_ackTimeout m id
    have hplain := (connection_ackTimeout m id).2
    rw [← heq] at hd hplain
    exact hpush (h.dismissed hd fun _ => htimeout) hplain

theorem kept_init : Kept init.mem init.stack where
  fresh _ _ := rfl
  buffer_lt := by rintro id ⟨⟩
  buffer_nodup := List.Pairwise.nil
  registered := by rintro k e ⟨⟩
  once := by rintro k k' e e' ⟨⟩
  nodes op hop id hid := by
    rw [List.mem_singleton.1 hop] at hid
    cases hid
  flushing id hid := by cases List.mem_singleton.1 hid
  accounted _ := ⟨rfl, fun _ => rfl, fun h => h⟩
  spent := by rintro id ⟨⟩
  own := by rintro id rid error data ⟨⟩

theorem kept_run {tr : List (Label Choice Task)} {s : State Memory Op}
    (h : Transition.run system.step init tr = some s) : Sound s.mem s.stack ∧ Kept s.mem s.stack :=
  run_invariant (I := fun m stack => Sound m stack ∧ Kept m stack)
    (fun _ _ _ _ _ hi hx => ⟨sound_exec hi.1 hx, kept_exec hi.1 hi.2 hx⟩)
    (fun _ _ _ hi => ⟨⟨hi.1.attached, (List.pairwise_cons.1 hi.1.ordered).2, fun hopen => (hi.1.settled hopen).tail⟩,
      hi.2.tail⟩)
    (fun _ _ _ _ hi hx => ⟨sound_start hi.1.attached hx, kept_start hi.2 hx⟩) ⟨sound_init, kept_init⟩ h

/-! ## Answers -/

/-- In every run, a callback given to `emit` has been called once or its timeout is set, and not both; a
response it was called with has the call id of the call; and once nothing is left to do, a timeout that is
set calls it. -/
theorem answered_once (tr : List (Label Choice Task)) {s : State Memory Op}
    (h : Transition.run system.step init tr = some s) (id : ℕ) :
    ((s.mem.calls id).asked = true → s.mem.answers id + (if (s.mem.calls id).timeout then 1 else 0) = 1) ∧
      ((s.mem.calls id).asked = false → s.mem.answers id = 0) ∧
      (∀ rid error data, (id, Answer.response rid error data) ∈ s.mem.answered → (s.mem.calls id).cid = some rid) ∧
      (s.stack = [] → (s.mem.calls id).timeout = true →
        ∃ s', system.step s (.start (.ackTimeout id)) = some s' ∧ (s'.mem.calls id).timeout = false ∧
          s'.mem.answers id = if (s.mem.calls id).asked then 1 else 0) := by
  have hkept := (kept_run h).2
  obtain ⟨hanswers, hpresent, -⟩ := hkept.accounted id
  refine ⟨fun hasked => ?_, fun hasked => ?_, fun rid error data => hkept.own id rid error data, fun hidle hon => ?_⟩
  · rw [hanswers, hasked]
    cases (s.mem.calls id).timeout <;> rfl
  · rw [hanswers, hasked]
    rfl
  · have hd := dismissed_ackTimeout s.mem id
    have hstart : system.start s.mem (.ackTimeout id) = some (handleEventAckTimeout s.mem id) := if_pos hon
    refine ⟨⟨(handleEventAckTimeout s.mem id).1, (handleEventAckTimeout s.mem id).2⟩,
      step_iff.2 (.start _ _ _ hidle hstart), ?_, ?_⟩
    · rw [hd.calls_self]
    · rw [hd.answers, hanswers, hon, hpresent hon]
      cases (s.mem.calls id).asked <;> simp

/-- A page calls `emit` while its client connects, and the WebSocket is closed before it opens. -/
def sampleAborted : List (Label Choice Task) :=
  List.replicate 4 (.run .done 0) ++ [.start .page, .run (.call (.emit "login" none true)) 0] ++
    List.replicate 3 (.run .done 0) ++ [.start (.wsClose 0 1006)] ++ List.replicate 5 (.run .done 0)

theorem answered_once_sample :
    ∃ s, Transition.run system.step init sampleAborted = some s ∧ (s.mem.calls 0).asked = true ∧
      s.mem.answers 0 + (if (s.mem.calls 0).timeout then 1 else 0) = 1 := by
  obtain ⟨s, hs, hasked⟩ : ∃ s, Transition.run system.step init sampleAborted = some s ∧ (s.mem.calls 0).asked = true :=
    ⟨_, rfl, rfl⟩
  exact ⟨s, hs, hasked, (answered_once sampleAborted hs 0).1 hasked⟩

end NodejsHelper.SocketCluster
