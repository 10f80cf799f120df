/-
The connection of a client and the shape of its stack, in every run: an open client listens to an open
transport, messages are only under messages, and a loop over the emit buffer goes on alone.
-/
import NodejsHelper.Client.Spec

namespace NodejsHelper.SocketCluster

open EventLoop

/-! ## The invariant -/

/-- The client listens to no other transport than its own, and this one is open when the client is. -/
structure Attached (m : Memory) : Prop where
  listened : ∀ k, (m.transports k).listened = true → m.transport = some k
  opened : m.state = .opened → ∃ k, m.transport = some k ∧ (m.transports k).state = .opened ∧
    (m.transports k).listened = true

def Op.isHandle : Op → Bool
  | .handle .. => true
  | _ => false

/-- A turn of `_flushEmitBuffer`. -/
def Op.isFlush : Op → Bool
  | .flush (some _) => true
  | _ => false

/-- Under a message are messages, and under a turn of `_flushEmitBuffer` is no other. -/
def Op.Over (a b : Op) : Prop := (a.isHandle = true → b.isHandle = true) ∧ (a.isFlush = true → b.isFlush = false)

/-- Nothing to come that would flush or make a transport. -/
def Op.calm : Op → Bool
  | .flush (some _) | .construct => false
  | _ => true

/-- What is left to do while the client is open: it may be flushing, and the text of a turn may be on its
way, or have found the WebSocket closed. -/
inductive Settled (m : Memory) : List Op → Prop
  | calm {stack : List Op} : (∀ op ∈ stack, op.calm = true) → Settled m stack
  | flush (id : ℕ) {rest : List Op} : (∀ op ∈ rest, op.calm = true) → Settled m (.flush (some id) :: rest)
  | send (k : ℕ) (text : Sent) (node : Option ℕ) {rest : List Op} :
      m.transport = some k → (∀ op ∈ rest, op.calm = true) → Settled m (.send k text :: .flush node :: rest)
  | onClose (k : ℕ) (code : ℤ) (node : Option ℕ) {rest : List Op} :
      m.transport = some k → (∀ op ∈ rest, op.calm = true) → Settled m (.onClose k code :: .flush node :: rest)

structure Sound (m : Memory) (stack : List Op) : Prop where
  attached : Attached m
  ordered : stack.Pairwise Op.Over
  settled : m.state = .opened → Settled m stack

/-! ## Connections -/

theorem Attached.of_same {m m' : Memory} (h : Attached m) (hs : SameConnection m m') : Attached m' where
  listened k hk := by
    rw [(hs.transports k).2] at hk
    exact hs.transport.trans (h.listened k hk)
  opened hopen := by
    obtain ⟨k, hk, hstate, hlistened⟩ := h.opened (hs.state ▸ hopen)
    exact ⟨k, hs.transport.trans hk, (hs.transports k).1.trans hstate, (hs.transports k).2.trans hlistened⟩

/-- The client is not open. -/
theorem Attached.of_not_opened {m m' : Memory} (h : Attached m) (htransport : m'.transport = m.transport)
    (hlistened : ∀ k, (m'.transports k).listened = true → (m.transports k).listened = true)
    (hstate : m'.state ≠ .opened) : Attached m' where
  listened k hk := htransport.trans (h.listened k (hlistened k hk))
  opened hopen := absurd hopen hstate

theorem off_state (m : Memory) : m.off.state = m.state := by
  unfold Memory.off
  split <;> rfl

/-- After `off` the client listens to nothing. -/
theorem off_listened {m : Memory} (h : ∀ k, (m.transports k).listened = true → m.transport = some k) (k : ℕ) :
    (m.off.transports k).listened = false := by
  unfold Memory.off
  split
  · rename_i j hj
    by_cases hk : k = j
    · subst hk
      rw [setTransport_self]
    · rw [setTransport_of_ne hk]
      refine Bool.eq_false_iff.2 fun hl => hk ?_
      rw [h k hl] at hj
      exact Option.some.inj hj
  · rename_i hnone
    refine Bool.eq_false_iff.2 fun hl => ?_
    rw [h k hl] at hnone
    cases hnone

theorem attached_connect {m : Memory} (h : Attached m) : Attached (connect m).mem := by
  unfold connect
  split
  · exact h.of_not_opened rfl (fun _ hk => hk) (by rintro ⟨⟩)
  · exact h

theorem attached_construct {c : Choice} {m : Memory} (h : Attached m) (hm : m.state ≠ .opened) :
    Attached (construct c m).mem := by
  have hstate : m.off.state ≠ .opened := off_state m ▸ hm
  unfold construct
  split
  · refine ⟨fun k hk => ?_, fun hopen => absurd hopen hstate⟩
    rw [off_listened h.listened k] at hk
    cases hk
  · refine ⟨fun k hk => ?_, fun hopen => absurd hopen hstate⟩
    by_cases hk' : k = m.created
    · rw [hk']
    · have hl : (m.off.transports k).listened = true := by simpa only [Function.update_of_ne hk'] using hk
      rw [off_listened h.listened k] at hl
      cases hl

/-- The close of a transport; that of the one the client listens to closes the client. -/
theorem attached_onClose {m : Memory} (h : Attached m) (k : ℕ) (code : ℤ) : Attached (onClose m k code).mem := by
  let f : Transport → Transport := fun t => { t with connectTimeout := false, pingTimeout := false, state := .closed }
  have hlistened : ∀ j, ((m.setTransport k f).transports j).listened = (m.transports j).listened := by
    intro j
    by_cases hj : j = k
    · subst hj
      rw [setTransport_self]
    · rw [setTransport_of_ne hj]
  unfold onClose
  dsimp only
  split
  · rename_i hclosed
    refine h.of_same (sameConnection_setTransport m k ⟨hclosed.symm, rfl⟩)
  · split
    · refine ⟨fun j hj => ?_, by rintro ⟨⟩⟩
      have hoff : ((m.setTransport k f).off.transports j).listened = false :=
        off_listened (m := m.setTransport k f) (fun i hi => h.listened i ((hlistened i).symm.trans hi)) j
      rw [hoff] at hj
      cases hj
    · rename_i hk
      refine ⟨fun j hj => h.listened j (hlistened j ▸ hj), fun hopen => ?_⟩
      obtain ⟨j, hj, hstate, hl⟩ := h.opened hopen
      have hjk : j ≠ k := by
        rintro rfl
        exact hk hl
      refine ⟨j, hj, ?_, (hlistened j).trans hl⟩
      rw [setTransport_of_ne hjk]
      exact hstate

theorem attached_openTransport {m : Memory} (h : Attached m) (k : ℕ) : Attached (openTransport m k) := by
  have h0 : Attached (m.setTransport k fun t => { t with handshakeTimeout := none }) :=
    h.of_same (sameConnection_setTransport m k ⟨rfl, rfl⟩)
  unfold openTransport
  dsimp only
  split
  · rename_i hk
    rw [setTransport_self] at hk
    refine ⟨fun j hj => ?_, fun _ => ⟨k, h.listened k hk, ?_, ?_⟩⟩
    · by_cases hjk : j = k
      · rw [hjk]
        exact h.listened k hk
      · rw [setTransport_of_ne hjk] at hj
        exact h0.listened j hj
    · rw [setTransport_self]
    · rw [setTransport_self, setTransport_self]
      exact hk
  · rename_i hk
    rw [setTransport_self] at hk
    refine ⟨fun j hj => ?_, fun hopen => ?_⟩
    · by_cases hjk : j = k
      · subst hjk
        rw [setTransport_self, setTransport_self] at hj
        exact absurd hj hk
      · rw [setTransport_of_ne hjk] at hj
        exact h0.listened j hj
    · obtain ⟨j, hj, hstate, hl⟩ := h0.opened hopen
      have hjk : j ≠ k := by
        rintro rfl
        rw [setTransport_self] at hl
        exact hk hl
      refine ⟨j, hj, ?_, ?_⟩
      · rw [setTransport_of_ne hjk]
        exact hstate
      · rw [setTransport_of_ne hjk]
        exact hl

/-! ## Stacks -/

theorem calm_of_plain {op : Op} (h : op.plain = true) : op.calm = true := by
  cases op with
  | flush node => cases node <;> first | rfl | exact h
  | construct => exact h
  | _ => rfl

theorem not_isHandle_of_plain {op : Op} (h : op.plain = true) : op.isHandle = false := by
  cases op <;> first | rfl | exact Bool.noConfusion h

theorem not_isFlush_of_calm {op : Op} (h : op.calm = true) : op.isFlush = false := by
  cases op with
  | flush node => cases node <;> first | rfl | exact Bool.noConfusion h
  | _ => rfl

/-- Operations in front of the rest that are neither messages nor turns. -/
theorem ordered_append {ops rest : List Op} (hops : ∀ op ∈ ops, op.isHandle = false ∧ op.isFlush = false)
    (h : rest.Pairwise Op.Over) : (ops ++ rest).Pairwise Op.Over := by
  have hover : ∀ a ∈ ops, ∀ b : Op, a.Over b := by
    intro a ha b
    refine ⟨fun hh => ?_, fun hf => ?_⟩
    · rw [(hops a ha).1] at hh
      cases hh
    · rw [(hops a ha).2] at hf
      cases hf
  refine List.pairwise_append.2 ⟨?_, h, fun a ha b _ => hover a ha b⟩
  exact List.pairwise_of_forall_mem_list fun a ha b _ => hover a ha b

theorem ordered_plain {ops rest : List Op} (hops : ∀ op ∈ ops, op.plain = true) (h : rest.Pairwise Op.Over) :
    (ops ++ rest).Pairwise Op.Over :=
  ordered_append (fun op hop => ⟨not_isHandle_of_plain (hops op hop),
    not_isFlush_of_calm (calm_of_plain (hops op hop))⟩) h

/-- What is under the first operation is settled too. -/
theorem Settled.tail {m : Memory} {op : Op} {rest : List Op} (h : Settled m (op :: rest)) : Settled m rest := by
  cases h with
  | calm h => exact .calm (List.forall_mem_cons.1 h).2
  | flush id h => exact .calm h
  | send k text node _ h =>
    cases node with
    | none => exact .calm (List.forall_mem_cons.2 ⟨rfl, h⟩)
    | some id => exact .flush id h
  | onClose k code node _ h =>
    cases node with
    | none => exact .calm (List.forall_mem_cons.2 ⟨rfl, h⟩)
    | some id => exact .flush id h

/-- Under an operation that neither flushes nor sends nor closes is nothing but calm. -/
theorem Settled.rest_calm {m : Memory} {op : Op} {rest : List Op} (h : Settled m (op :: rest))
    (hop : op.isFlush = false) (hsend : ∀ k text, op ≠ .send k text) (hclose : ∀ k code, op ≠ .onClose k code) :
    ∀ o ∈ rest, o.calm = true := by
  cases h with
  | calm h => exact (List.forall_mem_cons.1 h).2
  | flush id h => cases hop
  | send k text node _ h => exact absurd rfl (hsend k text)
  | onClose k code node _ h => exact absurd rfl (hclose k code)

theorem Settled.mono {m m' : Memory} {stack : List Op} (h : Settled m stack) (htransport : m'.transport = m.transport) :
    Settled m' stack := by
  cases h with
  | calm h => exact .calm h
  | flush id h => exact .flush id h
  | send k text node hk h => exact .send k text node (htransport.trans hk) h
  | onClose k code node hk h => exact .onClose k code node (htransport.trans hk) h

theorem Settled.of_calm {m : Memory} {ops rest : List Op} (hops : ∀ op ∈ ops, op.calm = true)
    (h : ∀ op ∈ rest, op.calm = true) : Settled m (ops ++ rest) :=
  .calm (List.forall_mem_append.2 ⟨hops, h⟩)

/-! ## Steps -/

theorem sameConnection_flush (m : Memory) (id : ℕ) : SameConnection m (flush m id).mem := by
  have hdetach : SameConnection m { m with emitBuffer := m.emitBuffer.erase id } := ⟨rfl, rfl, fun _ => ⟨rfl, rfl⟩⟩
  unfold flush
  dsimp only
  split
  · exact hdetach
  · split
    · exact (hdetach.trans (sameConnection_register _ _ _)).trans ⟨rfl, rfl, fun _ => ⟨rfl, rfl⟩⟩
    · exact hdetach

/-- A turn hands the text of the call to the client's transport and goes on, or throws for want of one. -/
theorem flush_ops (m : Memory) (id : ℕ) : (flush m id).ops = [] ∨
    ∃ k text, m.transport = some k ∧ (flush m id).ops = [.send k text, .flush (next m.emitBuffer id)] := by
  unfold flush
  dsimp only
  split
  · exact Or.inl rfl
  · rename_i k hk
    refine Or.inr ⟨k, ?_⟩
    split
    · exact ⟨_, hk, rfl⟩
    · exact ⟨_, hk, rfl⟩

theorem sameConnection_abortBuffer (m : Memory) (id : ℕ) : SameConnection m (abortBuffer m id).mem := by
  unfold abortBuffer
  dsimp only
  split <;> exact ⟨rfl, rfl, fun _ => ⟨rfl, rfl⟩⟩

/-- What an entry of a call is left with when it is aborted. -/
theorem abortEntry_call (m : Memory) (k id : ℕ) :
    SameConnection m (abortEntry m k (.call id)).mem ∧ ∀ op ∈ (abortEntry m k (.call id)).ops, op.plain = true := by
  unfold abortEntry
  dsimp only
  split
  · exact ⟨⟨rfl, rfl, fun _ => ⟨rfl, rfl⟩⟩, by simp [Op.plain]⟩
  · exact ⟨⟨rfl, rfl, fun _ => ⟨rfl, rfl⟩⟩, by simp⟩

/-- The entries other than calls. -/
theorem tame_abortEntry (m : Memory) (k : ℕ) {e : Entry} (he : ∀ id, e ≠ .call id) : Tame m (abortEntry m k e) := by
  cases e with
  | call id => exact absurd rfl (he id)
  | handshake => exact tame_returns (quiet_setTransport m k rfl rfl rfl) rfl
  | subscribe ch => exact tame_onSubscribe m ch true

theorem connection_abortEach (m : Memory) (k cid : ℕ) :
    SameConnection m (abortEach m k cid).mem ∧ ∀ op ∈ (abortEach m k cid).ops, op.plain = true := by
  unfold abortEach
  split
  · rename_i e _
    have hq := (quiet_forget m k cid).connection
    obtain ⟨_, e⟩ := e
    cases e with
    | call id => exact ⟨hq.trans (abortEntry_call _ k id).1, (abortEntry_call _ k id).2⟩
    | handshake =>
      have ht := tame_abortEntry (m.forget k cid) k (e := .handshake) (by rintro id ⟨⟩)
      exact ⟨hq.trans ht.quiet.connection, ht.plain⟩
    | subscribe ch =>
      have ht := tame_abortEntry (m.forget k cid) k (e := .subscribe ch) (by rintro id ⟨⟩)
      exact ⟨hq.trans ht.quiet.connection, ht.plain⟩
  · exact ⟨SameConnection.refl m, by simp⟩

/-- A message other than a response that is waited for leaves calls and connection as they are. -/
theorem handle_cases (m : Memory) (k : ℕ) (incoming : Incoming) :
    Tame m (handle m k incoming) ∨
      ∃ cid e error data, (cid, e) ∈ (m.transports k).callbackMap ∧
        handle m k incoming = respondTo (m.forget k cid) k cid error data e := by
  cases incoming with
  | ping =>
    refine Or.inl (tame_unchanged m ?_)
    split <;> rfl
  | event name data cid =>
    refine Or.inl ?_
    rw [handle]
    split
    · exact tame_onSCEvent m k name data cid
    · exact tame_unchanged m rfl
  | response rid data error =>
    rw [handle]
    split
    · rename_i cid e hfind
      exact Or.inr ⟨cid, e, _, data, List.mem_of_find?_eq_some hfind, rfl⟩
    · exact Or.inl (tame_unchanged m rfl)
  | raw =>
    refine Or.inl (tame_unchanged m ?_)
    split <;> rfl

theorem respondTo_call (m : Memory) (k cid : ℕ) (error data : Option Json) (id : ℕ) :
    SameConnection m (respondTo m k cid error data (.call id)).mem ∧
      ∀ op ∈ (respondTo m k cid error data (.call id)).ops, op.plain = true := by
  unfold respondTo
  dsimp only
  split
  · exact ⟨⟨rfl, rfl, fun _ => ⟨rfl, rfl⟩⟩, by simp [Op.plain]⟩
  · exact ⟨⟨rfl, rfl, fun _ => ⟨rfl, rfl⟩⟩, by simp⟩

theorem attached_handle {m : Memory} (h : Attached m) (k : ℕ) (incoming : Incoming) :
    Attached (handle m k incoming).mem ∧ ∀ op ∈ (handle m k incoming).ops, op.plain = true := by
  rcases handle_cases m k incoming with ht | ⟨cid, e, error, data, -, heq⟩
  · exact ⟨h.of_same ht.quiet.connection, ht.plain⟩
  · have h' : Attached (m.forget k cid) := h.of_same (quiet_forget m k cid).connection
    rw [heq]
    cases e with
    | call id => exact ⟨h'.of_same (respondTo_call _ k cid error data id).1, (respondTo_call _ k cid error data id).2⟩
    | handshake =>
      rcases respondTo_handshake (m.forget k cid) k cid error data with ht | ht
      · exact ⟨h'.of_same ht.quiet.connection, ht.plain⟩
      · exact ⟨(attached_openTransport h' k).of_same ht.quiet.connection, ht.plain⟩
    | subscribe ch =>
      have ht : Tame (m.forget k cid) (respondTo (m.forget k cid) k cid error data (.subscribe ch)) :=
        tame_onSubscribe _ ch error.isSome
      exact ⟨h'.of_same ht.quiet.connection, ht.plain⟩

/-- A loud operation that flushes, sends and closes nothing itself leaves the stack in order. -/
theorem sound_plain {m m' : Memory} {op : Op} {rest ops : List Op} (h : Sound m (op :: rest)) (hm : Attached m')
    (hops : ∀ o ∈ ops, o.plain = true) (hstate : m'.state = .opened → ∀ o ∈ rest, o.calm = true) :
    Sound m' (ops ++ rest) where
  attached := hm
  ordered := ordered_plain hops (List.pairwise_cons.1 h.ordered).2
  settled hopen := .of_calm (fun o ho => calm_of_plain (hops o ho)) (hstate hopen)

theorem sound_connect {m : Memory} {rest : List Op} (h : Sound m (.call .connect :: rest)) :
    Sound (connect m).mem ((connect m).ops ++ rest) := by
  have hm := attached_connect h.attached
  unfold connect at hm ⊢
  split
  · refine ⟨?_, ordered_append (by simp [Op.isHandle, Op.isFlush]) (List.pairwise_cons.1 h.ordered).2, by rintro ⟨⟩⟩
    rwa [if_pos ‹_›] at hm
  · exact ⟨h.attached, (List.pairwise_cons.1 h.ordered).2, fun hopen => (h.settled hopen).tail⟩

theorem sound_construct {c : Choice} {m : Memory} {rest : List Op} (h : Sound m (.construct :: rest)) :
    Sound (construct c m).mem ((construct c m).ops ++ rest) := by
  have hm : m.state ≠ .opened := by
    intro hopen
    rcases h.settled hopen with hcalm | _ | _ | _
    exact Bool.noConfusion (hcalm .construct List.mem_cons_self)
  have hstate : (construct c m).mem.state ≠ .opened := by
    have hoff := off_state m
    unfold construct
    split <;> exact hoff ▸ hm
  rw [plain_construct]
  exact ⟨attached_construct h.attached hm, (List.pairwise_cons.1 h.ordered).2, fun hopen => absurd hopen hstate⟩

/-- A turn of `_flushEmitBuffer`: the text of the call is on its way before the next turn. -/
theorem sound_flush {m : Memory} {id : ℕ} {rest : List Op} (h : Sound m (.flush (some id) :: rest)) :
    Sound (flush m id).mem ((flush m id).ops ++ rest) := by
  have hsame := sameConnection_flush m id
  have hattached := h.attached.of_same hsame
  obtain ⟨hover, hordered⟩ := List.pairwise_cons.1 h.ordered
  have hcalm : m.state = .opened → ∀ o ∈ rest, o.calm = true := by
    intro hopen
    cases h.settled hopen with
    | calm hcalm => exact (List.forall_mem_cons.1 hcalm).2
    | flush id hcalm => exact hcalm
  rcases flush_ops m id with hops | ⟨k, text, hk, hops⟩
  · rw [hops]
    exact ⟨hattached, hordered, fun hopen => .calm (hcalm (hsame.state ▸ hopen))⟩
  · have hnext : (Op.flush (next m.emitBuffer id) :: rest).Pairwise Op.Over := by
      refine List.pairwise_cons.2 ⟨fun b hb => ⟨?_, fun _ => (hover b hb).2 rfl⟩, hordered⟩
      rintro ⟨⟩
    rw [hops]
    have hsend : ([Op.send k text] ++ (Op.flush (next m.emitBuffer id) :: rest)).Pairwise Op.Over :=
      ordered_append (by simp [Op.isHandle, Op.isFlush]) hnext
    exact ⟨hattached, hsend, fun hopen => .send k text _ (hsame.transport.trans hk) (hcalm (hsame.state ▸ hopen))⟩

theorem sound_onClose {m : Memory} {k : ℕ} {code : ℤ} {rest : List Op} (h : Sound m (.onClose k code :: rest)) :
    Sound (onClose m k code).mem ((onClose m k code).ops ++ rest) := by
  refine sound_plain h (attached_onClose h.attached k code) (List.all_eq_true.1 (plain_onClose m k code)) ?_
  intro hopen
  by_cases hm : m.state = .opened
  · cases h.settled hm with
    | calm hcalm => exact (List.forall_mem_cons.1 hcalm).2
    | onClose k code node hk hcalm =>
      -- The transport is the client's own, so its close closes the client.
      obtain ⟨j, hj, hstate, hl⟩ := h.attached.opened hm
      rw [hk] at hj
      cases hj
      have hclosed : (onClose m k code).mem.state = .closed := by
        unfold onClose
        dsimp only
        rw [if_neg (by rw [hstate]; decide), if_pos hl]
      rw [hclosed] at hopen
      cases hopen
  · refine absurd ?_ hm
    unfold onClose at hopen
    dsimp only at hopen
    split at hopen
    · exact hopen
    · split at hopen
      · cases hopen
      · exact hopen

theorem sound_tame {c : Choice} {m : Memory} {op : Op} {rest : List Op} {o : Outcome Memory Op}
    (h : Sound m (op :: rest)) (hx : exec c m op = some o) (hop : op.loud = false) : Sound o.mem (o.ops ++ rest) := by
  have ht := tame_exec hx hop
  refine ⟨h.attached.of_same ht.quiet.connection, ordered_plain ht.plain (List.pairwise_cons.1 h.ordered).2, ?_⟩
  intro hopen
  rw [ht.quiet.connection.state] at hopen
  cases h.settled hopen with
  | calm hcalm => exact .of_calm (fun o ho => calm_of_plain (ht.plain o ho)) (List.forall_mem_cons.1 hcalm).2
  | flush id hcalm => cases hop
  | onClose k code node hk hcalm => cases hop
  | send k text node hk hcalm =>
    cases hx
    unfold send
    split
    · have htail : Settled m (.flush node :: _) := (h.settled hopen).tail
      exact htail.mono rfl
    · exact .onClose k 1005 node hk hcalm

/-- Where the client is open, nothing but calm is under an operation that does not flush, send or close. -/
theorem Sound.rest_calm {m : Memory} {op : Op} {rest : List Op} (h : Sound m (op :: rest)) (hflush : op.isFlush = false)
    (hsend : ∀ k text, op ≠ .send k text) (hclose : ∀ k code, op ≠ .onClose k code) (hopen : m.state = .opened) :
    ∀ o ∈ rest, o.calm = true :=
  (h.settled hopen).rest_calm hflush hsend hclose

theorem sound_append {m : Memory} {event : String} {data : Option Json} {callback : Bool} {rest : List Op}
    (h : Sound m (.append event data callback :: rest)) :
    Sound (append m event data callback).mem ((append m event data callback).ops ++ rest) := by
  refine sound_plain h (h.attached.of_same ⟨rfl, rfl, fun _ => ⟨rfl, rfl⟩⟩) ?_
    (h.rest_calm rfl (by rintro k text ⟨⟩) (by rintro k code ⟨⟩))
  unfold append
  split <;> simp [Op.plain]

theorem sound_flushEmitBuffer {m : Memory} {rest : List Op} (h : Sound m (.flushEmitBuffer :: rest)) :
    Sound m ((if m.state = .opened then [.flush m.emitBuffer.head?] else []) ++ rest) := by
  have hordered := (List.pairwise_cons.1 h.ordered).2
  split
  · rename_i hopen
    have hrest := h.rest_calm rfl (by rintro k text ⟨⟩) (by rintro k code ⟨⟩) hopen
    refine ⟨h.attached, List.pairwise_cons.2 ⟨fun b hb => ⟨?_, fun _ => not_isFlush_of_calm (hrest b hb)⟩, hordered⟩,
      fun _ => ?_⟩
    · rintro ⟨⟩
    · cases m.emitBuffer.head? with
      | none => exact .calm (List.forall_mem_cons.2 ⟨rfl, hrest⟩)
      | some id => exact .flush id hrest
  · exact ⟨h.attached, hordered, fun hopen => (h.settled hopen).tail⟩

theorem sound_abortAll {m : Memory} {rest : List Op} (h : Sound m (.abortAll :: rest)) :
    Sound m (.abortBuffer m.emitBuffer.head? :: rest) where
  attached := h.attached
  ordered := List.pairwise_cons.2 ⟨fun b _ => ⟨by rintro ⟨⟩, by rintro ⟨⟩⟩, (List.pairwise_cons.1 h.ordered).2⟩
  settled hopen :=
    .calm (List.forall_mem_cons.2 ⟨rfl, h.rest_calm rfl (by rintro k text ⟨⟩) (by rintro k code ⟨⟩) hopen⟩)

theorem sound_abortBuffer {m : Memory} {id : ℕ} {rest : List Op} (h : Sound m (.abortBuffer (some id) :: rest)) :
    Sound (abortBuffer m id).mem ((abortBuffer m id).ops ++ rest) := by
  have hsame := sameConnection_abortBuffer m id
  have hops : ∀ o ∈ (abortBuffer m id).ops, (o.isHandle = false ∧ o.isFlush = false) ∧ o.calm = true := by
    unfold abortBuffer
    dsimp only
    split <;> simp [Op.isHandle, Op.isFlush, Op.calm]
  refine ⟨h.attached.of_same hsame, ordered_append (fun o ho => (hops o ho).1) (List.pairwise_cons.1 h.ordered).2, ?_⟩
  intro hopen
  exact .of_calm (fun o ho => (hops o ho).2)
    (h.rest_calm rfl (by rintro k text ⟨⟩) (by rintro k code ⟨⟩) (hsame.state ▸ hopen))

theorem sound_abortEach {m : Memory} {k cid : ℕ} {cids : List ℕ} {rest : List Op}
    (h : Sound m (.abortEach k (cid :: cids) :: rest)) :
    Sound ((abortEach m k cid).andThen [.abortEach k cids]).mem
      (((abortEach m k cid).andThen [.abortEach k cids]).ops ++ rest) := by
  obtain ⟨hsame, hplain⟩ := connection_abortEach m k cid
  rw [Outcome.andThen_mem]
  refine sound_plain h (h.attached.of_same hsame) ?_ ?_
  · intro o ho
    rcases Outcome.mem_andThen_ops ho with ho | ho
    · exact hplain o ho
    · rw [List.mem_singleton.1 ho]
      rfl
  · exact fun hopen => h.rest_calm rfl (by rintro k text ⟨⟩) (by rintro k code ⟨⟩) (hsame.state ▸ hopen)

theorem sound_handle {m : Memory} {k : ℕ} {incoming : Incoming} {rest : List Op}
    (h : Sound m (.handle k incoming :: rest)) :
    Sound (handle m k incoming).mem ((handle m k incoming).ops ++ rest) := by
  obtain ⟨hattached, hplain⟩ := attached_handle h.attached k incoming
  refine sound_plain h hattached hplain fun _ o ho => ?_
  have hhandle := ((List.pairwise_cons.1 h.ordered).1 o ho).1 rfl
  cases o <;> first | rfl | cases hhandle

/-- Every operation keeps the connection and the shape of the stack. -/
theorem sound_exec {c : Choice} {m : Memory} {op : Op} {rest : List Op} {o : Outcome Memory Op}
    (h : Sound m (op :: rest)) (hx : exec c m op = some o) : Sound o.mem (o.ops ++ rest) := by
  by_cases hop : op.loud = false
  · exact sound_tame h hx hop
  · cases op with
    | call a =>
      cases a with
      | connect => cases hx; exact sound_connect h
      | _ => exact absurd rfl hop
    | construct => cases hx; exact sound_construct h
    | onClose k code => cases hx; exact sound_onClose h
    | append event data callback => cases hx; exact sound_append h
    | flushEmitBuffer => cases hx; exact sound_flushEmitBuffer h
    | flush node =>
      cases node with
      | none => exact absurd rfl hop
      | some id => cases hx; exact sound_flush h
    | abortAll => cases hx; exact sound_abortAll h
    | abortBuffer node =>
      cases node with
      | none => exact absurd rfl hop
      | some id => cases hx; exact sound_abortBuffer h
    | abortEach k cids =>
      cases cids with
      | nil => exact absurd rfl hop
      | cons cid cids => cases hx; exact sound_abortEach h
    | handle k incoming => cases hx; exact sound_handle h
    | _ => exact absurd rfl hop

/-! ## Tasks -/

/-- What a task starts with: nothing that touches calls or connection, the messages of a text, or a call that
has timed out. -/
theorem start_plain {m m' : Memory} {w : Task} {ops : List Op} (h : start m w = some (m', ops)) :
    (Quiet m m' ∧ ∀ op ∈ ops, op.plain = true) ∨
      (m' = m ∧ ∃ front k text, w = .wsMessage k text ∧ (∀ op ∈ front, op.plain = true) ∧
        ops = front ++ (onMessage text).map (.handle k)) ∨
      ∃ id, (m.calls id).timeout = true ∧ (m', ops) = handleEventAckTimeout m id := by
  cases start_cases h with
  | page => exact Or.inl ⟨Quiet.refl m, by simp [Op.plain]⟩
  | wsOpen k token =>
    simp only [onOpen]
    exact Or.inl ⟨(quiet_register m k (by rintro id ⟨⟩)).trans (quiet_setTransport _ k rfl rfl rfl),
      by simp [Op.plain]⟩
  | wsMessage k text =>
    refine Or.inr (Or.inl ⟨rfl, _, k, text, rfl, ?_, by rw [received]⟩)
    split <;> simp [Op.plain]
  | wsClosing k => exact Or.inl ⟨quiet_setTransport m k rfl rfl rfl, by simp⟩
  | wsClose k code => exact Or.inl ⟨quiet_setTransport m k rfl rfl rfl, by simp [Op.plain]⟩
  | wsError k ops hops => exact Or.inl ⟨Quiet.refl m, fun op hop => by rw [hops op hop]; rfl⟩
  | connectTimeout k | pingTimeout k => exact Or.inl ⟨quiet_setTransport m k rfl rfl rfl, by simp [Op.plain]⟩
  | handshakeTimeout k cid =>
    exact Or.inl ⟨(quiet_forget m k _).trans (quiet_setTransport _ k rfl rfl rfl), by simp [handshakeFailed, Op.plain]⟩
  | ackTimeout id htimeout => exact Or.inr (Or.inr ⟨id, htimeout, rfl⟩)
  | reconnectTimeout => exact Or.inl ⟨.of_eq rfl rfl rfl rfl rfl rfl rfl rfl, by simp [Op.plain]⟩

theorem connection_ackTimeout (m : Memory) (id : ℕ) :
    SameConnection m (handleEventAckTimeout m id).1 ∧ ∀ op ∈ (handleEventAckTimeout m id).2, op.plain = true := by
  unfold handleEventAckTimeout
  dsimp only
  split <;> exact ⟨⟨rfl, rfl, fun _ => ⟨rfl, rfl⟩⟩, by simp [Op.plain]⟩

theorem sound_start {m m' : Memory} {w : Task} {ops : List Op} (h : Attached m) (hx : start m w = some (m', ops)) :
    Sound m' ops := by
  rcases start_plain hx with ⟨hq, hplain⟩ | ⟨rfl, front, k, text, -, hplain, rfl⟩ | ⟨id, -, heq⟩
  · have hordered := ordered_plain hplain List.Pairwise.nil
    rw [List.append_nil] at hordered
    exact ⟨h.of_same hq.connection, hordered, fun _ => .calm fun o ho => calm_of_plain (hplain o ho)⟩
  · have hmessages : ((onMessage text).map (Op.handle k)).Pairwise Op.Over := by
      refine List.pairwise_of_forall_mem_list fun a ha b hb => ?_
      obtain ⟨_, -, rfl⟩ := List.mem_map.1 ha
      obtain ⟨_, -, rfl⟩ := List.mem_map.1 hb
      exact ⟨fun _ => rfl, fun _ => rfl⟩
    refine ⟨h, ordered_plain hplain hmessages, fun _ => .of_calm (fun o ho => calm_of_plain (hplain o ho)) ?_⟩
    intro o ho
    obtain ⟨_, -, rfl⟩ := List.mem_map.1 ho
    rfl
  · have hsame := connection_ackTimeout m id
    rw [← heq] at hsame
    have hordered := ordered_plain hsame.2 List.Pairwise.nil
    rw [List.append_nil] at hordered
    exact ⟨h.of_same hsame.1, hordered, fun _ => .calm fun o ho => calm_of_plain (hsame.2 o ho)⟩

theorem sound_init : Sound init.mem init.stack where
  attached := ⟨by rintro k ⟨⟩, by rintro ⟨⟩⟩
  ordered := List.pairwise_singleton _ _
  settled := by rintro ⟨⟩

/-- In every run an open client listens to an open transport, and its stack has this shape. -/
theorem sound_run {tr : List (Label Choice Task)} {s : State Memory Op}
    (h : Transition.run system.step init tr = some s) : Sound s.mem s.stack :=
  run_invariant (fun _ _ _ _ _ hs hx => sound_exec hs hx)
    (fun _ _ _ hs => ⟨hs.attached, (List.pairwise_cons.1 hs.ordered).2, fun hopen => (hs.settled hopen).tail⟩)
    (fun _ _ _ _ hs hx => sound_start hs.attached hx) sound_init h

end NodejsHelper.SocketCluster
