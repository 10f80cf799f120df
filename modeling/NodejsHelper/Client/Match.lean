/-
The call ids of a client: in every run, whatever waits in a transport for a response waits under the call id of
the one text that asks for it.
-/
import NodejsHelper.Client.Later

namespace NodejsHelper.SocketCluster

open EventLoop

/-! ## Texts and entries -/

/-- A text the WebSocket of a transport was handed, or is about to be. -/
def Memory.Given (m : Memory) (stack : List Op) (k : ℕ) (text : Sent) : Prop :=
  text ∈ (m.transports k).sent ∨ .send k text ∈ stack

/-- The text asks for what the entry waits for. -/
def Memory.Asks (m : Memory) (cid : ℕ) (text : Sent) : Entry → Prop
  | .call id => text = .single ⟨(m.calls id).event, (m.calls id).data, some cid⟩
  | .subscribe ch => text = subscribePacket (m.objects ch).name cid
  | .handshake => True

/-- The call or the channel of an entry has been made. -/
def Memory.Knows (m : Memory) : Entry → Prop
  | .call id => id < m.emitted
  | .subscribe ch => ch < m.made
  | .handshake => True

structure Matched (m : Memory) (stack : List Op) : Prop where
  issued : ∀ k text, m.Given stack k text → ∀ cid ∈ text.cids, cid < m.nextCid
  known : ∀ k, ∀ e ∈ (m.transports k).callbackMap, e.1 < m.nextCid ∧ m.Knows e.2
  asked : ∀ k, ∀ e ∈ (m.transports k).callbackMap, ∀ text, m.Given stack k text → e.1 ∈ text.cids →
    m.Asks e.1 text e.2
  unborn : m.Unborn
  listed : m.Listed
  within : ∀ op ∈ stack, op.Within m.made

variable {P : ℕ → Prop} {Q : ℕ × Answer → Prop}

/-! ## Stacks and memories -/

theorem Op.Within.mono {op : Op} {made made' : ℕ} (h : op.Within made) (hle : made ≤ made') : op.Within made' := by
  cases op with
  | trySubscribe ch => exact lt_of_lt_of_le h hle
  | _ => trivial

theorem Later.knows {m m' : Memory} (h : Later P Q m m') {e : Entry} (he : m.Knows e) : m'.Knows e := by
  cases e with
  | call id => exact lt_of_lt_of_le he h.emitted
  | handshake => trivial
  | subscribe ch => exact lt_of_lt_of_le he h.made

/-- What an entry asks for stays the same. -/
theorem Later.asks {m m' : Memory} (h : Later P Q m m') {cid : ℕ} {text : Sent} {e : Entry} (he : m.Knows e)
    (ha : m.Asks cid text e) : m'.Asks cid text e := by
  cases e with
  | call id =>
    rw [Memory.Asks, (h.calls id he).1, (h.calls id he).2]
    exact ha
  | handshake => trivial
  | subscribe ch =>
    rw [Memory.Asks, h.names ch he]
    exact ha

/-- Operations that send no call id may be left to do, and others be dropped. -/
theorem Matched.mono {m : Memory} {stack stack' : List Op} (h : Matched m stack)
    (hsub : ∀ op ∈ stack', op ∈ stack ∨ op.Bare ∧ op.Within m.made) : Matched m stack' := by
  have hgiven : ∀ k text, m.Given stack' k text → m.Given stack k text ∨ text.cids = [] := by
    rintro k text (hsent | hsend)
    · exact Or.inl (Or.inl hsent)
    · exact (hsub _ hsend).imp Or.inr fun hb => hb.1
  refine ⟨fun k text ht cid hcid => ?_, h.known, fun k e he text ht hcid => ?_, h.unborn, h.listed, fun op hop => ?_⟩
  · rcases hgiven k text ht with ht | hnone
    · exact h.issued k text ht cid hcid
    · rw [hnone] at hcid
      cases hcid
  · rcases hgiven k text ht with ht | hnone
    · exact h.asked k e he text ht hcid
    · rw [hnone] at hcid
      cases hcid
  · exact (hsub op hop).elim (h.within op) fun hb => hb.2

theorem Matched.tail {m : Memory} {op : Op} {rest : List Op} (h : Matched m (op :: rest)) : Matched m rest :=
  h.mono fun _ ho => Or.inl (List.mem_cons_of_mem op ho)

theorem Matched.of_subdued {m m' : Memory} {stack : List Op} (h : Matched m stack) (hs : Subdued P Q m m') :
    Matched m' stack := by
  have hgiven : ∀ k text, m'.Given stack k text → m.Given stack k text ∨ text.cids = [] := by
    rintro k text (hsent | hsend)
    · exact (hs.sent k text hsent).imp_left Or.inl
    · exact Or.inl (Or.inr hsend)
  refine ⟨fun k text ht cid hcid => ?_, fun k e he => ?_, fun k e he text ht hcid => ?_, hs.unborn h.unborn,
    hs.listed h.listed, fun op hop => (h.within op hop).mono hs.made⟩
  · rcases hgiven k text ht with ht | hnone
    · exact (h.issued k text ht cid hcid).trans_le hs.nextCid
    · rw [hnone] at hcid
      cases hcid
  · obtain ⟨hlt, hknown⟩ := h.known k e (hs.entries k he)
    exact ⟨hlt.trans_le hs.nextCid, hs.knows hknown⟩
  · rcases hgiven k text ht with ht | hnone
    · exact hs.asks (h.known k e (hs.entries k he)).2 (h.asked k e (hs.entries k he) text ht hcid)
    · rw [hnone] at hcid
      cases hcid

/-- A new call id is in the one text that asks for what its entry waits for. -/
theorem Matched.register {m : Memory} {stack : List Op} {e : Entry} {text : Sent} (h : Matched m stack) (k : ℕ)
    (he : m.Knows e) (htext : text.cids = [m.nextCid]) (hasks : m.Asks m.nextCid text e) :
    Matched (m.register k e) (.send k text :: stack) := by
  have hl : Later (fun _ => False) (fun _ => False) m (m.register k e) := later_register m k e
  have hsent : ∀ j, ((m.register k e).transports j).sent = (m.transports j).sent := by
    intro j
    by_cases hj : j = k
    · subst hj
      rw [register_self]
    · rw [register_of_ne hj]
  have hgiven : ∀ j text', (m.register k e).Given (.send k text :: stack) j text' →
      m.Given stack j text' ∨ j = k ∧ text' = text := by
    rintro j text' (ht | ht)
    · exact Or.inl (Or.inl (hsent j ▸ ht))
    · rcases List.mem_cons.1 ht with heq | ht
      · cases heq
        exact Or.inr ⟨rfl, rfl⟩
      · exact Or.inl (Or.inr ht)
  have hentry : ∀ j, ∀ e' ∈ ((m.register k e).transports j).callbackMap,
      e' ∈ (m.transports j).callbackMap ∨ e' = (m.nextCid, e) := by
    intro j e' he'
    by_cases hj : j = k
    · subst hj
      rw [register_self] at he'
      exact (List.mem_append.1 he').imp_right List.mem_singleton.1
    · rw [register_of_ne hj] at he'
      exact Or.inl he'
  refine ⟨fun j text' ht cid hcid => ?_, fun j e' he' => ?_, fun j e' he' text' ht hcid => ?_, hl.unborn h.unborn,
    hl.listed h.listed, fun op hop => ?_⟩
  · rcases hgiven j text' ht with ht | ⟨-, rfl⟩
    · exact Nat.lt_succ_of_lt (h.issued j text' ht cid hcid)
    · rw [htext] at hcid
      rw [List.mem_singleton.1 hcid]
      exact Nat.lt_succ_self _
  · rcases hentry j e' he' with he' | rfl
    · obtain ⟨hlt, hknown⟩ := h.known j e' he'
      exact ⟨Nat.lt_succ_of_lt hlt, hl.knows hknown⟩
    · exact ⟨Nat.lt_succ_self _, hl.knows he⟩
  · -- An old text has no new call id, and the new text no old one.
    rcases hgiven j text' ht with ht | ⟨-, rfl⟩ <;> rcases hentry j e' he' with he' | rfl
    · exact hl.asks (h.known j e' he').2 (h.asked j e' he' text' ht hcid)
    · exact absurd (h.issued j text' ht _ hcid) (lt_irrefl _)
    · rw [htext] at hcid
      exact absurd (List.mem_singleton.1 hcid) (h.known j e' he').1.ne
    · exact hl.asks he hasks
  · rcases List.mem_cons.1 hop with rfl | hop
    · trivial
    · exact (h.within op hop).mono hl.made

/-! ## Steps -/

theorem matched_minor {m : Memory} {op : Op} {rest : List Op} {o : Outcome Memory Op} (h : Matched m (op :: rest))
    (hm : Minor P Q m o) : Matched o.mem (o.ops ++ rest) := by
  refine (h.tail.of_subdued hm.subdued).mono fun op' hop => ?_
  exact (List.mem_append.1 hop).elim (fun ho => Or.inr (hm.ops op' ho)) Or.inl

theorem matched_send {m : Memory} {k : ℕ} {text : Sent} {rest : List Op} (h : Matched m (.send k text :: rest)) :
    Matched (send m k text).mem ((send m k text).ops ++ rest) := by
  have hl : Later (fun _ => False) (fun _ => False) m (send m k text).mem := later_send m k text
  have hgiven : ∀ j text', (send m k text).mem.Given rest j text' → m.Given (.send k text :: rest) j text' := by
    rintro j text' (ht | ht)
    · rcases mem_sent_send ht with ht | ⟨rfl, rfl⟩
      · exact Or.inl ht
      · exact Or.inr List.mem_cons_self
    · exact Or.inr (List.mem_cons_of_mem _ ht)
  have hrest : Matched (send m k text).mem rest := by
    refine ⟨fun j text' ht cid hcid => ?_, fun j e he => ?_, fun j e he text' ht hcid => ?_, hl.unborn h.unborn,
      hl.listed h.listed, fun op hop => (h.within op (List.mem_cons_of_mem _ hop)).mono hl.made⟩
    · exact (h.issued j text' (hgiven j text' ht) cid hcid).trans_le hl.nextCid
    · rw [entries_send] at he
      exact ⟨(h.known j e he).1.trans_le hl.nextCid, hl.knows (h.known j e he).2⟩
    · rw [entries_send] at he
      exact hl.asks (h.known j e he).2 (h.asked j e he text' (hgiven j text' ht) hcid)
  refine hrest.mono fun op hop => ?_
  exact (List.mem_append.1 hop).elim (fun ho => Or.inr (bare_send m k text _ op ho)) Or.inl

theorem matched_flush {m : Memory} {id : ℕ} {rest : List Op} (h : Matched m (.flush (some id) :: rest))
    (hid : id < m.emitted) : Matched (flush m id).mem ((flush m id).ops ++ rest) := by
  have hdetach : Subdued (fun _ => False) (fun _ => False) m { m with emitBuffer := m.emitBuffer.erase id } :=
    subdued_flags rfl rfl rfl rfl rfl (List.Subset.refl _) rfl rfl rfl
  have hrest := h.tail.of_subdued hdetach
  unfold flush
  dsimp only
  split
  · exact hrest
  · split
    · rename_i k _ _
      have hset : Subdued (fun _ => False) (fun _ => False) _ _ :=
        subdued_setCall (({ m with emitBuffer := m.emitBuffer.erase id } : Memory).register k (.call id)) id
          (f := fun c => { c with cid := some m.nextCid }) rfl rfl
      refine ((hrest.register k (e := .call id) hid rfl rfl).of_subdued hset).mono fun op hop => ?_
      rcases List.mem_cons.1 hop with rfl | hop
      · exact Or.inl List.mem_cons_self
      · rcases List.mem_cons.1 hop with rfl | hop
        · exact Or.inr ⟨trivial, trivial⟩
        · exact Or.inl (List.mem_cons_of_mem _ hop)
    · refine hrest.mono fun op hop => ?_
      rcases List.mem_append.1 hop with hop | hop
      · refine Or.inr ?_
        rcases List.mem_pair.1 hop with rfl | rfl <;> exact ⟨by simp [Op.Bare, Sent.cids], trivial⟩
      · exact Or.inl hop

theorem matched_trySubscribe {m : Memory} {ch : ℕ} {rest : List Op} (h : Matched m (.trySubscribe ch :: rest)) :
    Matched (trySubscribe m ch).mem ((trySubscribe m ch).ops ++ rest) := by
  have hch : ch < m.made := h.within _ List.mem_cons_self
  unfold trySubscribe
  split
  · split
    · exact h.tail
    · rename_i k _
      split
      · have hregister : Matched (m.register k (.subscribe ch))
            (.send k (subscribePacket (m.objects ch).name m.nextCid) :: rest) := h.tail.register k hch rfl rfl
        have hsend := matched_send hregister
        rw [Outcome.andThen_mem]
        refine hsend.mono fun op hop => ?_
        rcases List.mem_append.1 hop with hop | hop
        · rcases Outcome.mem_andThen_ops hop with hop | hop
          · exact Or.inl (List.mem_append_left _ hop)
          · refine Or.inr ?_
            rcases List.mem_pair.1 hop with rfl | rfl <;> exact ⟨trivial, trivial⟩
        · exact Or.inl (List.mem_append_right _ hop)
      · refine h.tail.mono fun op hop => ?_
        rcases List.mem_append.1 hop with hop | hop
        · refine Or.inr ?_
          rcases List.mem_pair.1 hop with rfl | rfl <;> exact ⟨trivial, trivial⟩
        · exact Or.inl hop
  · exact h.tail

theorem matched_exec {c : Choice} {m : Memory} {op : Op} {rest : List Op} {o : Outcome Memory Op}
    (hkept : Kept m (op :: rest)) (hm : Matched m (op :: rest)) (h : exec c m op = some o) :
    Matched o.mem (o.ops ++ rest) := by
  by_cases hop : op.numbers = false
  · exact matched_minor hm (minor_exec hm.listed h hop)
  · cases op with
    | flush node =>
      cases node with
      | none => exact absurd rfl hop
      | some id => cases h; exact matched_flush hm (hkept.nodes _ List.mem_cons_self id rfl)
    | trySubscribe ch => cases h; exact matched_trySubscribe hm
    | send k text => cases h; exact matched_send hm
    | _ => exact absurd rfl hop

theorem matched_onOpen {m : Memory} (h : Matched m []) {k : ℕ} (token : Json)
    (hready : (m.transports k).readyState = .connecting) : Matched (onOpen m k token).1 (onOpen m k token).2 := by
  have hopened : Subdued (fun _ => False) (fun _ => False) (m.register k .handshake) (onOpen m k token).1 := by
    refine subdued_setTransport (m.register k .handshake) k
      (f := fun t => { t with
        readyState := .opened, connectTimeout := false, pingTimeout := true, handshakeTimeout := some m.nextCid })
      (List.Subset.refl _) rfl fun hclosed => ?_
    rw [register_self, hready] at hclosed
    cases hclosed
  exact (h.register k (e := .handshake) trivial rfl trivial).of_subdued hopened

theorem matched_start {m m' : Memory} {w : Task} {ops : List Op} (hm : Matched m []) (h : start m w = some (m', ops)) :
    Matched m' ops := by
  by_cases hw : ∃ k token, w = .wsOpen k token
  · obtain ⟨k, token, rfl⟩ := hw
    cases start_cases h with
    | wsOpen _ _ _ hready => exact matched_onOpen hm token hready
  · have hminor := minor_start h fun k token heq => hw ⟨k, token, heq⟩
    exact (hm.of_subdued hminor.subdued).mono fun op hop => Or.inr (hminor.ops op hop)

theorem matched_init : Matched init.mem init.stack where
  issued := by
    rintro k text (ht | ht)
    · cases ht
    · cases List.mem_singleton.1 ht
  known := by rintro k e ⟨⟩
  asked := by rintro k e ⟨⟩
  unborn _ _ := ⟨rfl, rfl⟩
  listed := by rintro c ⟨⟩
  within op hop := by
    rw [List.mem_singleton.1 hop]
    trivial

/-- In every run the entries are matched with the texts that ask for them. -/
theorem matched_run {tr : List (Label Choice Task)} {s : State Memory Op}
    (h : Transition.run system.step init tr = some s) :
    Sound s.mem s.stack ∧ Kept s.mem s.stack ∧ Matched s.mem s.stack :=
  run_invariant (I := fun m stack => Sound m stack ∧ Kept m stack ∧ Matched m stack)
    (fun _ _ _ _ _ ⟨hs, hk, hm⟩ hx => ⟨sound_exec hs hx, kept_exec hs hk hx, matched_exec hk hm hx⟩)
    (fun _ _ _ ⟨hs, hk, hm⟩ =>
      ⟨⟨hs.attached, (List.pairwise_cons.1 hs.ordered).2, fun hopen => (hs.settled hopen).tail⟩, hk.tail, hm.tail⟩)
    (fun _ _ _ _ ⟨hs, hk, hm⟩ hx => ⟨sound_start hs.attached hx, kept_start hk hx, matched_start hm hx⟩)
    ⟨sound_init, kept_init, matched_init⟩ h

/-! ## Messages -/

/-- Messages to come are what a text of a WebSocket leaves only. -/
theorem not_isHandle_exec {c : Choice} {m : Memory} {op : Op} {o : Outcome Memory Op} (hm : Attached m)
    (hx : exec c m op = some o) : ∀ op' ∈ o.ops, op'.isHandle = false := by
  by_cases hop : op.loud = false
  · exact fun op' hop' => not_isHandle_of_plain ((tame_exec hx hop).plain op' hop')
  · cases op with
    | call a =>
      cases a with
      | connect =>
        cases hx
        rw [call, connect]
        split <;> simp [Op.isHandle]
      | _ => exact absurd rfl hop
    | construct =>
      cases hx
      rw [plain_construct]
      simp
    | onClose k code =>
      cases hx
      exact fun op' hop' => not_isHandle_of_plain (List.all_eq_true.1 (plain_onClose m k code) op' hop')
    | append event data callback =>
      cases hx
      unfold append
      split <;> simp [Op.isHandle]
    | flushEmitBuffer =>
      cases hx
      split <;> simp [Op.isHandle]
    | flush node =>
      cases node with
      | none => exact absurd rfl hop
      | some id =>
        cases hx
        rcases flush_ops m id with hops | ⟨k, text, -, hops⟩ <;> rw [hops] <;> simp [Op.isHandle]
    | abortAll => cases hx; simp [Op.isHandle]
    | abortBuffer node =>
      cases node with
      | none => exact absurd rfl hop
      | some id =>
        cases hx
        unfold abortBuffer
        dsimp only
        split <;> simp [Op.isHandle]
    | abortEach k cids =>
      cases cids with
      | nil => exact absurd rfl hop
      | cons cid cids =>
        cases hx
        intro op' hop'
        rcases Outcome.mem_andThen_ops hop' with hop' | hop'
        · exact not_isHandle_of_plain ((connection_abortEach m k cid).2 op' hop')
        · rw [List.mem_singleton.1 hop']
          rfl
    | handle k incoming =>
      cases hx
      exact fun op' hop' => not_isHandle_of_plain ((attached_handle hm k incoming).2 op' hop')
    | _ => exact absurd rfl hop

theorem not_isHandle_start {m m' : Memory} {w : Task} {ops : List Op} (hx : start m w = some (m', ops))
    (hw : ∀ k text, w ≠ .wsMessage k text) : ∀ op ∈ ops, op.isHandle = false := by
  rcases start_plain hx with ⟨-, hplain⟩ | ⟨-, -, k, text, rfl, -, -⟩ | ⟨id, -, heq⟩
  · exact fun op hop => not_isHandle_of_plain (hplain op hop)
  · exact absurd rfl (hw k text)
  · have hplain := (connection_ackTimeout m id).2
    rw [← heq] at hplain
    exact fun op hop => not_isHandle_of_plain (hplain op hop)

/-- A step of the client other than a text of a WebSocket: calls keep their events and channels their names, a
response is given and a channel shown subscribed by messages on the stack only, and no message is new. -/
theorem step_later {s s' : State Memory Op} {l : Label Choice Task} (hs : Sound s.mem s.stack)
    (hm : Matched s.mem s.stack) (h : system.step s l = some s') (hl : ∀ k text, l ≠ .start (.wsMessage k text)) :
    Later (fun ch => ∃ op ∈ s.stack, op.Shows s.mem ch) (fun a => Unanswered a ∨ ∃ op ∈ s.stack, op.Gives s.mem a)
        s.mem s'.mem ∧
      ∀ op ∈ s'.stack, op.isHandle = true → op ∈ s.stack := by
  have hexec : ∀ {c : Choice} {op : Op} {o : Outcome Memory Op}, op ∈ s.stack → exec c s.mem op = some o →
      Later (fun ch => ∃ op ∈ s.stack, op.Shows s.mem ch) (fun a => Unanswered a ∨ ∃ op ∈ s.stack, op.Gives s.mem a)
        s.mem o.mem := fun hop hx =>
    (later_exec hm.listed hx).imp (fun ch hch => ⟨_, hop, hch⟩) fun a ha => ha.imp_right fun ha => ⟨_, hop, ha⟩
  rcases step_iff.1 h with ⟨c, unwound, op, rest, ops, m, hstack, hx⟩ | ⟨c, unwound, op, rest, m, hstack, hx, -⟩ |
    ⟨w, ops, m, hstack, hx⟩
  · refine ⟨hexec (hstack ▸ List.mem_cons_self) hx, fun op' hop hhandle => ?_⟩
    rcases List.mem_append.1 hop with hop | hop
    · rw [not_isHandle_exec hs.attached hx op' hop] at hhandle
      cases hhandle
    · rw [hstack]
      exact List.mem_cons_of_mem op hop
  · refine ⟨hexec (hstack ▸ List.mem_cons_self) hx, fun op' hop _ => ?_⟩
    rw [hstack]
    exact List.mem_cons_of_mem op (List.mem_of_mem_drop hop)
  · refine ⟨(later_start hx).imp (fun _ h => h.elim) fun _ => Or.inl, fun op hop hhandle => ?_⟩
    rw [not_isHandle_start hx (fun k text heq => hl k text (heq ▸ rfl)) op hop] at hhandle
    cases hhandle

end NodejsHelper.SocketCluster
