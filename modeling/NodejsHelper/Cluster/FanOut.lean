/-
A publish reaches every subscriber of every node once. For each call the packets a socket has received
or may still receive are bounded by the call itself on the publisher's node and by its PUBLISH command on
every other one (`Ledger`): the publisher drops its own echo, and what comes from Redis is never
published again. What is owed to a member of the channel stays owed until it is queued or the socket is
closed (`Owed`).
-/
import NodejsHelper.Cluster.Basic
import NodejsHelper.Server.Ledger
import NodejsHelper.Server.Records

namespace NodejsHelper

namespace Cluster

open Server

variable {ι : Type*} [DecidableEq ι] {p : Auth.Primitives} {cfg : ι → Config}

/-! ## Steps -/

variable (p cfg) in
/-- What a step of the cluster is. -/
inductive Step (c : State ι) : Label ι → State ι → Prop
  | node (i : ι) (l : Server.Label) (s : Server.State) :
      receives l = false → Server.step p (cfg i) (c.node i) l = some s →
      Step c (.node i l)
        { c with node := Function.update c.node i s, inbox := c.hand (executed (c.node i).mem s.mem) }
  | receive (i : ι) (d : Delivery) (rest : List Delivery) (s : Server.State) :
      c.inbox i = d :: rest → Server.step p (cfg i) (c.node i) (.start (.receive d.channel d.raw d.call)) = some s →
      Step c (.receive i) { c with node := Function.update c.node i s, inbox := Function.update c.inbox i rest }
  | activate (i : ι) (channel : String) (on : Bool) :
      Step c (.activate i channel on)
        { c with active := Function.update c.active i (Function.update (c.active i) channel on) }
  | external (channel raw : String) :
      Step c (.external channel raw) { c with inbox := c.hand [⟨channel, raw, none⟩] }

theorem step_cases {c c' : State ι} {l : Label ι} (h : step p cfg c l = some c') : Step p cfg c l c' := by
  cases l with
  | node i l =>
    obtain ⟨hr, h⟩ := Option.ite_none_left_eq_some.1 h
    obtain ⟨s, hs, rfl⟩ := Option.map_eq_some_iff.1 h
    exact .node i l s (by simpa using hr) hs
  | receive i =>
    simp only [step] at h
    split at h
    · cases h
    · rename_i d rest hi
      obtain ⟨s, hs, rfl⟩ := Option.map_eq_some_iff.1 h
      exact .receive i d rest s hi hs
  | activate i channel on => cases h; exact .activate i channel on
  | external channel raw => cases h; exact .external channel raw

/-! ## What Redis hands out -/

/-- The messages of a call a connection holds. -/
def held (c : State ι) (n : ι) (k : CallID) : ℕ := (c.inbox n).countP fun d => decide (d.call = some k)

omit [DecidableEq ι] in
/-- A connection is handed a message for a command at most. -/
theorem held_hand {c : State ι} {m m' : Memory} {new : List Command} (h : m'.commands = m.commands ++ new) (n : ι)
    (k : CallID) : (c.hand (executed m m') n).countP (fun d => decide (d.call = some k)) + issued m k ≤
      held c n k + issued m' k := by
  have hnew : (executed m m').countP (fun d => decide (d.call = some k)) ≤ new.countP fun x => decide (x.call = k) := by
    unfold executed
    rw [h, List.drop_left, List.countP_map]
    calc (new.filter Command.ok).countP ((fun d : Delivery => decide (d.call = some k)) ∘ deliveryOf)
        ≤ new.countP ((fun d : Delivery => decide (d.call = some k)) ∘ deliveryOf) :=
          List.filter_sublist.countP_le
      _ = new.countP fun x => decide (x.call = k) := List.countP_congr fun x _ => by simp [deliveryOf]
  have hfilter : ((executed m m').filter fun d => c.active n d.channel).countP (fun d => decide (d.call = some k)) ≤
      (executed m m').countP fun d => decide (d.call = some k) := List.filter_sublist.countP_le
  unfold State.hand held issued
  rw [List.countP_append, h, List.countP_append]
  omega

/-! ## The ledger -/

/-- The goroutine of node `n` that brings the packets of a call of node `i` to its sockets. -/
def handler (i n : ι) (k : CallID) : Goroutine := if i = n then .readLoop k.socket else .receiveLoop

variable (cfg) in
/-- Packets of a call are delivered by its handlers only. -/
def Handled (node : ι → Server.State) : Prop := ∀ n g, ∀ o ∈ (node n).todo g, ∀ k, o.delivers = some k →
  ∃ i, k.instanceID = (cfg i).instanceID ∧ g = handler i n k

variable (cfg) in
/-- Every node's books are in order; packets of a call are delivered by its handler; what a connection
holds for a call is what the call's node sent; and for each socket the packets received and outstanding
do not exceed the calls on the node that made them, and the commands issued on any other. -/
structure Ledger (c : State ι) : Prop where
  booked : ∀ i, Booked (cfg i) (c.node i)
  handled : Handled cfg c.node
  sent : ∀ n, ∀ d ∈ c.inbox n, ∀ k, d.call = some k →
    ∃ i data, k.instanceID = (cfg i).instanceID ∧ d.raw = encodeForRedis (cfg i).instanceID data
  own : ∀ n t k, k.instanceID = (cfg n).instanceID →
    ((c.node n).todo (.readLoop k.socket)).countP (Op.reaches t k) + received (c.node n).mem t k ≤
      (c.node n).mem.calls.count k
  remote : ∀ i n t k, i ≠ n → k.instanceID = (cfg i).instanceID →
    held c n k + ((c.node n).todo .receiveLoop).countP (Op.reaches t k) + received (c.node n).mem t k ≤
      issued (c.node i).mem k

theorem ledger_init : Ledger cfg (init : State ι) where
  booked _ := booked_init
  handled _ _ _ h := nomatch h
  sent _ _ h := nomatch h
  own _ _ _ _ := le_rfl
  remote _ _ _ _ _ _ := le_rfl

/-! ## The step -/

section

variable (hid : ∀ i, PlainID (cfg i).instanceID) (hinj : Function.Injective fun i => (cfg i).instanceID)

include hinj in
theorem Handled.eq {node : ι → Server.State} (h : Handled cfg node) {i n : ι} {k : CallID}
    (hk : k.instanceID = (cfg i).instanceID) :
    ∀ g, ∀ o ∈ (node n).todo g, o.delivers = some k → g = handler i n k := by
  intro g o ho hd
  obtain ⟨i', hk', rfl⟩ := h n g o ho k hd
  rw [hinj (hk'.symm.trans hk)]

/-- The label brings packets of other nodes' calls only. -/
def BringsOthers (cfg : ι → Config) (j : ι) (l : Server.Label) : Prop :=
  ∀ k, brings (cfg j) k l = true → ∃ i, i ≠ j ∧ k.instanceID = (cfg i).instanceID

omit [DecidableEq ι] in
theorem bringsOthers_node (j : ι) {l : Server.Label} (h : receives l = false) : BringsOthers cfg j l := by
  intro k hb
  unfold brings at hb
  split at hb
  · cases h
  · cases hb

include hid in
omit [DecidableEq ι] in
/-- A node drops the echo of its own publishes. -/
theorem bringsOthers_receive {j : ι} {d : Delivery} (hd : ∀ k, d.call = some k →
      ∃ i data, k.instanceID = (cfg i).instanceID ∧ d.raw = encodeForRedis (cfg i).instanceID data) :
    BringsOthers cfg j (.start (.receive d.channel d.raw d.call)) := by
  intro k hb
  simp only [brings, Bool.and_eq_true, decide_eq_true_eq] at hb
  obtain ⟨i, data, hk, hraw⟩ := hd k hb.1
  refine ⟨i, ?_, hk⟩
  rintro rfl
  rw [hraw, handleMessage_own (hid i)] at hb
  cases hb.2

/-- A step of a node leaves the deliveries with the handlers. -/
theorem Handled.step {node : ι → Server.State} {j : ι} {l : Server.Label} {s : Server.State} (h : Handled cfg node)
    (hhome : Homed (node j)) (hl : BringsOthers cfg j l) (hs : Server.step p (cfg j) (node j) l = some s) :
    Handled cfg (Function.update node j s) := by
  intro n g o ho k hk
  by_cases hn : n = j
  · subst hn
    rw [Function.update_self] at ho
    rcases delivers_step hhome hs ho hk with ⟨o', ho', hk'⟩ | ⟨hown, rfl⟩ | ⟨rfl, hb⟩
    · exact h n g o' ho' k hk'
    · exact ⟨n, hown, (if_pos rfl).symm⟩
    · obtain ⟨i, hne, hk'⟩ := hl k hb
      exact ⟨i, hk', (if_neg hne).symm⟩
  · rw [Function.update_of_ne hn] at ho
    exact h n g o ho k hk

include hinj in
/-- On its own node a call is delivered within the calls made. -/
theorem own_step {c : State ι} {j : ι} {l : Server.Label} {s : Server.State} (hc : Ledger cfg c)
    (hl : BringsOthers cfg j l) (hs : Server.step p (cfg j) (c.node j) l = some s) (n : ι) (t : ℕ) {k : CallID}
    (hk : k.instanceID = (cfg n).instanceID) :
    ((Function.update c.node j s n).todo (.readLoop k.socket)).countP (Op.reaches t k) +
      received (Function.update c.node j s n).mem t k ≤ (Function.update c.node j s n).mem.calls.count k := by
  by_cases hn : n = j
  · subst hn
    have hb : brings (cfg n) k l = false := by
      refine Bool.eq_false_iff.2 fun hb => ?_
      obtain ⟨i, hne, hk'⟩ := hl k hb
      exact hne (hinj (hk'.symm.trans hk))
    have hhandler : handler n n k = .readLoop k.socket := if_pos rfl
    have hold := hc.handled.eq hinj hk (n := n)
    have hnew := (hc.handled.step (hc.booked n).homed hl hs).eq hinj hk (n := n)
    rw [hhandler] at hold hnew
    rw [Function.update_self] at hnew ⊢
    have hstep := reaches_step hold hnew hs t
    have hbound := hc.own n t k hk
    simp only [hb, Bool.false_eq_true, if_false] at hstep
    omega
  · rw [Function.update_of_ne hn]
    exact hc.own n t k hk

include hinj in
/-- On another node it is delivered within the commands issued. -/
theorem remote_step {c : State ι} {j : ι} {l : Server.Label} {s : Server.State} (hc : Ledger cfg c)
    (hl : BringsOthers cfg j l) (hs : Server.step p (cfg j) (c.node j) l = some s) {inbox : ι → List Delivery}
    {i n : ι} (t : ℕ) {k : CallID} (hne : i ≠ n) (hk : k.instanceID = (cfg i).instanceID)
    (hinbox : (inbox n).countP (fun d => decide (d.call = some k)) + issued (c.node j).mem k +
      (if j = n ∧ brings (cfg j) k l = true then 1 else 0) ≤ held c n k + issued s.mem k) :
    (inbox n).countP (fun d => decide (d.call = some k)) +
        ((Function.update c.node j s n).todo .receiveLoop).countP (Op.reaches t k) +
        received (Function.update c.node j s n).mem t k ≤ issued (Function.update c.node j s i).mem k := by
  have hforeign : ∀ {m : ι}, i ≠ m → k.instanceID ≠ (cfg m).instanceID := fun him he => him (hinj (hk.symm.trans he))
  have hbound := hc.remote i n t k hne hk
  have hbooked : Booked (cfg j) s := (hc.booked j).step hs
  by_cases hn : n = j
  · subst hn
    -- another node's call is carried out by the receive loop only
    have hhandler : handler i n k = .receiveLoop := if_neg hne
    have hold := hc.handled.eq hinj hk (n := n)
    have hnew := (hc.handled.step (hc.booked n).homed hl hs).eq hinj hk (n := n)
    rw [hhandler] at hold hnew
    rw [Function.update_self] at hnew ⊢
    rw [Function.update_of_ne hne]
    have hstep := reaches_step hold hnew hs t
    obtain ⟨hcalls, hissued⟩ := (hc.booked n).foreign (hforeign hne)
    obtain ⟨hcalls', hissued'⟩ := hbooked.foreign (hforeign hne)
    simp only [true_and] at hinbox
    omega
  · rw [Function.update_of_ne hn]
    simp only [Ne.symm hn, false_and, if_false] at hinbox
    -- the step was another node's
    by_cases hi : i = j
    · subst hi
      rw [Function.update_self]
      omega
    · rw [Function.update_of_ne hi]
      have h1 := ((hc.booked j).foreign (hforeign hi)).2
      have h2 := (hbooked.foreign (hforeign hi)).2
      omega

omit [DecidableEq ι] in
theorem held_external (c : State ι) (channel raw : String) (n : ι) (k : CallID) :
    (c.hand [⟨channel, raw, none⟩] n).countP (fun d => decide (d.call = some k)) = held c n k := by
  unfold State.hand held
  rw [List.countP_append, Nat.add_eq_left, List.countP_eq_zero]
  intro d hd
  rw [List.mem_singleton.1 (List.mem_filter.1 hd).1]
  simp

include hid hinj in
theorem ledger_step {c c' : State ι} {l : Label ι} (hc : Ledger cfg c) (h : step p cfg c l = some c') :
    Ledger cfg c' := by
  have hbooked : ∀ {j l s}, Server.step p (cfg j) (c.node j) l = some s →
      ∀ i, Booked (cfg i) (Function.update c.node j s i) := by
    intro j l s hs i
    by_cases hi : i = j
    · subst hi; rw [Function.update_self]; exact (hc.booked i).step hs
    · rw [Function.update_of_ne hi]; exact hc.booked i
  cases step_cases h with
  | activate => exact ⟨hc.booked, hc.handled, hc.sent, hc.own, hc.remote⟩
  | external channel raw =>
    refine ⟨hc.booked, hc.handled, fun n d hd k hk => ?_, hc.own, fun i n t k hne hk => ?_⟩
    · rcases List.mem_append.1 hd with hd | hd
      · exact hc.sent n d hd k hk
      · rw [List.mem_singleton.1 (List.mem_filter.1 hd).1] at hk
        cases hk
    · rw [held, held_external]
      exact hc.remote i n t k hne hk
  | node j l s hr hs =>
    have hl : BringsOthers cfg j l := bringsOthers_node j hr
    obtain ⟨new, hnew, hpay⟩ := commands_step hs
    refine ⟨hbooked hs, hc.handled.step (hc.booked j).homed hl hs, fun n d hd k hk => ?_,
      fun n t k hk => own_step hinj hc hl hs n t hk, fun i n t k hne hk => remote_step hinj hc hl hs t hne hk ?_⟩
    · rcases List.mem_append.1 hd with hd | hd
      · exact hc.sent n d hd k hk
      · obtain ⟨x, hx, rfl⟩ := List.mem_map.1 (List.mem_filter.1 hd).1
        replace hx := (List.mem_filter.1 hx).1
        rw [hnew, List.drop_left] at hx
        obtain ⟨data, hdata⟩ := hpay x hx
        cases hk
        have hown := ((hc.booked j).step hs).command (c := x) (by rw [hnew]; exact List.mem_append_right _ hx)
        exact ⟨j, data, hown, hdata⟩
    · -- the step of a node takes nothing from its inbox
      have hb : brings (cfg j) k l = false := by
        unfold brings
        split
        · cases hr
        · rfl
      simpa [hb] using held_hand hnew n k
  | receive j d rest s hi hs =>
    have hl : BringsOthers cfg j (.start (.receive d.channel d.raw d.call)) :=
      bringsOthers_receive hid (hc.sent j d (hi ▸ List.mem_cons_self))
    obtain ⟨new, hnew, -⟩ := commands_step hs
    refine ⟨hbooked hs, hc.handled.step (hc.booked j).homed hl hs, fun n d' hd k hk => ?_,
      fun n t k hk => own_step hinj hc hl hs n t hk, fun i n t k hne hk => remote_step hinj hc hl hs t hne hk ?_⟩
    · dsimp only at hd
      by_cases hn : n = j
      · subst hn
        rw [Function.update_self] at hd
        exact hc.sent n d' (hi ▸ List.mem_cons_of_mem d hd) k hk
      · rw [Function.update_of_ne hn] at hd
        exact hc.sent n d' hd k hk
    · -- the message leaves the inbox and is with the receive loop
      have hle : issued (c.node j).mem k ≤ issued s.mem k := by
        rw [issued, issued, hnew, List.countP_append]
        exact Nat.le_add_right _ _
      dsimp only
      by_cases hn : n = j
      · subst hn
        rw [Function.update_self, held, hi, List.countP_cons]
        by_cases hk' : d.call = some k
        · simp only [hk', decide_true, if_true]
          split <;> omega
        · simp only [brings, hk', decide_false, Bool.false_and, Bool.false_eq_true, and_false, if_false]
          omega
      · rw [Function.update_of_ne hn, if_neg (fun he => hn he.1.symm)]
        exact Nat.add_le_add_left hle _

/-! ## Who is served -/

/-- The call is on its way to the node, or due to the socket there. -/
def Owed (cfg : ι → Config) (c : State ι) (n : ι) (t : ℕ) (k : CallID) : Prop :=
  k.instanceID ≠ (cfg n).instanceID ∧ 0 < held c n k ∨ Due (c.node n) t k

/-- A step that fans the call out on the node finds the socket in the hub on the channel. -/
def Present (n : ι) (t : ℕ) (k : CallID) (c : State ι) : Label ι → Prop
  | .node i l => i = n → Server.Present t k (c.node n) l
  | _ => True

instance Present.decidable (n : ι) (t : ℕ) (k : CallID) (c : State ι) : ∀ l, Decidable (Present n t k c l)
  | .node i l => inferInstanceAs (Decidable (i = n → Server.Present t k (c.node n) l))
  | .receive _ | .activate _ _ _ | .external _ _ => isTrue trivial

include hid in
theorem owed_step {c c' : State ι} {l : Label ι} {n : ι} {t : ℕ} {k : CallID} (hc : Ledger cfg c)
    (ho : Owed cfg c n t k) (hp : Present n t k c l) (h : step p cfg c l = some c') : Owed cfg c' n t k := by
  have hhand : ∀ msgs, 0 < held c n k → 0 < (c.hand msgs n).countP fun d => decide (d.call = some k) :=
    fun msgs hh => by
    rw [State.hand, List.countP_append]
    exact Nat.add_pos_left hh _
  cases step_cases h with
  | activate => exact ho
  | external channel raw => exact ho.imp (And.imp_right (hhand _)) id
  | node j l s hr hs =>
    refine ho.imp (And.imp_right (hhand _)) fun hd => ?_
    by_cases hn : n = j
    · subst hn
      show Due (Function.update c.node n s n) t k
      rw [Function.update_self]
      exact due_step hd (hp rfl) hs
    · show Due (Function.update c.node j s n) t k
      rw [Function.update_of_ne hn]
      exact hd
  | receive j d rest s hi hs =>
    by_cases hn : n = j
    · subst hn
      rcases ho with ⟨hne, hh⟩ | hd
      · rw [held, hi, List.countP_cons] at hh
        by_cases hk : d.call = some k
        · obtain ⟨i, data, hid', hraw⟩ := hc.sent n d (hi ▸ List.mem_cons_self) k hk
          obtain ⟨v, hv⟩ := handleMessage_other (hid i) (fun he => hne (hid'.trans he)) data
          refine Or.inr ?_
          show Due (Function.update c.node n s n) t k
          rw [Function.update_self]
          rw [hk] at hs
          exact due_received hs (hraw ▸ hv) t
        · refine Or.inl ⟨hne, ?_⟩
          simpa [held, hk] using hh
      · refine Or.inr ?_
        show Due (Function.update c.node n s n) t k
        rw [Function.update_self]
        exact due_step hd (by exact trivial) hs
    · simpa [Owed, held, Function.update_of_ne hn] using ho

/-- The step makes the call on the node, or issues its command on another one while the subscription of
the node is active, and Redis executes it. -/
def Announces (c c' : State ι) (n : ι) (k : CallID) : Prop :=
  k ∉ (c.node n).mem.calls ∧ k ∈ (c'.node n).mem.calls ∨
    ∃ i, i ≠ n ∧ ∃ x, (c'.node i).mem.commands = (c.node i).mem.commands ++ [x] ∧ x.call = k ∧ x.ok = true ∧
      c.active n x.channel = true

omit [DecidableEq ι] in
/-- A call that a step makes on the node is owed to its sockets. -/
theorem owed_made {node : Server.State} {j n : ι} [DecidableEq ι] {c : State ι} {l : Server.Label} {k : CallID} (t : ℕ)
    (h : Server.step p (cfg j) (c.node j) l = some node) (hold : k ∉ (c.node n).mem.calls)
    (hnew : k ∈ (Function.update c.node j node n).mem.calls) : Due (Function.update c.node j node n) t k := by
  by_cases hn : n = j
  · subst hn
    rw [Function.update_self] at hnew ⊢
    exact due_made h hold hnew t
  · rw [Function.update_of_ne hn] at hnew
    exact absurd hnew hold

include hid hinj in
theorem owed_announced {c c' : State ι} {l : Label ι} {n : ι} {k : CallID} (hc : Ledger cfg c)
    (h : step p cfg c l = some c') (ha : Announces c c' n k) (t : ℕ) : Owed cfg c' n t k := by
  rcases ha with ⟨hold, hnew⟩ | ⟨i, hi, x, hx, rfl, hok, hact⟩
  · refine Or.inr ?_
    cases step_cases h with
    | activate => exact absurd hnew hold
    | external => exact absurd hnew hold
    | node j l s hr hs => exact owed_made t hs hold hnew
    | receive j d rest s hi hs => exact owed_made t hs hold hnew
  · have hown : x.call.instanceID = (cfg i).instanceID :=
      ((ledger_step hid hinj hc h).booked i).command (by rw [hx]; exact List.mem_append_right _ List.mem_cons_self)
    refine Or.inl ⟨fun he => hi (hinj (hown.symm.trans he)), ?_⟩
    cases step_cases h with
    | activate => simp at hx
    | external => simp at hx
    | node j l s hr hs =>
      dsimp only at hx
      by_cases hij : i = j
      · subst hij
        rw [Function.update_self] at hx
        refine List.countP_pos_iff.2 ⟨deliveryOf x, List.mem_append_right _ ?_, by simp [deliveryOf]⟩
        simp [executed, hx, hok, hact, deliveryOf]
      · rw [Function.update_of_ne hij] at hx
        simp at hx
    | receive j d rest s hd hs =>
      dsimp only at hx
      by_cases hij : i = j
      · subst hij
        rw [Function.update_self, (start_step hs).2] at hx
        simp at hx
      · rw [Function.update_of_ne hij] at hx
        simp at hx

end

/-! ## The result -/

/-- The call has been handled on the node: nothing of it is to be delivered there any more. -/
def Done (c : State ι) (n : ι) (k : CallID) : Prop :=
  held c n k = 0 ∧ ∀ g, ∀ op ∈ (c.node n).todo g, op.delivers ≠ some k

/-- No packet of a call is received twice. -/
theorem Ledger.received_le {c : State ι} (hc : Ledger cfg c) {i : ι} (n : ι) (t : ℕ) {k : CallID}
    (hk : k.instanceID = (cfg i).instanceID) : received (c.node n).mem t k ≤ 1 := by
  have hcount : (c.node i).mem.calls.count k ≤ 1 := List.nodup_iff_count_le_one.1 (hc.booked i).nodup k
  by_cases hin : i = n
  · subst hin
    have := hc.own i t k hk
    omega
  · have := hc.remote i n t k hin hk
    have := (hc.booked i).issued k
    omega

omit [DecidableEq ι] in
theorem announced_id [DecidableEq ι] {c c' : State ι} {n : ι} {k : CallID} (hc : Ledger cfg c')
    (ha : Announces c c' n k) : ∃ i, k.instanceID = (cfg i).instanceID := by
  rcases ha with ⟨-, hk⟩ | ⟨i, -, x, hx, rfl, -⟩
  · exact ⟨n, ((hc.booked n).own k hk).1⟩
  · exact ⟨i, (hc.booked i).command (by rw [hx]; exact List.mem_append_right _ List.mem_cons_self)⟩

omit [DecidableEq ι] in
/-- What was owed to a socket that stayed open it has received, unless it is being closed for its full
queue. -/
theorem Owed.received {c : State ι} {n : ι} {t : ℕ} {k : CallID} (ho : Owed cfg c n t k) (hdone : Done c n k)
    (hclosed : ((c.node n).mem.conns t).closed = false) (hend : ((c.node n).mem.conns t).done = false) :
    0 < received (c.node n).mem t k ∨ ∃ g, .closeWith t 1008 "Outbound queue full" ∈ (c.node n).todo g := by
  rcases ho with ⟨-, hh⟩ | ⟨g, op, hop, hr | rfl⟩ | hd | hd | hd
  · exact absurd hh (by rw [hdone.1]; exact Nat.lt_irrefl 0)
  · exact absurd (delivers_of_reaches hr) (hdone.2 g op hop)
  · exact Or.inr ⟨g, hop⟩
  · rw [hclosed] at hd; cases hd
  · rw [hend] at hd; cases hd
  · exact Or.inl hd

omit [DecidableEq ι] in
theorem plainID_of_default (hid : ∀ i, ∃ buf, (cfg i).instanceID = defaultInstanceID buf) (i : ι) :
    PlainID (cfg i).instanceID := by
  obtain ⟨buf, hb⟩ := hid i
  rw [hb]
  exact plainID_default buf

theorem ledger_run (hid : ∀ i, PlainID (cfg i).instanceID) (hinj : Function.Injective fun i => (cfg i).instanceID)
    {tr : List (Label ι)} {c : State ι} (h : Transition.run (step p cfg) init tr = some c) : Ledger cfg c :=
  Transition.run_invariant (fun _ _ _ hc hs => ledger_step hid hinj hc hs) ledger_init h

variable (p) in
/-- Nodes with different default ids share one Redis. No socket of any node is ever queued two packets of
one call of `Server.publish`, and a node delivers no echo of its own calls and publishes nothing it was
handed. From the step that makes the call on a node, or has Redis execute its command while the node's
subscription is active, a socket that each fan-out of the call on the node finds in the hub has been
queued exactly one packet when the call is handled there, if it is still open and not about to be closed
for its full queue. And every call is one PUBLISH command. -/
theorem fan_out_once (hid : ∀ i, ∃ buf, (cfg i).instanceID = defaultInstanceID buf)
    (hinj : Function.Injective fun i => (cfg i).instanceID) (tr : List (Label ι)) {c : State ι}
    (hrun : Transition.run (step p cfg) init tr = some c) :
    (∀ i n t, ∀ k ∈ (c.node i).mem.calls, received (c.node n).mem t k ≤ 1) ∧
    (∀ n, ∀ op ∈ (c.node n).todo .receiveLoop,
      (∀ k, op.delivers = some k → k.instanceID ≠ (cfg n).instanceID ∧ op.issues k = false) ∧
        ∀ t channel data, op ≠ .publish t channel data) ∧
    (∀ n t k pre l post a b, tr = pre ++ l :: post → Transition.run (step p cfg) init pre = some a →
      step p cfg a l = some b → Announces a b n k → Transition.EachStep (step p cfg) (Present n t k) b post →
      Done c n k → ((c.node n).mem.conns t).closed = false → ((c.node n).mem.conns t).done = false →
      received (c.node n).mem t k = 1 ∨ ∃ g, .closeWith t 1008 "Outbound queue full" ∈ (c.node n).todo g) ∧
    (∀ n, (c.node n).mem.calls.Nodup ∧ (∀ k, ((c.node n).todo (.readLoop k.socket)).countP (Op.issues k) +
        issued (c.node n).mem k = (c.node n).mem.calls.count k) ∧
      ((∀ g, ∀ op ∈ (c.node n).todo g, ∀ k, op.issues k = false) →
        (c.node n).mem.commands.length = (c.node n).mem.calls.length)) := by
  have hplain := plainID_of_default hid
  have hledger : ∀ {tr : List (Label ι)} {c : State ι}, Transition.run (step p cfg) init tr = some c → Ledger cfg c :=
    ledger_run hplain hinj
  have hc := hledger hrun
  refine ⟨fun i n t k hk => hc.received_le n t ((hc.booked i).own k hk).1,
    fun n op hop => ⟨fun k hk => ?_, ?_⟩, ?_,
    fun n => ⟨(hc.booked n).nodup, (hc.booked n).issued, fun hq => ?_⟩⟩
  · obtain ⟨i, hi, hg⟩ := hc.handled n _ op hop k hk
    refine ⟨fun he => ?_, ?_⟩
    · rw [handler, if_pos (hinj (hi.symm.trans he))] at hg
      cases hg
    · cases op <;> first | rfl | cases hk
  · rintro t channel data rfl
    cases (hc.booked n).homed _ _ hop _ rfl
  · rintro n t k pre l post a b rfl hpre hstep ha hpresent hdone hclosed hend
    obtain ⟨a', ha', hpost⟩ := Transition.run_append_some hrun
    rw [hpre] at ha'
    cases ha'
    obtain ⟨b', hb', hpost⟩ := Transition.run_cons_some hpost
    rw [hstep] at hb'
    cases hb'
    have hla := hledger hpre
    have hlb := ledger_step hplain hinj hla hstep
    -- from the announcement on the call is owed to the socket
    have ho : Ledger cfg c ∧ Owed cfg c n t k :=
      Transition.run_invariant_each (I := fun c => Ledger cfg c ∧ Owed cfg c n t k)
        (fun _ _ _ hp hs hst => ⟨ledger_step hplain hinj hs.1 hst, owed_step hplain hs.1 hs.2 hp hst⟩) hpresent
        ⟨hlb, owed_announced hplain hinj hla hstep ha t⟩ hpost
    obtain ⟨i, hi⟩ := announced_id hlb ha
    refine (ho.2.received hdone hclosed hend).imp (fun hpos => ?_) id
    exact le_antisymm (hc.received_le n t hi) hpos
  · have := ((hc.booked n).commands_perm hq).length_eq
    rwa [List.length_map] at this

/-- The settings of two nodes. -/
def sampleConfig (b : Bool) : Config :=
  defaultConfig "secret" Auth.sampleKey (defaultInstanceID fun _ => if b then 1 else 0)

/-- A visitor of a chat on one node, whose subscription becomes active, and one on the other node up to the
command of its presence publish. -/
def sampleBefore : List (Label Bool) :=
  sampleVisit.map (.node true) ++ .activate true "chat_55" true :: (sampleVisit.take 17).map (.node false)

/-- The rest of the visit, and the message taken up and fanned out on the first node. -/
def sampleAfter : List (Label Bool) :=
  (sampleVisit.drop 18).map (.node false) ++
    .receive true :: List.replicate 3 (.node true (.run .receiveLoop ⟨[0], true⟩))

/-- The visitor of the first node is queued the presence packet of the second node's visitor once. -/
theorem fan_out_once_sample :
    ∃ c k, Transition.run (step Auth.sample sampleConfig) init
        (sampleBefore ++ .node false (.run (.readLoop 0) ⟨[], true⟩) :: sampleAfter) = some c ∧
      k ∈ (c.node false).mem.calls ∧ received (c.node true).mem 0 k = 1 := by
  let k : CallID := ⟨(sampleConfig false).instanceID, 0, 0⟩
  let l : Label Bool := .node false (.run (.readLoop 0) ⟨[], true⟩)
  have hrun : ((Transition.run (step Auth.sample sampleConfig) init sampleBefore).any fun a =>
      (step Auth.sample sampleConfig a l).any fun b =>
        decide ((a.node false).mem.commands.length = 0) &&
        decide ((b.node false).mem.commands.map (fun x => (x.call, x.channel, x.ok)) = [(k, "chat_55", true)]) &&
        a.active true "chat_55" &&
        decide (Transition.EachStep (step Auth.sample sampleConfig) (Present true 0 k) b sampleAfter) &&
        (Transition.run (step Auth.sample sampleConfig) b sampleAfter).any fun c =>
          decide (k ∈ (c.node false).mem.calls) && decide (0 < received (c.node true).mem 0 k) &&
          (c.inbox true).isEmpty && ((c.node true).todo .receiveLoop).isEmpty &&
          !((c.node true).mem.conns 0).closed && !((c.node true).mem.conns 0).done) = true := by
    decide +kernel
  obtain ⟨a, ha, hrun⟩ := (Option.any_eq_true _ _).1 hrun
  obtain ⟨b, hb, hrun⟩ := (Option.any_eq_true _ _).1 hrun
  simp only [Bool.and_eq_true, decide_eq_true_eq] at hrun
  obtain ⟨⟨⟨⟨hnone, hone⟩, hactive⟩, hpresent⟩, hrun⟩ := hrun
  obtain ⟨c, hc, hrun⟩ := (Option.any_eq_true _ _).1 hrun
  simp only [Bool.and_eq_true, decide_eq_true_eq, List.isEmpty_iff, Bool.not_eq_true'] at hrun
  obtain ⟨⟨⟨⟨⟨hcall, hpos⟩, hinbox⟩, htodo⟩, hclosed⟩, hend⟩ := hrun
  have hall : Transition.run (step Auth.sample sampleConfig) init (sampleBefore ++ l :: sampleAfter) = some c := by
    rw [Transition.run_append, ha]
    simp [hb, hc]
  have hid : ∀ i, ∃ buf, (sampleConfig i).instanceID = defaultInstanceID buf := fun i => ⟨_, rfl⟩
  have hinj : Function.Injective fun i => (sampleConfig i).instanceID := by decide
  have hann : Announces a b true k := by
    obtain ⟨x, hx, hxk⟩ := List.map_eq_singleton_iff.1 hone
    rw [List.length_eq_zero_iff] at hnone
    simp only [Prod.mk.injEq] at hxk
    obtain ⟨hk, hchannel, hok⟩ := hxk
    exact Or.inr ⟨false, by decide, x, by rw [hnone, hx]; rfl, hk, hok, hchannel ▸ hactive⟩
  have hdone : Done c true k := by
    refine ⟨by rw [held, hinbox]; rfl, fun g op hop hk => ?_⟩
    have hg := (ledger_run (plainID_of_default hid) hinj hall).handled.eq hinj (i := false) rfl g op hop hk
    rw [hg, show handler false true k = .receiveLoop from rfl, htodo] at hop
    cases hop
  have hfan := fan_out_once Auth.sample hid hinj _ hall
  refine ⟨c, k, hall, hcall, ?_⟩
  rcases hfan.2.2.1 true 0 k sampleBefore l sampleAfter a b rfl ha hb hann hpresent hdone hclosed hend with h | -
  · exact h
  · exact le_antisymm (hfan.1 false true 0 k hcall) hpos

end Cluster

end NodejsHelper
