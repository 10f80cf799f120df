/-
Batches (`handleMessage`): a frame with an array of events is handled as the events one after the
other, and other goroutines run in between as they do between frames. What a run does depends on the
frames through the events they decode to and their order only (`processes_iff`), so a batch all of
whose values decode, and leave a level of nesting for the batch, is the same as its values sent one by
one; any other batch is dropped as a whole.
-/
import NodejsHelper.Server.Answer

namespace NodejsHelper

namespace Server

variable {p : Auth.Primitives} {cfg : Config}

/-! ## Frames in a run -/

/-- The frame a label hands to the read loop of a socket. -/
def frame (t : ℕ) : Label → Option Json
  | .start (.message t' v) => if t' = t then some v else none
  | _ => none

/-- The frames a run hands to the read loop of a socket. -/
def frames (t : ℕ) (tr : List Label) : List Json := tr.filterMap (frame t)

/-- All other steps of a run. -/
def besides (t : ℕ) (tr : List Label) : List Label := tr.filter fun l => (frame t l).isNone

/-- The label hands something else than a text frame to the read loop of a socket. -/
def aside (t : ℕ) : Label → Bool
  | .start (.clientPing t') | .start (.readPing t' _) | .start (.readClose t') | .start (.readError t') =>
    decide (t' = t)
  | _ => false

/-- The node is up and the read loop of the socket in `ReadMessage`. -/
structure Waiting (s : State) (t : ℕ) : Prop where
  running : s.mem.returned = false
  reading : inRead s.mem t = true
  idle : s.todo (.readLoop t) = []

variable (p cfg) in
/-- A run in which the read loop of a socket gets these frames and nothing else, and in which all the
other steps are those of `rest`, leads to a state where it has processed them. -/
def Processes (t : ℕ) (vs : List Json) (rest : List Label) (s s' : State) : Prop :=
  ∃ tr, frames t tr = vs ∧ besides t tr = rest ∧ (∀ l ∈ rest, aside t l = false) ∧
    Transition.run (step p cfg) s tr = some s' ∧ Waiting s' t

/-- More events behind those the read loop of a socket has at hand. -/
def Memory.moreBatch (m : Memory) (t : ℕ) (evs : List InEvent) : Memory := m.setBatch t (m.batch t ++ evs)

def extend (t : ℕ) (evs : List InEvent) (s : State) : State := ⟨s.mem.moreBatch t evs, s.todo⟩

theorem setBatch_self (m : Memory) (t : ℕ) : m.setBatch t (m.batch t) = m := by
  simp [Memory.setBatch]

theorem setBatch_setBatch (m : Memory) (t : ℕ) (evs evs' : List InEvent) :
    (m.setBatch t evs).setBatch t evs' = m.setBatch t evs' := by
  simp [Memory.setBatch]

theorem setBatch_comm (m : Memory) {t t' : ℕ} (h : t' ≠ t) (evs evs' : List InEvent) :
    (m.setBatch t evs).setBatch t' evs' = (m.setBatch t' evs').setBatch t evs := by
  simp only [Memory.setBatch]
  rw [Function.update_comm h.symm]

@[simp] theorem batch_setBatch (m : Memory) (t : ℕ) (evs : List InEvent) : (m.setBatch t evs).batch t = evs := by
  simp [Memory.setBatch]

@[simp] theorem extend_nil (t : ℕ) (s : State) : extend t [] s = s := by
  simp [extend, Memory.moreBatch, setBatch_self]

theorem extend_extend (t : ℕ) (evs evs' : List InEvent) (s : State) :
    extend t evs' (extend t evs s) = extend t (evs ++ evs') s := by
  simp [extend, Memory.moreBatch, setBatch_setBatch]

/-! ## Steps that take no frame -/

theorem frameFailed_setBatch (m : Memory) (t t' : ℕ) (evs : List InEvent) (frame : Frame) :
    frameFailed (m.setBatch t evs) t' frame = (frameFailed m t' frame).setBatch t evs := by
  cases frame <;> rfl

/-- No section reads or writes the events at hand. -/
theorem exec_setBatch (m : Memory) (t : ℕ) (evs : List InEvent) (g : Goroutine) (choice : Choice) (op : Op) :
    exec cfg (m.setBatch t evs) g choice op = (exec cfg m g choice op).map fun r => (r.1.setBatch t evs, r.2) := by
  have hconns : (m.setBatch t evs).conns = m.conns := rfl
  cases op with
  | selectOutbound t' msg =>
    simp only [exec, selectOutbound, hconns]
    split
    · rfl
    · split <;> rfl
  | closeWith t' code reason =>
    simp only [exec, closeWith, hconns]
    split <;> rfl
  | lockFrame t' frame =>
    simp only [exec, lockFrame, hconns]
    split
    · rfl
    · split
      · rw [frameFailed_setBatch]; rfl
      · rfl
  | writeFrame t' frame =>
    simp only [exec, writeFrame, hconns]
    split
    · rfl
    · split
      · rfl
      · cases frame <;> rfl
  | lockClosed t' =>
    simp only [exec, lockClosed, hconns]
    split <;> rfl
  | publishLocal call channel data =>
    simp only [exec, publishLocal, show (m.setBatch t evs).hub = m.hub from rfl]
    split <;> rfl
  | closeAllSockets =>
    simp only [exec, closeAllSockets, show (m.setBatch t evs).registered = m.registered from rfl]
    split <;> rfl
  | awaitSockets =>
    simp only [exec, awaitSockets, show (m.setBatch t evs).registered = m.registered from rfl]
    split <;> rfl
  | _ => rfl

theorem batch_setBatch_of_ne (m : Memory) {t t' : ℕ} (h : t' ≠ t) (evs : List InEvent) :
    (m.setBatch t evs).batch t' = m.batch t' := by
  simp [Memory.setBatch, h]

theorem inRead_setBatch_of_ne (m : Memory) {t t' : ℕ} (h : t' ≠ t) (evs : List InEvent) :
    inRead (m.setBatch t evs) t' = inRead m t' := by
  rw [inRead, inRead, batch_setBatch_of_ne m h]
  rfl

/-- Work of other sockets, and work that is not taken from `ReadMessage`, does neither. -/
theorem start_setBatch (m : Memory) {t : ℕ} (evs : List InEvent) {w : Work} (hf : frame t (.start w) = none)
    (ha : aside t (.start w) = false) (he : ∀ clock, w ≠ .event t clock) :
    start p cfg (m.setBatch t evs) w = (start p cfg m w).map fun r => (r.1, r.2.1.setBatch t evs, r.2.2) := by
  have hconns : (m.setBatch t evs).conns = m.conns := rfl
  have hlives : (m.setBatch t evs).lives = m.lives := rfl
  cases w with
  | upgrade id => rfl
  | registerSocket t' | runSocket t' =>
    simp only [start, hlives]
    split <;> rfl
  | message t' v =>
    have ht : t' ≠ t := by rintro rfl; simp [frame] at hf
    simp only [start, inRead_setBatch_of_ne m ht, setBatch_comm m ht]
    split <;> rfl
  | event t' clock =>
    have ht : t' ≠ t := by rintro rfl; exact he clock rfl
    simp only [start, batch_setBatch_of_ne m ht, hlives]
    split
    · rfl
    · rw [setBatch_comm m ht]
      split <;> rfl
  | clientPing t' | readPing t' payload | readClose t' | readError t' =>
    have ht : t' ≠ t := of_decide_eq_false ha
    simp only [start, inRead_setBatch_of_ne m ht]
    split <;> rfl
  | teardown t' channels =>
    simp only [start, teardown, hlives]
    split
    case h_2 =>
      simp only [show (m.setBatch t evs).sockets = m.sockets from rfl]
      split <;> rfl
    all_goals rfl
  | dequeue t' =>
    simp only [start, hconns, hlives]
    split
    · rfl
    · split <;> rfl
  | stopWriting t' | ping t' | pongTimeout t' | stopPinging t' | handshakeTimeout t' =>
    simp only [start, hconns, hlives]
    split <;> rfl
  | receive channel raw call => rfl
  | signal =>
    simp only [start, show (m.setBatch t evs).stopping = m.stopping from rfl]
    split <;> rfl

theorem Start.batch_same {m m' : Memory} {t : ℕ} {w : Work} {g : Goroutine} {ops : List Op}
    (h : Start p cfg m w g m' ops) (hf : frame t (.start w) = none) (he : ∀ clock, w ≠ .event t clock) :
    m'.batch t = m.batch t := by
  cases h with
  | message t' v =>
    have ht : t ≠ t' := by rintro rfl; simp [frame] at hf
    exact batch_setBatch_of_ne m ht _
  | event t' clock =>
    have ht : t ≠ t' := by rintro rfl; exact he clock rfl
    exact batch_setBatch_of_ne m ht _
  | _ => rfl

/-- Taking the next event up leaves the events behind it at hand. -/
theorem start_event_moreBatch {m : Memory} {t : ℕ} (hb : m.batch t ≠ []) (clock : Clock) (evs : List InEvent) :
    start p cfg (m.moreBatch t evs) (.event t clock) =
      (start p cfg m (.event t clock)).map fun r => (r.1, r.2.1.moreBatch t evs, r.2.2) := by
  obtain ⟨ev, rest, hb⟩ := List.exists_cons_of_ne_nil hb
  simp only [start, Memory.moreBatch, batch_setBatch, hb, List.cons_append, setBatch_setBatch,
    show (m.setBatch t (ev :: (rest ++ evs))).lives = m.lives from rfl]
  split
  · simp [Memory.setSocket, Memory.setBatch]
  · rfl

/-- A step that hands the socket nothing goes the same way with more events behind those at hand. -/
theorem step_extend {t : ℕ} (evs : List InEvent) {s : State} {l : Label} (hf : frame t l = none)
    (ha : aside t l = false) (he : ∀ clock, l = .start (.event t clock) → s.mem.batch t ≠ []) :
    step p cfg (extend t evs s) l = (step p cfg s l).map (extend t evs) := by
  show (system p cfg).step (extend t evs s) l = ((system p cfg).step s l).map (extend t evs)
  refine Workers.step_map (f := fun m : Memory => m.moreBatch t evs) ?_ ?_ ?_
  · rintro g choice op rfl
    simp only [system, show (s.mem.moreBatch t evs).returned = s.mem.returned from rfl]
    split
    · rfl
    · rw [Memory.moreBatch, exec_setBatch]
      refine Option.map_congr fun r hr => ?_
      rw [Memory.moreBatch, (exec_cases hr).batch]
  · rintro w rfl
    simp only [system, show (s.mem.moreBatch t evs).returned = s.mem.returned from rfl]
    split
    · rfl
    · by_cases hev : ∃ clock, w = .event t clock
      · obtain ⟨clock, rfl⟩ := hev
        exact start_event_moreBatch (he clock rfl) clock evs
      · have hne : ∀ clock, w ≠ .event t clock := fun clock h => hev ⟨clock, h⟩
        rw [Memory.moreBatch, start_setBatch _ _ hf ha hne]
        refine Option.map_congr fun r hr => ?_
        rw [Memory.moreBatch, (start_cases hr).batch_same hf hne]
  · rintro t' rfl
    simp only [system, show (s.mem.moreBatch t evs).returned = s.mem.returned from rfl]
    split <;> rfl

/-! ## Runs -/

theorem Waiting.batch {s : State} {t : ℕ} (h : Waiting s t) : s.mem.batch t = [] :=
  List.isEmpty_iff.1 (Bool.and_eq_true_iff.1 h.reading).2

/-- A waiting read loop takes a frame, whose events are at hand then. -/
theorem step_message {s : State} {t : ℕ} (hw : Waiting s t) (v : Json) :
    step p cfg s (.start (.message t v)) = some (extend t (decodeMessage v) s) := by
  have htodo : Function.update s.todo (.readLoop t) [] = s.todo := by rw [← hw.idle, Function.update_eq_self]
  simp only [step, Workers.System.step, system, hw.running, start, hw.reading, if_true, Bool.false_eq_true, if_false,
    hw.idle, Workers.State.assign, htodo, extend, Memory.moreBatch, hw.batch, List.nil_append]

/-- Only a waiting read loop takes one. -/
theorem waiting_of_message {s s' : State} {t : ℕ} {v : Json} (h : step p cfg s (.start (.message t v)) = some s') :
    Waiting s t := by
  have hrun := not_returned_of_step h
  cases step_cases h with
  | start _ _ _ _ ht hw =>
    cases hw with
    | message _ _ hr => exact ⟨hrun, hr, ht⟩

/-- An event is only taken up when it is at hand. -/
theorem batch_ne_nil_of_event {s s' : State} {t : ℕ} {clock : Clock}
    (h : step p cfg s (.start (.event t clock)) = some s') : s.mem.batch t ≠ [] := by
  cases step_cases h with
  | start _ _ _ _ ht hw =>
    cases hw with
    | event _ _ ev rest hb => rw [hb]; exact List.cons_ne_nil ev rest

/-- A read loop that takes up an event whose frame is still to come could take the frame. -/
theorem waiting_of_event {s s' : State} {t : ℕ} {evs : List InEvent} {clock : Clock} (hb : s.mem.batch t = [])
    (h : step p cfg (extend t evs s) (.start (.event t clock)) = some s') : Waiting s t := by
  have hrun : (extend t evs s).mem.returned = false := not_returned_of_step h
  cases step_cases h with
  | start _ _ _ _ ht hw =>
    cases hw with
    | event _ _ ev rest _ hst =>
      have hst : (s.mem.lives t).stage = .reading := hst
      exact ⟨hrun, by simp [inRead, hst, hb], ht⟩

theorem frame_eq_some {t : ℕ} {l : Label} {v : Json} (h : frame t l = some v) : l = .start (.message t v) := by
  unfold frame at h
  split at h
  · obtain ⟨ht, h⟩ := Option.ite_none_right_eq_some.1 h
    cases h
    rw [ht]
  · cases h

theorem split_of_some {t : ℕ} {l : Label} {v : Json} (h : frame t l = some v) (tr : List Label) :
    frames t (l :: tr) = v :: frames t tr ∧ besides t (l :: tr) = besides t tr := by
  simp [frames, besides, h]

theorem split_of_none {t : ℕ} {l : Label} (h : frame t l = none) (tr : List Label) :
    frames t (l :: tr) = frames t tr ∧ besides t (l :: tr) = l :: besides t tr := by
  simp [frames, besides, h]

/-- The frames of a run can be given all at once, at its start. -/
theorem run_extend {t : ℕ} : ∀ {tr : List Label} {s s' : State}, (∀ l ∈ besides t tr, aside t l = false) →
    Transition.run (step p cfg) s tr = some s' →
    Transition.run (step p cfg) (extend t ((frames t tr).flatMap decodeMessage) s) (besides t tr) = some s'
  | [], s, s', _, h => by simpa [frames, besides] using h
  | l :: tr, s, s', ha, h => by
    obtain ⟨m, hm, h⟩ := Transition.run_cons_some h
    cases hf : frame t l with
    | some v =>
      obtain ⟨hframes, hbesides⟩ := split_of_some hf tr
      rw [frame_eq_some hf] at hm
      rw [step_message (waiting_of_message hm)] at hm
      cases hm
      rw [hbesides] at ha
      have ih := run_extend ha h
      rwa [extend_extend, ← List.flatMap_cons, ← hframes, ← hbesides] at ih
    | none =>
      obtain ⟨hframes, hbesides⟩ := split_of_none hf tr
      rw [hbesides] at ha
      have ih := run_extend (fun l' hl' => ha l' (List.mem_cons_of_mem l hl')) h
      have he : ∀ clock, l = .start (.event t clock) → s.mem.batch t ≠ [] := by
        rintro clock rfl
        exact batch_ne_nil_of_event hm
      rw [hframes, hbesides, Transition.run_cons, step_extend _ hf (ha l List.mem_cons_self) he, hm]
      exact ih

/-- Frames without events leave a waiting read loop as it is. -/
theorem run_silent {t : ℕ} {s : State} (hw : Waiting s t) : ∀ {vs : List Json}, vs.flatMap decodeMessage = [] →
    Transition.run (step p cfg) s (vs.map fun v => .start (.message t v)) = some s
  | [], _ => rfl
  | v :: vs, h => by
    obtain ⟨hv, hvs⟩ := List.append_eq_nil_iff.1 h
    rw [List.map_cons, Transition.run_cons, step_message hw, hv, extend_nil, Option.bind_some]
    exact run_silent hw hvs

theorem frame_message (t : ℕ) (v : Json) : frame t (.start (.message t v)) = some v := by
  simp [frame]

theorem split_messages (t : ℕ) (vs : List Json) :
    frames t (vs.map fun v => .start (.message t v)) = vs ∧ besides t (vs.map fun v => .start (.message t v)) = [] := by
  induction vs with
  | nil => exact ⟨rfl, rfl⟩
  | cons v vs ih =>
    obtain ⟨hframes, hbesides⟩ := split_of_some (frame_message t v) (vs.map fun v => .start (.message t v))
    rw [List.map_cons, hframes, hbesides, ih.1, ih.2]
    exact ⟨rfl, rfl⟩

/-- A run that starts with all frames is one in which each is taken when the events before it are handled. -/
theorem exists_run_of_extend {t : ℕ} {s' : State} (hw : Waiting s' t) {rest : List Label} :
    ∀ {vs : List Json} {s : State}, (∀ l ∈ rest, frame t l = none ∧ aside t l = false) →
    Transition.run (step p cfg) (extend t (vs.flatMap decodeMessage) s) rest = some s' →
    ∃ tr, frames t tr = vs ∧ besides t tr = rest ∧ Transition.run (step p cfg) s tr = some s' := by
  induction rest with
  | nil =>
    intro vs s _ h
    cases h
    have hnil : s.mem.batch t = [] ∧ vs.flatMap decodeMessage = [] := by
      simpa [extend, Memory.moreBatch] using hw.batch
    rw [hnil.2, extend_nil] at hw
    obtain ⟨hframes, hbesides⟩ := split_messages t vs
    refine ⟨_, hframes, hbesides, ?_⟩
    rw [hnil.2, extend_nil]
    exact run_silent hw hnil.2
  | cons l rest ih =>
    intro vs s hrest
    obtain ⟨hf, ha⟩ := hrest l List.mem_cons_self
    -- unless it takes an event up that is still to come, the step comes before the next frame
    have hready : ∀ {vs : List Json} {s : State}, (∀ clock, l = .start (.event t clock) → s.mem.batch t ≠ []) →
        Transition.run (step p cfg) (extend t (vs.flatMap decodeMessage) s) (l :: rest) = some s' →
        ∃ tr, frames t tr = vs ∧ besides t tr = l :: rest ∧ Transition.run (step p cfg) s tr = some s' := by
      intro vs s he h
      obtain ⟨m, hm, h⟩ := Transition.run_cons_some h
      rw [step_extend _ hf ha he] at hm
      obtain ⟨s₁, hs₁, rfl⟩ := Option.map_eq_some_iff.1 hm
      obtain ⟨tr, hframes, hbesides, hrun⟩ := ih (fun l' hl' => hrest l' (List.mem_cons_of_mem l hl')) h
      refine ⟨l :: tr, by rw [(split_of_none hf tr).1, hframes], by rw [(split_of_none hf tr).2, hbesides], ?_⟩
      rw [Transition.run_cons, hs₁]
      exact hrun
    induction vs generalizing s with
    | nil =>
      intro h
      refine hready ?_ h
      rintro clock rfl
      rw [List.flatMap_nil, extend_nil] at h
      obtain ⟨m, hm, -⟩ := Transition.run_cons_some h
      exact batch_ne_nil_of_event hm
    | cons v vs ihv =>
      intro h
      by_cases he : ∀ clock, l = .start (.event t clock) → s.mem.batch t ≠ []
      · exact hready he h
      · obtain ⟨clock, hc⟩ := not_forall.1 he
        obtain ⟨rfl, hb⟩ := Classical.not_imp.1 hc
        have hb := not_not.1 hb
        obtain ⟨m, hm, -⟩ := Transition.run_cons_some h
        have hwait := waiting_of_event hb hm
        rw [List.flatMap_cons, ← extend_extend] at h
        obtain ⟨tr, hframes, hbesides, hrun⟩ := ihv h
        obtain ⟨hcons, hsame⟩ := split_of_some (frame_message t v) tr
        refine ⟨.start (.message t v) :: tr, by rw [hcons, hframes], by rw [hsame, hbesides], ?_⟩
        rw [Transition.run_cons, step_message hwait]
        exact hrun

/-- What a run does depends on the frames only through the events they decode to, in their order. -/
theorem processes_iff {t : ℕ} {vs : List Json} {rest : List Label} {s s' : State} :
    Processes p cfg t vs rest s s' ↔ (∀ l ∈ rest, frame t l = none ∧ aside t l = false) ∧
      Transition.run (step p cfg) (extend t (vs.flatMap decodeMessage) s) rest = some s' ∧ Waiting s' t := by
  constructor
  · rintro ⟨tr, rfl, rfl, ha, hrun, hw⟩
    refine ⟨fun l hl => ⟨?_, ha l hl⟩, run_extend ha hrun, hw⟩
    exact Option.isNone_iff_eq_none.1 (List.mem_filter.1 hl).2
  · rintro ⟨hrest, hrun, hw⟩
    obtain ⟨tr, hframes, hbesides, hrun⟩ := exists_run_of_extend hw hrest hrun
    exact ⟨tr, hframes, hbesides, fun l hl => (hrest l hl).2, hrun, hw⟩

/-! ## Batches -/

/-- A value that is an event of a batch: it decodes, and is nested less deeply than a frame may be. -/
def batchable (v : Json) : Bool := (decodeEvent v).2 && decide (v.depth < Json.maxNestingDepth)

/-- Such a value is a frame of one event. -/
theorem decodeMessage_of_batchable {v : Json} (h : batchable v = true) : decodeMessage v = [(decodeEvent v).1] := by
  obtain ⟨hdecodes, hdepth⟩ := Bool.and_eq_true_iff.1 h
  have hdepth := of_decide_eq_true hdepth
  unfold decodeMessage
  rw [if_neg (by omega)]
  cases v with
  | arr items => cases hdecodes
  | _ => simp only [hdecodes, if_true]

theorem depth_batch_le {vs : List Json} :
    (Json.arr vs).depth ≤ Json.maxNestingDepth ↔ ∀ v ∈ vs, v.depth < Json.maxNestingDepth := by
  show (Json.arr vs).depth ≤ 9999 + 1 ↔ ∀ v ∈ vs, v.depth < 9999 + 1
  rw [Json.depth_arr_le]
  exact forall₂_congr fun v _ => Nat.lt_succ_iff.symm

/-- A batch of such values has their events. -/
theorem decodeMessage_batch {vs : List Json} (h : vs.all batchable = true) :
    decodeMessage (.arr vs) = vs.flatMap decodeMessage := by
  have hvalues : ∀ v ∈ vs, batchable v = true := List.all_eq_true.1 h
  have hdepth : (Json.arr vs).depth ≤ Json.maxNestingDepth :=
    depth_batch_le.2 fun v hv => of_decide_eq_true (Bool.and_eq_true_iff.1 (hvalues v hv)).2
  have hall : (vs.map decodeEvent).all (·.2) = true := by
    rw [List.all_map]
    exact List.all_eq_true.2 fun v hv => (Bool.and_eq_true_iff.1 (hvalues v hv)).1
  rw [decodeMessage, if_neg (Nat.not_lt.2 hdepth)]
  simp only [hall, if_true]
  rw [List.map_map, List.map_eq_flatMap]
  refine List.flatMap_congr fun v hv => ?_
  exact (decodeMessage_of_batchable (hvalues v hv)).symm

/-- Any other batch has none. -/
theorem decodeMessage_batch_refused {vs : List Json} (h : ¬ vs.all batchable = true) :
    decodeMessage (.arr vs) = [] := by
  rw [decodeMessage]
  split
  · rfl
  · rename_i hdepth
    have hlevels := depth_batch_le.1 (Nat.not_lt.1 hdepth)
    have hnone : ¬ (vs.map decodeEvent).all (·.2) = true := by
      intro hall
      rw [List.all_map] at hall
      refine h (List.all_eq_true.2 fun v hv => Bool.and_eq_true_iff.2 ⟨?_, decide_eq_true (hlevels v hv)⟩)
      exact List.all_eq_true.1 hall v hv
    simp only [hnone, if_false, Bool.false_eq_true]

variable (p cfg) in
/-- From every state, with any steps of the others in between, and for every final state: a batch of
values that are events and leave it a level of nesting is processed as its values are one after the
other, and any other batch as if it had not been sent. -/
theorem batch_processed (t : ℕ) (vs : List Json) (rest : List Label) (s s' : State) :
    Processes p cfg t [.arr vs] rest s s' ↔
      Processes p cfg t (if vs.all batchable then vs else []) rest s s' := by
  rw [processes_iff, processes_iff, List.flatMap_singleton]
  split
  · rename_i h; rw [decodeMessage_batch h]
  · rename_i h; rw [decodeMessage_batch_refused h, List.flatMap_nil]

/-- A client connects. -/
def sampleOpen : List Label := [.start (.upgrade "s"), .start (.registerSocket 0), .start (.runSocket 0)]

/-- It sends an event and a number, in a frame each. -/
def samplePair : List Label := handled 0 ⟨"typing", none, some 1⟩ sampleClock 2 ++ [.start (.message 0 (.num "5"))]

/-- In one frame, the number keeps the event from being answered. -/
theorem batch_dropped_whole :
    ¬ ∀ (p : Auth.Primitives) (cfg : Config) (t : ℕ) (vs : List Json) (rest : List Label) (s s' : State),
      Transition.Reachable (step p cfg) init s → Waiting s t → vs ≠ [] → (∀ v ∈ vs, ∀ items, v ≠ .arr items) →
      (∀ v ∈ vs, (decodeEvent v).1.event ≠ "#disconnect") →
      (Processes p cfg t [.arr vs] rest s s' ↔ Processes p cfg t vs rest s s') := by
  intro h
  let s := (Transition.run (step Auth.sample sampleNode) init sampleOpen).getD init
  let s' := (Transition.run (step Auth.sample sampleNode) s samplePair).getD init
  have hone : Processes Auth.sample sampleNode 0 (frames 0 samplePair) (besides 0 samplePair) s s' :=
    ⟨samplePair, rfl, rfl, by decide, rfl, rfl, rfl, rfl⟩
  have hbatch := (h Auth.sample sampleNode 0 _ _ s s' ⟨sampleOpen, rfl⟩ ⟨rfl, rfl, rfl⟩
    (by simp [frames, samplePair, handled, frame]) (by simp [frames, samplePair, handled, frame, frameOf])
    (by decide)).2 hone
  -- no event of the batch is at hand to be taken up
  have hrefused : Transition.run (step Auth.sample sampleNode) s (besides 0 samplePair) = none := rfl
  have hrun := (processes_iff.1 hbatch).2.1
  rw [show [Json.arr (frames 0 samplePair)].flatMap decodeMessage = [] from rfl, extend_nil, hrefused] at hrun
  cases hrun

end Server

end NodejsHelper
