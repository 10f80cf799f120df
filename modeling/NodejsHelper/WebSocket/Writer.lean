/-
The write side of a `wsConn` (`websocket.go`) under concurrent use: the frames of `writeLoop`, the
pongs and the close echo of `ReadMessage`, `WriteClose` from `closeWith` or anywhere else, and `Close`.
`writeMu` keeps a frame in one piece, however many writes it takes, but `WriteClose` sends its frame
in one section and sets `closed` in another: a writer that gets in between is not kept from writing.
-/
import NodejsHelper.Lib.Run
import NodejsHelper.WebSocket.Frame
import Mathlib.Logic.Function.Basic

namespace NodejsHelper.WebSocket.Writer

open Bytes

/-! ## Frames -/

/-- A slice. -/
abbrev Payload := { bytes : List UInt8 // bytes.length < 2 ^ 63 }

/-- The reason of a close: the code goes in front of it. -/
abbrev Reason := { bytes : List UInt8 // bytes.length + 2 < 2 ^ 63 }

/-- A call of `writeFrame`: by `WriteText`, for a pong, or by `WriteClose`. -/
inductive Write
  | text (payload : Payload)
  | pong (payload : Payload)
  | close (code : UInt16) (reason : Reason)
  deriving DecidableEq

/-- A frame of the server. -/
structure Sent where
  opcode : UInt8
  payload : List UInt8
  opcode_lt : opcode < 16
  payload_lt : payload.length < 2 ^ 63
  deriving DecidableEq

def Sent.bytes (f : Sent) : List UInt8 := writeFrame f.opcode f.payload

/-- The frame of the call. -/
def Write.frame : Write → Sent
  | .text payload => ⟨opText, payload.1, by decide, payload.2⟩
  | .pong payload => ⟨opPong, payload.1, by decide, payload.2⟩
  | .close code reason =>
    ⟨opClose, (code >>> 8).toUInt8 :: code.toUInt8 :: reason.1, by decide, reason.2⟩

/-! ## The sections of the calls -/

/-- The calls on the connection, with those of `Socket` that make them. -/
inductive Call
  | writeLoop (payload : Payload)
  | pong (payload : Payload)
  | writeClose (code : UInt16) (reason : Reason)
  | closeWith (code : UInt16) (reason : Reason)
  | close
  deriving DecidableEq

/-- Where a goroutine is. `framed` remembers that the call has written its close frame. -/
inductive Phase
  | idle
  | swap (code : UInt16) (reason : Reason)
  | lock (w : Write)
  | check (w : Write)
  | send (w : Write) (rest : List UInt8)
  | unlock (w : Write) (written : Bool)
  | storeClosed
  | lockClosed (framed : Bool)
  | setClosed (framed : Bool)
  | unlockClosed
  | closeConn
  deriving DecidableEq

/-- The fields of the `wsConn`, what has been handed to its connection, and `Socket.closed`. -/
structure State (G : Type*) where
  writeMu : Option G
  closed : Bool
  out : List UInt8
  connClosed : Bool
  socketClosed : Bool
  phase : G → Phase

def init {G : Type*} : State G := ⟨none, false, [], false, false, fun _ => .idle⟩

/-- An idle goroutine makes a call, or a goroutine goes on; a write hands over `n + 1` bytes or all that are left. -/
inductive Label (G : Type*)
  | start (g : G) (call : Call)
  | run (g : G) (n : ℕ)

/-- The first section of a call. -/
def Call.first : Call → Phase
  | .writeLoop payload => .lock (.text payload)
  | .pong payload => .lock (.pong payload)
  | .writeClose code reason => .lock (.close code reason)
  | .closeWith code reason => .swap code reason
  | .close => .lockClosed false

/-- What follows `writeFrame`: `writeLoop` gives up on an error, `WriteClose` sets `closed` in any case. -/
def Write.next : Write → Bool → Phase
  | .text _, written => if written then .idle else .storeClosed
  | .pong _, _ => .idle
  | .close .., written => .lockClosed written

section
variable {G : Type*} [DecidableEq G]

def State.at (s : State G) (g : G) (ph : Phase) : State G := { s with phase := Function.update s.phase g ph }

/-- One section. A closed connection takes no bytes. -/
def step (s : State G) : Label G → Option (State G)
  | .start g call => if s.phase g = .idle then some (s.at g call.first) else none
  | .run g n =>
    match s.phase g with
    | .idle => none
    | .swap code reason =>
      if s.socketClosed then some (s.at g .idle)
      else some ({ s with socketClosed := true }.at g (.lock (.close code reason)))
    | .lock w =>
      match s.writeMu with
      | some _ => none
      | none => some ({ s with writeMu := some g }.at g (.check w))
    | .check w => if s.closed then some (s.at g (.unlock w false)) else some (s.at g (.send w w.frame.bytes))
    | .send w rest =>
      if s.connClosed then none
      else
        some ({ s with out := s.out ++ rest.take (n + 1) }.at g
          (if rest.drop (n + 1) = [] then .unlock w true else .send w (rest.drop (n + 1))))
    | .unlock w written => some ({ s with writeMu := none }.at g (w.next written))
    | .storeClosed => some ({ s with socketClosed := true }.at g (.lockClosed false))
    | .lockClosed framed =>
      match s.writeMu with
      | some _ => none
      | none => some ({ s with writeMu := some g }.at g (.setClosed framed))
    | .setClosed _ => some ({ s with closed := true }.at g .unlockClosed)
    | .unlockClosed => some ({ s with writeMu := none }.at g .closeConn)
    | .closeConn => some ({ s with connClosed := true }.at g .idle)

end

/-- The goroutine holds `writeMu`. -/
def Phase.holds : Phase → Bool
  | .check _ | .send .. | .unlock .. | .setClosed _ | .unlockClosed => true
  | _ => false

/-- What the goroutine still has to write of its frame. -/
def Phase.rest : Phase → List UInt8
  | .send _ rest => rest
  | _ => []

/-- The goroutine is in a `WriteClose` that has begun its frame and not yet set `closed`. -/
def Phase.closing : Phase → Bool
  | .send (.close ..) _ | .unlock (.close ..) true | .lockClosed true | .setClosed true => true
  | _ => false

section
variable {G : Type*} [DecidableEq G]

@[simp] theorem State.at_phase (s : State G) (g : G) (ph : Phase) :
    (s.at g ph).phase = Function.update s.phase g ph := rfl

@[simp] theorem State.at_writeMu (s : State G) (g : G) (ph : Phase) : (s.at g ph).writeMu = s.writeMu := rfl

@[simp] theorem State.at_closed (s : State G) (g : G) (ph : Phase) : (s.at g ph).closed = s.closed := rfl

@[simp] theorem State.at_out (s : State G) (g : G) (ph : Phase) : (s.at g ph).out = s.out := rfl

end

variable {G : Type*}

/-- The rest of the frame that is being written. -/
def unsent (s : State G) : List UInt8 :=
  match s.writeMu with
  | none => []
  | some g => (s.phase g).rest

/-- The stream is these frames, the one that is being written included. -/
def Stream (s : State G) (frames : List Sent) : Prop := s.out ++ unsent s = (frames.map Sent.bytes).flatten

/-- No frame follows a close frame; in particular there is at most one. -/
def CloseLast (frames : List Sent) : Prop :=
  ∀ pre f post, frames = pre ++ f :: post → f.opcode = opClose → post = []

/-- The stream is a concatenation of complete frames none of which follows a close frame, but for what is
missing of a frame that is being written. -/
def Orderly (s : State G) : Prop := ∃ frames, Stream s frames ∧ CloseLast frames

/-- The step is not a late frame: no goroutine finds `closed` unset while a `WriteClose` has begun its
frame and not yet set `closed`. -/
def NotLate (s : State G) : Label G → Prop
  | .start .. => True
  | .run g _ => ∀ w, s.phase g = .check w → s.closed = false → ∀ g', (s.phase g').closing = false

/-! ## Streams of frames -/

/-- A frame in front of a stream can be told from its bytes. -/
theorem bytes_append_inj {f g : Sent} {r r' : List UInt8} (h : f.bytes ++ r = g.bytes ++ r') : f = g ∧ r = r' := by
  obtain ⟨o, p, ho, hp⟩ := f
  obtain ⟨o', p', ho', hp'⟩ := g
  simp only [Sent.bytes, writeFrame, writeHeader, List.cons_append, List.append_assoc, List.cons.injEq] at h
  obtain ⟨hfirst, hshort, hbytes⟩ := h
  have hop : o = o' := by
    have h1 := (firstByte_bits true o ho).2.2
    have h2 := (firstByte_bits true o' ho').2.2
    simp only [firstByte, if_true] at h1 h2
    rw [← h1, ← h2, hfirst]
  have hread := readLength_append (lengthBytes_encodes hp) hp (p ++ r)
  rw [hshort, hbytes, readLength_append (lengthBytes_encodes hp') hp', Option.some.injEq, Prod.mk.injEq] at hread
  have hlen : p'.length = p.length := by exact_mod_cast hread.1
  obtain ⟨rfl, rfl⟩ := List.append_inj hread.2 hlen
  exact ⟨by subst hop; rfl, rfl⟩

theorem bytes_ne_nil (f : Sent) : f.bytes ≠ [] := by
  unfold Sent.bytes writeFrame writeHeader
  exact List.cons_ne_nil _ _

/-- A stream is a concatenation of frames in one way at most. -/
theorem frames_unique : ∀ {fs gs : List Sent}, (fs.map Sent.bytes).flatten = (gs.map Sent.bytes).flatten → fs = gs
  | [], [], _ => rfl
  | [], g :: gs, h => by
    rw [List.map_cons, List.flatten_cons] at h
    exact absurd (List.append_eq_nil_iff.1 h.symm).1 (bytes_ne_nil g)
  | f :: fs, [], h => by
    rw [List.map_cons, List.flatten_cons] at h
    exact absurd (List.append_eq_nil_iff.1 h).1 (bytes_ne_nil f)
  | f :: fs, g :: gs, h => by
    rw [List.map_cons, List.map_cons, List.flatten_cons, List.flatten_cons] at h
    obtain ⟨rfl, hrest⟩ := bytes_append_inj h
    rw [frames_unique hrest]

theorem Stream.unique {s : State G} {fs gs : List Sent} (h : Stream s fs) (h' : Stream s gs) : fs = gs :=
  frames_unique (h.symm.trans h')

/-- Behind a frame more there was no close frame. -/
theorem closeLast_append_singleton {fs : List Sent} {f : Sent} :
    CloseLast (fs ++ [f]) ↔ ∀ g ∈ fs, g.opcode ≠ opClose := by
  constructor
  · intro h g hg hop
    obtain ⟨pre, post, rfl⟩ := List.append_of_mem hg
    have := h pre g (post ++ [f]) (by simp) hop
    simp at this
  · rintro h pre g post he hop
    rcases List.eq_nil_or_concat post with rfl | ⟨init, l, rfl⟩
    · rfl
    · rw [List.concat_eq_append, ← List.cons_append, ← List.append_assoc] at he
      obtain ⟨rfl, -⟩ := List.append_inj' he rfl
      exact absurd hop (h g (by simp))

/-! ## The invariant -/

/-- `closed` has been set by the call the goroutine is in. -/
def Phase.past : Phase → Bool
  | .unlockClosed | .closeConn => true
  | _ => false

/-- One goroutine at a time holds `writeMu`; the stream is these frames; a close frame among them is the
trace of a `WriteClose` that has set `closed` or is about to; and no frame is under way once `closed` is set. -/
structure Inv (s : State G) (frames : List Sent) : Prop where
  holder : ∀ g, (s.phase g).holds = true ↔ s.writeMu = some g
  stream : Stream s frames
  framed : ∀ g, (s.phase g).closing = true → ∃ f ∈ frames, f.opcode = opClose
  closes : ∀ f ∈ frames, f.opcode = opClose → s.closed = true ∨ ∃ g, (s.phase g).closing = true
  shut : s.connClosed = true → s.closed = true
  past : ∀ g, (s.phase g).past = true → s.closed = true
  whole : s.closed = true → ∀ g, (s.phase g).rest = []

theorem inv_init : Inv (init : State G) [] where
  holder _ := ⟨nofun, nofun⟩
  stream := rfl
  framed _ := nofun
  closes _ := nofun
  shut := nofun
  past _ := nofun
  whole := nofun

theorem rest_of_not_holds {ph : Phase} (h : ph.holds = false) : ph.rest = [] := by
  cases ph <;> first | rfl | cases h

/-- What is missing of the frame being written is with the goroutine that holds `writeMu`. -/
theorem unsent_eq {s : State G} {g : G} (h : s.writeMu = some g) : unsent s = (s.phase g).rest := by
  unfold unsent
  rw [h]

/-! ## What a section does -/

/-- The frame the step begins. -/
def begun (s : State G) : Label G → List Sent
  | .start .. => []
  | .run g _ =>
    match s.phase g with
    | .check w => if s.closed then [] else [w.frame]
    | _ => []

theorem begun_nil {s : State G} {g : G} {n : ℕ} (h : ∀ w, s.phase g ≠ .check w) : begun s (.run g n) = [] := by
  show (match s.phase g with
    | .check w => if s.closed then [] else [w.frame]
    | _ => []) = []
  split
  · rename_i w hw; exact absurd hw (h w)
  · rfl

theorem begun_cases (s : State G) (l : Label G) :
    begun s l = [] ∨ ∃ w : Write, begun s l = [w.frame] ∧ s.closed = false := by
  unfold begun
  split
  · exact Or.inl rfl
  · split
    · split
      · exact Or.inl rfl
      · rename_i w _ hc
        exact Or.inr ⟨w, rfl, by simpa using hc⟩
    · exact Or.inl rfl

/-- The step is a late frame when it begins one under a `WriteClose` on its way. -/
theorem notLate_iff {s : State G} {l : Label G} : NotLate s l ↔
    (begun s l ≠ [] → ∀ g, (s.phase g).closing = false) := by
  cases l with
  | start g call => exact ⟨fun _ h => absurd rfl h, fun _ => trivial⟩
  | run g n =>
    constructor
    · intro h hne
      unfold begun at hne
      simp only at hne
      split at hne
      · rename_i w hw
        split at hne
        · exact absurd rfl hne
        · rename_i hc
          exact h w hw (by simpa using hc)
      · exact absurd rfl hne
    · intro h w hw hopen
      refine h ?_
      unfold begun
      simp only [hw, hopen]
      exact List.cons_ne_nil _ _

theorem first_quiet (call : Call) : call.first.holds = false ∧ call.first.rest = [] ∧ call.first.closing = false ∧
    call.first.past = false := by
  cases call <;> exact ⟨rfl, rfl, rfl, rfl⟩

theorem next_released (w : Write) (written : Bool) : (w.next written).holds = false ∧
    (w.next written).closing = (Phase.unlock w written).closing ∧ (w.next written).past = false := by
  cases w <;> cases written <;> exact ⟨rfl, rfl, rfl⟩

theorem closing_send (w : Write) (rest : List UInt8) :
    (Phase.send w rest).closing = true ↔ w.frame.opcode = opClose := by
  cases w <;> simp [Phase.closing, Write.frame, opText, opPong, opClose]

variable [DecidableEq G]

/-- What the steps do, by what they change: nothing of the connection, who holds `writeMu`, the frame
begun, the bytes handed over, or `closed`. -/
inductive Effect (s : State G) (g : G) : List Sent → State G → Prop
  | quiet (ph : Phase) (connClosed socketClosed : Bool) :
      ph.holds = (s.phase g).holds → ph.rest = (s.phase g).rest → ph.closing = (s.phase g).closing → ph.past = false →
      (connClosed = true → s.connClosed = true ∨ (s.phase g).past = true) →
      Effect s g [] ⟨s.writeMu, s.closed, s.out, connClosed, socketClosed, Function.update s.phase g ph⟩
  | acquire (ph : Phase) : s.writeMu = none → ph.holds = true → ph.rest = [] → ph.closing = (s.phase g).closing →
      ph.past = false → Effect s g [] ({ s with writeMu := some g }.at g ph)
  | release (ph : Phase) : (s.phase g).holds = true → (s.phase g).rest = [] → ph.holds = false →
      ph.closing = (s.phase g).closing → (ph.past = true → (s.phase g).past = true) →
      Effect s g [] ({ s with writeMu := none }.at g ph)
  | begins (w : Write) : s.phase g = .check w → s.closed = false →
      Effect s g [w.frame] (s.at g (.send w w.frame.bytes))
  | sends (w : Write) (rest : List UInt8) (n : ℕ) (ph : Phase) : s.phase g = .send w rest → ph.holds = true →
      ph.rest = rest.drop n → ph.closing = (s.phase g).closing → ph.past = false →
      Effect s g [] ({ s with out := s.out ++ rest.take n }.at g ph)
  | sets (framed : Bool) : s.phase g = .setClosed framed → Effect s g [] ({ s with closed := true }.at g .unlockClosed)

/-- A quiet step from a known phase. -/
theorem Effect.quiet_of {s : State G} {g : G} {old : Phase} (hp : s.phase g = old) (ph : Phase)
    (connClosed socketClosed : Bool) (hholds : ph.holds = old.holds) (hrest : ph.rest = old.rest)
    (hclosing : ph.closing = old.closing) (hpast : ph.past = false)
    (hc : connClosed = true → s.connClosed = true ∨ old.past = true) :
    Effect s g [] ⟨s.writeMu, s.closed, s.out, connClosed, socketClosed, Function.update s.phase g ph⟩ := by
  subst hp
  exact .quiet ph _ _ hholds hrest hclosing hpast hc

/-- A release from a known phase. -/
theorem Effect.release_of {s : State G} {g : G} {old : Phase} (hp : s.phase g = old) (ph : Phase)
    (hheld : old.holds = true)
    (hrest : old.rest = []) (hfree : ph.holds = false) (hclosing : ph.closing = old.closing)
    (hpast : ph.past = true → old.past = true) : Effect s g [] ({ s with writeMu := none }.at g ph) := by
  subst hp
  exact .release ph hheld hrest hfree hclosing hpast

theorem step_effect {s s' : State G} {l : Label G} (h : step s l = some s') : ∃ g, Effect s g (begun s l) s' := by
  cases l with
  | start g call =>
    simp only [step] at h
    split at h
    · rename_i hidle
      cases h
      obtain ⟨h1, h2, h3, h4⟩ := first_quiet call
      exact ⟨g, .quiet_of hidle _ _ _ h1 h2 h3 h4 Or.inl⟩
    · cases h
  | run g n =>
    refine ⟨g, ?_⟩
    simp only [step] at h
    cases hp : s.phase g with
    | idle => rw [hp] at h; cases h
    | swap code reason =>
      rw [hp] at h
      rw [begun_nil (by simp [hp])]
      simp only at h
      split at h
      · cases h
        exact .quiet_of hp .idle _ _ rfl rfl rfl rfl Or.inl
      · cases h
        exact .quiet_of hp (.lock _) _ _ rfl rfl rfl rfl Or.inl
    | lock w =>
      rw [hp] at h
      rw [begun_nil (by simp [hp])]
      simp only at h
      split at h
      · cases h
      · rename_i hmu
        cases h
        exact .acquire (.check w) hmu rfl rfl (by rw [hp]; rfl) rfl
    | check w =>
      rw [hp] at h
      unfold begun
      simp only [hp] at h ⊢
      by_cases hc : s.closed = true
      · rw [if_pos hc] at h ⊢
        cases h
        exact .quiet_of hp (.unlock w false) _ _ rfl rfl (by cases w <;> rfl) rfl Or.inl
      · rw [if_neg hc] at h ⊢
        cases h
        exact .begins w hp (by simpa using hc)
    | send w rest =>
      rw [hp] at h
      rw [begun_nil (by simp [hp])]
      simp only at h
      split at h
      · cases h
      · cases h
        refine .sends w rest (n + 1) _ hp ?_ ?_ ?_ ?_ <;> split
        · rfl
        · rfl
        · rename_i hd; rw [hd]; rfl
        · rfl
        · rw [hp]; cases w <;> rfl
        · rw [hp]; cases w <;> rfl
        · rfl
        · rfl
    | unlock w written =>
      rw [hp] at h
      rw [begun_nil (by simp [hp])]
      cases h
      obtain ⟨h1, h2, h3⟩ := next_released w written
      exact .release_of hp _ rfl rfl h1 h2 (by simp [h3])
    | storeClosed =>
      rw [hp] at h
      rw [begun_nil (by simp [hp])]
      cases h
      exact .quiet_of hp (.lockClosed false) _ _ rfl rfl rfl rfl Or.inl
    | lockClosed framed =>
      rw [hp] at h
      rw [begun_nil (by simp [hp])]
      simp only at h
      split at h
      · cases h
      · rename_i hmu
        cases h
        exact .acquire (.setClosed framed) hmu rfl rfl (by rw [hp]; cases framed <;> rfl) rfl
    | setClosed framed =>
      rw [hp] at h
      rw [begun_nil (by simp [hp])]
      cases h
      exact .sets framed hp
    | unlockClosed =>
      rw [hp] at h
      rw [begun_nil (by simp [hp])]
      cases h
      exact .release_of hp .closeConn rfl rfl rfl rfl fun _ => rfl
    | closeConn =>
      rw [hp] at h
      rw [begun_nil (by simp [hp])]
      cases h
      exact .quiet_of hp .idle _ _ rfl rfl rfl rfl (fun _ => Or.inr rfl)

theorem unsent_at {s : State G} {g : G} (h : s.writeMu = some g) (ph : Phase) : unsent (s.at g ph) = ph.rest := by
  rw [unsent_eq (s := s.at g ph) h, State.at_phase, Function.update_self]

/-- A function of the phases that the new phase has the old value of is the same everywhere. -/
theorem update_phase {α : Type*} {s : State G} {g : G} {ph : Phase} (F : Phase → α) (h : F ph = F (s.phase g))
    (g' : G) :
    F (Function.update s.phase g ph g') = F (s.phase g') := by
  by_cases hg : g' = g
  · subst hg; rw [Function.update_self, h]
  · rw [Function.update_of_ne hg]

/-- Where only one goroutine moves, what all have holds of its new phase and of the others. -/
theorem forall_update {s : State G} {g : G} {ph : Phase} {P : G → Phase → Prop} (h : P g ph)
    (hother : ∀ g', g' ≠ g → P g' (s.phase g')) (g' : G) : P g' (Function.update s.phase g ph g') := by
  by_cases hg : g' = g
  · subst hg; rwa [Function.update_self]
  · rw [Function.update_of_ne hg]; exact hother g' hg

section

variable {s : State G} {g : G} {frames : List Sent} {ph : Phase}

/-! A phase that is in a close frame as the one before it, and what follows for a close frame of the stream. -/

theorem Inv.framed_update (hi : Inv s frames) (h : ph.closing = (s.phase g).closing) (g' : G)
    (hc : (Function.update s.phase g ph g').closing = true) : ∃ f ∈ frames, f.opcode = opClose := by
  rw [update_phase Phase.closing h] at hc
  exact hi.framed g' hc

theorem Inv.closes_update (hi : Inv s frames) (h : ph.closing = (s.phase g).closing) {f : Sent} (hf : f ∈ frames)
    (hop : f.opcode = opClose) : s.closed = true ∨ ∃ g', (Function.update s.phase g ph g').closing = true := by
  rcases hi.closes f hf hop with hc | ⟨g', hc⟩
  · exact Or.inl hc
  · exact Or.inr ⟨g', (update_phase Phase.closing h g').trans hc⟩

theorem Inv.past_update (hi : Inv s frames) (h : ph.past = true → s.closed = true) (g' : G) :
    (Function.update s.phase g ph g').past = true → s.closed = true :=
  forall_update (P := fun _ ph => ph.past = true → s.closed = true) h (fun g' _ => hi.past g') g'

theorem Inv.whole_update (hi : Inv s frames) (h : ph.rest = []) (hs : s.closed = true) (g' : G) :
    (Function.update s.phase g ph g').rest = [] :=
  forall_update (P := fun _ ph => ph.rest = []) h (fun g' _ => hi.whole hs g') g'

omit [DecidableEq G] in
theorem not_past (h : ph.past = false) : ph.past = true → s.closed = true := fun hp => by
  rw [h] at hp
  cases hp

/-! One lemma for each kind of step. -/

theorem Inv.quiet (hi : Inv s frames) {connClosed socketClosed : Bool} (hholds : ph.holds = (s.phase g).holds)
    (hrest : ph.rest = (s.phase g).rest) (hclosing : ph.closing = (s.phase g).closing) (hpast : ph.past = false)
    (hc : connClosed = true → s.connClosed = true ∨ (s.phase g).past = true) :
    Inv ⟨s.writeMu, s.closed, s.out, connClosed, socketClosed, Function.update s.phase g ph⟩ frames where
  holder g' := by
    rw [update_phase Phase.holds hholds]
    exact hi.holder g'
  stream := by
    refine Eq.trans (congrArg (s.out ++ ·) ?_) hi.stream
    simp only [unsent]
    cases s.writeMu with
    | none => rfl
    | some g' => exact update_phase Phase.rest hrest g'
  framed := hi.framed_update hclosing
  closes _ hf hop := hi.closes_update hclosing hf hop
  shut hct := (hc hct).elim hi.shut (hi.past g)
  past := hi.past_update (not_past hpast)
  whole hs g' := by
    rw [update_phase Phase.rest hrest]
    exact hi.whole hs g'

theorem Inv.acquire (hi : Inv s frames) (hmu : s.writeMu = none) (hholds : ph.holds = true) (hrest : ph.rest = [])
    (hclosing : ph.closing = (s.phase g).closing) (hpast : ph.past = false) :
    Inv ({ s with writeMu := some g }.at g ph) frames where
  holder := by
    -- nobody else held it
    have hnone : ∀ g', (s.phase g').holds = false := fun g' => by
      rw [← Bool.not_eq_true, hi.holder g', hmu]
      simp
    refine forall_update (P := fun g' ph => ph.holds = true ↔ some g = some g') (by simp [hholds]) fun g' hg => ?_
    simp [hnone g', Ne.symm hg]
  stream := by
    refine Eq.trans (congrArg (s.out ++ ·) ?_) hi.stream
    show (Function.update s.phase g ph g).rest = _
    rw [Function.update_self, hrest, unsent, hmu]
  framed := hi.framed_update hclosing
  closes _ hf hop := hi.closes_update hclosing hf hop
  shut := hi.shut
  past := hi.past_update (not_past hpast)
  whole := hi.whole_update hrest

theorem Inv.release (hi : Inv s frames) (hheld : (s.phase g).holds = true) (hrest : (s.phase g).rest = [])
    (hfree : ph.holds = false) (hclosing : ph.closing = (s.phase g).closing)
    (hpast : ph.past = true → (s.phase g).past = true) : Inv ({ s with writeMu := none }.at g ph) frames where
  holder := by
    refine forall_update (P := fun g' ph => ph.holds = true ↔ none = some g') (by simp [hfree]) fun g' hg => ?_
    rw [hi.holder g', (hi.holder g).1 hheld]
    simp [Ne.symm hg]
  stream := by
    refine Eq.trans (congrArg (s.out ++ ·) ?_) hi.stream
    rw [unsent_eq ((hi.holder g).1 hheld), hrest]
    rfl
  framed := hi.framed_update hclosing
  closes _ hf hop := hi.closes_update hclosing hf hop
  shut := hi.shut
  past := hi.past_update fun h => hi.past g (hpast h)
  whole := hi.whole_update (rest_of_not_holds hfree)

theorem Inv.begins (hi : Inv s frames) {w : Write} (hp : s.phase g = .check w) (hopen : s.closed = false) :
    Inv (s.at g (.send w w.frame.bytes)) (frames ++ [w.frame]) where
  holder g' := by
    rw [State.at_phase, update_phase Phase.holds (by rw [hp]; rfl)]
    exact hi.holder g'
  stream := by
    have hmu : s.writeMu = some g := (hi.holder g).1 (by rw [hp]; rfl)
    have hout : s.out = (frames.map Sent.bytes).flatten := by
      rw [← hi.stream, unsent_eq hmu, hp]
      exact (List.append_nil _).symm
    rw [Stream, unsent_at hmu, State.at_out, hout]
    simp [Phase.rest]
  framed := by
    refine forall_update (P := fun _ ph => ph.closing = true → ∃ f ∈ frames ++ [w.frame], f.opcode = opClose) ?_ ?_
    · exact fun h => ⟨w.frame, by simp, (closing_send w _).1 h⟩
    · intro g' _ h
      obtain ⟨f, hf, hop⟩ := hi.framed g' h
      exact ⟨f, List.mem_append_left _ hf, hop⟩
  closes f hf hop := by
    rcases List.mem_append.1 hf with hf | hf
    · -- the call behind an older close frame is not this one, which has sent nothing yet
      obtain ⟨g', hg'⟩ := (hi.closes f hf hop).resolve_left (by simp [hopen])
      have hne : g' ≠ g := by rintro rfl; rw [hp] at hg'; cases hg'
      exact Or.inr ⟨g', by rw [State.at_phase, Function.update_of_ne hne]; exact hg'⟩
    · rw [List.mem_singleton.1 hf] at hop
      exact Or.inr ⟨g, by rw [State.at_phase, Function.update_self]; exact (closing_send w _).2 hop⟩
  shut := hi.shut
  past := hi.past_update (not_past rfl)
  whole hs := by
    rw [State.at_closed, hopen] at hs
    cases hs

theorem Inv.sends (hi : Inv s frames) {w : Write} {rest : List UInt8} {n : ℕ} (hp : s.phase g = .send w rest)
    (hholds : ph.holds = true) (hrest : ph.rest = rest.drop n) (hclosing : ph.closing = (s.phase g).closing)
    (hpast : ph.past = false) : Inv ({ s with out := s.out ++ rest.take n }.at g ph) frames where
  holder g' := by
    rw [State.at_phase, update_phase Phase.holds (by rw [hp, hholds]; rfl)]
    exact hi.holder g'
  stream := by
    have hmu : s.writeMu = some g := (hi.holder g).1 (by rw [hp]; rfl)
    have hall : s.out ++ rest = (frames.map Sent.bytes).flatten := by
      rw [← hi.stream, unsent_eq hmu, hp]
      rfl
    rw [Stream, unsent_at (s := { s with out := s.out ++ rest.take n }) hmu, State.at_out, hrest, List.append_assoc,
      List.take_append_drop, hall]
  framed := hi.framed_update hclosing
  closes _ hf hop := hi.closes_update hclosing hf hop
  shut := hi.shut
  past := hi.past_update (not_past hpast)
  whole hs := by
    have hnil : rest = [] := by
      have := hi.whole hs g
      rwa [hp] at this
    exact hi.whole_update (by rw [hrest, hnil, List.drop_nil]) hs

theorem Inv.sets (hi : Inv s frames) {framed : Bool} (hp : s.phase g = .setClosed framed) :
    Inv ({ s with closed := true }.at g .unlockClosed) frames where
  holder g' := by
    rw [State.at_phase, update_phase Phase.holds (by rw [hp]; rfl)]
    exact hi.holder g'
  stream := by
    have hmu : s.writeMu = some g := (hi.holder g).1 (by rw [hp]; rfl)
    refine Eq.trans (congrArg (s.out ++ ·) ?_) hi.stream
    rw [unsent_eq hmu, unsent_at (s := { s with closed := true }) hmu, hp]
    rfl
  framed := by
    refine forall_update (P := fun _ ph => ph.closing = true → ∃ f ∈ frames, f.opcode = opClose) ?_
      fun g' _ => hi.framed g'
    intro h
    cases h
  closes _ _ _ := Or.inl rfl
  shut _ := rfl
  past _ _ := rfl
  whole _ := by
    -- whoever else was in a frame would hold `writeMu`
    refine forall_update (P := fun _ ph => ph.rest = []) rfl fun g' hg => rest_of_not_holds ?_
    rw [← Bool.not_eq_true, hi.holder g', (hi.holder g).1 (by rw [hp]; rfl), Option.some.injEq]
    exact fun h => hg h.symm

/-- A step keeps the invariant, with the frame it begins. -/
theorem Effect.inv {s' : State G} {fs : List Sent} (hi : Inv s frames) (h : Effect s g fs s') :
    Inv s' (frames ++ fs) := by
  cases h with
  | quiet ph c k hholds hrest hclosing hpast hc =>
    rw [List.append_nil]
    exact hi.quiet hholds hrest hclosing hpast hc
  | acquire ph hmu hholds hrest hclosing hpast =>
    rw [List.append_nil]
    exact hi.acquire hmu hholds hrest hclosing hpast
  | release ph hheld hrest hfree hclosing hpast =>
    rw [List.append_nil]
    exact hi.release hheld hrest hfree hclosing hpast
  | begins w hp hopen => exact hi.begins hp hopen
  | sends w rest n ph hp hholds hrest hclosing hpast =>
    rw [List.append_nil]
    exact hi.sends hp hholds hrest hclosing hpast
  | sets framed hp =>
    rw [List.append_nil]
    exact hi.sets hp

end

theorem step_inv {s s' : State G} {l : Label G} {frames : List Sent} (hi : Inv s frames) (h : step s l = some s') :
    Inv s' (frames ++ begun s l) := by
  obtain ⟨g, he⟩ := step_effect h
  exact he.inv hi

/-- A step from an orderly stream keeps it so exactly when it is not a late frame. -/
theorem orderly_step {s s' : State G} {l : Label G} {frames : List Sent} (hi : Inv s frames) (ho : Orderly s)
    (h : step s l = some s') : Orderly s' ↔ NotLate s l := by
  have hlast : CloseLast frames := by
    obtain ⟨fs, hfs, hlast⟩ := ho
    rwa [hi.stream.unique hfs]
  have hi' := step_inv hi h
  have horderly : Orderly s' ↔ CloseLast (frames ++ begun s l) :=
    ⟨fun ⟨fs, hfs, hlast⟩ => hi'.stream.unique hfs ▸ hlast, fun hlast => ⟨_, hi'.stream, hlast⟩⟩
  rw [horderly, notLate_iff]
  rcases begun_cases s l with hb | ⟨w, hb, hopen⟩
  · rw [hb, List.append_nil]
    exact ⟨fun _ h => absurd rfl h, fun _ => hlast⟩
  · rw [hb, closeLast_append_singleton]
    constructor
    · intro hno _ g
      by_contra hc
      obtain ⟨f, hf, hop⟩ := hi.framed g (by simpa using hc)
      exact hno f hf hop
    · intro hc f hf hop
      obtain ⟨g, hg⟩ := (hi.closes f hf hop).resolve_left (by simp [hopen])
      rw [hc (List.cons_ne_nil _ _) g] at hg
      cases hg

/-! ## Runs -/

/-- In every run the stream stays a concatenation of complete frames with nothing behind a close frame
exactly as long as no goroutine finds `closed` unset between the frame of a `WriteClose` and its section
that sets `closed`. -/
theorem orderly_iff_notLate (tr : List (Label G)) :
    Transition.Always step Orderly init tr ↔ Transition.EachStep step NotLate init tr :=
  Transition.always_iff_eachStep (I := fun s => ∃ frames, Inv s frames) (fun _ _ _ ⟨_, hi⟩ hs => ⟨_, step_inv hi hs⟩)
    (fun _ _ _ ⟨_, hi⟩ ho hs => orderly_step hi ho hs) ⟨[], inv_init⟩ ⟨[], rfl, fun pre _ _ he => by simp at he⟩

/-- The peer closes: between the close echo and its `closed`, `writeLoop` writes the next message. -/
theorem text_after_close :
    ¬ ∀ (tr : List (Label ℕ)) (s : State ℕ), Transition.run step init tr = some s → Orderly s := by
  intro h
  let close : Write := .close 1000 ⟨[], by decide⟩
  let text : Write := .text ⟨[0x78], by decide⟩
  let tr : List (Label ℕ) :=
    [.start 0 (.writeClose 1000 ⟨[], by decide⟩), .run 0 0, .run 0 0, .run 0 3, .run 0 0,
      .start 1 (.writeLoop ⟨[0x78], by decide⟩), .run 1 0, .run 1 0, .run 1 2, .run 1 0]
  have hrun : ((Transition.run step init tr).map fun s => s.out ++ unsent s) =
      some ([close.frame, text.frame].map Sent.bytes).flatten := by decide +kernel
  obtain ⟨s, hs, hout⟩ := Option.map_eq_some_iff.1 hrun
  obtain ⟨fs, hfs, hlast⟩ := h tr s hs
  rw [frames_unique (hfs.symm.trans hout)] at hlast
  exact absurd (hlast [] close.frame [text.frame] rfl rfl) (List.cons_ne_nil _ _)

end NodejsHelper.WebSocket.Writer
