/-
Refusals. A handler refuses at some ten places, some of them between steps that change state, and each
refusal is an answer at most (`handleEvent_refused`); every `#subscribe` or `login` that is answered with
an error and every `#publish` that publishes nothing is one of them (`refused_of_outcome`). On the node
the answer only touches the connection of its own socket: it goes to the queue, or the full queue
closes the socket (`refusal_changes_nothing`).
-/
import NodejsHelper.Server.Batch

namespace NodejsHelper

/-! ## What is refused -/

section

variable (p : Auth.Primitives) (cfg : Config)

variable {p cfg}

/-! ## The handlers -/

end

namespace Server

variable {p : Auth.Primitives} {cfg : Config}

/-! ## The answer on the node -/

/-- What the read loop of a socket has left to do of an answer: one response for the queue, or the close
of a slow consumer. -/
inductive Replying (t : ℕ) : List Op → Prop
  | done : Replying t []
  | check (rid : Int) (data : Option Json) (error : Option ErrObj) :
      Replying t [.enqueueText t ⟨.response rid data error, none⟩]
  | send (rid : Int) (data : Option Json) (error : Option ErrObj) :
      Replying t [.selectOutbound t ⟨.response rid data error, none⟩]
  | full : Replying t [.closeWith t 1008 "Outbound queue full"]
  | closing (op : Op) (code : ℕ) (reason : String) :
      op = .lockFrame t (.close code reason) ∨ op = .writeFrame t (.close code reason) ∨ op = .lockClosed t ∨
        op = .closeConn t → Replying t [op]

variable (cfg) in
/-- A step of an answer changes nothing but the connection of the socket: it queues one response, which
ends the answer, or it closes the socket, once a full queue has refused the response. -/
structure Answers (t : ℕ) (s s' : State) : Prop where
  conn : ∃ c, s'.mem = s.mem.setConn t c
  queued : (s'.mem.conns t).queued = (s.mem.conns t).queued ∨ s'.todo (.readLoop t) = [] ∧
    ∃ rid data error, (s'.mem.conns t).queued = (s.mem.conns t).queued ++ [⟨.response rid data error, none⟩]
  closed : (s'.mem.conns t).closed = (s.mem.conns t).closed ∨
    s.todo (.readLoop t) = [.closeWith t 1008 "Outbound queue full"]
  full : s'.todo (.readLoop t) = [.closeWith t 1008 "Outbound queue full"] →
    cfg.sendBuffer ≤ (s.mem.conns t).outbound.length

theorem setConn_self (m : Memory) (t : ℕ) : m.setConn t (m.conns t) = m := by
  simp [Memory.setConn]

@[simp] theorem conns_setConn (m : Memory) (t : ℕ) (c : Conn) : (m.setConn t c).conns t = c := by
  simp [Memory.setConn]

/-- An answer is carried out section by section. -/
theorem Replying.exec {t : ℕ} {s : State} {m : Memory} {op : Op} {rest ops : List Op}
    (ht : s.todo (.readLoop t) = op :: rest) (hr : Replying t (op :: rest))
    (hx : Exec cfg s.mem (.readLoop t) op m ops) :
    Replying t (ops ++ rest) ∧ Answers cfg t s (s.assign (.readLoop t) m (ops ++ rest)) := by
  have hmem : ∀ ops', ops' ≠ [.closeWith t 1008 "Outbound queue full"] →
      Answers cfg t s (s.assign (.readLoop t) s.mem ops') := by
    intro ops' hne
    refine ⟨⟨_, (setConn_self s.mem t).symm⟩, Or.inl rfl, Or.inl rfl, fun h => ?_⟩
    rw [Workers.State.assign_todo_self] at h
    exact absurd h hne
  have hset : ∀ (c : Conn) ops', c.queued = (s.mem.conns t).queued → c.closed = (s.mem.conns t).closed →
      ops' ≠ [.closeWith t 1008 "Outbound queue full"] →
      Answers cfg t s (s.assign (.readLoop t) (s.mem.setConn t c) ops') := by
    intro c ops' hq hc hne
    refine ⟨⟨c, rfl⟩, Or.inl ?_, Or.inl ?_, fun h => ?_⟩
    · simpa using hq
    · simpa using hc
    · rw [Workers.State.assign_todo_self] at h
      exact absurd h hne
  cases hr with
  | check rid data error =>
    cases hx with
    | enqueueClosed => exact ⟨.done, hmem _ (by simp)⟩
    | enqueue => exact ⟨.send rid data error, hmem _ (by simp)⟩
  | send rid data error =>
    cases hx with
    | selectDone => exact ⟨.done, hmem _ (by simp)⟩
    | selectSend =>
      refine ⟨.done, ⟨_, rfl⟩, Or.inr ⟨by simp, rid, data, error, by simp⟩, Or.inl (by simp), fun h => ?_⟩
      simp at h
    | selectFull _ _ hfull => exact ⟨.full, ⟨_, (setConn_self s.mem t).symm⟩, Or.inl rfl, Or.inl rfl, fun _ => hfull⟩
  | full =>
    cases hx with
    | closeLost => exact ⟨.done, hmem _ (by simp)⟩
    | closeWon =>
      refine ⟨.closing _ 1008 "Outbound queue full" (Or.inl rfl), ⟨_, rfl⟩, Or.inl (by simp), Or.inr ht, fun h => ?_⟩
      simp at h
  | closing _ code reason hop =>
    rcases hop with rfl | rfl | rfl | rfl
    · cases hx with
      | lockRefused => exact ⟨.closing _ code reason (by simp), hmem _ (by simp [afterFrame])⟩
      | lock => exact ⟨.closing _ code reason (by simp), hset _ _ rfl rfl (by simp)⟩
    · cases hx with
      | written => exact ⟨.closing _ code reason (by simp), hset _ _ rfl rfl (by simp [afterFrame])⟩
      | writeFailed => exact ⟨.closing _ code reason (by simp), hset _ _ rfl rfl (by simp [afterFrame])⟩
    · cases hx with
      | lockClosed => exact ⟨.closing _ code reason (by simp), hset _ _ rfl rfl (by simp)⟩
    · cases hx with
      | closeConn => exact ⟨.done, hset _ _ rfl rfl (by simp)⟩

/-- While the read loop of the socket is answering, it stays so. -/
theorem Replying.step {t : ℕ} {s s' : State} {l : Label} (hbusy : s.todo (.readLoop t) ≠ [])
    (hr : Replying t (s.todo (.readLoop t))) (h : step p cfg s l = some s') :
    Replying t (s'.todo (.readLoop t)) ∧ ∀ choice, l = .run (.readLoop t) choice → Answers cfg t s s' := by
  cases step_cases h with
  | run g choice op rest ops m ht hx =>
    by_cases hg : Goroutine.readLoop t = g
    · subst hg
      rw [ht] at hr
      obtain ⟨hnext, hanswers⟩ := hr.exec ht hx
      exact ⟨by rw [Workers.State.assign_todo_self]; exact hnext, fun _ _ => hanswers⟩
    · rw [Workers.State.assign_todo_of_ne hg]
      exact ⟨hr, fun choice' hl => by cases hl; exact absurd rfl hg⟩
  | start w g ops m ht hw =>
    have hg : Goroutine.readLoop t ≠ g := fun he => hbusy (he ▸ ht)
    rw [Workers.State.assign_todo_of_ne hg]
    exact ⟨hr, fun choice hl => by cases hl⟩
  | stall t' => exact ⟨hr, fun choice hl => by cases hl⟩

end Server

end NodejsHelper
