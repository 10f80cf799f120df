/-
What a socket answers and keeps: a response carries the call id of the event it answers, the packets of a
handler can be marshalled, and only an `#unsubscribe` ends a subscription.
-/
import NodejsHelper.Server.Text
import NodejsHelper.Socket.Spec

namespace NodejsHelper

open Auth Strings

variable {p : Primitives} {cfg : Config}

/-! ## Responses -/

theorem mem_respond {ev : InEvent} {data data' : Option Json} {rid : Int} {error : Option ErrObj}
    (h : .send (.response rid data' error) ∈ respond ev data) : ev.cid = some rid ∧ error = none := by
  unfold respond at h
  split at h
  · rename_i rid' hcid
    cases List.mem_singleton.1 h
    exact ⟨hcid, rfl⟩
  · cases h

theorem mem_respondError {ev : InEvent} {name message : String} {data : Option Json} {rid : Int}
    {error : Option ErrObj} (h : .send (.response rid data error) ∈ respondError ev name message) :
    ev.cid = some rid ∧ error ≠ none := by
  unfold respondError at h
  split at h
  · rename_i rid' hcid
    cases List.mem_singleton.1 h
    exact ⟨hcid, Option.some_ne_none _⟩
  · cases h

theorem mem_handleLogin {s : Socket} {ev : InEvent} {clock : Clock} {data : Option Json} {rid : Int}
    {error : Option ErrObj} (h : .send (.response rid data error) ∈ (handleLogin p cfg s ev clock).2) :
    ev.cid = some rid := by
  unfold handleLogin loginFailed at h
  split at h
  · split at h
    · split at h
      · rcases List.mem_append.1 h with h | h
        · exact (mem_respond h).1
        · cases List.mem_singleton.1 h
      · exact (mem_respondError h).1
    · exact (mem_respondError h).1
  · exact (mem_respondError h).1

/-- A `#subscribe` is answered under its call id, and without an error when the channel is subscribed. -/
theorem mem_handleSubscribe {s : Socket} {ev : InEvent} {data : Option Json} {rid : Int} {error : Option ErrObj}
    (h : .send (.response rid data error) ∈ (handleSubscribe cfg s ev).2) :
    ev.cid = some rid ∧ (error = none → (parseChannelPayload ev.data).1 ∈ (handleSubscribe cfg s ev).1.subs) := by
  have hfailed : ∀ {name message : String}, .send (.response rid data error) ∈ respondError ev name message →
      ev.cid = some rid ∧ (error = none → (parseChannelPayload ev.data).1 ∈ (handleSubscribe cfg s ev).1.subs) :=
    fun h => ⟨(mem_respondError h).1, fun hnone => absurd hnone (mem_respondError h).2⟩
  by_cases hempty : (parseChannelPayload ev.data).1 = ""
  · rw [handleSubscribe, if_pos hempty] at h
    exact hfailed h
  · cases hhand : s.handshaken with
    | false =>
      rw [handleSubscribe, if_neg hempty, hhand] at h
      exact hfailed h
    | true =>
      cases htoken : s.token with
      | none =>
        rw [handleSubscribe, if_neg hempty, hhand, htoken] at h
        exact hfailed h
      | some token =>
        simp only [handleSubscribe, if_neg hempty, hhand, htoken, Bool.not_true, Bool.false_eq_true, if_false] at h ⊢
        split at h
        · exact ⟨(mem_respondError h).1, fun hnone => absurd hnone (mem_respondError h).2⟩
        · split at h
          · exact ⟨(mem_respondError h).1, fun hnone => absurd hnone (mem_respondError h).2⟩
          · rename_i hrefuses hlimit
            rcases List.mem_append.1 h with h | h
            · rcases List.mem_append.1 h with h | h
              · exact absurd h send_notMem_subscribePresence
              · cases List.mem_singleton.1 h
            · refine ⟨(mem_respond h).1, fun _ => ?_⟩
              rw [if_neg hrefuses, if_neg hlimit]
              exact Finset.mem_insert_self _ _

/-- A response carries the call id of the event the socket is handling. -/
theorem mem_handleEvent {s : Socket} {ev : InEvent} {clock : Clock} {data : Option Json} {rid : Int}
    {error : Option ErrObj} (h : .send (.response rid data error) ∈ (handleEvent p cfg s ev clock).2) :
    ev.cid = some rid := by
  unfold handleEvent at h
  split at h
  · exact (mem_respond h).1
  · exact (mem_handleSubscribe h).1
  · unfold handleUnsubscribe at h
    dsimp only at h
    split at h
    · cases h
    · split at h
      · exact (mem_respond ((List.mem_cons.1 h).resolve_left Effect.noConfusion)).1
      · exact (mem_respond h).1
  · unfold handlePublish at h
    rcases List.mem_append.1 h with h | h
    · exact (mem_respond h).1
    · split at h
      · split_ifs at h <;> simp at h
      · cases h
  · exact (mem_respond h).1
  · exact (mem_respond h).1
  · cases List.mem_singleton.1 h
  · exact mem_handleLogin h
  · exact (mem_respondError h).1

/-! ## Subscriptions -/

theorem subs_verifyAuth (s : Socket) (signed : String) (now : Int) :
    (verifyAuth p cfg s signed now).1.subs = s.subs := by
  unfold verifyAuth
  split <;> rfl

/-- The event unsubscribes its socket from the channel. -/
def InEvent.Unsubscribes (ev : InEvent) (channel : String) : Prop :=
  ev.event = "#unsubscribe" ∧ (parseChannelPayload ev.data).1 = channel

theorem subs_handleEvent {s : Socket} {ev : InEvent} {clock : Clock} {channel : String} (h : channel ∈ s.subs)
    (hev : ¬ ev.Unsubscribes channel) : channel ∈ (handleEvent p cfg s ev clock).1.subs := by
  unfold handleEvent
  split
  · have hsubs : (handleHandshake p cfg s ev clock).1.subs = s.subs := by
      unfold handleHandshake
      dsimp only
      split
      · exact subs_verifyAuth s _ _
      · rfl
    exact hsubs ▸ h
  · unfold handleSubscribe
    dsimp only
    split
    · exact h
    · split
      · exact h
      · split
        · exact h
        · split
          · exact h
          · split
            · exact h
            · exact Finset.mem_insert_of_mem h
  · rename_i hname
    unfold handleUnsubscribe
    dsimp only
    split_ifs
    · exact h
    · exact Finset.mem_erase.2 ⟨fun heq => hev ⟨hname, heq.symm⟩, h⟩
    · exact h
  · exact h
  · have hsubs : (handleAuthenticate p cfg s ev clock).1.subs = s.subs := by
      unfold handleAuthenticate
      dsimp only
      split
      · exact subs_verifyAuth s _ _
      · rfl
    exact hsubs ▸ h
  · exact h
  · exact h
  · have hsubs : (handleLogin p cfg s ev clock).1.subs = s.subs := by
      unfold handleLogin
      split
      · split
        · split <;> rfl
        · rfl
      · rfl
    exact hsubs ▸ h
  · exact h

/-! ## Packets -/

/-- What a handler sends can be marshalled, whatever the data of its event. -/
theorem sendable_send {s : Socket} {ev : InEvent} {clock : Clock} {packet : Packet}
    (h : .send packet ∈ (handleEvent p cfg s ev clock).2) : packet.Sendable := by
  unfold handleEvent at h
  split at h
  · exact sendable_respond (by rintro v ⟨⟩; exact writable_handshakeStatus ..) _ h
  · exact sendable_handleSubscribe _ h
  · exact sendable_handleUnsubscribe _ h
  · unfold handlePublish at h
    rcases List.mem_append.1 h with h | h
    · exact sendable_respond (by rintro v ⟨⟩) _ h
    · split at h
      · split_ifs at h <;> simp at h
      · cases h
  · exact sendable_respond (by rintro v ⟨⟩; exact writable_authenticateStatus ..) _ h
  · exact sendable_respond (by rintro v ⟨⟩) _ h
  · cases List.mem_singleton.1 h
  · exact sendable_handleLogin _ h
  · exact sendable_respondError ev _ _ _ h

/-! ## Sessions -/

theorem handleEvents_append (s : Socket) (evs evs' : List (InEvent × Clock)) :
    handleEvents p cfg s (evs ++ evs') =
      ((handleEvents p cfg (handleEvents p cfg s evs).1 evs').1,
        (handleEvents p cfg s evs).2 ++ (handleEvents p cfg (handleEvents p cfg s evs).1 evs').2) := by
  induction evs generalizing s with
  | nil => rfl
  | cons e evs ih => simp only [List.cons_append, handleEvents, ih, List.append_assoc]

/-- An effect of a session is one of an event of it. -/
theorem mem_handleEvents {s : Socket} {evs : List (InEvent × Clock)} {e : Effect}
    (h : e ∈ (handleEvents p cfg s evs).2) :
    ∃ before ev clock after, evs = before ++ (ev, clock) :: after ∧
      e ∈ (handleEvent p cfg (handleEvents p cfg s before).1 ev clock).2 := by
  induction evs generalizing s with
  | nil => cases h
  | cons first evs ih =>
    obtain ⟨ev, clock⟩ := first
    rcases List.mem_append.1 h with h | h
    · exact ⟨[], ev, clock, evs, rfl, h⟩
    · obtain ⟨before, ev', clock', after, rfl, h'⟩ := ih h
      exact ⟨(ev, clock) :: before, ev', clock', after, rfl, h'⟩

/-- A subscription lasts as long as no event ends it. -/
theorem subs_handleEvents {s : Socket} {evs : List (InEvent × Clock)} {channel : String} (h : channel ∈ s.subs)
    (hevs : ∀ e ∈ evs, ¬ e.1.Unsubscribes channel) : channel ∈ (handleEvents p cfg s evs).1.subs := by
  induction evs generalizing s with
  | nil => exact h
  | cons e evs ih =>
    obtain ⟨hfirst, hrest⟩ := List.forall_mem_cons.1 hevs
    exact ih (subs_handleEvent h hfirst) hrest

end NodejsHelper
