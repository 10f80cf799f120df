/-
What a login hash was signed for. PHP signs three kinds of hashes: for a visitor of the site, for
the visitor of one chat and for an operator. Their pre-images never coincide, so the check of the
node recovers the purpose from the digest, and the purpose alone says on which channel names the
hash logs in, and as what.
-/
import NodejsHelper.Auth.Sample

namespace NodejsHelper.Auth

open Strings

/-- What `tokenvisitor.php`, `tokenadmin.php` and the embed code sign a hash for. -/
inductive Purpose
  | site
  | chat (id : String)
  | operator
  deriving DecidableEq, Repr

namespace Purpose

/-- The text PHP hashes for the time `ts`. -/
def preimage (ts secret : String) : Purpose → String
  | site => ts ++ "Visitor" ++ secret
  | chat id => ts ++ "Visitor" ++ secret ++ "_" ++ id
  | operator => ts ++ "Operator" ++ secret

/-- The first part of the hash. -/
def digest (p : Primitives) (ts secret : String) (purpose : Purpose) : String :=
  p.sha1Hex (purpose.preimage ts secret)

/-- What the hash means on a channel name: nothing, or `(isVisitor, isChatToken)`. -/
def result (chanelName : String) : Purpose → Option (Bool × Bool)
  | site => if contains chanelName "chat_" then none else some (true, false)
  | chat id => if contains chanelName "chat_" ∧ lastPart chanelName '_' = id then some (true, true) else none
  | operator => some (false, contains chanelName "chat_")

/-- The purpose of the visitor hash the check computes for a channel name. -/
def ofVisitor (chanelName : String) : Purpose :=
  if contains chanelName "chat_" then chat (lastPart chanelName '_') else site

end Purpose

variable {p : Primitives}

/-! ## Pre-images -/

/-- One text is not signed for two purposes. -/
theorem preimage_injective (ts secret : String) : Function.Injective (Purpose.preimage ts secret) := by
  have hchat : ∀ id, ts ++ "Visitor" ++ secret ++ "_" ++ id ≠ ts ++ "Visitor" ++ secret := by
    intro id h
    have := congrArg String.length h
    simp only [String.length_append] at this
    have hone : "_".length = 1 := rfl
    omega
  have hrole : ∀ id, ts ++ "Visitor" ++ secret ++ "_" ++ id ≠ ts ++ "Operator" ++ secret := by
    intro id h
    rw [String.append_assoc, String.append_assoc] at h
    exact visitor_ne_operator _ _ _ h
  intro a b h
  cases a <;> cases b <;> simp only [Purpose.preimage] at h
  case site.site => rfl
  case operator.operator => rfl
  case site.chat id => exact absurd h.symm (hchat id)
  case site.operator => exact absurd h (visitor_ne_operator _ _ _)
  case chat.site id => exact absurd h (hchat id)
  case chat.operator id => exact absurd h (hrole id)
  case operator.site => exact absurd h.symm (visitor_ne_operator _ _ _)
  case operator.chat id => exact absurd h.symm (hrole id)
  case chat.chat a b =>
    have h' := congrArg String.toList h
    simp only [String.toList_append] at h'
    rw [String.toList_injective (List.append_cancel_left h')]

theorem digest_injective (hp : Sha1Laws p) (ts secret : String) :
    Function.Injective (Purpose.digest p ts secret) :=
  hp.injective.comp (preimage_injective ts secret)

theorem visitorHash_eq (ts secret chanelName : String) :
    visitorHash p ts secret chanelName = (Purpose.ofVisitor chanelName).digest p ts secret := by
  unfold visitorHash Purpose.ofVisitor
  split <;> rfl

/-- The hashes the PHP side answers. -/
theorem tokenvisitor_eq (secret : String) (chatId : Option String) (date : Nat) :
    tokenvisitor p secret chatId date =
      ((chatId.elim .site .chat : Purpose).digest p date.repr secret) ++ "." ++ date.repr := by
  cases chatId <;> rfl

theorem tokenadmin_eq (secret : String) (date : Nat) :
    tokenadmin p secret date = Purpose.operator.digest p date.repr secret ++ "." ++ date.repr := rfl

/-! ## The meaning of a purpose -/

theorem result_ofVisitor (chanelName : String) :
    (Purpose.ofVisitor chanelName).result chanelName = some (true, contains chanelName "chat_") := by
  unfold Purpose.ofVisitor
  split
  · rename_i h
    simp [Purpose.result, h]
  · rename_i h
    simp [Purpose.result, h]

/-- A purpose other than the visitor's on this name and the operator's means nothing on it. -/
theorem result_of_ne {purpose : Purpose} {chanelName : String} (hv : purpose ≠ Purpose.ofVisitor chanelName)
    (ho : purpose ≠ .operator) : purpose.result chanelName = none := by
  unfold Purpose.ofVisitor at hv
  cases purpose with
  | operator => exact absurd rfl ho
  | site =>
    split at hv
    · rename_i hc
      exact if_pos hc
    · exact absurd rfl hv
  | chat id =>
    refine if_neg ?_
    rintro ⟨hc, rfl⟩
    rw [if_pos hc] at hv
    exact hv rfl

/-- The id of a visitor's purpose is one segment of a name. -/
theorem notMem_ofVisitor {chanelName id : String} (h : Purpose.ofVisitor chanelName = .chat id) :
    '_' ∉ id.toList := by
  unfold Purpose.ofVisitor at h
  split at h
  · cases h
    exact notMem_lastPart chanelName '_'
  · cases h

/-! ## The check -/

theorem validateLoginToken_expired {hash chanelName secret head ts : String} {rest : List String} {now n : Int}
    (hs : split hash '.' = head :: ts :: rest) (hts : parseInt64 ts = some n) (hn : n ≤ now - 60 * 60) :
    validateLoginToken p hash chanelName secret now = none := by
  unfold validateLoginToken
  simp only [hs, hts, if_pos hn]

/-- A digest in the time window is accepted as its purpose says. -/
theorem validateLoginToken_digest (hp : Sha1Laws p) {hash chanelName secret ts : String} {rest : List String}
    {now n : Int} {purpose : Purpose} (hs : split hash '.' = purpose.digest p ts secret :: ts :: rest)
    (hts : parseInt64 ts = some n) (hn : now - 60 * 60 < n) :
    validateLoginToken p hash chanelName secret now = purpose.result chanelName := by
  have hop : operatorHash p ts secret = Purpose.operator.digest p ts secret := rfl
  unfold validateLoginToken
  simp only [hs, hts, if_neg (not_le.2 hn), visitorHash_eq, hop, (digest_injective hp ts secret).eq_iff]
  split
  · rename_i hv
    rw [hv, result_ofVisitor]
  · rename_i hv
    split
    · rename_i ho
      rw [ho, Purpose.result]
    · rename_i ho
      exact (result_of_ne hv ho).symm

/-- The parts of a minted hash: the digest and the date. -/
theorem split_minted (hp : Sha1Laws p) (pre : String) (date : Nat) :
    split (p.sha1Hex pre ++ "." ++ date.repr) '.' = [p.sha1Hex pre, date.repr] := by
  rw [← singleton_dot, split_append_sep (hp.no_dot pre), split_of_notMem]
  intro h
  have := isDigit_of_mem_repr h
  simp at this

/-- The hash minted for a chat is accepted for the chat channels whose name ends in that chat's id,
and for no other channel name. -/
theorem validate_tokenvisitor (hp : Sha1Laws p) {secret id chanelName : String} {date : Nat} {now : Int}
    (hdate : date < 2 ^ 63) :
    validateLoginToken p (tokenvisitor p secret (some id) date) chanelName secret now =
      if now - 60 * 60 < date ∧ contains chanelName "chat_" = true ∧ lastPart chanelName '_' = id then
        some (true, true)
      else none := by
  have hs : split (tokenvisitor p secret (some id) date) '.' =
      [(Purpose.chat id).digest p date.repr secret, date.repr] := split_minted hp _ date
  have hts := parseInt64_repr hdate
  by_cases hn : now - 60 * 60 < (date : Int)
  · rw [validateLoginToken_digest hp hs hts hn]
    simp only [Purpose.result, hn, true_and]
  · rw [if_neg fun h => hn h.1]
    exact validateLoginToken_expired hs hts (not_lt.1 hn)

/-- The check accepts a hash for what PHP signed it for and for nothing else: an accepted hash is
one of the three under a timestamp less than an hour old, and each of the three has the result of its
purpose on every channel name. -/
theorem validateLoginToken_exact (hp : Sha1Laws p) (hash chanelName secret : String) (now : Int) :
    (∀ r, validateLoginToken p hash chanelName secret now = some r →
      ∃ head ts rest n purpose, split hash '.' = head :: ts :: rest ∧ parseInt64 ts = some n ∧
        now - 60 * 60 < n ∧ head = Purpose.digest p ts secret purpose ∧
        ∀ id, purpose = .chat id → '_' ∉ id.toList) ∧
    (∀ head ts rest n purpose, split hash '.' = head :: ts :: rest → parseInt64 ts = some n →
      now - 60 * 60 < n → head = Purpose.digest p ts secret purpose →
      validateLoginToken p hash chanelName secret now = purpose.result chanelName) ∧
    (∀ ts a b, Purpose.digest p ts secret a = Purpose.digest p ts secret b → a = b) := by
  refine ⟨?_, ?_, fun ts a b h => digest_injective hp ts secret h⟩
  · rintro ⟨v, c⟩ h
    obtain ⟨head, ts, rest, n, hs, hts, hn, -, hv | ho⟩ := validateLoginToken_some h
    · refine ⟨head, ts, rest, n, Purpose.ofVisitor chanelName, hs, hts, hn, ?_, fun id => notMem_ofVisitor⟩
      rw [hv.2, visitorHash_eq]
    · exact ⟨head, ts, rest, n, .operator, hs, hts, hn, ho.2, fun _ he => nomatch he⟩
  · rintro head ts rest n purpose hs hts hn rfl
    exact validateLoginToken_digest hp hs hts hn

/-- The hash of chat 55 in the second of its mint. -/
theorem validateLoginToken_exact_sample :
    validateLoginToken sample (tokenvisitor sample "secret" (some "55") 1700000000) "chat_55" "secret" 1700000000 =
      some (true, true) :=
  (validateLoginToken_exact sample_sha1 _ _ _ _).2.1 _ _ [] _ (.chat "55") (split_minted sample_sha1 _ _)
    (parseInt64_repr (by decide)) (by decide) rfl

end NodejsHelper.Auth
