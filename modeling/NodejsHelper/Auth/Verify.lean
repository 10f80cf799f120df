/-
Which texts verify as signed tokens (`auth.go`). A token that was signed verifies to itself until it
expires; a text that verifies has three parts, of which the third is the MAC of the first two, so a
different key or a changed header or payload is found out as long as the MAC differs, before the expiry
is looked at.
-/
import NodejsHelper.Auth.Token
import NodejsHelper.Auth.Sample

namespace NodejsHelper.Auth

open Strings

variable {p : Primitives}

/-! ## What verifies -/

/-- A text that verifies: three parts, the third one the MAC of the first two, the second one the JSON of
the token. -/
structure Signs (p : Primitives) (key : List UInt8) (signed : String) (t : AuthToken) (header body mac : String)
    (payload : List UInt8) : Prop where
  parts : split signed '.' = [header, body, mac]
  signature : Base64.decode mac = some (p.hmac key (header ++ "." ++ body))
  decoded : Base64.decode body = some payload
  json : p.unmarshalToken payload = some t

/-- A text verifies exactly when it signs the token and the token has not expired. -/
theorem verifyToken_eq_ok_iff {key : List UInt8} {signed : String} {now : Int} {t : AuthToken} :
    verifyToken p key signed now = .ok t ↔
      (∃ header body mac payload, Signs p key signed t header body mac payload) ∧ ¬ (0 < t.exp ∧ t.exp ≤ now) := by
  constructor
  · intro h
    unfold verifyToken at h
    split at h
    · rename_i header body mac hparts
      split at h
      · cases h
      · rename_i signature hmac
        split at h
        · cases h
        · rename_i hsig
          split at h
          · cases h
          · rename_i payload hbody
            split at h
            · cases h
            · rename_i token hjson
              split at h
              · cases h
              · rename_i hexp
                cases h
                exact ⟨⟨header, body, mac, payload, hparts, by rw [hmac, not_not.1 hsig], hbody, hjson⟩, hexp⟩
    · cases h
  · rintro ⟨⟨header, body, mac, payload, hparts, hsig, hbody, hjson⟩, hexp⟩
    simp [verifyToken, hparts, hsig, hbody, hjson, hexp]

/-- A text behind whose last separator stands an encoded signature that is not the MAC of the rest is
refused as invalid, whatever the rest is and whenever it is presented. -/
theorem verifyToken_wrong_mac {key signature : List UInt8} {input : String} (h : p.hmac key input ≠ signature)
    (now : Int) : verifyToken p key (input ++ "." ++ Base64.encode signature) now = .error .invalid := by
  have hsplit : split (input ++ "." ++ Base64.encode signature) '.' = split input '.' ++ [Base64.encode signature] := by
    rw [← singleton_dot, split_append_last input (Base64.notMem_encode (by decide))]
  unfold verifyToken
  rw [hsplit]
  split
  · rename_i header body mac hparts
    obtain ⟨hinput, hmac⟩ := List.append_inj' (hparts.trans (List.append_cons [header] body [mac])) rfl
    have heq : input = header ++ "." ++ body := by rw [← singleton_dot, ← eq_of_split_pair hinput]
    rw [List.cons.injEq] at hmac
    rw [← hmac.1, Base64.decode_encode, ← heq]
    exact if_pos h
  · rfl

/-! ## The result -/

/-- The text that is signed for a token. -/
def signingInput (p : Primitives) (t : AuthToken) (issued : Int) : String :=
  Base64.encode jwtHeader ++ "." ++ Base64.encode (p.marshalToken (signToken p [] t issued).1)

theorem signToken_eq (p : Primitives) (key : List UInt8) (t : AuthToken) (issued : Int) :
    (signToken p key t issued).2 =
      signingInput p t issued ++ "." ++ Base64.encode (p.hmac key (signingInput p t issued)) := rfl

/-- For every key, token with an expiry and times of signing and checking: the signed token verifies to
itself, with its issue time and without the chat channel, before its expiry and is refused as expired from
then on; whatever verifies has three parts, the third the MAC of the first two and the second the JSON of
the token; a token signed with another key is invalid when the MACs differ, and so is the signature under
any other text with another MAC. -/
theorem signed_verifies (hj : JsonLaw p) (key : List UInt8) {t : AuthToken} (ht : t.Fits) (hexp : 0 < t.exp)
    {issued : Int} (hissued : IsInt64 issued) (now : Int) :
    (verifyToken p key (signToken p key t issued).2 now =
      if now < t.exp then
        .ok { t with iat := if t.iat = 0 then issued else t.iat, chanelNameChat := "" }
      else .error .expired) ∧
    (∀ signed token, verifyToken p key signed now = .ok token →
      ∃ header body mac payload, Signs p key signed token header body mac payload) ∧
    (∀ key', p.hmac key (signingInput p t issued) ≠ p.hmac key' (signingInput p t issued) →
      verifyToken p key' (signToken p key t issued).2 now = .error .invalid) ∧
    ∀ input, p.hmac key input ≠ p.hmac key (signingInput p t issued) →
      verifyToken p key (input ++ "." ++ Base64.encode (p.hmac key (signingInput p t issued))) now =
        .error .invalid := by
  refine ⟨?_, fun signed token h => (verifyToken_eq_ok_iff.1 h).1, fun key' hne => ?_, fun input hne => ?_⟩
  · have hsigned : (signToken p key t issued).1 = { t with iat := if t.iat = 0 then issued else t.iat } := by
      unfold signToken
      split <;> rfl
    rw [verifyToken_signToken hj key ht hissued, hsigned]
    by_cases hnow : now < t.exp
    · rw [if_neg (by omega), if_pos hnow]
    · rw [if_pos ⟨hexp, by omega⟩, if_neg hnow]
  · rw [signToken_eq]
    exact verifyToken_wrong_mac (Ne.symm hne) now
  · exact verifyToken_wrong_mac hne now

theorem signed_verifies_sample :
    verifyToken sample sampleKey (signToken sample sampleKey sampleToken 1700000000).2 1700000001 = .ok sampleToken ∧
      verifyToken sample sampleKey (signToken sample sampleKey sampleToken 1700000000).2 1700007200 =
        .error .expired := by
  have hexp : 0 < sampleToken.exp := by decide
  have hfits : sampleToken.Fits := ⟨by decide, by decide, by decide⟩
  have hissued : IsInt64 1700000000 := by decide
  obtain ⟨hbefore, -⟩ := signed_verifies sample_json sampleKey hfits hexp hissued 1700000001
  obtain ⟨hafter, -⟩ := signed_verifies sample_json sampleKey hfits hexp hissued 1700007200
  rw [if_pos (by decide), if_neg (by decide)] at hbefore
  rw [if_neg (by decide)] at hafter
  exact ⟨hbefore, hafter⟩

end NodejsHelper.Auth
