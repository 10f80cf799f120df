/-
The credentials of a socket (`auth.go`): the token record, the `login` hash and its check, and the
signed token (JWT) a browser stores and sends back. SHA-1, HMAC-SHA256 and the JSON codec of the
token record are parameters (`Primitives`); what the code relies on about them is stated where it
is used (`Sha1Laws`, `JsonLaw`). The hashes `tokenvisitor.php` and `tokenadmin.php` mint stand
beside the check that reads them.
-/
import NodejsHelper.Lib.Strings
import NodejsHelper.Lib.Base64

namespace NodejsHelper.Auth

open Strings

/-! ## Tokens -/

/-- The payload of a login, kept in the socket and embedded in the signed token; `chanelNameChat`
is runtime only and never part of the signed token. -/
structure AuthToken where
  token : String
  exp : Int
  iat : Int
  chanelName : String
  instanceID : Int
  isChatToken : Bool
  isVisitor : Bool
  chanelNameChat : String
  deriving DecidableEq, Repr

/-- The library functions behind the credentials: SHA-1 in lower-case hex, HMAC-SHA256 under a key,
and `encoding/json` on the token record, which never sets the field its tag leaves out. -/
structure Primitives where
  sha1Hex : String → String
  hmac : List UInt8 → String → List UInt8
  marshalToken : AuthToken → List UInt8
  unmarshalToken : List UInt8 → Option AuthToken
  unmarshal_runtime : ∀ payload t, unmarshalToken payload = some t → t.chanelNameChat = ""

/-- SHA-1 taken as collision free, its digests in lower-case hex. -/
structure Sha1Laws (p : Primitives) : Prop where
  injective : Function.Injective p.sha1Hex
  hex : ∀ s, ∀ c ∈ (p.sha1Hex s).toList, c ∈ "0123456789abcdef".toList

theorem Sha1Laws.no_dot {p : Primitives} (hp : Sha1Laws p) (s : String) : '.' ∉ (p.sha1Hex s).toList :=
  fun h => absurd (hp.hex s '.' h) (by decide)

/-- The numbers of a token are those of the record's `int64` and `int` fields. -/
structure AuthToken.Fits (t : AuthToken) : Prop where
  exp : IsInt64 t.exp
  iat : IsInt64 t.iat
  instanceID : IsInt64 t.instanceID

/-- `encoding/json` decodes what it encodes; the runtime-only field is left out. -/
def JsonLaw (p : Primitives) : Prop :=
  ∀ t : AuthToken, t.Fits → p.unmarshalToken (p.marshalToken t) = some { t with chanelNameChat := "" }

/-- Why a signed token is refused (`errTokenInvalid`, `errTokenExpired`). -/
inductive TokenError
  | invalid
  | expired
  deriving DecidableEq, Repr

/-- The text of the error. -/
def TokenError.message : TokenError → String
  | invalid => "invalid token signature"
  | expired => "token expired"

/-- `tokenErrorName`: the name sc-errors gives to the failure. -/
def tokenErrorName : TokenError → String
  | .invalid => "AuthTokenInvalidError"
  | .expired => "AuthTokenExpiredError"

variable (p : Primitives)

/-! ## The login hash -/

/-- The hash a visitor has to present for a channel name: it covers the last segment of a chat
channel's name, and no name at all otherwise. -/
def visitorHash (ts secretHash chanelName : String) : String :=
  if contains chanelName "chat_" then
    p.sha1Hex (ts ++ "Visitor" ++ secretHash ++ "_" ++ lastPart chanelName '_')
  else p.sha1Hex (ts ++ "Visitor" ++ secretHash)

/-- The hash an operator has to present. -/
def operatorHash (ts secretHash : String) : String := p.sha1Hex (ts ++ "Operator" ++ secretHash)

/-- `validateLoginToken`: `(isVisitor, isChatToken)` of an accepted hash. -/
def validateLoginToken (hash chanelName secretHash : String) (now : Int) : Option (Bool × Bool) :=
  match split hash '.' with
  | h :: part :: _ =>
    match parseInt64 part with
    | none => none
    | some ts =>
      if ts ≤ now - 60 * 60 then none
      else if h = visitorHash p part secretHash chanelName then some (true, contains chanelName "chat_")
      else if h = operatorHash p part secretHash then some (false, contains chanelName "chat_")
      else none
  | _ => none

/-- `lastTokenPart`: the `vid` of the presence messages. -/
def lastTokenPart (chanelName : String) : String := lastPart chanelName '_'

/-- The hash `tokenvisitor.php` answers at the time `date`, with the id of a chat or without one. -/
def tokenvisitor (secrethash : String) (chatId : Option String) (date : Nat) : String :=
  match chatId with
  | some id => p.sha1Hex (date.repr ++ "Visitor" ++ secrethash ++ "_" ++ id) ++ "." ++ date.repr
  | none => p.sha1Hex (date.repr ++ "Visitor" ++ secrethash) ++ "." ++ date.repr

/-- The hash `tokenadmin.php` answers at the time `date`. -/
def tokenadmin (secrethash : String) (date : Nat) : String :=
  p.sha1Hex (date.repr ++ "Operator" ++ secrethash) ++ "." ++ date.repr

/-! ## Signed tokens -/

/-- The encoded JWT header. -/
def jwtHeader : List UInt8 := "\x7b\"alg\":\"HS256\",\"typ\":\"JWT\"\x7d".toUTF8.data.toList

/-- `signToken`: the token with its issue time filled in, and its signed form. -/
def signToken (key : List UInt8) (t : AuthToken) (now : Int) : AuthToken × String :=
  let t := if t.iat = 0 then { t with iat := now } else t
  let signingInput := Base64.encode jwtHeader ++ "." ++ Base64.encode (p.marshalToken t)
  (t, signingInput ++ "." ++ Base64.encode (p.hmac key signingInput))

/-- `verifyToken`: the payload of a token signed under `key` that has not expired at `now`. -/
def verifyToken (key : List UInt8) (signed : String) (now : Int) : Except TokenError AuthToken :=
  match split signed '.' with
  | [header, body, mac] =>
    match Base64.decode mac with
    | none => .error .invalid
    | some signature =>
      if p.hmac key (header ++ "." ++ body) ≠ signature then .error .invalid
      else
        match Base64.decode body with
        | none => .error .invalid
        | some payload =>
          match p.unmarshalToken payload with
          | none => .error .invalid
          | some token => if 0 < token.exp ∧ token.exp ≤ now then .error .expired else .ok token
  | _ => .error .invalid

/-! ## What the login check accepts -/

variable {p}

/-- What an accepted hash looks like: its first part is the visitor hash of the channel name under
the timestamp in its second part, or else the operator hash; the timestamp is less than an hour old. -/
theorem validateLoginToken_some {hash chanelName secretHash : String} {now : Int} {v c : Bool}
    (h : validateLoginToken p hash chanelName secretHash now = some (v, c)) :
    ∃ head part rest ts, split hash '.' = head :: part :: rest ∧ parseInt64 part = some ts ∧
      now - 60 * 60 < ts ∧ c = contains chanelName "chat_" ∧
      (v = true ∧ head = visitorHash p part secretHash chanelName ∨
        v = false ∧ head = operatorHash p part secretHash) := by
  unfold validateLoginToken at h
  split at h
  · rename_i head part rest hs
    split at h
    · cases h
    · rename_i ts hts
      split at h
      · cases h
      · rename_i hle
        refine ⟨head, part, rest, ts, hs, hts, by omega, ?_⟩
        split at h
        · rename_i hv
          cases h
          exact ⟨rfl, Or.inl ⟨rfl, hv⟩⟩
        · split at h
          · rename_i ho
            cases h
            exact ⟨rfl, Or.inr ⟨rfl, ho⟩⟩
          · cases h
  · cases h

theorem singleton_dot : String.singleton '.' = "." := rfl
theorem singleton_underscore : String.singleton '_' = "_" := rfl

/-- Texts that put different role words after the same date are different. -/
theorem visitor_ne_operator (ts a b : String) : ts ++ "Visitor" ++ a ≠ ts ++ "Operator" ++ b := by
  intro h
  have h' := congrArg String.toList h
  simp only [String.toList_append, List.append_assoc] at h'
  have := List.append_cancel_left h'
  simp at this

/-! ## What the token check accepts -/

/-- A verified token is the payload of the signed text, and no longer than until its expiry. -/
theorem verifyToken_ok {key : List UInt8} {signed : String} {now : Int} {t : AuthToken}
    (h : verifyToken p key signed now = .ok t) :
    (∃ payload, p.unmarshalToken payload = some t) ∧ ¬ (0 < t.exp ∧ t.exp ≤ now) := by
  unfold verifyToken at h
  split at h
  · split at h
    · cases h
    · split at h
      · cases h
      · split at h
        · cases h
        · rename_i payload _
          split at h
          · cases h
          · rename_i token htoken
            split at h
            · cases h
            · rename_i hexp
              cases h
              exact ⟨⟨payload, htoken⟩, hexp⟩
  · cases h

/-- A verified token with an expiry has not reached it. -/
theorem verifyToken_exp {key : List UInt8} {signed : String} {now : Int} {t : AuthToken}
    (h : verifyToken p key signed now = .ok t) (h0 : 0 < t.exp) : now < t.exp := by
  by_contra hle
  exact (verifyToken_ok h).2 ⟨h0, by omega⟩

/-- A verified token names no chat channel yet. -/
theorem verifyToken_runtime {key : List UInt8} {signed : String} {now : Int} {t : AuthToken}
    (h : verifyToken p key signed now = .ok t) : t.chanelNameChat = "" := by
  obtain ⟨payload, hp⟩ := (verifyToken_ok h).1
  exact p.unmarshal_runtime payload t hp

/-- A signed token verifies under its key, before its expiry, to the token that was signed. -/
theorem verifyToken_signToken (hj : JsonLaw p) (key : List UInt8) {t : AuthToken} (ht : t.Fits) {issued : Int}
    (hissued : IsInt64 issued) (now : Int) :
    verifyToken p key (signToken p key t issued).2 now =
      if 0 < t.exp ∧ t.exp ≤ now then .error .expired
      else .ok { (signToken p key t issued).1 with chanelNameChat := "" } := by
  have hdot : ∀ bytes, '.' ∉ (Base64.encode bytes).toList := fun bytes => Base64.notMem_encode (by decide)
  have hsplit : ∀ a b c, split (Base64.encode a ++ "." ++ Base64.encode b ++ "." ++ Base64.encode c) '.' =
      [Base64.encode a, Base64.encode b, Base64.encode c] := by
    intro a b c
    have hassoc : Base64.encode a ++ "." ++ Base64.encode b ++ "." ++ Base64.encode c =
        Base64.encode a ++ "." ++ (Base64.encode b ++ "." ++ Base64.encode c) := by
      simp only [String.append_assoc]
    rw [hassoc, ← singleton_dot, split_append_sep (hdot a), split_append_sep (hdot b), split_of_notMem (hdot c)]
  have hexp : (if t.iat = 0 then { t with iat := issued } else t : AuthToken).exp = t.exp := by split <;> rfl
  have hfits : (if t.iat = 0 then { t with iat := issued } else t : AuthToken).Fits := by
    split
    · exact ⟨ht.exp, hissued, ht.instanceID⟩
    · exact ht
  unfold verifyToken signToken
  simp only [hsplit, Base64.decode_encode, hj _ hfits, ne_eq, not_true_eq_false, if_false, hexp]

end NodejsHelper.Auth
