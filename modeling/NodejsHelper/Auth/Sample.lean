/-
An instance of the primitives behind the credentials. On the login of one chat, from the pre-image
of its hash to the signature of its token, it answers what SHA-1, HMAC-SHA256 and `encoding/json`
answer; everywhere else it is any injective function, so that the laws hold.
-/
import NodejsHelper.Auth.Token
import Mathlib.Logic.Equiv.List

namespace NodejsHelper.Auth

open Strings

/-! ## Encodings of strings and tokens as numbers -/

instance encodableChar : Encodable Char :=
  Encodable.ofLeftInverse Char.toNat Char.ofNat fun c => c.ofNat_toNat

instance encodableString : Encodable String :=
  Encodable.ofLeftInverse String.toList String.ofList fun _ => String.ofList_toList

instance encodableAuthToken : Encodable AuthToken :=
  Encodable.ofLeftInverse
    (fun t => ((t.token, t.exp, t.iat, t.chanelName), (t.instanceID, t.isChatToken, t.isVisitor, t.chanelNameChat)))
    (fun x => ⟨x.1.1, x.1.2.1, x.1.2.2.1, x.1.2.2.2, x.2.1, x.2.2.1, x.2.2.2.1, x.2.2.2.2⟩) fun _ => rfl

/-! ## The login of a chat -/

/-- What `tokenvisitor` hashes for chat 55 at its date, under the secret `secret`. -/
def samplePreimage : String := "1700000000Visitorsecret_55"

def sampleDigest : String := "8b8dd24585fec659b203e33ecbd2f90ebfeb8826"

/-- The token an accepted login with the hash mints on `chat_55`, in the second of the hash. -/
def sampleToken : AuthToken :=
  { token := sampleDigest ++ ".1700000000", exp := 1700007200, iat := 1700000000, chanelName := "chat_55",
    instanceID := 0, isChatToken := true, isVisitor := true, chanelNameChat := "" }

/-- Its JSON text. -/
def samplePayload : List UInt8 :=
  ("\x7b\"token\":\"8b8dd24585fec659b203e33ecbd2f90ebfeb8826.1700000000\",\"exp\":1700007200,\"iat\":1700000000," ++
    "\"chanelName\":\"chat_55\",\"instance_id\":0,\"isChatToken\":true,\"isVisitor\":true\x7d").toUTF8.data.toList

def sampleKey : List UInt8 := "key".toUTF8.data.toList

/-- What `signToken` signs for the token. -/
def sampleSigningInput : String :=
  "eyJhbGciOiJIUzI1NiIsInR5cCI6IkpXVCJ9." ++
    "eyJ0b2tlbiI6IjhiOGRkMjQ1ODVmZWM2NTliMjAzZTMzZWNiZDJmOTBlYmZlYjg4MjYuMTcwMDAwMDAwMCIsImV4cCI6MTcwMDAwNzIwMCw" ++
    "iaWF0IjoxNzAwMDAwMDAwLCJjaGFuZWxOYW1lIjoiY2hhdF81NSIsImluc3RhbmNlX2lkIjowLCJpc0NoYXRUb2tlbiI6dHJ1ZSwiaXNWaXN" ++
    "pdG9yIjp0cnVlfQ"

def sampleSignature : List UInt8 :=
  [227, 230, 52, 143, 24, 94, 20, 251, 157, 218, 12, 167, 159, 116, 135, 15, 160, 154, 106, 118, 251, 85, 103, 109,
    48, 186, 210, 136, 241, 86, 241, 97]

/-- The primitives: real on the login above, injective elsewhere. -/
def sample : Primitives where
  sha1Hex s := if s = samplePreimage then sampleDigest else String.ofList (List.replicate (Encodable.encode s) '0')
  hmac key s := if key = sampleKey ∧ s = sampleSigningInput then sampleSignature else []
  marshalToken t :=
    if { t with chanelNameChat := "" } = sampleToken then samplePayload
    else List.replicate (Encodable.encode { t with chanelNameChat := "" }) 0
  unmarshalToken payload :=
    if payload = samplePayload then some sampleToken
    else (Encodable.decode payload.length).map fun t : AuthToken => { t with chanelNameChat := "" }
  unmarshal_runtime payload t h := by
    split at h
    · cases h; rfl
    · obtain ⟨t', -, rfl⟩ := Option.map_eq_some_iff.1 h
      rfl

/-! ## The laws -/

theorem replicate_ne_of_mem {α : Type*} {a b : α} {l : List α} (hb : b ∈ l) (hne : b ≠ a) (n : Nat) :
    List.replicate n a ≠ l := by
  rintro rfl
  exact hne (List.eq_of_mem_replicate hb)

theorem sample_sha1 : Sha1Laws sample := by
  constructor
  · intro a b h
    have hfar : ∀ s : String, String.ofList (List.replicate (Encodable.encode s) '0') ≠ sampleDigest := by
      intro s he
      have he' := congrArg String.toList he
      rw [String.toList_ofList] at he'
      exact replicate_ne_of_mem (b := '8') (by decide) (by decide) _ he'
    simp only [sample] at h
    split at h <;> split at h
    · rename_i ha hb; rw [ha, hb]
    · exact absurd h.symm (hfar b)
    · exact absurd h (hfar a)
    · have h' := congrArg (List.length ∘ String.toList) h
      simp only [Function.comp_apply, String.toList_ofList, List.length_replicate] at h'
      exact Encodable.encode_injective h'
  · intro s c hc
    simp only [sample] at hc
    split at hc
    · have hall : sampleDigest.toList.all (fun c => decide (c ∈ "0123456789abcdef".toList)) = true := by decide
      simpa using List.all_eq_true.1 hall c hc
    · rw [String.toList_ofList] at hc
      rw [List.eq_of_mem_replicate hc]; decide

theorem sample_json : JsonLaw sample := by
  intro t _
  simp only [sample]
  split
  · rename_i h
    rw [if_pos rfl, h]
  · have hfar : List.replicate (Encodable.encode { t with chanelNameChat := "" }) (0 : UInt8) ≠ samplePayload :=
      replicate_ne_of_mem (b := 123) (by decide) (by decide) _
    rw [if_neg hfar, List.length_replicate, Encodable.encodek]
    rfl

end NodejsHelper.Auth
