/-
The wire format of the Redis bridge (`redis.go`): a published value tagged by its kind and prefixed
with the id of the node, and the decoding that drops what the node published itself. A node whose
id carries no separator recognises its own messages, and any other node delivers them.
-/
import NodejsHelper.Lib.JsonText

namespace NodejsHelper

open Strings

/-! ## Instance ids -/

/-- `hex.EncodeToString`. -/
def hexEncodeToString (buf : List UInt8) : String :=
  String.ofList (buf.flatMap fun b => [Nat.digitChar (b.toNat / 16), Nat.digitChar (b.toNat % 16)])

/-- `defaultInstanceID` without a configured id: eight random bytes in hex. -/
def defaultInstanceID (buf : Fin 8 → UInt8) : String := hexEncodeToString (List.ofFn buf)

/-- The type tag `o:` or `s:` of a message. -/
def hasTag (l : List Char) : Bool := ['o', ':'].isPrefixOf l || ['s', ':'].isPrefixOf l

/-- An id that a receiving node can tell from the rest of a message. -/
structure PlainID (id : String) : Prop where
  nonempty : id ≠ ""
  no_slash : '/' ∉ id.toList
  no_tag : ∀ rest, hasTag (id.toList ++ '/' :: rest) = false

/-! ## Encoding and decoding -/

/-- `encodeForRedis`; the trimmed text of a value is its rendering. -/
def encodeForRedis (instanceID : String) (data : Option Json) : String :=
  instanceID ++ match data with
    | none => "/s:"
    | some (.str s) => "/s:" ++ s
    | some (.obj members) => "/o:" ++ Json.render (.obj members)
    | some (.arr items) => "/o:" ++ Json.render (.arr items)
    | some v => "/s:" ++ Json.render v

/-- `splitRedisPayload`: the sender, empty when there is none, and the tagged message. -/
def splitRedisPayload (raw : String) : String × String :=
  match raw.toList with
  | '/' :: rest => ("", String.ofList rest)
  | l =>
    -- no sender, but a tag: the message of the web application
    if hasTag l then ("", raw)
    else
      match l.dropWhile (· != '/') with
      | '/' :: rest => if hasTag rest then (String.ofList (l.takeWhile (· != '/')), String.ofList rest) else ("", raw)
      | _ => ("", raw)

/-- The text `handleMessage` delivers for a message. The tag is one byte and a colon; the body of an
object is delivered as it is when it is valid JSON, anything else as a string. -/
def handleMessage (instanceID raw : String) : Option String :=
  let (sender, message) := splitRedisPayload raw
  if sender ≠ "" ∧ sender = instanceID then none
  else
    match message.toList with
    | tag :: ':' :: body =>
      -- `message[0]` is a byte, and the colon has to be the second one
      if 128 ≤ tag.toNat then none
      else if tag = 'o' ∧ (Json.parse (String.ofList body)).isSome then some (String.ofList body)
      else some (Json.render (.str (String.ofList body)))
    | _ => none

/-! ## Ids -/

theorem mem_hexEncodeToString {buf : List UInt8} {c : Char} (h : c ∈ (hexEncodeToString buf).toList) :
    ∃ d < 16, c = Nat.digitChar d := by
  simp only [hexEncodeToString, String.toList_ofList, List.mem_flatMap, List.mem_cons, List.not_mem_nil, or_false] at h
  obtain ⟨b, -, rfl | rfl⟩ := h
  · exact ⟨_, by have := b.toNat_lt; omega, rfl⟩
  · exact ⟨_, by omega, rfl⟩

theorem hexDigit_plain : ∀ d < 16, Nat.digitChar d ≠ '/' ∧ Nat.digitChar d ≠ 'o' ∧ Nat.digitChar d ≠ 's' := by decide

/-- A default id is plain. -/
theorem plainID_default (buf : Fin 8 → UInt8) : PlainID (defaultInstanceID buf) := by
  have hmem : ∀ c ∈ (defaultInstanceID buf).toList, c ≠ '/' ∧ c ≠ 'o' ∧ c ≠ 's' := by
    intro c hc
    obtain ⟨d, hd, rfl⟩ := mem_hexEncodeToString hc
    exact hexDigit_plain d hd
  have hcons : ∃ c l, (defaultInstanceID buf).toList = c :: l := by
    simp [defaultInstanceID, hexEncodeToString, List.ofFn_succ]
  obtain ⟨c, l, hl⟩ := hcons
  rw [hl] at hmem
  refine ⟨?_, ?_, fun rest => ?_⟩
  · intro he
    rw [he] at hl
    cases hl
  · rw [hl]
    exact fun h => (hmem '/' h).1 rfl
  · obtain ⟨-, h2, h3⟩ := hmem c (List.mem_cons_self ..)
    simp [hl, hasTag, List.isPrefixOf, Ne.symm h2, Ne.symm h3]

/-! ## What a node sends and receives -/

/-- The message behind the id carries a tag. -/
theorem encodeForRedis_tagged (instanceID : String) (data : Option Json) :
    ∃ message, hasTag message = true ∧
      (encodeForRedis instanceID data).toList = instanceID.toList ++ '/' :: message := by
  have htag : ∀ t body : List Char, t = ['o', ':'] ∨ t = ['s', ':'] → hasTag (t ++ body) = true := by
    rintro t body (rfl | rfl) <;> rfl
  rcases data with - | v
  · exact ⟨['s', ':'], rfl, by simp [encodeForRedis]⟩
  · cases v with
    | str s => exact ⟨_, htag ['s', ':'] s.toList (Or.inr rfl), by simp [encodeForRedis]⟩
    | obj members =>
      exact ⟨_, htag ['o', ':'] (Json.render (.obj members)).toList (Or.inl rfl), by simp [encodeForRedis]⟩
    | arr items => exact ⟨_, htag ['o', ':'] (Json.render (.arr items)).toList (Or.inl rfl), by simp [encodeForRedis]⟩
    | null => exact ⟨_, htag ['s', ':'] (Json.render .null).toList (Or.inr rfl), by simp [encodeForRedis]⟩
    | bool b => exact ⟨_, htag ['s', ':'] (Json.render (.bool b)).toList (Or.inr rfl), by simp [encodeForRedis]⟩
    | num n => exact ⟨_, htag ['s', ':'] (Json.render (.num n)).toList (Or.inr rfl), by simp [encodeForRedis]⟩

/-- The split of a message a node with a plain id sent. -/
theorem splitRedisPayload_plain {sender raw : String} {message : List Char} (hid : PlainID sender)
    (htag : hasTag message = true) (hraw : raw.toList = sender.toList ++ '/' :: message) :
    splitRedisPayload raw = (sender, String.ofList message) := by
  have hpre : ∀ c ∈ sender.toList, (c != '/') = true := fun c hc => by
    have : c ≠ '/' := fun he => hid.no_slash (he ▸ hc)
    simpa using this
  have hdrop : (sender.toList ++ '/' :: message).dropWhile (· != '/') = '/' :: message := by
    rw [List.dropWhile_append_of_pos hpre]; rfl
  have htake : (sender.toList ++ '/' :: message).takeWhile (· != '/') = sender.toList := by
    rw [List.takeWhile_append_of_pos hpre]; simp
  unfold splitRedisPayload
  rw [hraw]
  split
  · rename_i rest heq
    cases hs : sender.toList with
    | nil => exact absurd (String.toList_eq_nil_iff.1 hs) hid.nonempty
    | cons c l =>
      rw [hs] at heq
      obtain ⟨rfl, -⟩ := List.cons.inj heq
      exact absurd (hs ▸ List.mem_cons_self) hid.no_slash
  · simp only [hid.no_tag message, Bool.false_eq_true, if_false, hdrop, htake, htag, if_true, String.ofList_toList]

/-- A node drops what it published itself. -/
theorem handleMessage_own {id : String} (hid : PlainID id) (data : Option Json) :
    handleMessage id (encodeForRedis id data) = none := by
  obtain ⟨message, htag, hraw⟩ := encodeForRedis_tagged id data
  simp [handleMessage, splitRedisPayload_plain hid htag hraw, hid.nonempty]

/-- What a message with a tag delivers is valid JSON. -/
theorem handleMessage_tagged {id sender raw : String} {message : List Char} (htag : hasTag message = true)
    (hsplit : splitRedisPayload raw = (sender, String.ofList message)) (hne : sender ≠ id) :
    ∃ v, (handleMessage id raw).bind Json.parse = some v := by
  have hbody : ∃ tag body, message = tag :: ':' :: body ∧ tag.toNat < 128 := by
    simp only [hasTag, Bool.or_eq_true, List.isPrefixOf_iff_prefix] at htag
    rcases htag with ⟨body, rfl⟩ | ⟨body, rfl⟩
    · exact ⟨'o', body, rfl, by decide⟩
    · exact ⟨'s', body, rfl, by decide⟩
  obtain ⟨tag, body, rfl, hlt⟩ := hbody
  unfold handleMessage
  rw [hsplit]
  simp only [String.toList_ofList, hne, and_false, if_false, Nat.not_le.2 hlt]
  split
  · rename_i h
    rw [Option.bind_some]
    exact Option.isSome_iff_exists.1 h.2
  · exact ⟨.str (String.ofList body), by rw [Option.bind_some, Json.parse_render_str]⟩

/-- Another node delivers it, as a text that is valid JSON. -/
theorem handleMessage_other {id sender : String} (hid : PlainID sender) (hne : sender ≠ id) (data : Option Json) :
    ∃ v, (handleMessage id (encodeForRedis sender data)).bind Json.parse = some v := by
  obtain ⟨message, htag, hraw⟩ := encodeForRedis_tagged sender data
  exact handleMessage_tagged htag (splitRedisPayload_plain hid htag hraw) hne

end NodejsHelper
