/-
The id a node puts in front of its messages (`config.go`, `redis.go`), at the level of the texts that
travel: a configured id is sanitized but not escaped, and the receiver finds it again by splitting.
The split recovers every id that does not itself begin like a message without one, and a node takes
a message for its own exactly when the two sanitized ids are equal (`echoExact_iff`).
-/
import NodejsHelper.Redis.Wire

namespace NodejsHelper

open Strings

/-! ## Definitions -/

/-- `sanitizeInstanceID`. -/
def sanitizeInstanceID (value : String) : String :=
  String.ofList (value.toList.map fun r => if r = '/' ∨ r = ' ' then '-' else r)

/-- `defaultInstanceID`: the id of a node under the value of `SC_INSTANCE_ID`, empty when there is
none. -/
def instanceIDOf (configured : String) (buf : Fin 8 → UInt8) : String :=
  if configured ≠ "" then sanitizeInstanceID configured else defaultInstanceID buf

/-- The payload of `encodeForRedis` behind its slash: the type tag and the trimmed text of the value,
unquoted when it is a string. -/
def taggedPayload (data : String) : String :=
  match (trimSpace data).toList with
  | '{' :: _ => "o:" ++ trimSpace data
  | '[' :: _ => "o:" ++ trimSpace data
  | '"' :: _ :: _ =>
    match Json.parse (trimSpace data) with
    | some (.str unquoted) => "s:" ++ unquoted
    | _ => "s:" ++ trimSpace data
  | _ => "s:" ++ trimSpace data

/-- `encodeForRedis` on the text of a value, empty when there is none. -/
def encodeRawForRedis (instanceID data : String) : String := instanceID ++ "/" ++ taggedPayload data

/-- Echo suppression between two nodes with configured ids: the first drops the message its `Publish`
puts on Redis, the message splits into exactly its id and its tagged payload, and the second delivers
it. -/
structure EchoExact (id id' data : String) : Prop where
  discarded : handleMessage id (encodeRawForRedis id data) = none
  recovered : splitRedisPayload (encodeRawForRedis id data) = (id, taggedPayload data)
  delivered : (handleMessage id' (encodeRawForRedis id data)).isSome

/-! ## Sanitized ids -/

theorem sanitizeInstanceID_noSlash (value : String) : '/' ∉ (sanitizeInstanceID value).toList := by
  simp only [sanitizeInstanceID, String.toList_ofList, List.mem_map, not_exists, not_and]
  intro r _ h
  split at h
  · cases h
  · rename_i hr
    exact hr (Or.inl h)

theorem sanitizeInstanceID_ne_empty {value : String} (h : value ≠ "") : sanitizeInstanceID value ≠ "" := by
  intro he
  have hl := congrArg String.toList he
  simp only [sanitizeInstanceID, String.toList_ofList, String.toList_empty, List.map_eq_nil_iff] at hl
  exact h (String.toList_eq_nil_iff.1 hl)

/-- No tag begins or ends with what the sanitizing replaces or puts in. -/
theorem hasTag_sanitizeInstanceID (value : String) :
    hasTag (sanitizeInstanceID value).toList = hasTag value.toList := by
  have hmap : ∀ c t : Char, t ∉ ['/', ' ', '-'] → ((t == if c = '/' ∨ c = ' ' then '-' else c) = (t == c)) := by
    intro c t ht
    simp only [List.mem_cons, List.not_mem_nil, or_false, not_or] at ht
    split
    · rename_i hc
      rcases hc with rfl | rfl
      · simp [ht.1, ht.2.2]
      · simp [ht.2.1, ht.2.2]
    · rfl
  simp only [sanitizeInstanceID, String.toList_ofList]
  rcases value.toList with - | ⟨c, - | ⟨d, l⟩⟩
  · rfl
  · simp only [hasTag, List.map_cons, List.map_nil, List.isPrefixOf, Bool.and_false]
  · simp only [hasTag, List.map_cons, List.isPrefixOf, Bool.and_true, hmap c 'o' (by decide), hmap c 's' (by decide),
      hmap d ':' (by decide)]

/-- The slash behind an id completes no tag. -/
theorem hasTag_append_slash {id : List Char} (h : hasTag id = false) (rest : List Char) :
    hasTag (id ++ '/' :: rest) = false := by
  rcases id with - | ⟨c, - | ⟨d, l⟩⟩
  · rfl
  · simp [hasTag, List.isPrefixOf]
  · simpa only [hasTag, List.cons_append, List.isPrefixOf, Bool.and_true] using h

/-- A sanitized id that does not begin like a tag is plain. -/
theorem plainID_sanitizeInstanceID {value : String} (hne : value ≠ "") (htag : hasTag value.toList = false) :
    PlainID (sanitizeInstanceID value) where
  nonempty := sanitizeInstanceID_ne_empty hne
  no_slash := sanitizeInstanceID_noSlash value
  no_tag := hasTag_append_slash ((hasTag_sanitizeInstanceID value).trans htag)

/-! ## Messages -/

theorem taggedPayload_tagged (data : String) : hasTag (taggedPayload data).toList = true := by
  have ho : ∀ s : String, hasTag ("o:" ++ s).toList = true := fun s => by
    rw [String.toList_append]; rfl
  have hs : ∀ s : String, hasTag ("s:" ++ s).toList = true := fun s => by
    rw [String.toList_append]; rfl
  unfold taggedPayload
  split
  · exact ho _
  · exact ho _
  · split
    · exact hs _
    · exact hs _
  · exact hs _

theorem toList_encodeRawForRedis (id data : String) :
    (encodeRawForRedis id data).toList = id.toList ++ '/' :: (taggedPayload data).toList := by
  simp [encodeRawForRedis]

/-- A character of a number literal. -/
def isNumberChar (c : Char) : Bool := c.isDigit || c ∈ ['-', '+', '.', 'e', 'E']

theorem renderItems_last (items : List Json) : ∃ l, Json.renderItems items = l ++ [']'] := by
  induction items with
  | nil => exact ⟨[], rfl⟩
  | cons v items ih =>
    obtain ⟨l, hl⟩ := ih
    cases items with
    | nil => exact ⟨Json.renderValue v, by rw [Json.renderItems]⟩
    | cons w items => exact ⟨Json.renderValue v ++ ',' :: l, by rw [Json.renderItems, hl]; simp⟩

theorem renderMembers_last (members : List (String × Json)) : ∃ l, Json.renderMembers members = l ++ ['}'] := by
  induction members with
  | nil => exact ⟨[], rfl⟩
  | cons m members ih =>
    obtain ⟨l, hl⟩ := ih
    obtain ⟨k, v⟩ := m
    cases members with
    | nil => exact ⟨Json.renderString k ++ ':' :: Json.renderValue v, by simp [Json.renderMembers]⟩
    | cons m members =>
      exact ⟨Json.renderString k ++ ':' :: (Json.renderValue v ++ ',' :: l), by simp [Json.renderMembers, hl]⟩

/-- A text between two characters that are no white space is trimmed already. -/
theorem trimSpace_between {s : String} {c d : Char} {l : List Char} (h : s.toList = c :: (l ++ [d]))
    (hc : isSpace c = false) (hd : isSpace d = false) : trimSpace s = s := by
  refine trimSpace_eq_self (fun _ => ?_) (fun _ => ?_)
  · simpa only [h, List.head_cons] using hc
  · have : s.toList.getLast (by simp [h]) = d := by simp [h]
    rw [this, hd]

theorem isSpace_of_isNumberChar {c : Char} (h : isNumberChar c = true) : isSpace c = false := by
  have hlt : c.toNat < 128 ∧ 33 ≤ c.toNat := by
    simp only [isNumberChar, Bool.or_eq_true, decide_eq_true_eq] at h
    rcases h with h | h
    · simp only [Char.isDigit, Bool.and_eq_true, decide_eq_true_eq] at h
      have h0 := UInt32.le_iff_toNat_le.1 h.1
      have h9 := UInt32.le_iff_toNat_le.1 h.2
      have : c.toNat = c.val.toNat := rfl
      simp at h0 h9
      omega
    · simp only [List.mem_cons, List.not_mem_nil, or_false] at h
      rcases h with rfl | rfl | rfl | rfl | rfl <;> decide
  by_contra hs
  simp only [Bool.not_eq_false, isSpace, Bool.or_eq_true, decide_eq_true_eq, List.mem_cons, List.not_mem_nil, or_false,
    Bool.and_eq_true] at hs
  rcases hs with hs | hs
  · rcases hs with rfl | rfl | rfl | rfl | rfl | rfl | rfl | rfl | rfl | rfl | rfl | rfl | rfl | rfl <;>
      revert hlt <;> decide
  · omega

/-- An object or an array as `Marshal` writes it is tagged as one. -/
theorem taggedPayload_structured {data : String} {first last : Char} {l : List Char}
    (h : data.toList = first :: (l ++ [last]))
    (hfirst : first = '{' ∨ first = '[') (hlast : isSpace last = false) : taggedPayload data = "o:" ++ data := by
  have hspace : isSpace first = false := by rcases hfirst with rfl | rfl <;> decide
  have htrim := trimSpace_between h hspace hlast
  rcases hfirst with rfl | rfl <;> simp [taggedPayload, htrim, h]

/-- Anything else is tagged as it is, unless it begins with a quote. -/
theorem taggedPayload_scalar {data : String} (htrim : trimSpace data = data)
    (hfirst : ∀ c l, data.toList = c :: l → c ≠ '{' ∧ c ≠ '[' ∧ c ≠ '"') : taggedPayload data = "s:" ++ data := by
  unfold taggedPayload
  rw [htrim]
  split
  · rename_i h; exact absurd rfl (hfirst _ _ h).1
  · rename_i h; exact absurd rfl (hfirst _ _ h).2.1
  · rename_i h; exact absurd rfl (hfirst _ _ h).2.2
  · rfl

/-- A number is tagged as it is. -/
theorem taggedPayload_num {literal : String} (h : ∀ c ∈ literal.toList, isNumberChar c = true) :
    taggedPayload literal = "s:" ++ literal := by
  have htrim : trimSpace literal = literal :=
    trimSpace_eq_self (fun _ => isSpace_of_isNumberChar (h _ (List.head_mem _)))
      (fun _ => isSpace_of_isNumberChar (h _ (List.getLast_mem _)))
  refine taggedPayload_scalar htrim fun c l hl => ?_
  have hc := h c (by rw [hl]; exact List.mem_cons_self ..)
  refine ⟨?_, ?_, ?_⟩ <;> rintro rfl <;> exact absurd hc (by decide)

/-- On a value as `Marshal` writes it, the encoding of the text is that of the value. -/
theorem encodeRawForRedis_render (id : String) (v : Json)
    (hnum : ∀ literal, v = .num literal → ∀ c ∈ literal.toList, isNumberChar c = true) :
    encodeRawForRedis id (Json.render v) = encodeForRedis id (some v) := by
  have hpayload : ∀ tagged, taggedPayload (Json.render v) = tagged →
      encodeRawForRedis id (Json.render v) = id ++ ("/" ++ tagged) := by
    rintro tagged rfl
    rw [encodeRawForRedis, String.append_assoc]
  have htext : (Json.render v).toList = Json.renderValue v := by rw [Json.render, String.toList_ofList]
  cases v with
  | obj members =>
    obtain ⟨l, hl⟩ := renderMembers_last members
    have htext' : (Json.render (.obj members)).toList = '{' :: (l ++ ['}']) := by rw [htext, Json.renderValue, hl]
    rw [hpayload _ (taggedPayload_structured htext' (Or.inl rfl) (by decide))]
    simp [encodeForRedis, ← String.append_assoc]
  | arr items =>
    obtain ⟨l, hl⟩ := renderItems_last items
    have htext' : (Json.render (.arr items)).toList = '[' :: (l ++ [']']) := by rw [htext, Json.renderValue, hl]
    rw [hpayload _ (taggedPayload_structured htext' (Or.inr rfl) (by decide))]
    simp [encodeForRedis, ← String.append_assoc]
  | str s =>
    -- the text is quoted, and the tag carries the string behind the quotes
    have htext' : (Json.render (.str s)).toList = '"' :: (s.toList.flatMap Json.escapeChar ++ ['"']) := by
      rw [htext, Json.renderValue, Json.renderString]
    have htrim := trimSpace_between htext' (by decide) (by decide)
    have hcons : ∃ c l, s.toList.flatMap Json.escapeChar ++ ['"'] = c :: l := by
      cases s.toList.flatMap Json.escapeChar with
      | nil => exact ⟨_, _, rfl⟩
      | cons c l => exact ⟨_, _, rfl⟩
    obtain ⟨c, l, hl⟩ := hcons
    rw [hl] at htext'
    rw [hpayload ("s:" ++ s) (by simp [taggedPayload, htrim, htext'])]
    simp [encodeForRedis, ← String.append_assoc]
  | null =>
    rw [hpayload "s:null" (by decide +kernel)]
    simp [encodeForRedis, Json.render, Json.renderValue]
  | bool b =>
    cases b
    · rw [hpayload "s:false" (by decide +kernel)]
      simp [encodeForRedis, Json.render, Json.renderValue]
    · rw [hpayload "s:true" (by decide +kernel)]
      simp [encodeForRedis, Json.render, Json.renderValue]
  | num literal =>
    have hrender : Json.render (.num literal) = literal := by simp [Json.render, Json.renderValue]
    rw [hpayload ("s:" ++ literal) (by rw [hrender, taggedPayload_num (hnum literal rfl)])]
    simp [encodeForRedis, hrender, ← String.append_assoc]

/-- The split of a message under a plain id. -/
theorem splitRedisPayload_encodeRaw {id : String} (hid : PlainID id) (data : String) :
    splitRedisPayload (encodeRawForRedis id data) = (id, taggedPayload data) := by
  rw [splitRedisPayload_plain hid (taggedPayload_tagged data) (toList_encodeRawForRedis id data), String.ofList_toList]

/-- A message that begins with a tag has no sender. -/
theorem splitRedisPayload_tag {id : String} (htag : hasTag id.toList = true) (data : String) :
    (splitRedisPayload (encodeRawForRedis id data)).1 = "" := by
  have hraw := toList_encodeRawForRedis id data
  have hcons : ∃ c d l, id.toList = c :: d :: l ∧ c ≠ '/' := by
    simp only [hasTag, Bool.or_eq_true, List.isPrefixOf_iff_prefix] at htag
    rcases htag with ⟨l, hl⟩ | ⟨l, hl⟩
    · exact ⟨'o', ':', l, hl.symm, by decide⟩
    · exact ⟨'s', ':', l, hl.symm, by decide⟩
  obtain ⟨c, d, l, hl, hc⟩ := hcons
  rw [hl] at htag
  rw [hl, List.cons_append, List.cons_append] at hraw
  have hraw' : hasTag (c :: d :: (l ++ '/' :: (taggedPayload data).toList)) = true := by
    simpa only [hasTag, List.isPrefixOf, Bool.and_true] using htag
  unfold splitRedisPayload
  rw [hraw]
  split
  · rename_i h
    exact absurd (List.cons.inj h).1 hc
  · simp only [hraw', if_true]

/-- Echo suppression between two nodes is exact if and only if their ids differ after sanitizing and
the id of the sender does not begin with a type tag. -/
theorem echoExact_iff {env env' : String} (buf buf' : Fin 8 → UInt8) (hne : env ≠ "") (hne' : env' ≠ "")
    (data : String) :
    EchoExact (instanceIDOf env buf) (instanceIDOf env' buf') data ↔
      hasTag env.toList = false ∧ sanitizeInstanceID env ≠ sanitizeInstanceID env' := by
  have hempty := sanitizeInstanceID_ne_empty hne
  simp only [instanceIDOf, if_pos hne, if_pos hne']
  constructor
  · intro h
    constructor
    · by_contra htag
      rw [Bool.not_eq_false] at htag
      have := splitRedisPayload_tag ((hasTag_sanitizeInstanceID env).trans htag) data
      rw [h.recovered] at this
      exact hempty this
    · intro heq
      have := h.delivered
      rw [← heq, h.discarded] at this
      cases this
  · rintro ⟨htag, hdiff⟩
    have hid := plainID_sanitizeInstanceID hne htag
    have hsplit := splitRedisPayload_encodeRaw hid data
    refine ⟨?_, hsplit, ?_⟩
    · simp [handleMessage, hsplit, hempty]
    · have hsplit' : splitRedisPayload (encodeRawForRedis (sanitizeInstanceID env) data) =
          (sanitizeInstanceID env, String.ofList (taggedPayload data).toList) := by rw [hsplit, String.ofList_toList]
      obtain ⟨v, hv⟩ := handleMessage_tagged (taggedPayload_tagged data) hsplit' hdiff
      obtain ⟨text, ht, -⟩ := Option.bind_eq_some_iff.1 hv
      rw [ht]
      rfl

/-- Two nodes with ids of their own. -/
theorem echoExact_iff_sample :
    EchoExact (instanceIDOf "node 1" fun _ => 0) (instanceIDOf "node/2" fun _ => 0) "\"o:/\"" :=
  (echoExact_iff (fun _ => 0) (fun _ => 0) (by decide) (by decide) _).2 ⟨by decide, by decide⟩

/-- Two values of `SC_INSTANCE_ID`, one with a space where the other has a hyphen: the second node takes
what the first publishes for its own. -/
theorem echoExact_collision :
    "node 1" ≠ "node-1" ∧
      ¬ EchoExact (instanceIDOf "node 1" fun _ => 0) (instanceIDOf "node-1" fun _ => 0) "\"hi\"" := by
  refine ⟨by decide, fun h => absurd h.delivered ?_⟩
  decide +kernel

end NodejsHelper
