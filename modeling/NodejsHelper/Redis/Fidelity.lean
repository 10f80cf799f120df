/-
What a subscriber gets of a published value: on the node itself `encodePublish` puts the raw JSON into
the packet, another node puts in what `encodeForRedis` and `handleMessage` make of it. Objects, arrays
and strings arrive as they are; the format of sc-redis keeps no other scalar apart from the string of
its text (`publish_fidelity`).
-/
import NodejsHelper.Redis.Identity

namespace NodejsHelper

open Strings

/-! ## Packets -/

/-- A `json.RawMessage` as `Unmarshal` and `Marshal` fill it: the text of one value, with no white space
around it. -/
structure RawMessage where
  text : String
  value : Json
  parses : Json.parse text = some value
  trimmed : trimSpace text = text

/-- An `outPublishEvent`. -/
def publishPacket (channel : String) (data : Json) : Json :=
  .obj [("event", .str "#publish"), ("data", .obj [("channel", .str channel), ("data", data)])]

/-- `encodePublish` on the text of the data, absent for nil; there is no packet when `Marshal` finds the
text invalid. -/
def encodePublish (channel : String) (data : Option String) : Option Json :=
  (Json.parse (data.getD "null")).map (publishPacket channel)

/-- The packet of the local subscribers. -/
def localPacket (channel : String) (data : Option RawMessage) : Option Json :=
  encodePublish channel (data.map RawMessage.text)

/-- The packet of the subscribers on the node `id'`, of what the node `id` puts on Redis. -/
def remotePacket (id id' channel : String) (data : Option RawMessage) : Option Json :=
  (handleMessage id' (encodeRawForRedis id ((data.map RawMessage.text).getD ""))).bind fun text =>
    encodePublish channel (some text)

/-- The value in the local packet. -/
def localValue : Option RawMessage → Json
  | none => .null
  | some data => data.value

/-- The value in the remote packet: a scalar other than a string is the string of its text, and absent
data the empty string. -/
def remoteValue : Option RawMessage → Json
  | none => .str ""
  | some data =>
    match data.value with
    | .obj members => .obj members
    | .arr items => .arr items
    | .str s => .str s
    | .null | .bool _ | .num _ => .str data.text

/-- The data is an object, an array or a string. -/
def Tagged : Option RawMessage → Bool
  | none => false
  | some data =>
    match data.value with
    | .obj _ | .arr _ | .str _ => true
    | .null | .bool _ | .num _ => false

/-! ## Texts -/

theorem head_of_trimmed {s : String} (h : trimSpace s = s) {c : Char} {l : List Char} (hs : s.toList = c :: l) :
    isSpace c = false := by
  by_contra hc
  rw [Bool.not_eq_false] at hc
  have hlen := congrArg (fun s => s.toList.length) h
  simp only [trimSpace, String.toList_ofList, hs, List.dropWhile_cons_of_pos hc, List.length_cons] at hlen
  have h1 := (List.rdropWhile_prefix isSpace (l := l.dropWhile isSpace)).length_le
  have h2 := (List.dropWhile_suffix isSpace (l := l)).length_le
  omega

/-- A trimmed text has no JSON white space in front. -/
theorem skipSpace_of_trimmed {s : String} (h : trimSpace s = s) : Json.skipSpace s.toList = s.toList := by
  cases hs : s.toList with
  | nil => rfl
  | cons c l =>
    have hc := head_of_trimmed h hs
    refine List.dropWhile_cons_of_neg ?_
    simp only [Bool.or_eq_true, decide_eq_true_eq]
    rintro (((rfl | rfl) | rfl) | rfl) <;> exact absurd hc (by decide)

/-- How the text of a value begins. -/
def Begins (l : List Char) : Json → Prop
  | .obj _ => ∃ t, l = '{' :: t
  | .arr _ => ∃ t, l = '[' :: t
  | .str _ => ∃ c t, l = '"' :: c :: t
  | .null | .bool _ | .num _ => ∀ c t, l = c :: t → c ≠ '{' ∧ c ≠ '[' ∧ c ≠ '"'

theorem parseValue_begins {fuel : ℕ} {l rest : List Char} {v : Json} (hl : Json.skipSpace l = l)
    (h : Json.parseValue (fuel + 1) l = some (v, rest)) : Begins l v := by
  rw [Json.parseValue, hl] at h
  split at h
  · rename_i t
    obtain ⟨r, hr, he⟩ := Option.map_eq_some_iff.1 h
    cases he
    cases t with
    | nil => simp [Json.parseString, Json.parseUnits] at hr
    | cons c t => exact ⟨c, t, rfl⟩
  · split at h
    · cases h; exact ⟨_, rfl⟩
    · obtain ⟨r, -, he⟩ := Option.map_eq_some_iff.1 h
      cases he
      exact ⟨_, rfl⟩
  · split at h
    · cases h; exact ⟨_, rfl⟩
    · obtain ⟨r, -, he⟩ := Option.map_eq_some_iff.1 h
      cases he
      exact ⟨_, rfl⟩
  · cases h
    rintro c t he
    cases he
    decide
  · cases h
    rintro c t he
    cases he
    decide
  · cases h
    rintro c t he
    cases he
    decide
  · rename_i h1 h2 h3 _ _ _
    obtain ⟨r, -, he⟩ := Option.map_eq_some_iff.1 h
    cases he
    rintro c t rfl
    refine ⟨?_, ?_, ?_⟩
    · rintro rfl; exact h3 t rfl
    · rintro rfl; exact h2 t rfl
    · rintro rfl; exact h1 t rfl

theorem RawMessage.begins (data : RawMessage) : Begins data.text.toList data.value := by
  have h := (Json.parse_eq_some.1 data.parses).1
  unfold Json.read at h
  split at h
  · rename_i v rest hv
    have hvalue : v = data.value := by
      split at h
      · exact Option.some.inj h
      · cases h
    rw [← hvalue]
    exact parseValue_begins (skipSpace_of_trimmed data.trimmed) hv
  · cases h

/-! ## Messages -/

/-- The payload of a value: the text of an object or array, the characters of a string, the text of any other scalar. -/
theorem taggedPayload_rawMessage (data : RawMessage) :
    taggedPayload data.text =
      match data.value with
      | .obj _ | .arr _ => "o:" ++ data.text
      | .str s => "s:" ++ s
      | .null | .bool _ | .num _ => "s:" ++ data.text := by
  have hhead := data.begins
  have hparse := data.parses
  cases hv : data.value with
  | obj members =>
    rw [hv] at hhead
    obtain ⟨t, ht⟩ := hhead
    simp [taggedPayload, data.trimmed, ht]
  | arr items =>
    rw [hv] at hhead
    obtain ⟨t, ht⟩ := hhead
    simp [taggedPayload, data.trimmed, ht]
  | str s =>
    rw [hv] at hhead hparse
    obtain ⟨c, t, ht⟩ := hhead
    simp [taggedPayload, data.trimmed, ht, hparse]
  | null | bool b | num literal =>
    rw [hv] at hhead
    exact taggedPayload_scalar data.trimmed hhead

/-- A message splits into its sender and its payload, also when the sender has no id. -/
theorem splitRedisPayload_sender {id : String} (hslash : '/' ∉ id.toList) (htag : hasTag id.toList = false)
    (data : String) :
    splitRedisPayload (encodeRawForRedis id data) = (id, taggedPayload data) := by
  by_cases hne : id = ""
  · subst hne
    unfold splitRedisPayload
    rw [toList_encodeRawForRedis]
    simp
  · exact splitRedisPayload_encodeRaw ⟨hne, hslash, hasTag_append_slash htag⟩ data

/-- What another node delivers for a payload. -/
theorem handleMessage_payload {id id' : String} (hslash : '/' ∉ id.toList) (htag : hasTag id.toList = false)
    (hne : id' ≠ id)
    (data : String) :
    (∀ body, taggedPayload data = "s:" ++ body →
      handleMessage id' (encodeRawForRedis id data) = some (Json.render (.str body))) ∧
    (∀ body, taggedPayload data = "o:" ++ body → (Json.parse body).isSome →
      handleMessage id' (encodeRawForRedis id data) = some body) := by
  have hsplit := splitRedisPayload_sender hslash htag data
  constructor
  · intro body hb
    rw [hb] at hsplit
    simp [handleMessage, hsplit, hne.symm]
  · intro body hb hvalid
    rw [hb] at hsplit
    simp [handleMessage, hsplit, hne.symm, hvalid]

/-- For any published data, the local packet carries its value and the packet of another node the same
value when it is an object, an array or a string; any other scalar arrives as the string of its text
and absent data, null in the local packet, as the empty string. The two packets are equal in the first
case only. -/
theorem publish_fidelity {id id' : String} (hslash : '/' ∉ id.toList) (htag : hasTag id.toList = false) (hne : id' ≠ id)
    (channel : String) (data : Option RawMessage) :
    localPacket channel data = some (publishPacket channel (localValue data)) ∧
    remotePacket id id' channel data = some (publishPacket channel (remoteValue data)) ∧
    (remotePacket id id' channel data = localPacket channel data ↔ Tagged data = true) := by
  have hlocal : localPacket channel data = some (publishPacket channel (localValue data)) := by
    cases data with
    | none => rfl
    | some data => simp [localPacket, encodePublish, data.parses, localValue]
  have hstr : ∀ body, encodePublish channel (some (Json.render (.str body))) =
    some (publishPacket channel (.str body)) :=
    fun body => by simp [encodePublish]
  have hremote : remotePacket id id' channel data = some (publishPacket channel (remoteValue data)) := by
    unfold remotePacket
    cases data with
    | none =>
      have hpayload : taggedPayload "" = "s:" ++ "" := by decide
      rw [Option.map_none, Option.getD_none, (handleMessage_payload hslash htag hne "").1 "" hpayload,
        Option.bind_some, hstr]
      rfl
    | some data =>
      obtain ⟨hs, ho⟩ := handleMessage_payload hslash htag hne data.text
      have hpayload := taggedPayload_rawMessage data
      have hparse := data.parses
      have hbody : encodePublish channel (some data.text) = some (publishPacket channel data.value) := by
        simp [encodePublish, data.parses]
      rw [Option.map_some, Option.getD_some]
      simp only [remoteValue]
      cases hv : data.value with
      -- an object or an array is delivered as its text, anything else as a string
      | obj members =>
        rw [hv] at hpayload hparse hbody
        rw [ho data.text hpayload (by rw [hparse]; rfl), Option.bind_some, hbody]
      | arr items =>
        rw [hv] at hpayload hparse hbody
        rw [ho data.text hpayload (by rw [hparse]; rfl), Option.bind_some, hbody]
      | str s =>
        rw [hv] at hpayload
        rw [hs s hpayload, Option.bind_some, hstr]
      | null =>
        rw [hv] at hpayload
        rw [hs data.text hpayload, Option.bind_some, hstr]
      | bool b =>
        rw [hv] at hpayload
        rw [hs data.text hpayload, Option.bind_some, hstr]
      | num literal =>
        rw [hv] at hpayload
        rw [hs data.text hpayload, Option.bind_some, hstr]
  refine ⟨hlocal, hremote, ?_⟩
  rw [hlocal, hremote]
  rcases data with _ | data
  · simp [publishPacket, remoteValue, localValue, Tagged]
  · cases hv : data.value <;> simp [publishPacket, remoteValue, localValue, Tagged, hv]

/-- The number 5, published by one node and received by another. -/
def sampleNumber : RawMessage := ⟨"5", .num "5", by rfl, by decide⟩

theorem publish_fidelity_sample :
    remotePacket "node-1" "node-2" "chat_5" (some sampleNumber) = some (publishPacket "chat_5" (.str "5")) :=
  (publish_fidelity (by decide) (by decide) (by decide) "chat_5" (some sampleNumber)).2.1

/-- A number is a number for the local subscribers and a string for the others. -/
theorem number_arrives_as_string :
    ¬ ∀ (id id' channel : String) (data : Option RawMessage), '/' ∉ id.toList → hasTag id.toList = false →
      '/' ∉ id'.toList → hasTag id'.toList = false → id' ≠ id →
      remotePacket id id' channel data = localPacket channel data := by
  intro h
  have heq := h "node-1" "node-2" "chat_5" (some sampleNumber) (by decide) (by decide) (by decide) (by decide)
    (by decide)
  have hlocal : localPacket "chat_5" (some sampleNumber) = some (publishPacket "chat_5" (.num "5")) := by rfl
  have hremote : remotePacket "node-1" "node-2" "chat_5" (some sampleNumber) =
    some (publishPacket "chat_5" (.str "5")) := by
    have hdelivered : handleMessage "node-2" (encodeRawForRedis "node-1" "5") = some (Json.render (.str "5")) :=
      (handleMessage_payload (by decide) (by decide) (by decide) "5").1 "5" (by decide +kernel)
    show (handleMessage "node-2" (encodeRawForRedis "node-1" "5")).bind _ = _
    rw [hdelivered]
    simp [encodePublish]
  rw [hlocal, hremote] at heq
  simp [publishPacket] at heq

end NodejsHelper
