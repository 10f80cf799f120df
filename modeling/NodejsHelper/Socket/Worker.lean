/-
The `login` handler of the Node server (`serversc/lhc/worker.js`) beside its port `handleLogin`. The two
decode the same event in two type systems: JavaScript asks `typeof` of one field at a time, throws on
a method a value does not have and keeps surrogates that are no half of a character; Go decodes all
fields at once, into UTF-8, and no frame that is nested too deeply. Where they differ is said exactly
(`sameLogin_iff_portable`).
-/
import NodejsHelper.Socket.Basic
import NodejsHelper.Lib.Script
import NodejsHelper.Auth.Sample
import NodejsHelper.Lib.Double
import Mathlib.Data.Rat.Cast.Order

namespace NodejsHelper.Worker

open Auth Strings Script.Value
open Script (Rune Text Value toWellFormed units isWellFormed)

/-! ## The handler of worker.js -/

/-- A second a `Date` can stand for. -/
abbrev Second := { n : ℤ // -8640000000000 ≤ n ∧ n ≤ 8640000000000 }

theorem Second.fits (now : Second) : IsInt64 now.1 ∧ IsInt64 (now.1 + 12 * 60 * 60) := by
  have hnow := now.2
  unfold IsInt64
  omega

/-- The number a text or a literal stands for in JavaScript, absent for NaN and the infinities. A plain
decimal integer is the nearest double; a text with a surrogate is no number, as one with U+FFFD is none. -/
structure Numbers where
  toNumber : String → Option ℚ
  toNumber_int : ∀ s n, parseInt64 s = some n → toNumber s = some (Double.round n : ℚ)

/-- What the handler hands to `setAuthToken`. -/
structure Token where
  token : Text
  exp : Int
  chanelName : Value
  instance_id : Option ℚ
  isChatToken : Bool
  isVisitor : Bool

/-- `token.hash` and `token.instance_id` behind the `typeof` checks of the hash. A null `token` or
`token.hash` throws; an array has no property `hash`; a number or boolean is no string. -/
def readHash (token : Value) : Option (Text × Option Value) :=
  match token.property "hash" with
  | some (.str hash) => some (hash, token.property "instance_id")
  | some (.obj members) =>
    match (Value.obj members).property "hash" with
    | some (.str hash) => some (hash, (Value.obj members).property "instance_id")
    | _ => none
  | _ => none

section
variable (p : Primitives) (r : Numbers)

/-- `SHA1`; `update` takes the bytes of its input in UTF-8. -/
def SHA1 (input : List Rune) : List Rune := units (p.sha1Hex (toWellFormed input))

/-- `typeof instance_id !== 'number' ? 0 : instance_id`. -/
def numberOrZero : Option Value → Option ℚ
  | some (.num literal) => r.toNumber literal
  | _ => some 0

/-- `indexOf('chat_') !== -1` of an array: one of its items is that string. -/
def hasChatItem (items : List Value) : Bool :=
  items.any fun
    | .str s => s.runes == units "chat_"
    | _ => false

/-- `validateVisitorHash` and `isChatToken`. Only strings and arrays have `indexOf`, only strings have
`split`; anything else throws. -/
def visitorHashOf (part : List Rune) (secretHash : String) (chanelName : Option Value) : Option (List Rune × Bool) :=
  match chanelName with
  | some (.str name) =>
    if Script.contains name.runes "chat_" then
      some (SHA1 p (part ++ units "Visitor" ++ units secretHash ++ units "_" ++ Script.lastPart name.runes '_'), true)
    else some (SHA1 p (part ++ units "Visitor" ++ units secretHash), false)
  | some (.arr items) =>
    if hasChatItem items then none
    else some (SHA1 p (part ++ units "Visitor" ++ units secretHash), false)
  | _ => none

/-- The check of the hash: `(isVisitor, isChatToken)` when it is accepted. -/
def checkHash (hash : Text) (secretHash : String) (secNow : Int) (chanelName : Option Value) : Option (Bool × Bool) :=
  match Script.split hash.runes '.' with
  | head :: part :: _ =>
    if (r.toNumber (toWellFormed part)).any fun q => decide (((secNow - 60 * 60 : ℤ) : ℚ) < q) then
      match visitorHashOf p part secretHash chanelName with
      | some (validateVisitorHash, isChatToken) =>
        if head = validateVisitorHash ∨ head = SHA1 p (part ++ units "Operator" ++ units secretHash) then
          some (decide (head = validateVisitorHash), isChatToken)
        else none
      | none => none
    else none
  | _ => none

/-- `socket.on('login')`: the token it sets, absent when the login fails or the handler throws. -/
def login (secretHash : String) (secNow : Int) (token : Value) : Option Token :=
  (readHash token).bind fun read =>
    (checkHash p r read.1 secretHash secNow (token.property "chanelName")).map fun kind =>
      { token := read.1
        exp := secNow + (if kind.1 then 120 * 60 else 60 * 12 * 60)
        chanelName := (token.property "chanelName").getD .null
        instance_id := numberOrZero r read.2
        isChatToken := kind.2
        isVisitor := kind.1 }

/-! ## The port -/

/-- The effect is the `#setAuthToken` event of an accepted login. -/
def setsAuthToken : Effect → Bool
  | .send (.event "#setAuthToken" _ _) => true
  | _ => false

/-- The token `handleLogin` sets in one second, absent when it refuses the login. -/
def handledLogin (cfg : Config) (s : Socket) (now : Second) (ev : InEvent) : Option AuthToken :=
  let out := handleLogin p cfg s ev (.inSecond now now.fits)
  if out.2.any setsAuthToken then out.1.token else none

/-- The frame of a `login` event. -/
def loginFrame (data : Json) (cid : Option (Fin (2 ^ 63))) : Json :=
  .obj ([("event", .str "login"), ("data", data)] ++ (cid.map fun n => ("cid", .num (itoa n.val))).toList)

/-- The token the port sets on the frame, absent too when the frame is not decoded. -/
def portedLogin (cfg : Config) (s : Socket) (cid : Option (Fin (2 ^ 63))) (now : Second) (data : Json) :
    Option AuthToken :=
  (decodeMessage (loginFrame data cid)).head?.bind (handledLogin p cfg s now)

end

/-- Both refuse, or both set tokens of the same content. -/
def SameLogin : Option Token → Option AuthToken → Prop
  | none, none => True
  | some a, some b =>
    a.token = Script.ofString b.token ∧ a.chanelName = .str (Script.ofString b.chanelName) ∧
      a.instance_id = some (b.instanceID : ℚ) ∧
      a.isChatToken = b.isChatToken ∧ a.isVisitor = b.isVisitor ∧ a.exp = b.exp
  | _, _ => False

/-! ## Payloads -/

/-- Each of the fields is named at most once, and a name that counts as a field is spelled as it. -/
structure Exact (fields : List String) (members : List (String × Json)) : Prop where
  unique : members.Pairwise fun m m' => m.1 ∈ fields → m'.1 ≠ m.1
  spelled : ∀ m ∈ members, ∀ field ∈ fields, Json.keyMatches m.1 field = true → m.1 = field

/-- The payloads of the port: exactly spelled, and the timestamp of the hash, if any, a plain decimal
integer of 64 bits. -/
structure Plain (data : Value) : Prop where
  outer : ∀ members, data.toJson = .obj members → Exact ["hash", "chanelName", "instance_id"] members
  nested : ∀ members, data.toJson.property "hash" = some (.obj members) → Exact ["hash", "instance_id"] members
  timestamp : ∀ hash id, readHash data = some (hash, id) →
    ∀ head part rest, Script.split hash.runes '.' = head :: part :: rest → ∃ n, parseInt64 (toWellFormed part) = some n

/-- An instance id as Go reads it: zero when missing or null, and otherwise a 64-bit integer literal. -/
def intID : Option Value → Option Int
  | none | some .null => some 0
  | some (.num literal) => parseInt64 literal
  | _ => none

/-- A fresh hash that is the visitor hash of the channel name or the operator hash. -/
def Credential (p : Primitives) (hash name secretHash : String) (now : Int) : Prop :=
  ∃ head part rest n, split hash '.' = head :: part :: rest ∧ parseInt64 part = some n ∧ now - 60 * 60 < n ∧
    (head = visitorHash p part secretHash name ∨ head = operatorHash p part secretHash)

/-- The frame of the payload is not nested too deeply for Go. -/
def Shallow (data : Value) : Prop := data.toJson.depth < Json.maxNestingDepth

instance (data : Value) : Decidable (Shallow data) := inferInstanceAs (Decidable (_ < _))

/-- SHA-1 digests come in lower-case hex. -/
def HexDigests (p : Primitives) : Prop := ∀ s, ∀ c ∈ (p.sha1Hex s).toList, c ∈ "0123456789abcdef".toList

/-- Where the port behaves as worker.js does. With a hash that worker.js reads: on a string as `chanelName`, when
a credential comes in a shallow payload, without unpaired surrogates in hash and name and with instance ids that
are missing, null or integers, the one of the token a double; without a `chanelName` or with null, when a credential
outside of chats comes in a payload that is too deep or with an instance id that is none of these; on an array, when
a credential outside of chats comes with the item `chat_`. -/
def Portable (p : Primitives) (secretHash : String) (now : Int) (data : Value) : Prop :=
  ∀ hash id, readHash data = some (hash, id) →
    match data.property "chanelName" with
    | some (.str name) => Credential p (toWellFormed hash.runes) (toWellFormed name.runes) secretHash now →
        Shallow data ∧ isWellFormed hash.runes = true ∧ isWellFormed name.runes = true ∧
          (intID (data.property "instance_id")).isSome ∧ ∃ n, intID id = some n ∧ Double.round n = n
    | none | some .null => Credential p (toWellFormed hash.runes) "" secretHash now →
        ¬Shallow data ∨ intID (data.property "instance_id") = none ∨ intID id = none
    | some (.arr items) => Credential p (toWellFormed hash.runes) "" secretHash now → hasChatItem items = true
    | some _ => True

/-! ## Properties -/

theorem Exact.tail {fields : List String} {m : String × Json} {ms : List (String × Json)} (h : Exact fields (m :: ms)) :
    Exact fields ms :=
  ⟨(List.pairwise_cons.1 h.unique).2, fun m' hm' => h.spelled m' (List.mem_cons_of_mem m hm')⟩

theorem Exact.head {fields : List String} {m : String × Json} {ms : List (String × Json)} (h : Exact fields (m :: ms))
    (hm : m.1 ∈ fields) : Json.property m.1 (.obj ms) = none := by
  refine Json.property_of_notMem fun hmem => ?_
  obtain ⟨m', hm', he⟩ := List.mem_map.1 hmem
  exact (List.pairwise_cons.1 h.unique).1 m' hm' hm he

/-- A member is one of the fields, or none of them. -/
theorem Exact.cases {fields : List String} {m : String × Json} {ms : List (String × Json)}
    (h : Exact fields (m :: ms)) :
    m.1 ∈ fields ∨ ∀ field ∈ fields, Json.keyMatches m.1 field = false ∧ m.1 ≠ field := by
  by_cases hm : m.1 ∈ fields
  · exact Or.inl hm
  · refine Or.inr fun field hf => ⟨?_, fun he => hm (he ▸ hf)⟩
    rw [Bool.eq_false_iff]
    exact fun hk => hm (h.spelled m List.mem_cons_self field hf hk ▸ hf)

/-! ## Decoding -/

/-- A member decoded into a `string`, or none. -/
def stringOf (old : String) : Option Json → String × Bool
  | none => (old, true)
  | some v => Json.intoString old v

/-- A member decoded into an `*int`, or none. -/
def intPtrOf (old : Option Int) : Option Json → Option Int × Bool
  | none => (old, true)
  | some v => Json.intoIntPtr old v

/-- What `decodeLogin` does with one member. -/
theorem decodeLogin_field : ∃ field : String → Json → LoginRequest → LoginRequest × Bool,
    (∀ v, decodeLogin v = Json.intoStruct field ⟨none, "", none⟩ v) ∧
    (∀ v r, field "hash" v r = ({ r with hash := some v }, true)) ∧
    (∀ v r, field "chanelName" v r =
      ({ r with chanelName := (Json.intoString r.chanelName v).1 }, (Json.intoString r.chanelName v).2)) ∧
    (∀ v r, field "instance_id" v r =
      ({ r with instanceID := (Json.intoIntPtr r.instanceID v).1 }, (Json.intoIntPtr r.instanceID v).2)) ∧
    (∀ key v r, (∀ name ∈ ["hash", "chanelName", "instance_id"], Json.keyMatches key name = false) →
      field key v r = (r, true)) := by
  refine ⟨_, fun _ => rfl, fun _ _ => rfl, fun _ _ => rfl, fun _ _ => rfl, fun key v r h => ?_⟩
  simp only [h "hash" (by simp), h "chanelName" (by simp), h "instance_id" (by simp), Bool.false_eq_true, if_false]

/-- Exactly spelled members are decoded one by one. -/
theorem decodeLogin_exact {members : List (String × Json)} (h : Exact ["hash", "chanelName", "instance_id"] members) :
    decodeLogin (.obj members) =
      (⟨Json.property "hash" (.obj members), (stringOf "" (Json.property "chanelName" (.obj members))).1,
        (intPtrOf none (Json.property "instance_id" (.obj members))).1⟩,
        (stringOf "" (Json.property "chanelName" (.obj members))).2 &&
          (intPtrOf none (Json.property "instance_id" (.obj members))).2) := by
  obtain ⟨field, hdecode, hhash, hname, hid, hother⟩ := decodeLogin_field
  have hfold : ∀ (ms : List (String × Json)) (r : LoginRequest), Exact ["hash", "chanelName", "instance_id"] ms →
      Json.intoStruct field r (.obj ms) =
        (⟨(Json.property "hash" (.obj ms)).or r.hash, (stringOf r.chanelName (Json.property "chanelName" (.obj ms))).1,
          (intPtrOf r.instanceID (Json.property "instance_id" (.obj ms))).1⟩,
          (stringOf r.chanelName (Json.property "chanelName" (.obj ms))).2 &&
            (intPtrOf r.instanceID (Json.property "instance_id" (.obj ms))).2) := by
    intro ms
    induction ms with
    | nil => intro r _; simp [Json.intoStruct, Json.property, stringOf, intPtrOf]
    | cons m ms ih =>
      intro r hms
      obtain ⟨key, v⟩ := m
      have hhead : key ∈ ["hash", "chanelName", "instance_id"] → Json.property key (.obj ms) = none := hms.head
      rw [Json.intoStruct_cons, ih _ hms.tail]
      simp only [Json.property_cons]
      -- either one of the fields, which the members behind do not name again, or no field at all
      rcases hms.cases with hm | hm
      · simp only [List.mem_cons, List.not_mem_nil, or_false] at hm
        rcases hm with rfl | rfl | rfl
        · simp [hhash, hhead (by simp)]
        · simp [hname, hhead (by simp), stringOf]
        · simp [hid, hhead (by simp), intPtrOf, Bool.and_comm]
      · rw [hother key v r fun name hn => (hm name hn).1]
        have h1 := (hm "hash" (by simp)).2
        have h2 := (hm "chanelName" (by simp)).2
        have h3 := (hm "instance_id" (by simp)).2
        simp only at h1 h2 h3
        simp [h1, h2, h3]
  rw [hdecode, hfold members _ h, Option.or_none]

/-- What `decodeNestedHash` does with one member. -/
theorem decodeNestedHash_field : ∃ field : String → Json → String × Option Int → (String × Option Int) × Bool,
    (∀ v, decodeNestedHash v = Json.intoStruct field ("", none) v) ∧
    (∀ v r, field "hash" v r = (((Json.intoString r.1 v).1, r.2), (Json.intoString r.1 v).2)) ∧
    (∀ v r, field "instance_id" v r = ((r.1, (Json.intoIntPtr r.2 v).1), (Json.intoIntPtr r.2 v).2)) ∧
    (∀ key v r, (∀ name ∈ ["hash", "instance_id"], Json.keyMatches key name = false) → field key v r = (r, true)) := by
  refine ⟨_, fun _ => rfl, fun _ _ => rfl, fun _ _ => rfl, fun key v r h => ?_⟩
  simp only [h "hash" (by simp), h "instance_id" (by simp), Bool.false_eq_true, if_false]

theorem decodeNestedHash_exact {members : List (String × Json)} (h : Exact ["hash", "instance_id"] members) :
    decodeNestedHash (.obj members) =
      (((stringOf "" (Json.property "hash" (.obj members))).1,
          (intPtrOf none (Json.property "instance_id" (.obj members))).1),
        (stringOf "" (Json.property "hash" (.obj members))).2 &&
          (intPtrOf none (Json.property "instance_id" (.obj members))).2) := by
  obtain ⟨field, hdecode, hhash, hid, hother⟩ := decodeNestedHash_field
  have hfold : ∀ (ms : List (String × Json)) (r : String × Option Int), Exact ["hash", "instance_id"] ms →
      Json.intoStruct field r (.obj ms) =
        (((stringOf r.1 (Json.property "hash" (.obj ms))).1, (intPtrOf r.2 (Json.property "instance_id" (.obj ms))).1),
          (stringOf r.1 (Json.property "hash" (.obj ms))).2 &&
            (intPtrOf r.2 (Json.property "instance_id" (.obj ms))).2) := by
    intro ms
    induction ms with
    | nil => intro r _; simp [Json.intoStruct, Json.property, stringOf, intPtrOf]
    | cons m ms ih =>
      intro r hms
      obtain ⟨key, v⟩ := m
      have hhead : key ∈ ["hash", "instance_id"] → Json.property key (.obj ms) = none := hms.head
      rw [Json.intoStruct_cons, ih _ hms.tail]
      simp only [Json.property_cons]
      rcases hms.cases with hm | hm
      · simp only [List.mem_cons, List.not_mem_nil, or_false] at hm
        rcases hm with rfl | rfl
        · simp [hhash, hhead (by simp), stringOf]
        · simp [hid, hhead (by simp), intPtrOf, Bool.and_comm]
      · rw [hother key v r fun name hn => (hm name hn).1]
        have h1 := (hm "hash" (by simp)).2
        have h2 := (hm "instance_id" (by simp)).2
        simp only at h1 h2
        simp [h1, h2]
  rw [hdecode, hfold members _ h]

/-- An instance id decodes exactly when it is one, and to it. -/
theorem intPtrOf_eq (x : Option Value) :
    (intPtrOf none (x.map toJson)).2 = (intID x).isSome ∧
      ∀ n, intID x = some n → (intPtrOf none (x.map toJson)).1.getD 0 = n := by
  rcases x with - | v
  · exact ⟨rfl, fun n h => by cases h; rfl⟩
  · cases v with
    | null => exact ⟨rfl, fun n h => by cases h; rfl⟩
    | num literal =>
      simp only [Option.map_some, toJson, intPtrOf, Json.intoIntPtr, intID]
      cases parseInt64 literal with
      | none => exact ⟨rfl, fun n h => by cases h⟩
      | some n => exact ⟨rfl, fun m h => by cases h; rfl⟩
    | bool b => exact ⟨rfl, fun n h => by cases h⟩
    | str s => exact ⟨rfl, fun n h => by cases h⟩
    | arr items => exact ⟨rfl, fun n h => by cases h⟩
    | obj members => exact ⟨rfl, fun n h => by cases h⟩

/-- No name of a field holds U+FFFD. -/
theorem property_field {key : String} (hkey : key ∈ ["hash", "chanelName", "instance_id"]) (data : Value) :
    data.toJson.property key = (data.property key).map toJson := by
  refine property_toJson ?_ data
  simp only [List.mem_cons, List.not_mem_nil, or_false] at hkey
  rcases hkey with rfl | rfl | rfl
  · decide
  · decide
  · decide

/-- What the port decodes of an object. -/
theorem decodeLogin_toJson {members : List (Text × Value)} (hplain : Plain (.obj members)) :
    decodeLogin (Value.obj members).toJson =
      (⟨((Value.obj members).property "hash").map toJson,
        (stringOf "" (((Value.obj members).property "chanelName").map toJson)).1,
        (intPtrOf none (((Value.obj members).property "instance_id").map toJson)).1⟩,
        (stringOf "" (((Value.obj members).property "chanelName").map toJson)).2 &&
          (intID ((Value.obj members).property "instance_id")).isSome) := by
  have hdecode := decodeLogin_exact (hplain.outer _ (by rw [toJson]))
  have hobj : (Value.obj members).toJson = .obj (membersToJson members) := by rw [toJson]
  rw [← hobj, property_field (by simp), property_field (by simp), property_field (by simp),
    (intPtrOf_eq _).1] at hdecode
  exact hdecode

/-- What it decodes of an object as hash. -/
theorem decodeNestedHash_toJson {data : Value} (hplain : Plain data) {nested : List (Text × Value)}
    (hhash : data.property "hash" = some (.obj nested)) :
    decodeNestedHash (Value.obj nested).toJson =
      (((stringOf "" (((Value.obj nested).property "hash").map toJson)).1,
        (intPtrOf none (((Value.obj nested).property "instance_id").map toJson)).1),
        (stringOf "" (((Value.obj nested).property "hash").map toJson)).2 &&
          (intID ((Value.obj nested).property "instance_id")).isSome) := by
  have hobj : (Value.obj nested).toJson = .obj (membersToJson nested) := by rw [toJson]
  have hexact : Exact ["hash", "instance_id"] (membersToJson nested) :=
    hplain.nested _ (by rw [property_field (by simp), hhash, Option.map_some, hobj])
  have hdecode := decodeNestedHash_exact hexact
  rw [← hobj, property_field (by simp), property_field (by simp), (intPtrOf_eq _).1] at hdecode
  exact hdecode

/-- The hash and the id that worker.js reads are those of the port, when the port decodes them at all. -/
theorem loginHash_of_readHash {members : List (Text × Value)} (hplain : Plain (.obj members)) {hash : Text}
    {id : Option Value} (hread : readHash (.obj members) = some (hash, id))
    (hok : (intID ((Value.obj members).property "instance_id")).isSome = true) :
    loginHash (decodeLogin (Value.obj members).toJson).1 = (intID id).map fun n => (toWellFormed hash.runes, n) := by
  rw [decodeLogin_toJson hplain]
  unfold readHash at hread
  split at hread
  · rename_i hv
    cases hread
    obtain ⟨n, hn⟩ := Option.isSome_iff_exists.1 hok
    simp [loginHash, hv, hn, toJson, (intPtrOf_eq _).2 n hn]
  · rename_i nested hv
    split at hread
    · rename_i hstr
      cases hread
      -- an object as hash: worker.js takes it apart itself, the port decodes it
      have hnested := decodeNestedHash_toJson hplain hv
      have hval := (intPtrOf_eq ((Value.obj nested).property "instance_id")).2
      rw [hstr] at hnested
      simp only [Option.map_some, toJson, stringOf, Json.intoString, Bool.true_and] at hnested
      simp only [loginHash, hv, Option.map_some, toJson, hnested]
      cases hn : intID ((Value.obj nested).property "instance_id") with
      | none => rfl
      | some n => simp [hval n hn]
    · cases hread
  · cases hread

/-- Where worker.js reads no hash, the port reads none or an empty one. -/
theorem loginHash_of_not_readHash {members : List (Text × Value)} (hplain : Plain (.obj members))
    (hread : readHash (.obj members) = none) {hash : String} {id : Int}
    (h : loginHash (decodeLogin (Value.obj members).toJson).1 = some (hash, id)) : hash = "" := by
  rw [decodeLogin_toJson hplain] at h
  unfold readHash at hread
  split at hread
  · cases hread
  · rename_i nested hv
    have hnested := decodeNestedHash_toJson hplain hv
    simp only [toJson] at hnested
    simp only [loginHash, hv, Option.map_some, toJson, hnested] at h
    split at hread
    · cases hread
    · rename_i hno
      split at h
      · rename_i r hr
        cases h
        have hfst := congrArg (fun x => x.1.1) hr
        have hsnd := congrArg Prod.snd hr
        simp only [Bool.and_eq_true] at hfst hsnd
        rw [← hfst]
        -- a nested hash that decodes and is no string is missing or null
        rcases hs : (Value.obj nested).property "hash" with - | v
        · rfl
        · rw [hs] at hsnd hno
          cases v with
          | str s => exact absurd rfl (hno s)
          | null => rfl
          | bool b => cases hsnd.1
          | num l => cases hsnd.1
          | arr l => cases hsnd.1
          | obj l => cases hsnd.1
      · cases h
  · rename_i hstr hobj
    rcases hv : (Value.obj members).property "hash" with - | v
    · rw [hv] at h; cases h; rfl
    · rw [hv] at h
      cases v with
      | str s => exact absurd hv (hstr s)
      | obj ms => exact absurd hv (hobj ms)
      | null | bool _ | num _ | arr _ => cases h; rfl

/-! ## The port in one second -/

variable {p : Primitives} {r : Numbers} {cfg : Config}

/-- The token of an accepted login. -/
def portedToken (p : Primitives) (cfg : Config) (now : Int) (hash name : String) (id : Int) (kind : Bool × Bool) :
    AuthToken :=
  (signToken p cfg.authKey (mintToken hash name id kind.1 kind.2 now) now).1

section
variable (now : Int) (hash name : String) (id : Int) (kind : Bool × Bool)

@[simp] theorem portedToken_token : (portedToken p cfg now hash name id kind).token = hash := rfl
@[simp] theorem portedToken_chanelName : (portedToken p cfg now hash name id kind).chanelName = name := rfl
@[simp] theorem portedToken_instanceID : (portedToken p cfg now hash name id kind).instanceID = id := rfl
@[simp] theorem portedToken_isChatToken : (portedToken p cfg now hash name id kind).isChatToken = kind.2 := rfl
@[simp] theorem portedToken_isVisitor : (portedToken p cfg now hash name id kind).isVisitor = kind.1 := rfl
@[simp] theorem portedToken_exp :
    (portedToken p cfg now hash name id kind).exp = now + (if kind.1 then 120 * 60 else 12 * 60 * 60) := rfl

end

theorem handledLogin_eq (s : Socket) (cid : Option Int) (now : Second) (data : Json) :
    handledLogin p cfg s now ⟨"login", some data, cid⟩ =
      if (decodeLogin data).2 then
        (loginHash (decodeLogin data).1).bind fun read =>
          (validateLoginToken p read.1 (decodeLogin data).1.chanelName cfg.secretHash now).map fun kind =>
            portedToken p cfg now read.1 (decodeLogin data).1.chanelName read.2 kind
      else none := by
  have hfailed : (loginFailed ⟨"login", some data, cid⟩).any setsAuthToken = false := by
    cases cid <;> rfl
  unfold handledLogin handleLogin
  simp only [Option.map_some]
  obtain ⟨request, ok⟩ := decodeLogin data
  cases ok with
  | false => simp [hfailed]
  | true =>
    simp only [if_true]
    cases loginHash request with
    | none => simp [hfailed]
    | some read =>
      simp only [Option.bind_some]
      cases hvalid : validateLoginToken p read.1 request.chanelName cfg.secretHash now with
      | none => simp [Clock.inSecond, hvalid, hfailed]
      | some kind =>
        have hsent : ∀ minted c, setsAuthToken (.send (.event "#setAuthToken" minted c)) = true := fun _ _ => rfl
        simp only [Clock.inSecond, hvalid, List.any_append, List.any_cons, hsent, Bool.true_or, Bool.or_true, if_true,
          Option.map_some]
        rfl

theorem loginFrame_depth (data : Json) (cid : Option (Fin (2 ^ 63))) :
    (loginFrame data cid).depth = data.depth + 1 := by
  cases cid with
  | none => simp [loginFrame, Json.depth, Json.depthMembers]
  | some n => simp [loginFrame, Json.depth, Json.depthMembers]

theorem decodeEvent_loginFrame (data : Json) (cid : Option (Fin (2 ^ 63))) :
    decodeEvent (loginFrame data cid) = (⟨"login", some data, cid.map fun n => (n.val : ℤ)⟩, true) := by
  cases cid with
  | none => simp [decodeEvent, loginFrame, Json.intoStruct, InEvent.field, Json.keyMatches, Json.intoRaw]
  | some n =>
    have hcid : parseInt64 (itoa n.val) = some (n.val : ℤ) := by rw [itoa_ofNat, parseInt64_repr n.isLt]
    simp [decodeEvent, loginFrame, Json.intoStruct, InEvent.field, Json.keyMatches, Json.intoRaw, Json.intoIntPtr, hcid]

/-- The frame of an event is decoded up to the nesting limit. -/
theorem decodeMessage_loginFrame (data : Json) (cid : Option (Fin (2 ^ 63))) :
    decodeMessage (loginFrame data cid) =
      if data.depth < Json.maxNestingDepth then [⟨"login", some data, cid.map fun n => (n.val : ℤ)⟩] else [] := by
  have hsingle : decodeMessage (loginFrame data cid) =
    if Json.maxNestingDepth < (loginFrame data cid).depth then []
    else if (decodeEvent (loginFrame data cid)).2 then [(decodeEvent (loginFrame data cid)).1] else [] := rfl
  rw [hsingle, loginFrame_depth, decodeEvent_loginFrame]
  by_cases hdeep : data.depth < Json.maxNestingDepth
  · rw [if_neg (by omega), if_pos hdeep, if_pos rfl]
  · rw [if_pos (by omega), if_neg hdeep]

theorem portedLogin_eq (s : Socket) (cid : Option (Fin (2 ^ 63))) (now : Second) (data : Json) :
    portedLogin p cfg s cid now data =
      if data.depth < Json.maxNestingDepth ∧ (decodeLogin data).2 = true then
        (loginHash (decodeLogin data).1).bind fun read =>
          (validateLoginToken p read.1 (decodeLogin data).1.chanelName cfg.secretHash now).map fun kind =>
            portedToken p cfg now read.1 (decodeLogin data).1.chanelName read.2 kind
      else none := by
  rw [portedLogin, decodeMessage_loginFrame]
  by_cases hdeep : data.depth < Json.maxNestingDepth
  · rw [if_pos hdeep, List.head?_cons, Option.bind_some, handledLogin_eq]
    simp only [hdeep, true_and]
  · simp [hdeep]

theorem validateLoginToken_empty (name secretHash : String) (now : Int) :
    validateLoginToken p "" name secretHash now = none := by
  have hs : split "" '.' = [""] := by decide
  unfold validateLoginToken
  rw [hs]

/-- Without a hash that worker.js reads, the port refuses. -/
theorem portedLogin_of_not_readHash {data : Value} (hplain : Plain data) (hread : readHash data = none) (s : Socket)
    (cid : Option (Fin (2 ^ 63))) (now : Second) : portedLogin p cfg s cid now data.toJson = none := by
  have hempty : ∀ hash id, loginHash (decodeLogin data.toJson).1 = some (hash, id) →
      (decodeLogin data.toJson).2 = true → hash = "" := by
    intro hash id hh hok
    cases data with
    | obj members => exact loginHash_of_not_readHash hplain hread hh
    | null => cases hh; rfl
    | bool b => cases hok
    | num l => cases hok
    | str l => cases hok
    | arr l => cases hok
  rw [portedLogin_eq]
  split
  · rename_i hok
    cases hh : loginHash (decodeLogin data.toJson).1 with
    | none => rfl
    | some read =>
      obtain ⟨hash, id⟩ := read
      rw [hempty hash id hh hok.2, Option.bind_some, validateLoginToken_empty]
      rfl
  · rfl

theorem readHash_obj {data : Value} {read : Text × Option Value} (h : readHash data = some read) :
    ∃ members, data = .obj members := by
  cases data with
  | obj members => exact ⟨members, rfl⟩
  | null | bool _ | num _ | str _ | arr _ => cases h

/-- The port on a hash that worker.js reads. -/
theorem portedLogin_of_readHash {data : Value} (hplain : Plain data) {hash : Text} {id : Option Value}
    (hread : readHash data = some (hash, id)) (s : Socket) (cid : Option (Fin (2 ^ 63))) (now : Second) {name : String}
    {ok : Bool} (hname : stringOf "" ((data.property "chanelName").map toJson) = (name, ok)) :
    portedLogin p cfg s cid now data.toJson =
      if Shallow data ∧ ok = true ∧ (intID (data.property "instance_id")).isSome = true then
        (intID id).bind fun n =>
          (validateLoginToken p (toWellFormed hash.runes) name cfg.secretHash now).map
            (portedToken p cfg now (toWellFormed hash.runes) name n)
      else none := by
  obtain ⟨members, rfl⟩ := readHash_obj hread
  have hdecode := decodeLogin_toJson hplain
  have hloginHash := loginHash_of_readHash hplain hread
  rw [hname] at hdecode
  rw [portedLogin_eq]
  rw [hdecode] at hloginHash ⊢
  simp only [Bool.and_eq_true]
  by_cases hok : Shallow (.obj members) ∧ ok = true ∧ (intID ((Value.obj members).property "instance_id")).isSome = true
  · refine (if_pos hok).trans ?_
    rw [if_pos hok, hloginHash hok.2.2]
    cases intID id with
    | none => rfl
    | some n => rfl
  · rw [if_neg hok]
    exact if_neg hok

/-! ## The check in one second -/

/-- A part of a hash is a digest as soon as the port reads it as one. -/
theorem eq_SHA1_iff (hhex : HexDigests p) (head input : List Rune) :
    head = SHA1 p input ↔ toWellFormed head = p.sha1Hex (toWellFormed input) := by
  have hplain : '\ufffd' ∉ (p.sha1Hex (toWellFormed input)).toList := fun hmem => absurd (hhex _ _ hmem) (by decide)
  rw [SHA1, Script.toWellFormed_eq_iff hplain]

theorem eq_operatorHash_iff (hhex : HexDigests p) (secretHash : String) (part head : List Rune) :
    head = SHA1 p (part ++ units "Operator" ++ units secretHash) ↔
      toWellFormed head = operatorHash p (toWellFormed part) secretHash := by
  simp only [eq_SHA1_iff hhex, operatorHash, Script.toWellFormed_append, Script.toWellFormed_units]

/-- Where the handler computes a visitor hash, it checks as the port does for a name with that visitor hash. -/
theorem checkHash_eq (hhex : HexDigests p) {hash : Text} {secretHash name : String} {now : Second}
    {chanelName : Option Value}
    (hts : ∀ head part rest, Script.split hash.runes '.' = head :: part :: rest →
      ∃ n, parseInt64 (toWellFormed part) = some n)
    (hvisitor : ∀ part, ∃ visitor, visitorHashOf p part secretHash chanelName = some (visitor, contains name "chat_") ∧
      ∀ head, head = visitor ↔ toWellFormed head = visitorHash p (toWellFormed part) secretHash name) :
    checkHash p r hash secretHash now chanelName =
      validateLoginToken p (toWellFormed hash.runes) name secretHash now := by
  unfold checkHash validateLoginToken
  rw [Script.split_toWellFormed (by decide)]
  rcases hsplit : Script.split hash.runes '.' with _ | ⟨head, _ | ⟨part, rest⟩⟩
  · rfl
  · rfl
  obtain ⟨n, hn⟩ := hts head part rest hsplit
  obtain ⟨visitor, hsome, hhead⟩ := hvisitor part
  have hbound : (-2 ^ 53 : ℤ) < now.1 - 60 * 60 ∧ now.1 - 60 * 60 < 2 ^ 53 := by have := now.2; omega
  have hfresh : (r.toNumber (toWellFormed part)).any (fun q => decide (((now.1 - 60 * 60 : ℤ) : ℚ) < q)) =
    decide (now.1 - 60 * 60 < n) := by
    rw [r.toNumber_int _ n hn, Option.any_some]
    refine decide_eq_decide.2 ?_
    rw [Int.cast_lt, Double.lt_round_iff hbound]
  simp only [List.map_cons, hfresh, hsome, hn, hhead, eq_operatorHash_iff hhex, decide_eq_true_eq]
  by_cases hle : n ≤ now.1 - 60 * 60
  · rw [if_neg (not_lt.2 hle), if_pos hle]
  · rw [if_pos (not_le.1 hle), if_neg hle]
    by_cases hv : toWellFormed head = visitorHash p (toWellFormed part) secretHash name
    · simp [hv]
    · by_cases ho : toWellFormed head = operatorHash p (toWellFormed part) secretHash
      · rw [if_pos (Or.inr ho), if_neg hv, if_pos ho, decide_eq_false hv]
      · rw [if_neg (not_or.2 ⟨hv, ho⟩), if_neg hv, if_neg ho]

theorem validateLoginToken_none_iff {hash name secretHash : String} {now : Int} :
    validateLoginToken p hash name secretHash now = none ↔ ¬Credential p hash name secretHash now := by
  constructor
  · rintro h ⟨head, part, rest, n, hsplit, hn, hlt, hor⟩
    simp only [validateLoginToken, hsplit, hn, if_neg (not_le.2 hlt)] at h
    rcases hor with hv | ho
    · rw [if_pos hv] at h; cases h
    · rw [if_pos ho] at h
      split at h
      · cases h
      · cases h
  · intro h
    unfold validateLoginToken
    split
    · rename_i head part rest hsplit
      cases hn : parseInt64 part with
      | none => rfl
      | some n =>
        by_cases hle : n ≤ now - 60 * 60
        · simp only [if_pos hle]
        · have hno := fun hor => h ⟨head, part, rest, n, hsplit, hn, not_le.1 hle, hor⟩
          simp only [if_neg hle, if_neg fun hv => hno (Or.inl hv), if_neg fun ho => hno (Or.inr ho)]
    · rfl

theorem checkHash_none {hash : Text} {secretHash : String} {now : Int} {chanelName : Option Value}
    (hvisitor : ∀ part, visitorHashOf p part secretHash chanelName = none) :
    checkHash p r hash secretHash now chanelName = none := by
  unfold checkHash
  split
  · rw [hvisitor]
    split <;> rfl
  · rfl

theorem visitorHashOf_str (hhex : HexDigests p) (part : List Rune) (secretHash : String) (name : Text) :
    ∃ visitor, visitorHashOf p part secretHash (some (.str name)) =
        some (visitor, contains (toWellFormed name.runes) "chat_") ∧
      ∀ head, head = visitor ↔
        toWellFormed head = visitorHash p (toWellFormed part) secretHash (toWellFormed name.runes) := by
  unfold visitorHash
  rw [Script.contains_toWellFormed (by decide), Script.lastPart_toWellFormed (by decide)]
  cases hchat : Script.contains name.runes "chat_" with
  | true =>
    refine ⟨_, by simp only [visitorHashOf, hchat, if_true]; rfl, fun head => ?_⟩
    simp only [eq_SHA1_iff hhex, Script.toWellFormed_append, Script.toWellFormed_units, if_true]
  | false =>
    refine ⟨_, by simp only [visitorHashOf, hchat, Bool.false_eq_true, if_false]; rfl, fun head => ?_⟩
    simp only [eq_SHA1_iff hhex, Script.toWellFormed_append, Script.toWellFormed_units, Bool.false_eq_true, if_false]

/-- The handler on an array without the string `chat_` checks as for a name without a chat. -/
theorem visitorHashOf_arr (hhex : HexDigests p) {items : List Value} (h : hasChatItem items = false)
    (part : List Rune) (secretHash : String) :
    ∃ visitor, visitorHashOf p part secretHash (some (.arr items)) = some (visitor, contains "" "chat_") ∧
      ∀ head, head = visitor ↔ toWellFormed head = visitorHash p (toWellFormed part) secretHash "" := by
  have hempty : contains "" "chat_" = false := by decide
  unfold visitorHashOf visitorHash
  simp only [h, hempty, Bool.false_eq_true, if_false]
  refine ⟨_, rfl, fun head => ?_⟩
  simp only [eq_SHA1_iff hhex, Script.toWellFormed_append, Script.toWellFormed_units]

/-! ## Agreement -/

@[simp] theorem sameLogin_none_left (t : Option AuthToken) : SameLogin none t ↔ t = none := by
  cases t <;> simp [SameLogin]

@[simp] theorem sameLogin_none_right (t : Option Token) : SameLogin t none ↔ t = none := by
  cases t <;> simp [SameLogin]

/-- An instance id of the port is the nearest double to worker.js. -/
theorem numberOrZero_of_intID {id : Option Value} {n : Int} (h : intID id = some n) :
    numberOrZero r id = some (Double.round n : ℚ) := by
  have hzero : ((0 : ℚ)) = (Double.round 0 : ℚ) := by rw [show Double.round 0 = 0 by decide]; rfl
  rcases id with - | v
  · cases h; exact congrArg some hzero
  · cases v with
    | null => cases h; exact congrArg some hzero
    | num literal => exact r.toNumber_int literal n h
    | bool b => cases h
    | str s => cases h
    | arr items => cases h
    | obj members => cases h

theorem login_of_readHash {data : Value} {hash : Text} {id : Option Value} (hread : readHash data = some (hash, id))
    (secretHash : String) (now : Int) :
    login p r secretHash now data =
      (checkHash p r hash secretHash now (data.property "chanelName")).map fun kind =>
        { token := hash
          exp := now + (if kind.1 then 120 * 60 else 60 * 12 * 60)
          chanelName := (data.property "chanelName").getD .null
          instance_id := numberOrZero r id
          isChatToken := kind.2
          isVisitor := kind.1 } := by
  unfold login
  rw [hread, Option.bind_some]

section
variable {data : Value} {hash : Text} {id : Option Value}

/-- Both accept a string as `chanelName` together, if the port reads the payload and loses none of it. -/
theorem sameLogin_str (hhex : HexDigests p) (hplain : Plain data) (hread : readHash data = some (hash, id))
    {name : Text} (hname : data.property "chanelName" = some (.str name)) (now : Second) (s : Socket)
    (cid : Option (Fin (2 ^ 63))) :
    SameLogin (login p r cfg.secretHash now data) (portedLogin p cfg s cid now data.toJson) ↔
      (Credential p (toWellFormed hash.runes) (toWellFormed name.runes) cfg.secretHash now →
        Shallow data ∧ isWellFormed hash.runes = true ∧ isWellFormed name.runes = true ∧
          (intID (data.property "instance_id")).isSome ∧ ∃ n, intID id = some n ∧ Double.round n = n) := by
  have hcheck : checkHash p r hash cfg.secretHash now (some (.str name)) =
      validateLoginToken p (toWellFormed hash.runes) (toWellFormed name.runes) cfg.secretHash now :=
    checkHash_eq hhex (hplain.timestamp hash id hread) fun part => visitorHashOf_str hhex part cfg.secretHash name
  have hstring : stringOf "" ((data.property "chanelName").map toJson) = (toWellFormed name.runes, true) := by
    rw [hname, Option.map_some, toJson, stringOf, Json.intoString_str]
  rw [login_of_readHash hread, portedLogin_of_readHash hplain hread s cid now hstring, hname, hcheck]
  rw [← not_not (a := Credential p _ (toWellFormed name.runes) cfg.secretHash now), ← validateLoginToken_none_iff]
  cases validateLoginToken p (toWellFormed hash.runes) (toWellFormed name.runes) cfg.secretHash now with
  | none => simp
  | some kind =>
    simp only [Option.map_some, reduceCtorEq, not_false_eq_true, true_imp_iff, true_and]
    by_cases hread : Shallow data ∧ (intID (data.property "instance_id")).isSome = true
    · rw [if_pos hread]
      cases hid : intID id with
      | none => simp
      | some n =>
        simp only [Option.bind_some, SameLogin, portedToken_token, portedToken_chanelName, portedToken_instanceID,
          portedToken_isChatToken, portedToken_isVisitor, portedToken_exp, numberOrZero_of_intID hid, Option.getD_some,
          Option.some.injEq, Int.cast_inj, hread.1, hread.2, true_and, exists_eq_left', Script.eq_ofString_iff,
          Value.str.injEq]
        constructor
        · rintro ⟨hhash, hname, hround, -⟩
          exact ⟨hhash, hname, hround⟩
        · rintro ⟨hhash, hname, hround⟩
          exact ⟨hhash, hname, hround, rfl⟩
    · rw [if_neg hread]
      exact iff_of_false (fun h => h) fun h => hread ⟨h.1, h.2.2.2.1⟩

/-- On a missing or null `chanelName` worker.js throws, and the port goes on with the empty name. -/
theorem sameLogin_missing (hplain : Plain data) (hread : readHash data = some (hash, id))
    (hname : data.property "chanelName" = none ∨ data.property "chanelName" = some .null)
    (now : Second) (s : Socket) (cid : Option (Fin (2 ^ 63))) :
    SameLogin (login p r cfg.secretHash now data) (portedLogin p cfg s cid now data.toJson) ↔
      (Credential p (toWellFormed hash.runes) "" cfg.secretHash now →
        ¬Shallow data ∨ intID (data.property "instance_id") = none ∨ intID id = none) := by
  have hcheck : checkHash p r hash cfg.secretHash now (data.property "chanelName") = none :=
    checkHash_none fun part => by rcases hname with h | h <;> rw [h] <;> rfl
  have hstring : stringOf "" ((data.property "chanelName").map toJson) = ("", true) := by
    rcases hname with h | h <;> rw [h] <;> rfl
  rw [login_of_readHash hread, portedLogin_of_readHash hplain hread s cid now hstring, hcheck]
  rw [← not_not (a := Credential p _ "" cfg.secretHash now), ← validateLoginToken_none_iff]
  simp only [Option.map_none, sameLogin_none_left, true_and]
  by_cases hshallow : Shallow data
  · cases intID (data.property "instance_id") with
    | none => simp
    | some outer =>
      cases intID id with
      | none => simp
      | some n => simp [hshallow]
  · simp [hshallow]

/-- On an array the port refuses, and worker.js looks for the string `chat_` among its items. -/
theorem sameLogin_arr (hhex : HexDigests p) (hplain : Plain data) (hread : readHash data = some (hash, id))
    {items : List Value} (hname : data.property "chanelName" = some (.arr items))
    (now : Second) (s : Socket) (cid : Option (Fin (2 ^ 63))) :
    SameLogin (login p r cfg.secretHash now data) (portedLogin p cfg s cid now data.toJson) ↔
      (Credential p (toWellFormed hash.runes) "" cfg.secretHash now → hasChatItem items = true) := by
  have hstring : stringOf "" ((data.property "chanelName").map toJson) = ("", false) := by rw [hname]; rfl
  rw [login_of_readHash hread, portedLogin_of_readHash hplain hread s cid now hstring, hname]
  simp only [Bool.false_eq_true, false_and, and_false, if_false, sameLogin_none_right, Option.map_eq_none_iff]
  cases hany : hasChatItem items with
  | true =>
    have hcheck : checkHash p r hash cfg.secretHash now (some (.arr items)) = none :=
      checkHash_none fun part => by simp only [visitorHashOf, hany, if_true]
    simp [hcheck]
  | false =>
    rw [checkHash_eq hhex (hplain.timestamp hash id hread) (visitorHashOf_arr hhex hany · cfg.secretHash),
      validateLoginToken_none_iff]
    simp

/-- Anything else as `chanelName` has no `indexOf` and is no string. -/
theorem sameLogin_other (hplain : Plain data) (hread : readHash data = some (hash, id))
    (hvisitor : ∀ part, visitorHashOf p part cfg.secretHash (data.property "chanelName") = none)
    (hstring : stringOf "" ((data.property "chanelName").map toJson) = ("", false)) (now : Second) (s : Socket)
    (cid : Option (Fin (2 ^ 63))) :
    SameLogin (login p r cfg.secretHash now data) (portedLogin p cfg s cid now data.toJson) := by
  rw [login_of_readHash hread, portedLogin_of_readHash hplain hread s cid now hstring, checkHash_none hvisitor]
  simp

/-- The port does what worker.js does in the same second exactly where it is portable. -/
theorem sameLogin_iff_portable (hhex : HexDigests p) (hplain : Plain data) (now : Second) (s : Socket)
    (cid : Option (Fin (2 ^ 63))) :
    SameLogin (login p r cfg.secretHash now data) (portedLogin p cfg s cid now data.toJson) ↔
      Portable p cfg.secretHash now data := by
  cases hread : readHash data with
  | none =>
    rw [portedLogin_of_not_readHash hplain hread]
    simp [login, Portable, hread]
  | some read =>
    obtain ⟨hash, id⟩ := read
    have hportable : Portable p cfg.secretHash now data ↔ _ :=
      ⟨fun h => h hash id hread, fun h hash' id' hread' => by rw [hread] at hread'; cases hread'; exact h⟩
    rw [hportable]
    cases hname : data.property "chanelName" with
    | none => exact sameLogin_missing hplain hread (Or.inl hname) now s cid
    | some v =>
      cases v with
      | str name => exact sameLogin_str hhex hplain hread hname now s cid
      | null => exact sameLogin_missing hplain hread (Or.inr hname) now s cid
      | arr items => exact sameLogin_arr hhex hplain hread hname now s cid
      | bool b | num literal | obj members =>
        refine iff_of_true (sameLogin_other hplain hread (fun part => ?_) ?_ now s cid) trivial
        · rw [hname]; rfl
        · rw [hname]; rfl

end

/-- JavaScript's numbers on plain decimal integers, NaN elsewhere. -/
def sampleNumbers : Numbers where
  toNumber s := (parseInt64 s).map fun n => (Double.round n : ℚ)
  toNumber_int s n h := by rw [h]; rfl

def sampleConfig : Config := defaultConfig "secret" sampleKey "node"

/-- A string without surrogates. -/
def string (s : String) : Value := .str (Script.ofString s)

/-- An object whose keys are without surrogates. -/
def object (members : List (String × Value)) : Value :=
  .obj (members.map fun m => (Script.ofString m.1, m.2))

/-- A newer client logs in to chat 55. -/
def sampleLogin : Value :=
  object [("hash", object [("hash", string (sampleDigest ++ ".1700000000")), ("instance_id", .num "0")]),
    ("chanelName", string "chat_55")]

theorem sampleLogin_plain : Plain sampleLogin where
  outer members h := by
    cases h
    exact ⟨by decide, by decide⟩
  nested members h := by
    cases h
    exact ⟨by decide, by decide⟩
  timestamp hash id h head part rest hs := by
    cases h
    have hparts : Script.split (units (sampleDigest ++ ".1700000000")) '.' =
      [units sampleDigest, units "1700000000"] := by decide
    cases hs.symm.trans hparts
    exact ⟨1700000000, by decide⟩

theorem sameLogin_iff_portable_sample :
    (portedLogin Auth.sample sampleConfig (newSocket "s") none ⟨1700000000, by decide⟩ sampleLogin.toJson).isSome ∧
      SameLogin (login Auth.sample sampleNumbers sampleConfig.secretHash 1700000000 sampleLogin)
        (portedLogin Auth.sample sampleConfig (newSocket "s") none ⟨1700000000, by decide⟩ sampleLogin.toJson) := by
  have hportable : Portable Auth.sample sampleConfig.secretHash 1700000000 sampleLogin := by
    intro hash id hread
    cases hread
    exact fun _ => ⟨by decide, by decide, by decide, rfl, 0, by decide, by decide⟩
  refine ⟨by decide +kernel, ?_⟩
  have hiff := @sameLogin_iff_portable Auth.sample sampleNumbers sampleConfig sampleLogin sample_sha1.hex
    sampleLogin_plain ⟨1700000000, by decide⟩ (newSocket "s") none
  exact hiff.2 hportable

/-- The login of an online visitor that leaves the channel out. -/
def channelless : Value := object [("hash", string "606008c2000e68267cd3fb9c7f70d18ba6e4a114.1700000000")]

/-- The primitives, SHA-1 that of the hash. -/
def channellessPrimitives : Primitives :=
  { Auth.sample with
    sha1Hex := fun s =>
      if s = "1700000000Visitorsecret" then "606008c2000e68267cd3fb9c7f70d18ba6e4a114"
      else Auth.sample.sha1Hex s }

theorem channelless_accepted :
    Plain channelless ∧
      ¬SameLogin (login channellessPrimitives sampleNumbers sampleConfig.secretHash 1700000000 channelless)
        (portedLogin channellessPrimitives sampleConfig (newSocket "s") none ⟨1700000000, by decide⟩
          channelless.toJson) := by
  have hsplit : split "606008c2000e68267cd3fb9c7f70d18ba6e4a114.1700000000" '.' =
    ["606008c2000e68267cd3fb9c7f70d18ba6e4a114", "1700000000"] := by decide
  have hplain : Plain channelless :=
    { outer := fun members h => by
        cases h
        exact ⟨by decide, by decide⟩
      nested := fun members h => by cases h
      timestamp := fun hash id h head part rest hs => by
        cases h
        have hparts : Script.split (units "606008c2000e68267cd3fb9c7f70d18ba6e4a114.1700000000") '.' =
          [units "606008c2000e68267cd3fb9c7f70d18ba6e4a114", units "1700000000"] := by decide
        cases hs.symm.trans hparts
        exact ⟨1700000000, by decide⟩ }
  have hcredential : Credential channellessPrimitives
      (toWellFormed (units "606008c2000e68267cd3fb9c7f70d18ba6e4a114.1700000000")) ""
      sampleConfig.secretHash 1700000000 := by
    rw [Script.toWellFormed_units]
    exact ⟨_, _, _, 1700000000, hsplit, by decide, by decide, Or.inl (by rfl)⟩
  refine ⟨hplain, fun h => ?_⟩
  have hiff := @sameLogin_missing channellessPrimitives sampleNumbers sampleConfig channelless _ none hplain (by rfl)
    (Or.inl (by rfl)) ⟨1700000000, by decide⟩ (newSocket "s") none
  rcases hiff.1 h hcredential with hdeep | hid | hid
  · exact hdeep (by decide)
  · cases hid
  · cases hid

end NodejsHelper.Worker
