/-
The texts of the browser client (`socketcluster.js`): what `SCTransport._onMessage` makes of a text it
receives, and the texts `emitObject`, `sendObjectBatch` and `Response.end` stringify.
-/
import NodejsHelper.Lib.JsonRoundtrip

namespace NodejsHelper.SocketCluster

open Strings Json

/-! ## What the client receives -/

/-- What a text means to the client. -/
inductive Incoming
  | ping
  | event (name : Json) (data cid : Option Json)
  | response (rid : Json) (data error : Option Json)
  | raw

/-- A property that `!= null`. -/
def present (key : String) (v : Json) : Option Json :=
  match property key v with
  | some .null => none
  | p => p

/-- `SCTransport._handleEventObject`. -/
def handleEventObject (v : Json) : Incoming :=
  match present "event" v with
  | some name => .event name (property "data" v) (property "cid" v)
  | none =>
    match present "rid" v with
    | some rid => .response rid (property "data" v) (property "error" v)
    | none => .raw

/-- `validJSONStartRegex`. -/
def validJSONStart (text : String) : Bool :=
  match skipSpace text.toList with
  | '{' :: _ | '[' :: _ => true
  | _ => false

/-- `decode` of the formatter: a text that is no JSON stays a string. -/
def decode (text : String) : Json :=
  if text = "#1" ∨ text = "#2" then .str text
  else if validJSONStart text then (read text).getD (.str text)
  else .str text

/-- `obj == '#1'`: an array is compared by the text of its items. -/
def isPing : Json → Bool
  | .str s => s == "#1"
  | .arr [v] => isPing v
  | _ => false

mutual

/-- To compare the value with a text throws: an object with a member `toString`, which is no function, is no text. -/
def throwsAsText : Json → Bool
  | .obj members => (property "toString" (.obj members)).isSome
  | .arr items => someThrowsAsText items
  | _ => false

def someThrowsAsText : List Json → Bool
  | [] => false
  | v :: vs => throwsAsText v || someThrowsAsText vs

end

/-- `SCTransport._onMessage`. -/
def onMessage (text : String) : List Incoming :=
  if throwsAsText (decode text) then []
  else if isPing (decode text) then [.ping]
  else
    match decode text with
    | .arr items => items.map handleEventObject
    | v => [handleEventObject v]

/-! ## What the client sends -/

/-- The `simpleEventObject` of `emitObject`. -/
structure EventObject where
  event : String
  data : Option Json
  cid : Option ℕ

def EventObject.toJson (e : EventObject) : Json :=
  .obj (("event", .str e.event) :: (omitEmpty "data" e.data ++ omitEmpty "cid" (e.cid.map fun n => .num (itoa n))))

/-- The event can be stringified, and its call id is one an `int64` holds. -/
structure EventObject.Emittable (e : EventObject) : Prop where
  data : ∀ v ∈ e.data, Writable v
  cid : ∀ n ∈ e.cid, n < 2 ^ 63

/-- A text of `sendObjectSingle` or of `sendObjectBatch`, the pong of `_onMessage`, or the response
`Response._respond` sends to an event of the server. -/
inductive Sent
  | single (e : EventObject)
  | batch (es : List EventObject)
  | pong
  | reply (rid : Json) (error data : Option Json)

/-- The `responseData` of `Response.end` and `Response.error`. -/
def responseData (rid : Json) (error data : Option Json) : Json :=
  .obj (("rid", rid) :: (omitEmpty "error" error ++ omitEmpty "data" data))

def Sent.text : Sent → String
  | .single e => stringify e.toJson
  | .batch es => stringify (.arr (es.map EventObject.toJson))
  | .pong => "#2"
  | .reply rid error data => stringify (responseData rid error data)

def Sent.Emittable : Sent → Prop
  | .single e => e.Emittable
  | .batch es => ∀ e ∈ es, e.Emittable
  | .pong => True
  | .reply rid error data => Writable rid ∧ (∀ v ∈ error, Writable v) ∧ ∀ v ∈ data, Writable v

/-- The text is nested no deeper than a node reads. -/
def Sent.Shallow : Sent → Prop
  | .single e => e.toJson.depth ≤ maxNestingDepth
  | .batch es => (Json.arr (es.map EventObject.toJson)).depth ≤ maxNestingDepth
  | .pong => True
  | .reply rid error data => (responseData rid error data).depth ≤ maxNestingDepth

instance : (text : Sent) → Decidable text.Shallow
  | .single e => inferInstanceAs (Decidable (e.toJson.depth ≤ maxNestingDepth))
  | .batch es => inferInstanceAs (Decidable ((Json.arr (es.map EventObject.toJson)).depth ≤ maxNestingDepth))
  | .pong => inferInstanceAs (Decidable True)
  | .reply rid error data => inferInstanceAs (Decidable ((responseData rid error data).depth ≤ maxNestingDepth))

/-- A text of one event whose data nests nothing in it. -/
def Sent.flat : Sent → Bool
  | .single ⟨_, none, _⟩ => true
  | .single ⟨_, some (.obj members), _⟩ => members.all fun m =>
    match m.2 with
    | .arr _ | .obj _ => false
    | _ => true
  | _ => false

theorem Sent.shallow_of_flat {text : Sent} (h : text.flat = true) : text.Shallow := by
  have hcid : ∀ cid : Option ℕ, ∀ m ∈ omitEmpty "cid" (cid.map fun n => Json.num (itoa n)), depth m.2 ≤ 1 := by
    intro cid m hm
    cases cid with
    | none => cases hm
    | some n =>
      rw [List.mem_singleton.1 hm]
      exact Nat.zero_le 1
  have hevent : ∀ (name : String) (cid : Option ℕ) (data : Option Json), (∀ v ∈ data, depth v ≤ 1) →
      (EventObject.toJson ⟨name, data, cid⟩).depth ≤ 2 := by
    intro name cid data hdata
    refine depth_obj_le.2 (List.forall_mem_cons.2 ⟨Nat.zero_le 1,
      List.forall_mem_append.2 ⟨fun m hm => ?_, hcid cid⟩⟩)
    cases data with
    | none => cases hm
    | some v =>
      rw [List.mem_singleton.1 hm]
      exact hdata v rfl
  have hlimit : 2 ≤ maxNestingDepth := by decide
  unfold Sent.flat at h
  split at h
  · exact (hevent _ _ none (by rintro v ⟨⟩)).trans hlimit
  · rename_i members _
    refine (hevent _ _ _ ?_).trans hlimit
    rintro v ⟨⟩
    refine depth_obj_le.2 fun m hm => ?_
    have hm' := List.all_eq_true.1 h m hm
    obtain ⟨key, v⟩ := m
    cases v with
    | arr items => cases hm'
    | obj members => cases hm'
    | null | bool b | num l | str s => exact Nat.zero_le 0
  · cases h

theorem EventObject.Emittable.writable {e : EventObject} (h : e.Emittable) : Writable e.toJson := by
  refine .obj (List.forall_mem_cons.2 ⟨.str _, List.forall_mem_append.2 ⟨writable_omitEmpty h.data,
    writable_omitEmpty ?_⟩⟩)
  intro w hw
  obtain ⟨n, -, rfl⟩ := Option.map_eq_some_iff.1 hw
  exact writable_num n

theorem writable_responseData {rid : Json} {error data : Option Json} (hrid : Writable rid)
    (herror : ∀ v ∈ error, Writable v) (hdata : ∀ v ∈ data, Writable v) : Writable (responseData rid error data) :=
  .obj (List.forall_mem_cons.2 ⟨hrid, List.forall_mem_append.2 ⟨writable_omitEmpty herror, writable_omitEmpty hdata⟩⟩)

end NodejsHelper.SocketCluster
