/-
JSON values and the typed decoding of Go's `encoding/json`: what `Unmarshal` leaves in a variable
of a given type, together with whether it reported an error. A type error does not stop the
decoding of the remaining members, `null` leaves a variable as it was, keys match field names
without regard to case, and a later member of the same name overwrites an earlier one. A value whose
arrays and objects are nested too deeply is not decoded at all.
-/
import NodejsHelper.Lib.Strings

/-- A JSON value; a number keeps its literal and an object the order of its members. -/
inductive Json
  | null
  | bool (b : Bool)
  | num (literal : String)
  | str (s : String)
  | arr (items : List Json)
  | obj (members : List (String × Json))

namespace Json

/-! ## Nesting -/

mutual

/-- How deeply arrays and objects are nested in a value. -/
def depth : Json → Nat
  | .arr items => depthItems items + 1
  | .obj members => depthMembers members + 1
  | _ => 0

def depthItems : List Json → Nat
  | [] => 0
  | v :: vs => max (depth v) (depthItems vs)

def depthMembers : List (String × Json) → Nat
  | [] => 0
  | (_, v) :: ms => max (depth v) (depthMembers ms)

end

/-- `maxNestingDepth`: a text with more levels is an error to `Unmarshal` and `Valid`. -/
def maxNestingDepth : Nat := 10000

theorem depthItems_le {items : List Json} {n : Nat} : depthItems items ≤ n ↔ ∀ v ∈ items, depth v ≤ n := by
  induction items with
  | nil => simp [depthItems]
  | cons v vs ih => rw [depthItems, Nat.max_le, ih, List.forall_mem_cons]

theorem depthMembers_le {members : List (String × Json)} {n : Nat} :
    depthMembers members ≤ n ↔ ∀ m ∈ members, depth m.2 ≤ n := by
  induction members with
  | nil => simp [depthMembers]
  | cons m ms ih => rw [depthMembers, Nat.max_le, ih, List.forall_mem_cons]

theorem depth_arr_le {items : List Json} {n : Nat} : depth (.arr items) ≤ n + 1 ↔ ∀ v ∈ items, depth v ≤ n := by
  rw [depth, Nat.add_le_add_iff_right, depthItems_le]

theorem depth_obj_le {members : List (String × Json)} {n : Nat} :
    depth (.obj members) ≤ n + 1 ↔ ∀ m ∈ members, depth m.2 ≤ n := by
  rw [depth, Nat.add_le_add_iff_right, depthMembers_le]

/-! ## Members -/

/-- A property of an object: the last member of the name counts. -/
def property (key : String) : Json → Option Json
  | .obj members => (members.reverse.find? fun m => m.1 == key).map (·.2)
  | _ => none

theorem property_cons (m : String × Json) (ms : List (String × Json)) (key : String) :
    property key (.obj (m :: ms)) = (property key (.obj ms)).or (if m.1 = key then some m.2 else none) := by
  simp only [property, List.reverse_cons, List.find?_append, List.find?_cons, List.find?_nil, Option.map_or]
  by_cases hm : m.1 = key
  · simp [hm]
  · have hb : (m.1 == key) = false := by simpa using hm
    simp [hm, hb]

theorem property_of_notMem {key : String} : ∀ {ms : List (String × Json)}, key ∉ ms.map Prod.fst →
    property key (.obj ms) = none
  | [], _ => rfl
  | m :: ms, h => by
    rw [List.map_cons, List.mem_cons, not_or] at h
    rw [property_cons, property_of_notMem h.2, if_neg (Ne.symm h.1)]
    rfl

/-! ## Decoding -/

/-- The character a key character is matched as: case is ignored, and the long s and the Kelvin sign
count as the letters they fold to. -/
def foldChar (c : Char) : Char :=
  if c = 'ſ' then 'S' else if c = '\u212A' then 'K' else c.toUpper

/-- Whether an object key names a field. -/
def keyMatches (key field : String) : Bool := key.toList.map foldChar == field.toList.map foldChar

/-- Decode into a `string`. -/
def intoString (old : String) : Json → String × Bool
  | null => (old, true)
  | str s => (s, true)
  | _ => (old, false)

/-- Decode into a `bool`. -/
def intoBool (old : Bool) : Json → Bool × Bool
  | null => (old, true)
  | bool b => (b, true)
  | _ => (old, false)

/-- Decode into a `*int` or a `*int64`: `null` clears the pointer, anything else allocates it. -/
def intoIntPtr (old : Option Int) : Json → Option Int × Bool
  | null => (none, true)
  | num literal =>
    match Strings.parseInt64 literal with
    | some n => (some n, true)
    | none => (some (old.getD 0), false)
  | _ => (some (old.getD 0), false)

/-- Decode into a `json.RawMessage`: the value itself, `null` included. -/
def intoRaw (v : Json) : Option Json × Bool := (some v, true)

/-- Decode into a struct: `field key value record` decodes one member. -/
def intoStruct {ρ : Type} (field : String → Json → ρ → ρ × Bool) (zero : ρ) : Json → ρ × Bool
  | null => (zero, true)
  | obj members =>
    members.foldl (fun acc m => ((field m.1 m.2 acc.1).1, acc.2 && (field m.1 m.2 acc.1).2)) (zero, true)
  | _ => (zero, false)

/-- A pointer is to a number an `int64` holds. -/
theorem isInt64_intoIntPtr {old : Option Int} (h : ∀ n ∈ old, Strings.IsInt64 n) (v : Json) :
    ∀ n ∈ (intoIntPtr old v).1, Strings.IsInt64 n := by
  have hkept : Strings.IsInt64 (old.getD 0) := by
    cases old with
    | none => decide
    | some n => exact h n rfl
  intro n hn
  cases v with
  | null => cases hn
  | num literal =>
    rw [intoIntPtr] at hn
    split at hn
    · rename_i m hm
      cases hn
      exact Strings.isInt64_of_parseInt64 hm
    · cases hn
      exact hkept
  | bool b | str s | arr items | obj members =>
    cases hn
    exact hkept

@[simp] theorem intoString_str (old s : String) : intoString old (str s) = (s, true) := rfl
@[simp] theorem intoString_null (old : String) : intoString old null = (old, true) := rfl
@[simp] theorem intoStruct_null {ρ : Type} (field : String → Json → ρ → ρ × Bool) (zero : ρ) :
    intoStruct field zero null = (zero, true) := rfl

/-- The first member is decoded into the record before the others, and its error is kept. -/
theorem intoStruct_cons {ρ : Type} (field : String → Json → ρ → ρ × Bool) (r : ρ) (m : String × Json)
    (ms : List (String × Json)) :
    intoStruct field r (obj (m :: ms)) =
      ((intoStruct field (field m.1 m.2 r).1 (obj ms)).1,
        (field m.1 m.2 r).2 && (intoStruct field (field m.1 m.2 r).1 (obj ms)).2) := by
  let step := fun (acc : ρ × Bool) (m : String × Json) => ((field m.1 m.2 acc.1).1, acc.2 && (field m.1 m.2 acc.1).2)
  have hok : ∀ (ms : List (String × Json)) (r : ρ) (ok : Bool),
      ms.foldl step (r, ok) = ((ms.foldl step (r, true)).1, ok && (ms.foldl step (r, true)).2) := by
    intro ms
    induction ms with
    | nil => intro r ok; simp
    | cons m ms ih =>
      intro r ok
      have hboth : ∀ ok', step (r, ok') m = ((field m.1 m.2 r).1, ok' && (field m.1 m.2 r).2) := fun _ => rfl
      rw [List.foldl_cons, List.foldl_cons, hboth, hboth, ih, ih _ (true && _), Bool.true_and, Bool.and_assoc]
  exact hok ms _ _

/-- What every member's decoding keeps holds of the record, when the members are as the decoding needs them. -/
theorem intoStruct_invariant {ρ : Type} {field : String → Json → ρ → ρ × Bool} {P : ρ → Prop} {Q : Json → Prop}
    (hf : ∀ key v r, Q v → P r → P (field key v r).1) :
    ∀ {zero : ρ} {v : Json}, P zero → (∀ members, v = .obj members → ∀ m ∈ members, Q m.2) →
      P (intoStruct field zero v).1 := by
  intro zero v hz hq
  cases v with
  | obj members =>
    have hall := hq members rfl
    clear hq
    induction members generalizing zero with
    | nil => exact hz
    | cons m ms ih =>
      rw [intoStruct_cons]
      exact ih (hf m.1 m.2 zero (hall m List.mem_cons_self) hz) fun m' hm' => hall m' (List.mem_cons_of_mem m hm')
  | _ => exact hz

end Json
