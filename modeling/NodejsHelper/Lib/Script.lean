/-
The values JavaScript's `JSON.parse` answers, beside those a decoder to UTF-8 answers on the same
text. A string of JavaScript keeps a surrogate that is no half of a character, where the decoder
reads U+FFFD. Comparing, splitting and searching come to the same on both, as long as U+FFFD is not
what is looked for.
-/
import NodejsHelper.Lib.Json
import Mathlib.Data.List.Chain

namespace Script

/-! ## Strings -/

/-- What a string is made of: characters, and surrogates without their other half. -/
inductive Rune
  | char (c : Char)
  | surrogate (code : Fin 2048)
  deriving DecidableEq

namespace Rune

/-- U+D800 to U+DBFF, the first half of a character. -/
def leads : Rune → Bool
  | char _ => false
  | surrogate code => code < 1024

/-- U+DC00 to U+DFFF, the second half. -/
def trails : Rune → Bool
  | char _ => false
  | surrogate code => 1024 ≤ code

/-- The character UTF-8 has for it. -/
def toChar : Rune → Char
  | char c => c
  | surrogate _ => '\ufffd'

theorem toChar_eq_iff {c : Char} (hc : c ≠ '\ufffd') (u : Rune) : u.toChar = c ↔ u = char c := by
  cases u with
  | char d => simp [toChar]
  | surrogate code => simp [toChar, Ne.symm hc]

end Rune

/-- A string; two halves beside each other are one character. -/
@[ext] structure Text where
  runes : List Rune
  unpaired : runes.IsChain fun a b => ¬(a.leads = true ∧ b.trails = true)

/-- The units of a text without surrogates. -/
def units (s : String) : List Rune := s.toList.map .char

/-- `String.prototype.toWellFormed`: the text a decoder to UTF-8 reads. -/
def toWellFormed (us : List Rune) : String := String.ofList (us.map Rune.toChar)

/-- `String.prototype.isWellFormed`: no surrogate is without its other half. -/
def isWellFormed (us : List Rune) : Bool := decide (us = units (toWellFormed us))

/-- `String.prototype.split` at one character. -/
def split (us : List Rune) (sep : Char) : List (List Rune) := us.splitOn (.char sep)

theorem split_ne_nil (us : List Rune) (sep : Char) : split us sep ≠ [] := List.splitOn_ne_nil _ us

/-- The last part of a split. -/
def lastPart (us : List Rune) (sep : Char) : List Rune := (split us sep).getLast (split_ne_nil us sep)

/-- `indexOf(sub) !== -1` of a string. -/
def contains (us : List Rune) (sub : String) : Bool := decide (units sub <:+: us)

theorem map_toChar_char (cs : List Char) : (cs.map Rune.char).map Rune.toChar = cs := by
  rw [List.map_map]
  exact List.map_id cs

@[simp] theorem toWellFormed_units (s : String) : toWellFormed (units s) = s := by
  rw [toWellFormed, units, map_toChar_char, String.ofList_toList]

@[simp] theorem toList_toWellFormed (us : List Rune) : (toWellFormed us).toList = us.map Rune.toChar :=
  String.toList_ofList

theorem toWellFormed_append (us vs : List Rune) : toWellFormed (us ++ vs) = toWellFormed us ++ toWellFormed vs := by
  rw [toWellFormed, List.map_append, String.ofList_append]
  rfl

theorem isWellFormed_iff {us : List Rune} : isWellFormed us = true ↔ us = units (toWellFormed us) := decide_eq_true_iff

/-- A text without surrogates, as a string of JavaScript. -/
def ofString (s : String) : Text where
  runes := units s
  unpaired := by
    rw [units, List.isChain_map]
    exact (List.pairwise_of_forall fun _ _ h => Bool.false_ne_true h.1).isChain

theorem eq_ofString_iff {t : Text} : t = ofString (toWellFormed t.runes) ↔ isWellFormed t.runes = true := by
  rw [isWellFormed_iff, Text.ext_iff]
  rfl

theorem map_eq_iff {cs : List Char} (hcs : '\ufffd' ∉ cs) {us : List Rune} :
    us.map Rune.toChar = cs ↔ us = cs.map .char := by
  constructor
  · rintro rfl
    rw [List.map_map]
    conv_lhs => rw [← List.map_id us]
    refine List.map_congr_left fun u hu => ?_
    have hc : u.toChar ≠ '\ufffd' := fun he => hcs (he ▸ List.mem_map_of_mem hu)
    exact (Rune.toChar_eq_iff hc u).1 rfl
  · rintro rfl
    exact map_toChar_char cs

/-- A string is a text without U+FFFD as soon as it is read as it. -/
theorem toWellFormed_eq_iff {s : String} (hs : '\ufffd' ∉ s.toList) {us : List Rune} :
    toWellFormed us = s ↔ us = units s := by
  rw [← String.toList_inj, toList_toWellFormed, map_eq_iff hs, units]

theorem contains_toWellFormed {sub : String} (hsub : '\ufffd' ∉ sub.toList) (us : List Rune) :
    Strings.contains (toWellFormed us) sub = contains us sub := by
  unfold contains
  rw [Bool.eq_iff_iff, Strings.contains_iff, decide_eq_true_iff, toList_toWellFormed]
  constructor
  · rintro ⟨before, behind, h⟩
    obtain ⟨us', behind', rfl, h', -⟩ := List.map_eq_append_iff.1 h.symm
    obtain ⟨before', sub', rfl, -, hsub'⟩ := List.map_eq_append_iff.1 h'
    rw [(map_eq_iff hsub).1 hsub']
    exact ⟨before', behind', rfl⟩
  · rintro ⟨before, behind, rfl⟩
    refine ⟨before.map Rune.toChar, behind.map Rune.toChar, ?_⟩
    rw [List.map_append, List.map_append, units, map_toChar_char]

theorem splitOn_map_toChar {sep : Char} (hsep : sep ≠ '\ufffd') (us : List Rune) :
    (us.map Rune.toChar).splitOn sep = (us.splitOn (.char sep)).map (List.map Rune.toChar) := by
  induction us with
  | nil => rfl
  | cons u us ih =>
    rw [List.map_cons, List.splitOn_cons_eq_if_modifyHead, List.splitOn_cons_eq_if_modifyHead, ih]
    by_cases hu : u = .char sep
    · subst hu
      simp [Rune.toChar]
    · have hc : ¬u.toChar = sep := fun he => hu ((Rune.toChar_eq_iff hsep u).1 he)
      simp only [beq_iff_eq, hu, hc, if_false]
      cases us.splitOn (.char sep) with
      | nil => rfl
      | cons part parts => rfl

theorem split_toWellFormed {sep : Char} (hsep : sep ≠ '\ufffd') (us : List Rune) :
    Strings.split (toWellFormed us) sep = (split us sep).map toWellFormed := by
  rw [Strings.split, split, toList_toWellFormed, splitOn_map_toChar hsep, List.map_map]
  rfl

theorem lastPart_toWellFormed {sep : Char} (hsep : sep ≠ '\ufffd') (us : List Rune) :
    Strings.lastPart (toWellFormed us) sep = toWellFormed (lastPart us sep) := by
  unfold Strings.lastPart lastPart
  simp only [split_toWellFormed hsep, List.getLast_map]

/-! ## Values -/

/-- A value of `JSON.parse`; a number keeps its literal and an object the order of its members. -/
inductive Value
  | null
  | bool (b : Bool)
  | num (literal : String)
  | str (s : Text)
  | arr (items : List Value)
  | obj (members : List (Text × Value))

namespace Value

/-- A property of a value, absent when it is undefined. -/
def property (v : Value) (key : String) : Option Value :=
  match v with
  | .obj members => (members.reverse.find? fun m => m.1.runes == units key).map Prod.snd
  | _ => none

mutual

/-- The value a decoder to UTF-8 reads off the same text. -/
def toJson : Value → Json
  | .null => .null
  | .bool b => .bool b
  | .num literal => .num literal
  | .str s => .str (toWellFormed s.runes)
  | .arr items => .arr (itemsToJson items)
  | .obj members => .obj (membersToJson members)

def itemsToJson : List Value → List Json
  | [] => []
  | v :: vs => toJson v :: itemsToJson vs

def membersToJson : List (Text × Value) → List (String × Json)
  | [] => []
  | (key, v) :: ms => (toWellFormed key.runes, toJson v) :: membersToJson ms

end

theorem property_cons (m : Text × Value) (ms : List (Text × Value)) (key : String) :
    property (.obj (m :: ms)) key = (property (.obj ms) key).or (if m.1.runes = units key then some m.2 else none) := by
  simp only [property, List.reverse_cons, List.find?_append, List.find?_cons, List.find?_nil, Option.map_or]
  by_cases hm : m.1.runes = units key
  · simp [hm]
  · have hb : (m.1.runes == units key) = false := by simpa using hm
    simp [hm, hb]

/-- The properties of a value are the members of the one the decoder reads. -/
theorem property_toJson {key : String} (hkey : '\ufffd' ∉ key.toList) (v : Value) :
    Json.property key v.toJson = (v.property key).map toJson := by
  cases v with
  | obj members =>
    rw [toJson]
    induction members with
    | nil => rfl
    | cons m ms ih =>
      obtain ⟨name, v⟩ := m
      rw [membersToJson, Json.property_cons, property_cons, Option.map_or, ih]
      simp only [toWellFormed_eq_iff hkey]
      split
      · rfl
      · rfl
  | null | bool _ | num _ | str _ | arr _ => rfl

end Value

end Script
