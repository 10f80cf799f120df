/-
The functions of Go's `strings` and `strconv` a text protocol uses, on Lean strings: `Contains`,
`Split` at one character, the last segment of a split, `ParseInt` in base 10 for 64 bits and
`Itoa`; how they act on concatenations; and the bytes of a text.
-/
import Mathlib.Algebra.Group.Nat.Defs
import Mathlib.Algebra.Group.Int.Defs
import Mathlib.Data.List.DropRight
import Mathlib.Data.List.Infix
import Mathlib.Tactic.Common

namespace Strings

/-! ## Definitions -/

/-- `strings.Contains`. -/
def contains (s sub : String) : Bool := decide (sub.toList <:+: s.toList)

/-- `strings.Split` at a one-character separator. -/
def split (s : String) (sep : Char) : List String := (s.toList.splitOn sep).map String.ofList

theorem split_ne_nil (s : String) (sep : Char) : split s sep ≠ [] := by
  unfold split
  rw [Ne, List.map_eq_nil_iff]
  exact List.splitOn_ne_nil sep s.toList

/-- The last segment of a split: `bits[len(bits)-1]`. -/
def lastPart (s : String) (sep : Char) : String := (split s sep).getLast (split_ne_nil s sep)

/-- The value of a string of decimal digits. -/
def digitsValue (ds : List Char) : Nat := Nat.ofDigitChars 10 ds 0

/-- `strconv.ParseInt(s, 10, 64)`: an optional sign and decimal digits, within 64 bits. -/
def parseInt64 (s : String) : Option Int :=
  let (neg, ds) := match s.toList with
    | '+' :: ds => (false, ds)
    | '-' :: ds => (true, ds)
    | ds => (false, ds)
  if ds.isEmpty || !ds.all Char.isDigit then none
  else if neg then
    if digitsValue ds ≤ 2 ^ 63 then some (-(digitsValue ds : Int)) else none
  else if digitsValue ds < 2 ^ 63 then some (digitsValue ds : Int) else none

/-- An `int64` holds the number. -/
def IsInt64 (n : Int) : Prop := -2 ^ 63 ≤ n ∧ n < 2 ^ 63

instance (n : Int) : Decidable (IsInt64 n) := inferInstanceAs (Decidable (_ ∧ _))

theorem isInt64_of_parseInt64 {s : String} {n : Int} (h : parseInt64 s = some n) : IsInt64 n := by
  unfold parseInt64 at h
  split at h
  rename_i neg ds _
  split_ifs at h
  · cases h
    constructor <;> omega
  · cases h
    constructor <;> omega

/-- `strconv.Itoa`. -/
def itoa (n : Int) : String := toString n

/-- `unicode.IsSpace`. -/
def isSpace (c : Char) : Bool :=
  c ∈ ['\t', '\n', '\x0b', '\x0c', '\r', ' ', '\u0085', '\u00a0', '\u1680', '\u2028', '\u2029', '\u202f', '\u205f',
    '\u3000'] || (0x2000 ≤ c.toNat && c.toNat ≤ 0x200a)

/-- `bytes.TrimSpace`. -/
def trimSpace (s : String) : String := String.ofList ((s.toList.dropWhile isSpace).rdropWhile isSpace)

/-! ## Containment -/

theorem contains_iff (s sub : String) : contains s sub = true ↔ sub.toList <:+: s.toList := by
  simp [contains]

/-- A string without some character of `sub` does not contain `sub`. -/
theorem contains_eq_false_of_notMem {s sub : String} {c : Char} (hc : c ∈ sub.toList) (hs : c ∉ s.toList) :
    contains s sub = false := by
  rw [Bool.eq_false_iff, Ne, contains_iff]
  exact fun h => hs (h.subset hc)

theorem contains_append_left {s sub : String} (h : contains s sub = true) (t : String) :
    contains (s ++ t) sub = true := by
  rw [contains_iff, String.toList_append] at *
  exact h.trans (List.prefix_append ..).isInfix

/-! ## Splits -/

theorem split_of_notMem {s : String} {sep : Char} (h : sep ∉ s.toList) : split s sep = [s] := by
  unfold split
  rw [List.splitOn_eq_singleton h]
  simp

/-- A split of a concatenation whose first part has no separator. -/
theorem split_append_sep {a b : String} {sep : Char} (h : sep ∉ a.toList) :
    split (a ++ String.singleton sep ++ b) sep = a :: split b sep := by
  unfold split
  rw [String.toList_append, String.toList_append, String.toList_singleton, List.append_assoc,
    List.singleton_append, List.splitOn_append_cons_self, List.splitOn_eq_singleton h]
  simp

/-- No part of a split holds the separator. -/
theorem notMem_of_mem_split {s part : String} {sep : Char} (h : part ∈ split s sep) : sep ∉ part.toList := by
  have hl : ∀ l : List Char, ∀ part ∈ l.splitOn sep, sep ∉ part := by
    intro l
    induction l with
    | nil => simp
    | cons c l ih =>
      rw [List.splitOn_cons_eq_if_modifyHead]
      split
      · simpa using ih
      · rename_i hc
        cases hs : l.splitOn sep with
        | nil => simp
        | cons head rest =>
          rw [hs] at ih
          intro part hpart
          rcases List.mem_cons.1 hpart with rfl | hpart
          · have := ih head (List.mem_cons_self ..)
            simp only [beq_iff_eq] at hc
            simp only [List.mem_cons, not_or]
            exact ⟨Ne.symm hc, this⟩
          · exact ih part (List.mem_cons_of_mem _ hpart)
  obtain ⟨l, hmem, rfl⟩ := List.mem_map.1 h
  rw [String.toList_ofList]
  exact hl s.toList l hmem

/-- A split of a concatenation whose last part has no separator. -/
theorem split_append_last (a : String) {b : String} {sep : Char} (h : sep ∉ b.toList) :
    split (a ++ String.singleton sep ++ b) sep = split a sep ++ [b] := by
  unfold split
  rw [String.toList_append, String.toList_append, String.toList_singleton, List.append_assoc,
    List.singleton_append, List.splitOn_append_cons_self, List.splitOn_eq_singleton h]
  simp

/-- A text with one separator is its two parts around it. -/
theorem eq_of_split_pair {s a b : String} {sep : Char} (h : split s sep = [a, b]) :
    s = a ++ String.singleton sep ++ b := by
  have hlist : s.toList.splitOn sep = [a.toList, b.toList] := by
    have hmap := congrArg (List.map String.toList) h
    simpa [split, List.map_map, Function.comp_def] using hmap
  have hjoin : [sep].intercalate (s.toList.splitOn sep) = s.toList := List.intercalate_splitOn sep
  rw [hlist] at hjoin
  refine String.toList_inj.1 ?_
  rw [← hjoin]
  simp [List.intercalate]

theorem notMem_lastPart (s : String) (sep : Char) : sep ∉ (lastPart s sep).toList :=
  notMem_of_mem_split (List.getLast_mem _)

/-- The last segment is what follows the last separator. -/
theorem lastPart_append_sep (a : String) {b : String} {sep : Char} (h : sep ∉ b.toList) :
    lastPart (a ++ String.singleton sep ++ b) sep = b := by
  unfold lastPart
  simp only [split_append_last a h, List.getLast_append_singleton]

/-! ## Trimming -/

/-- A text without white space at its ends is left as it is. -/
theorem trimSpace_eq_self {s : String} (hhead : ∀ h : s.toList ≠ [], isSpace (s.toList.head h) = false)
    (hlast : ∀ h : s.toList ≠ [], isSpace (s.toList.getLast h) = false) : trimSpace s = s := by
  have hl : s.toList.dropWhile isSpace = s.toList := by
    cases hs : s.toList with
    | nil => rfl
    | cons c l =>
      simp only [hs, List.head_cons] at hhead
      rw [List.dropWhile_cons_of_neg (by simpa using hhead)]
  have hr : s.toList.rdropWhile isSpace = s.toList :=
    List.rdropWhile_eq_self_iff.2 fun h => by simp [hlast h]
  unfold trimSpace
  rw [hl, hr, String.ofList_toList]

/-! ## Decimal numbers -/

theorem isDigit_of_mem_repr {n : Nat} {c : Char} (h : c ∈ n.repr.toList) : c.isDigit = true := by
  rw [Nat.toList_repr] at h
  exact Nat.isDigit_of_mem_toDigits (by decide) (by decide) h

theorem itoa_ofNat (n : Nat) : itoa (n : Int) = n.repr := by
  unfold itoa
  rw [Int.toString_eq_repr, Int.repr_eq_if]
  simp

/-- A decimal number is written with digits and a minus sign only. -/
theorem mem_itoa {n : Int} {c : Char} (h : c ∈ (itoa n).toList) : c = '-' ∨ c.isDigit = true := by
  unfold itoa at h
  rw [Int.toString_eq_repr, Int.repr_eq_if] at h
  split at h
  · exact Or.inr (isDigit_of_mem_repr h)
  · rw [String.toList_append, List.mem_append] at h
    rcases h with h | h
    · exact Or.inl (by simpa using h)
    · exact Or.inr (isDigit_of_mem_repr h)

theorem notMem_itoa {n : Int} {c : Char} (h1 : c ≠ '-') (h2 : c.isDigit = false) : c ∉ (itoa n).toList := by
  intro h
  rcases mem_itoa h with h | h
  · exact h1 h
  · rw [h2] at h; cases h

theorem digitsValue_repr (n : Nat) : digitsValue n.repr.toList = n := by
  unfold digitsValue
  rw [Nat.toList_repr]
  exact Nat.ofDigitChars_toDigits (by decide) (by decide)

/-- What is written as a natural number is this number. -/
theorem eq_of_itoa_ofNat {n : Nat} {i : Int} (h : itoa (n : Int) = itoa i) : i = n := by
  rw [itoa_ofNat] at h
  cases i with
  | ofNat m =>
    have hrepr : n.repr = m.repr := h.trans (itoa_ofNat m)
    rw [← digitsValue_repr n, hrepr, digitsValue_repr]
    rfl
  | negSucc m =>
    have hminus : '-' ∈ n.repr.toList := by
      rw [h, itoa, Int.toString_eq_repr, Int.repr_eq_if, if_neg (by omega), String.toList_append]
      exact List.mem_append_left _ (by decide)
    cases isDigit_of_mem_repr hminus

/-- `ParseInt` reads back what `Itoa` wrote for a non-negative 64-bit number. -/
theorem parseInt64_repr {n : Nat} (h : n < 2 ^ 63) : parseInt64 n.repr = some (n : Int) := by
  have hd : ∀ c ∈ n.repr.toList, c.isDigit = true := fun c => isDigit_of_mem_repr
  have hv := digitsValue_repr n
  have hne : n.repr.toList ≠ [] := by simp
  unfold parseInt64
  cases hl : n.repr.toList with
  | nil => exact absurd hl hne
  | cons c ds =>
    rw [hl] at hd hv
    have hc : c.isDigit = true := hd c (List.mem_cons_self ..)
    have hp : c ≠ '+' := by rintro rfl; simp at hc
    have hm : c ≠ '-' := by rintro rfl; simp at hc
    have hall : (c :: ds).all Char.isDigit = true := List.all_eq_true.2 hd
    split
    rename_i neg ds' heq
    split at heq
    · rename_i h'; exact absurd (List.cons.inj h').1 hp
    · rename_i h'; exact absurd (List.cons.inj h').1 hm
    · cases heq
      simp only [hall, hv, List.isEmpty_cons, Bool.not_true, Bool.or_false, Bool.false_eq_true, if_false, if_pos h]

/-! ## Bytes -/

/-- The bytes of a text, in UTF-8. -/
def utf8 (s : String) : List UInt8 := s.toUTF8.data.toList

/-- The text of bytes, absent when they are no UTF-8. -/
def ofUtf8 (bytes : List UInt8) : Option String := String.fromUTF8? ⟨bytes.toArray⟩

@[simp] theorem ofUtf8_utf8 (s : String) : ofUtf8 (utf8 s) = some s := by
  unfold ofUtf8 utf8
  simp only [Array.toArray_toList, String.fromUTF8?, String.toUTF8_eq_toByteArray]
  rw [dif_pos s.isValidUTF8]
  simp [String.fromUTF8]

/-- The runes a decoder reads one by one off at most `n` bytes (`utf8.DecodeRune`): a byte that starts no
character of UTF-8 is read as U+FFFD alone. -/
def decodeRunes : ℕ → List UInt8 → List Char
  | 0, _ => []
  | _ + 1, [] => []
  | n + 1, b :: bs =>
    match ByteArray.utf8DecodeChar? ⟨(b :: bs).toArray⟩ 0 with
    | some c => c :: decodeRunes n ((b :: bs).drop c.utf8Size)
    | none => '\ufffd' :: decodeRunes n bs

/-- Any bytes as a text. -/
def decodeUtf8 (bytes : List UInt8) : String := String.ofList (decodeRunes bytes.length bytes)

theorem decodeRunes_utf8Encode (cs : List Char) {n : ℕ} (h : cs.utf8Encode.data.toList.length ≤ n) :
    decodeRunes n cs.utf8Encode.data.toList = cs := by
  induction cs generalizing n with
  | nil =>
    cases n with
    | zero => rfl
    | succ n => rfl
  | cons c cs ih =>
    have hcons : (c :: cs).utf8Encode.data.toList = String.utf8EncodeChar c ++ cs.utf8Encode.data.toList := by
      simp [List.utf8Encode]
    have hlen : (String.utf8EncodeChar c).length = c.utf8Size := String.length_utf8EncodeChar c
    have hpos := c.utf8Size_pos
    rw [hcons, List.length_append, hlen] at h
    obtain ⟨n, rfl⟩ : ∃ m, n = m + 1 := ⟨n - 1, by omega⟩
    obtain ⟨b, bs, hb⟩ : ∃ b bs, (c :: cs).utf8Encode.data.toList = b :: bs := by
      refine List.exists_cons_of_length_pos ?_
      rw [hcons, List.length_append]
      omega
    have hdec : ByteArray.utf8DecodeChar? ⟨(b :: bs).toArray⟩ 0 = some c := by
      rw [← hb, Array.toArray_toList]
      exact List.utf8DecodeChar?_utf8Encode_cons
    rw [hb, decodeRunes, hdec]
    simp only
    rw [← hb, hcons, List.drop_left' hlen, ih (by omega)]

@[simp] theorem decodeUtf8_utf8 (s : String) : decodeUtf8 (utf8 s) = s := by
  have hs : utf8 s = s.toList.utf8Encode.data.toList := by
    rw [utf8, String.toUTF8_eq_toByteArray, ← String.toByteArray_ofList, String.ofList_toList]
  rw [decodeUtf8, hs, decodeRunes_utf8Encode _ le_rfl, String.ofList_toList]

end Strings
