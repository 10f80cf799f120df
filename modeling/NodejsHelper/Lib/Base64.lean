/-
The unpadded URL-safe base64 encoding (`base64.RawURLEncoding`): its 64 characters, the encoder,
the decoder (which skips line breaks and ignores the spare bits of the last character), and that
decoding inverts encoding.
-/
import Mathlib.Data.List.Nodup
import Mathlib.Tactic.Common

namespace Base64

/-- The characters of the alphabet, in the order of their values. -/
def alphabet : List Char :=
  "ABCDEFGHIJKLMNOPQRSTUVWXYZabcdefghijklmnopqrstuvwxyz0123456789-_".toList

/-- The character of a six-bit value. -/
def digit (n : Nat) : Char := alphabet.getD n 'A'

/-- The six-bit value of a character, absent outside the alphabet. -/
def value (c : Char) : Option Nat := alphabet.findIdx? (· == c)

/-- Bytes to six-bit values: three bytes to four, and a shorter end to two or three. -/
def pack : List UInt8 → List Nat
  | [] => []
  | [a] => [a.toNat / 4, a.toNat % 4 * 16]
  | [a, b] => [a.toNat / 4, a.toNat % 4 * 16 + b.toNat / 16, b.toNat % 16 * 4]
  | a :: b :: c :: rest =>
    a.toNat / 4 :: (a.toNat % 4 * 16 + b.toNat / 16) :: (b.toNat % 16 * 4 + c.toNat / 64) ::
      (c.toNat % 64) :: pack rest

/-- Six-bit values back to bytes; a single value left over is an error. -/
def unpack : List Nat → Option (List UInt8)
  | [] => some []
  | [_] => none
  | [a, b] => some [UInt8.ofNat (a * 4 + b / 16)]
  | [a, b, c] => some [UInt8.ofNat (a * 4 + b / 16), UInt8.ofNat (b % 16 * 16 + c / 4)]
  | a :: b :: c :: d :: rest =>
    (unpack rest).map fun bytes =>
      UInt8.ofNat (a * 4 + b / 16) :: UInt8.ofNat (b % 16 * 16 + c / 4) ::
        UInt8.ofNat (c % 4 * 64 + d) :: bytes

/-- `RawURLEncoding.EncodeToString`. -/
def encode (bytes : List UInt8) : String := String.ofList ((pack bytes).map digit)

/-- `RawURLEncoding.DecodeString`. -/
def decode (s : String) : Option (List UInt8) :=
  ((s.toList.filter fun c => c != '\r' && c != '\n').mapM value).bind unpack

/-! ## Round trip -/

theorem length_alphabet : alphabet.length = 64 := by decide

/-- No character stands for two values. -/
theorem nodup_alphabet : alphabet.Nodup := by
  have hcodes : (alphabet.map Char.toNat).Nodup := by decide
  exact hcodes.of_map

theorem digit_eq {n : Nat} (h : n < alphabet.length) : digit n = alphabet[n] := by
  simp [digit, h]

theorem value_digit {n : Nat} (h : n < 64) : value (digit n) = some n := by
  rw [← length_alphabet] at h
  rw [digit_eq h, value, List.findIdx?_eq_some_iff_getElem]
  refine ⟨h, by simp, fun j hj => ?_⟩
  have hne : j ≠ n := by omega
  simpa [nodup_alphabet.getElem_inj_iff] using hne

theorem digit_mem {n : Nat} (h : n < 64) : digit n ∈ alphabet := by
  rw [← length_alphabet] at h
  rw [digit_eq h]
  exact List.getElem_mem h

theorem pack_lt : ∀ (bytes : List UInt8), ∀ n ∈ pack bytes, n < 64
  | [], n, h => by cases h
  | [a], n, h => by
    have := a.toNat_lt
    simp only [pack, List.mem_cons, List.not_mem_nil, or_false] at h
    omega
  | [a, b], n, h => by
    have := a.toNat_lt
    have := b.toNat_lt
    simp only [pack, List.mem_cons, List.not_mem_nil, or_false] at h
    omega
  | a :: b :: c :: rest, n, h => by
    have := a.toNat_lt
    have := b.toNat_lt
    have := c.toNat_lt
    simp only [pack, List.mem_cons] at h
    rcases h with h | h | h | h | h
    · omega
    · omega
    · omega
    · omega
    · exact pack_lt rest n h

/-- The byte a pair of six-bit values spells. -/
theorem ofNat_eq {a : UInt8} {n : Nat} (h : n = a.toNat) : UInt8.ofNat n = a := by
  subst h; exact UInt8.ofNat_toNat

theorem unpack_pack : ∀ bytes : List UInt8, unpack (pack bytes) = some bytes
  | [] => rfl
  | [a] => by
    have := a.toNat_lt
    simp only [pack, unpack]
    rw [ofNat_eq (a := a) (by omega)]
  | [a, b] => by
    have := a.toNat_lt
    have := b.toNat_lt
    simp only [pack, unpack]
    rw [ofNat_eq (a := a) (by omega), ofNat_eq (a := b) (by omega)]
  | a :: b :: c :: rest => by
    have := a.toNat_lt
    have := b.toNat_lt
    have := c.toNat_lt
    simp only [pack, unpack]
    rw [unpack_pack rest, ofNat_eq (a := a) (by omega), ofNat_eq (a := b) (by omega),
      ofNat_eq (a := c) (by omega)]
    rfl

theorem mapM_value_digit : ∀ ns : List Nat, (∀ n ∈ ns, n < 64) → (ns.map digit).mapM value = some ns
  | [], _ => rfl
  | n :: ns, h => by
    rw [List.map_cons, List.mapM_cons, value_digit (h n (List.mem_cons_self ..)),
      mapM_value_digit ns fun m hm => h m (List.mem_cons_of_mem _ hm)]
    rfl

/-- The encoding is written with the characters of the alphabet only. -/
theorem mem_alphabet_of_mem_encode {bytes : List UInt8} {c : Char} (h : c ∈ (encode bytes).toList) :
    c ∈ alphabet := by
  unfold encode at h
  rw [String.toList_ofList] at h
  obtain ⟨n, hn, rfl⟩ := List.mem_map.1 h
  exact digit_mem (pack_lt bytes n hn)

/-- A character outside the alphabet, such as a separator, is in no encoding. -/
theorem notMem_encode {bytes : List UInt8} {c : Char} (h : c ∉ alphabet) : c ∉ (encode bytes).toList :=
  fun hc => h (mem_alphabet_of_mem_encode hc)

/-- Decoding inverts encoding. -/
theorem decode_encode (bytes : List UInt8) : decode (encode bytes) = some bytes := by
  unfold decode
  have hkeep : (encode bytes).toList.filter (fun c => c != '\r' && c != '\n') = (pack bytes).map digit := by
    rw [List.filter_eq_self.2]
    · unfold encode; rw [String.toList_ofList]
    · -- line ends are dropped, and an encoding has none
      intro c hc
      have hr : c ≠ '\r' := by rintro rfl; exact notMem_encode (by decide) hc
      have hn : c ≠ '\n' := by rintro rfl; exact notMem_encode (by decide) hc
      simp [hr, hn]
  rw [hkeep, mapM_value_digit _ (pack_lt bytes), Option.bind_some, unpack_pack]

end Base64
