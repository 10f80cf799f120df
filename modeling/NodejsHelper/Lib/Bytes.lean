/-
Byte streams: reads of an exact number of bytes, unsigned numbers in big-endian order, the signed
reading of 64 bits, and the exclusive or of a stream with a repeated four byte mask.
-/
import Mathlib.Algebra.Group.Nat.Defs
import Mathlib.Algebra.Group.Int.Defs
import Mathlib.Data.List.Infix
import Mathlib.Tactic.Common

namespace Bytes

/-! ## Exact reads -/

/-- `io.ReadFull` of `n` bytes: the bytes and what follows them, absent when the stream ends before. -/
def readFull (n : ℕ) (s : List UInt8) : Option (List UInt8 × List UInt8) :=
  if n ≤ s.length then some (s.take n, s.drop n) else none

theorem readFull_append {n : ℕ} {a : List UInt8} (h : a.length = n) (b : List UInt8) :
    readFull n (a ++ b) = some (a, b) := by
  subst h
  simp [readFull]

theorem readFull_some {n : ℕ} {s a b : List UInt8} (h : readFull n s = some (a, b)) : s = a ++ b ∧ a.length = n := by
  unfold readFull at h
  split at h
  · rename_i hle
    cases h
    exact ⟨(List.take_append_drop n s).symm, List.length_take_of_le hle⟩
  · cases h

/-! ## Big-endian numbers -/

/-- The number of big-endian bytes. -/
def beNat (bs : List UInt8) : ℕ := bs.foldl (fun n b => 256 * n + b.toNat) 0

/-- The lowest `k` bytes of a number in big-endian order. -/
def beBytes : ℕ → ℕ → List UInt8
  | 0, _ => []
  | k + 1, n => UInt8.ofNat (n / 256 ^ k) :: beBytes k n

@[simp] theorem length_beBytes (k n : ℕ) : (beBytes k n).length = k := by
  induction k with
  | zero => rfl
  | succ k ih => simp [beBytes, ih]

theorem foldl_beBytes (k n m : ℕ) :
    (beBytes k n).foldl (fun n b => 256 * n + b.toNat) m = 256 ^ k * m + n % 256 ^ k := by
  induction k generalizing m with
  | zero => simp [beBytes, Nat.mod_one]
  | succ k ih =>
    have hmod : n % 256 ^ (k + 1) = n % 256 ^ k + 256 ^ k * (n / 256 ^ k % 256) := by
      rw [Nat.pow_succ, Nat.mod_mul]
    have hb : (UInt8.ofNat (n / 256 ^ k)).toNat = n / 256 ^ k % 256 := rfl
    rw [beBytes, List.foldl_cons, ih, hb, hmod, Nat.pow_succ, Nat.mul_add, Nat.mul_assoc]
    omega

/-- The bytes read back as the number they were written for. -/
theorem beNat_beBytes {k n : ℕ} (h : n < 256 ^ k) : beNat (beBytes k n) = n := by
  rw [beNat, foldl_beBytes, Nat.mul_zero, Nat.zero_add, Nat.mod_eq_of_lt h]

theorem beNat_lt (bs : List UInt8) : beNat bs < 256 ^ bs.length := by
  have hfold : ∀ (bs : List UInt8) (m : ℕ),
      bs.foldl (fun n b => 256 * n + b.toNat) m < 256 ^ bs.length * (m + 1) := by
    intro bs
    induction bs with
    | nil => intro m; simp
    | cons b bs ih =>
      intro m
      have hb := b.toNat_lt
      refine (ih _).trans_le ?_
      rw [List.length_cons, Nat.pow_succ, Nat.mul_assoc]
      refine Nat.mul_le_mul_left _ ?_
      show 256 * m + b.toNat + 1 ≤ 256 * (m + 1)
      omega
  simpa [beNat] using hfold bs 0

/-- `int64(n)` of an unsigned 64 bit number. -/
def int64 (n : ℕ) : ℤ := if n < 2 ^ 63 then n else n - 2 ^ 64

theorem int64_of_lt {n : ℕ} (h : n < 2 ^ 63) : int64 n = n := if_pos h

/-- A number whose signed reading is not negative is read as itself. -/
theorem int64_of_nonneg {n : ℕ} (hlt : n < 2 ^ 64) (h : 0 ≤ int64 n) : int64 n = n := by
  unfold int64 at h ⊢
  split at h
  · rename_i hn; exact if_pos hn
  · omega

/-! ## Masks -/

/-- Each byte from position `i` on with the byte of the mask at its position modulo four; absent when
the mask has no such byte. -/
def xorMask (mask : List UInt8) : ℕ → List UInt8 → Option (List UInt8)
  | _, [] => some []
  | i, b :: bs =>
    match mask[i % 4]?, xorMask mask (i + 1) bs with
    | some m, some masked => some ((b ^^^ m) :: masked)
    | _, _ => none

/-- A mask of four bytes has a byte for every position. -/
theorem xorMask_some {mask : List UInt8} (h : mask.length = 4) (i : ℕ) (bs : List UInt8) :
    ∃ masked, xorMask mask i bs = some masked ∧ masked.length = bs.length := by
  induction bs generalizing i with
  | nil => exact ⟨[], rfl, rfl⟩
  | cons b bs ih =>
    obtain ⟨masked, hm, hlen⟩ := ih (i + 1)
    have hi : i % 4 < mask.length := by omega
    refine ⟨(b ^^^ mask[i % 4]) :: masked, ?_, by simp [hlen]⟩
    rw [xorMask, hm, List.getElem?_eq_getElem hi]

/-- Masking twice is no masking. -/
theorem xorMask_xorMask {mask bs masked : List UInt8} {i : ℕ} (h : xorMask mask i bs = some masked) :
    xorMask mask i masked = some bs := by
  induction bs generalizing i masked with
  | nil => cases h; rfl
  | cons b bs ih =>
    rw [xorMask] at h
    split at h
    · rename_i m masked' hm hrest
      cases h
      rw [xorMask, hm, ih hrest]
      simp only [UInt8.xor_assoc, UInt8.xor_self, UInt8.xor_zero]
    · cases h

end Bytes
