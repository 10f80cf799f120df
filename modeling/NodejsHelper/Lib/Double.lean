/-
Integers as double precision numbers: the nearest one with 53 significant bits, ties to even. Up to
2^53 every integer is one, and beyond it rounding stays beyond, so that comparisons with smaller
integers are not affected.
-/
import Mathlib.Algebra.Group.Nat.Defs
import Mathlib.Algebra.Group.Int.Defs
import Mathlib.Data.Nat.Log
import Mathlib.Tactic.Common

namespace Double

/-- The double nearest to a natural number, ties to even. -/
def roundNat (n : ℕ) : ℕ :=
  let unit := 2 ^ (n.log2 - 52)
  let q := n / unit
  let r := n % unit
  (if unit < 2 * r ∨ unit = 2 * r ∧ q % 2 = 1 then q + 1 else q) * unit

/-- The double nearest to an integer, ties to even. -/
def round : ℤ → ℤ
  | .ofNat n => roundNat n
  | .negSucc n => -(roundNat (n + 1) : ℤ)

theorem roundNat_of_lt {n : ℕ} (h : n < 2 ^ 53) : roundNat n = n := by
  have hlog : n.log2 - 52 = 0 := by
    by_cases h0 : n = 0
    · subst h0; rfl
    · have := (Nat.log2_lt h0).2 h
      omega
  simp [roundNat, hlog, Nat.mod_one]

/-- Rounding does not fall below a power of two that is not above the number. -/
theorem le_roundNat {n : ℕ} (h : 2 ^ 53 ≤ n) : 2 ^ 53 ≤ roundNat n := by
  have h0 : n ≠ 0 := by rintro rfl; simp at h
  have hlog : 53 ≤ n.log2 := (Nat.le_log2 h0).2 h
  have hpow : 2 ^ 52 * 2 ^ (n.log2 - 52) = 2 ^ n.log2 := by rw [← Nat.pow_add]; congr 1; omega
  have hq : 2 ^ 52 ≤ n / 2 ^ (n.log2 - 52) := by
    rw [Nat.le_div_iff_mul_le (Nat.pow_pos (by decide)), hpow]
    exact Nat.log2_self_le h0
  have hround : n / 2 ^ (n.log2 - 52) * 2 ^ (n.log2 - 52) ≤ roundNat n := by
    unfold roundNat
    refine Nat.mul_le_mul_right _ ?_
    split
    · exact Nat.le_succ _
    · exact le_rfl
  calc 2 ^ 53 ≤ 2 ^ n.log2 := Nat.pow_le_pow_right (by decide) hlog
    _ = 2 ^ 52 * 2 ^ (n.log2 - 52) := hpow.symm
    _ ≤ n / 2 ^ (n.log2 - 52) * 2 ^ (n.log2 - 52) := Nat.mul_le_mul_right _ hq
    _ ≤ roundNat n := hround

/-- An integer is compared with a double integer below 2^53 as its rounding is. -/
theorem lt_round_iff {k : ℤ} (h : -2 ^ 53 < k ∧ k < 2 ^ 53) (n : ℤ) : k < round n ↔ k < n := by
  have hnat : ∀ m : ℕ, roundNat m = m ∨ 2 ^ 53 ≤ m ∧ 2 ^ 53 ≤ roundNat m := by
    intro m
    rcases Nat.lt_or_ge m (2 ^ 53) with hm | hm
    · exact Or.inl (roundNat_of_lt hm)
    · exact Or.inr ⟨hm, le_roundNat hm⟩
  cases n with
  | ofNat m =>
    simp only [round, Int.ofNat_eq_natCast]
    rcases hnat m with hm | ⟨h1, h2⟩
    · rw [hm]
    · omega
  | negSucc m =>
    simp only [round, Int.negSucc_eq]
    rcases hnat (m + 1) with hm | ⟨h1, h2⟩
    · rw [hm]; push_cast; rfl
    · omega

end Double
