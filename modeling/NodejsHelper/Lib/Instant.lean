/-
Instants and durations as Go has them: an instant is a number of nanoseconds on the Unix clock, the
zero `time.Time` lies far before it, and the difference of two instants saturates at the bounds of a
64-bit duration. Comparing a difference with a duration inside these bounds is not affected by that.
-/
import Mathlib.Algebra.Group.Int.Defs

namespace Instant

/-- The zero `time.Time`, the start of year 1. -/
def zero : Int := -62135596800000000000

def minDuration : Int := -9223372036854775808

def maxDuration : Int := 9223372036854775807

/-- A second, in nanoseconds. -/
def second : Int := 1000000000

/-- `Time.Sub`: the difference, saturated. -/
def sub (t u : Int) : Int := max minDuration (min maxDuration (t - u))

theorem sub_lt_iff {t u d : Int} (h1 : minDuration < d) (h2 : d ≤ maxDuration) : sub t u < d ↔ t - u < d := by
  unfold sub minDuration maxDuration at *
  omega

theorem lt_sub_iff {t u d : Int} (h1 : minDuration ≤ d) (h2 : d < maxDuration) : d < sub t u ↔ d < t - u := by
  unfold sub minDuration maxDuration at *
  omega

end Instant
