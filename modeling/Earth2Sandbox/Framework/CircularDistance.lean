import Mathlib.Algebra.Order.Round
import Mathlib.Tactic.Linarith
import Mathlib.Tactic.Positivity

/-!
# Distances on a circle

Two numbers stand for points of a circle of circumference `c`; going round any number of times
leads to the same point.  Their distance is the length of the shorter way.
-/

namespace Earth2Sandbox

variable {K : Type} [Field K] [LinearOrder K] [IsStrictOrderedRing K] [FloorRing K] {c : K}

/-- The distance of two points on a circle of circumference `c`. -/
def circularDistance (c x y : K) : K := |x - y - c * round ((x - y) / c)|

/-- The distance along the circle is the least of the distances to the turns of a point. -/
lemma circularDistance_le (hc : 0 < c) (x y : K) (turns : ℤ) :
    circularDistance c x y ≤ |x - y - c * turns| := by
  have hscale (k : ℤ) : |x - y - c * k| = c * |(x - y) / c - k| := by
    rw [← abs_of_pos hc, ← abs_mul, abs_of_pos hc, mul_sub, mul_div_cancel₀ _ hc.ne']
  rw [circularDistance, hscale, hscale]
  exact mul_le_mul_of_nonneg_left (round_le _ _) hc.le

omit [IsStrictOrderedRing K] in
/-- The distance is that to some turn of the second point. -/
lemma exists_circularDistance_eq (c x y : K) :
    ∃ turns : ℤ, circularDistance c x y = |x - y - c * turns| := ⟨_, rfl⟩

end Earth2Sandbox
