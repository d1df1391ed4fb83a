import Earth2Sandbox.Framework.CircularDistance
import Earth2Sandbox.Nvidia.Decoder
import Mathlib.Tactic.LinearCombination

/-!
# The grid of an array

The rows of an array are latitudes from the north pole to the south pole, its columns longitudes
from 0 eastwards.  `_grid_indices` picks the row and the column that are nearest to a location,
across the seam at 0 and 360 too (`gridIndices_nearest`).
-/

namespace Earth2Sandbox

namespace FourCastNetPostProcessor

/-- The latitude of a row. -/
def rowLatitude (latitudeCount : ℕ) (i : ℤ) : ℚ := 90 - i * (180 / (latitudeCount - 1))

/-- The longitude of a column. -/
def columnLongitude (longitudeCount : ℕ) (j : ℤ) : ℚ := j * (360 / longitudeCount)

section Cells

variable {latitudeCount longitudeCount : ℕ} {latitude longitude : ℚ}

lemma row_bounds (hlatitudes : 1 ≤ latitudeCount) (hsouth : -90 ≤ latitude)
    (hnorth : latitude ≤ 90) :
    let i : ℤ := if 1 < latitudeCount then
      roundHalfEven ((90 - latitude) / (180 / ((latitudeCount : ℚ) - 1))) else 0
    0 ≤ i ∧ i < latitudeCount := by
  dsimp only
  split_ifs with hmany
  · have hgap : (0 : ℚ) < latitudeCount - 1 := by
      rw [sub_pos]
      exact_mod_cast hmany
    have hlow : 0 ≤ roundHalfEven ((90 - latitude) / (180 / ((latitudeCount : ℚ) - 1))) := by
      refine le_roundHalfEven ?_
      have hnum : 0 ≤ 90 - latitude := by linarith
      rw [Int.cast_zero]
      positivity
    have hhigh : roundHalfEven ((90 - latitude) / (180 / ((latitudeCount : ℚ) - 1))) ≤
        latitudeCount - 1 := by
      refine roundHalfEven_le ?_
      rw [div_div_eq_mul_div, div_le_iff₀ (by norm_num)]
      push_cast
      nlinarith
    omega
  · omega

/-- The two components of `nearestCell` without the bounds, which change nothing. -/
lemma nearestCell_eq (hlatitudes : 1 ≤ latitudeCount) (hlongitudes : 1 ≤ longitudeCount)
    (hsouth : -90 ≤ latitude) (hnorth : latitude ≤ 90) :
    nearestCell latitudeCount longitudeCount latitude longitude =
      (if 1 < latitudeCount then
          roundHalfEven ((90 - latitude) / (180 / ((latitudeCount : ℚ) - 1))) else 0,
        roundHalfEven (floorMod longitude 360 / (360 / (longitudeCount : ℚ))) %
          longitudeCount) := by
  have hcount : (0 : ℤ) < longitudeCount := by exact_mod_cast hlongitudes
  have hcolumn : ∀ n : ℤ, min ((longitudeCount : ℤ) - 1) (max 0 (n % longitudeCount)) =
      n % longitudeCount := by
    intro n
    have hnonneg := Int.emod_nonneg n hcount.ne'
    have hlt := Int.emod_lt_of_pos n hcount
    omega
  unfold nearestCell
  dsimp only
  rw [hcolumn]
  have hrow := row_bounds hlatitudes hsouth hnorth
  by_cases hmany : 1 < latitudeCount
  · simp only [if_pos hmany] at hrow ⊢
    rw [max_eq_right hrow.1, min_eq_right (by omega)]
  · simp only [if_neg hmany] at hrow ⊢
    rw [max_eq_right hrow.1, min_eq_right (by omega)]

lemma row_nearest (hmany : 2 ≤ latitudeCount) (latitude : ℚ) (i : ℤ) :
    |latitude - rowLatitude latitudeCount
        (roundHalfEven ((90 - latitude) / (180 / ((latitudeCount : ℚ) - 1))))| ≤
      |latitude - rowLatitude latitudeCount i| := by
  have hgap : (0 : ℚ) < latitudeCount - 1 := by
    rw [sub_pos]
    exact_mod_cast hmany
  have hstep : (0 : ℚ) < 180 / ((latitudeCount : ℚ) - 1) := by positivity
  -- a difference of latitudes is a difference of rows times the step
  have hscale (i : ℤ) : |latitude - rowLatitude latitudeCount i| =
      180 / ((latitudeCount : ℚ) - 1) *
        |(90 - latitude) / (180 / ((latitudeCount : ℚ) - 1)) - i| := by
    rw [← abs_of_pos hstep, ← abs_mul, abs_of_pos hstep, mul_sub, mul_div_cancel₀ _ hstep.ne',
      ← abs_neg, rowLatitude]
    congr 1
    ring
  rw [hscale, hscale]
  exact mul_le_mul_of_nonneg_left (abs_sub_roundHalfEven_min _ _) hstep.le

lemma column_nearest (hlongitudes : 1 ≤ longitudeCount) (longitude : ℚ) (j : ℤ) :
    circularDistance 360 longitude (columnLongitude longitudeCount
        (roundHalfEven (floorMod longitude 360 / (360 / (longitudeCount : ℚ))) %
          longitudeCount)) ≤
      circularDistance 360 longitude (columnLongitude longitudeCount j) := by
  have hcount : (0 : ℚ) < longitudeCount := by exact_mod_cast hlongitudes
  have hstep : (0 : ℚ) < 360 / (longitudeCount : ℚ) := by positivity
  have hcircle : (longitudeCount : ℚ) * (360 / longitudeCount) = 360 :=
    mul_div_cancel₀ _ hcount.ne'
  set step : ℚ := 360 / (longitudeCount : ℚ)
  set normalized := floorMod longitude 360
  set nearest := roundHalfEven (normalized / step)
  have hlongitude : longitude = normalized + 360 * ⌊longitude / 360⌋ := by
    simp only [normalized, floorMod]
    ring
  have hscale (z : ℤ) : |normalized - z * step| = step * |normalized / step - z| := by
    rw [← abs_of_pos hstep, ← abs_mul, abs_of_pos hstep, mul_sub, mul_div_cancel₀ _ hstep.ne',
      mul_comm step]
  -- the column that was rounded to may be one turn further
  have hturn : ((nearest % longitudeCount : ℤ) : ℚ) =
      nearest - longitudeCount * (nearest / longitudeCount : ℤ) := by
    exact_mod_cast Int.emod_def nearest longitudeCount
  have hnear : longitude - columnLongitude longitudeCount (nearest % longitudeCount) -
      360 * (⌊longitude / 360⌋ + nearest / longitudeCount : ℤ) = normalized - nearest * step := by
    rw [columnLongitude, hturn]
    push_cast
    linear_combination hlongitude + (nearest / longitudeCount : ℤ) * hcircle
  obtain ⟨turns, hturns⟩ := exists_circularDistance_eq 360 longitude
    (columnLongitude longitudeCount j)
  have hother : longitude - columnLongitude longitudeCount j - 360 * turns =
      normalized - (j + longitudeCount * (turns - ⌊longitude / 360⌋) : ℤ) * step := by
    rw [columnLongitude]
    push_cast
    linear_combination hlongitude + (turns - ⌊longitude / 360⌋ : ℚ) * hcircle
  calc circularDistance 360 longitude (columnLongitude longitudeCount (nearest % longitudeCount))
      ≤ |normalized - nearest * step| := hnear ▸ circularDistance_le (by norm_num) _ _ _
    _ = step * |normalized / step - nearest| := hscale _
    _ ≤ step * |normalized / step - (j + longitudeCount * (turns - ⌊longitude / 360⌋) : ℤ)| :=
      mul_le_mul_of_nonneg_left (abs_sub_roundHalfEven_min _ _) hstep.le
    _ = circularDistance 360 longitude (columnLongitude longitudeCount j) := by
      rw [← hscale, ← hother, hturns]

/-- **Nearest cell.**  In an array with rows and columns, the indices of a location are within the
grid, the row is the nearest one when there are several, and the column is the nearest one on
the circle of longitudes. -/
theorem gridIndices_nearest {array : NumpyArray} {leading : List ℕ}
    (hshape : array.shape = leading ++ [latitudeCount, longitudeCount])
    (hlatitudes : 1 ≤ latitudeCount) (hlongitudes : 1 ≤ longitudeCount)
    (hsouth : -90 ≤ latitude) (hnorth : latitude ≤ 90) (longitude : ℚ) :
    ∃ i j : ℕ, gridIndices array latitude longitude = .ok ((i : ℤ), (j : ℤ)) ∧
      i < latitudeCount ∧ j < longitudeCount ∧
      (2 ≤ latitudeCount → ∀ i' < latitudeCount,
        |latitude - rowLatitude latitudeCount i| ≤ |latitude - rowLatitude latitudeCount i'|) ∧
      ∀ j' < longitudeCount,
        circularDistance 360 longitude (columnLongitude longitudeCount j) ≤
          circularDistance 360 longitude (columnLongitude longitudeCount j') := by
  have hindices : gridIndices array latitude longitude =
      .ok (nearestCell latitudeCount longitudeCount latitude longitude) := by
    have hnonzero : ¬ (latitudeCount = 0 ∨ longitudeCount = 0) := by omega
    rw [gridIndices, hshape, List.reverse_append]
    exact if_neg hnonzero
  have hcount : (0 : ℤ) < longitudeCount := by exact_mod_cast hlongitudes
  rw [hindices, nearestCell_eq hlatitudes hlongitudes hsouth hnorth]
  set i : ℤ := if 1 < latitudeCount then
    roundHalfEven ((90 - latitude) / (180 / ((latitudeCount : ℚ) - 1))) else 0
  set j : ℤ := roundHalfEven (floorMod longitude 360 / (360 / (longitudeCount : ℚ))) %
    longitudeCount
  have hi : 0 ≤ i ∧ i < latitudeCount := row_bounds hlatitudes hsouth hnorth
  have hj : 0 ≤ j ∧ j < longitudeCount :=
    ⟨Int.emod_nonneg _ hcount.ne', Int.emod_lt_of_pos _ hcount⟩
  refine ⟨i.toNat, j.toNat, by rw [Int.toNat_of_nonneg hi.1, Int.toNat_of_nonneg hj.1],
    by omega, by omega, fun hmany i' _ => ?_, fun j' _ => ?_⟩
  · rw [Int.toNat_of_nonneg hi.1]
    have hrow : i = roundHalfEven ((90 - latitude) / (180 / ((latitudeCount : ℚ) - 1))) :=
      if_pos hmany
    rw [hrow]
    exact row_nearest hmany latitude i'
  · rw [Int.toNat_of_nonneg hj.1]
    exact column_nearest hlongitudes longitude j'

end Cells

/-- An array with three rows and four columns. -/
def seamArray : NumpyArray := ⟨[1, 5, 3, 4], "float32", fun _ => some 0⟩

/-- A location a little west of the seam. -/
theorem gridIndices_nearest_seam :
    ∃ i j : ℕ, gridIndices seamArray 50 (-1) = .ok ((i : ℤ), (j : ℤ)) ∧ i < 3 ∧ j < 4 ∧
      (2 ≤ 3 → ∀ i' < 3, |50 - rowLatitude 3 i| ≤ |50 - rowLatitude 3 (i' : ℕ)|) ∧
      ∀ j' < 4, circularDistance 360 (-1) (columnLongitude 4 j) ≤
        circularDistance 360 (-1) (columnLongitude 4 (j' : ℕ)) :=
  gridIndices_nearest (show seamArray.shape = [1, 5] ++ [3, 4] from rfl) (by decide) (by decide)
    (by norm_num) (by norm_num) (-1)

end FourCastNetPostProcessor

end Earth2Sandbox
