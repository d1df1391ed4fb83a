import Earth2Sandbox.Runtime.JsonValues
import Mathlib.Algebra.Group.Int.Even
import Mathlib.Algebra.Order.Floor.Ring
import Mathlib.Data.Rat.Floor
import Mathlib.Tactic.Linarith
import Mathlib.Tactic.Positivity

/-!
# Arithmetic of numbers

Python's `round`, and `max` and `min` of a mix of integers and floats, which return one of their
arguments.  Floats are exact here.
-/

namespace Earth2Sandbox

/-- `round(x)`: the nearest integer, and the even one when there are two. -/
def roundHalfEven (q : ℚ) : ℤ :=
  if 2 * (q - ⌊q⌋) < 1 then ⌊q⌋
  else if 1 < 2 * (q - ⌊q⌋) then ⌊q⌋ + 1
  else if Even ⌊q⌋ then ⌊q⌋ else ⌊q⌋ + 1

section Rounding

variable {p q : ℚ}

lemma abs_sub_roundHalfEven_le (q : ℚ) : |q - roundHalfEven q| ≤ 1 / 2 := by
  have hlow := Int.floor_le q
  have hhigh := Int.lt_floor_add_one q
  unfold roundHalfEven
  rw [abs_le]
  split_ifs with hdown hup heven <;> push_cast <;> constructor <;> linarith

@[simp] lemma roundHalfEven_intCast (n : ℤ) : roundHalfEven n = n := by
  have hzero : 2 * ((n : ℚ) - ⌊(n : ℚ)⌋) < 1 := by
    rw [Int.floor_intCast, sub_self, mul_zero]
    exact one_pos
  rw [roundHalfEven, if_pos hzero, Int.floor_intCast]

/-- **Nearest.**  No integer is closer. -/
theorem abs_sub_roundHalfEven_min (q : ℚ) (n : ℤ) : |q - roundHalfEven q| ≤ |q - n| := by
  by_cases hn : n = roundHalfEven q
  · rw [hn]
  · -- any other integer is at least one away from the rounding, hence a half from the number
    have hgap : (1 : ℚ) ≤ |(n : ℚ) - roundHalfEven q| := by
      rw [← Int.cast_sub, ← Int.cast_abs]
      exact_mod_cast Int.one_le_abs (sub_ne_zero.mpr hn)
    have htriangle : |(n : ℚ) - roundHalfEven q| ≤ |q - n| + |q - roundHalfEven q| := by
      rw [abs_sub_comm q n]
      exact abs_sub_le _ _ _
    have hhalf := abs_sub_roundHalfEven_le q
    linarith

lemma roundHalfEven_mono (h : p ≤ q) : roundHalfEven p ≤ roundHalfEven q := by
  by_contra hlt
  have hstep : (roundHalfEven q : ℚ) + 1 ≤ roundHalfEven p := by
    exact_mod_cast Int.add_one_le_iff.mpr (not_le.mp hlt)
  have hp := abs_le.mp (abs_sub_roundHalfEven_le p)
  have hq := abs_le.mp (abs_sub_roundHalfEven_le q)
  -- both numbers are the middle between the two integers, and rounded alike
  have heq : p = q := by linarith [hp.1, hq.2]
  rw [heq] at hlt
  exact hlt le_rfl

/-- Integers are bounds that rounding respects. -/
lemma le_roundHalfEven {n : ℤ} (h : (n : ℚ) ≤ q) : n ≤ roundHalfEven q := by
  have hmono := roundHalfEven_mono h
  rwa [roundHalfEven_intCast] at hmono

lemma roundHalfEven_le {n : ℤ} (h : q ≤ n) : roundHalfEven q ≤ n := by
  have hmono := roundHalfEven_mono h
  rwa [roundHalfEven_intCast] at hmono

end Rounding

/-- `round(x, digits)`. -/
def roundTo (digits : ℕ) (q : ℚ) : ℚ := roundHalfEven (q * 10 ^ digits) / 10 ^ digits

lemma roundTo_mono (digits : ℕ) {p q : ℚ} (h : p ≤ q) : roundTo digits p ≤ roundTo digits q := by
  have hpow : (0 : ℚ) < 10 ^ digits := by positivity
  unfold roundTo
  gcongr
  exact_mod_cast roundHalfEven_mono (by gcongr)

/-- A number with few digits is its own rounding. -/
lemma roundTo_of_mul_eq {digits : ℕ} {q : ℚ} {n : ℤ} (h : q * 10 ^ digits = n) :
    roundTo digits q = q := by
  have hpow : (10 : ℚ) ^ digits ≠ 0 := by positivity
  rw [roundTo, h, roundHalfEven_intCast, ← h, mul_div_cancel_right₀ _ hpow]

/-- `x % y` for a positive `y`. -/
def floorMod (x y : ℚ) : ℚ := x - y * ⌊x / y⌋

/-- An `int` or a finite `float`. -/
inductive PyNumber where
  | int (n : ℤ)
  | float (q : ℚ)

namespace PyNumber

/-- The number. -/
def value : PyNumber → ℚ
  | int n => n
  | float q => q

/-- `max(x, y)`. -/
def max (x y : PyNumber) : PyNumber := if x.value < y.value then y else x

/-- `min(x, y)`. -/
def min (x y : PyNumber) : PyNumber := if y.value < x.value then y else x

/-- `round(x, digits)`. -/
def round (digits : ℕ) : PyNumber → PyNumber
  | int n => int n
  | float q => float (roundTo digits q)

/-- `f"{x}"`. -/
def text [FloatRepr] : PyNumber → String
  | int n => toString n
  | float q => FloatRepr.repr q

end PyNumber

namespace PyFloat

/-- `x < y`. -/
def lt (x y : PyFloat) : Bool := le x y && !le y x

/-- `max` of a non-empty list. -/
def maxOf (x : PyFloat) (xs : List PyFloat) : PyFloat :=
  xs.foldl (fun m y => if lt m y then y else m) x

/-- `min` of a non-empty list. -/
def minOf (x : PyFloat) (xs : List PyFloat) : PyFloat :=
  xs.foldl (fun m y => if lt y m then y else m) x

/-- The rational number that a finite float stands for. -/
def toRat : PyFloat → ℚ
  | finite q => q
  | _ => 0

lemma le_iff_toRat {x y : PyFloat} (hx : x.isFinite = true) (hy : y.isFinite = true) :
    le x y = true ↔ x.toRat ≤ y.toRat := by
  cases x <;> cases y <;> simp_all [isFinite, le, toRat]

lemma lt_iff_toRat {x y : PyFloat} (hx : x.isFinite = true) (hy : y.isFinite = true) :
    lt x y = true ↔ x.toRat < y.toRat := by
  have hle := le_iff_toRat hx hy
  have hge := le_iff_toRat hy hx
  rw [lt, Bool.and_eq_true, Bool.not_eq_true', ← Bool.not_eq_true, hle, hge, not_le]
  exact and_iff_right_of_imp le_of_lt

lemma minOf_le {x : PyFloat} {xs : List PyFloat} (hx : x.isFinite = true)
    (hxs : ∀ y ∈ xs, y.isFinite = true) :
    (minOf x xs).isFinite = true ∧ (minOf x xs).toRat ≤ x.toRat := by
  induction xs generalizing x with
  | nil => exact ⟨hx, le_rfl⟩
  | cons y xs ih =>
    obtain ⟨hy, hrest⟩ := List.forall_mem_cons.mp hxs
    change (minOf (if lt y x then y else x) xs).isFinite = true ∧
      (minOf (if lt y x then y else x) xs).toRat ≤ x.toRat
    split
    · next hlt =>
      obtain ⟨hfinite, hle⟩ := ih hy hrest
      exact ⟨hfinite, hle.trans ((lt_iff_toRat hy hx).mp hlt).le⟩
    · exact ih hx hrest

lemma le_maxOf {x : PyFloat} {xs : List PyFloat} (hx : x.isFinite = true)
    (hxs : ∀ y ∈ xs, y.isFinite = true) :
    (maxOf x xs).isFinite = true ∧ x.toRat ≤ (maxOf x xs).toRat := by
  induction xs generalizing x with
  | nil => exact ⟨hx, le_rfl⟩
  | cons y xs ih =>
    obtain ⟨hy, hrest⟩ := List.forall_mem_cons.mp hxs
    change (maxOf (if lt x y then y else x) xs).isFinite = true ∧
      x.toRat ≤ (maxOf (if lt x y then y else x) xs).toRat
    split
    · next hlt =>
      obtain ⟨hfinite, hle⟩ := ih hy hrest
      exact ⟨hfinite, ((lt_iff_toRat hx hy).mp hlt).le.trans hle⟩
    · exact ih hx hrest

lemma minOf_le_maxOf {x : PyFloat} {xs : List PyFloat} (hx : x.isFinite = true)
    (hxs : ∀ y ∈ xs, y.isFinite = true) : le (minOf x xs) (maxOf x xs) = true := by
  obtain ⟨hminFinite, hmin⟩ := minOf_le hx hxs
  obtain ⟨hmaxFinite, hmax⟩ := le_maxOf hx hxs
  exact (le_iff_toRat hminFinite hmaxFinite).mpr (hmin.trans hmax)

/-- `f"{x}"`. -/
def text [FloatRepr] : PyFloat → String
  | nan => "nan"
  | posInf => "inf"
  | negInf => "-inf"
  | negZero => "-0.0"
  | finite q => FloatRepr.repr q

end PyFloat

end Earth2Sandbox
