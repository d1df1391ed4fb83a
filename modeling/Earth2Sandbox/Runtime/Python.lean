import Mathlib.Data.Rat.Defs
import Mathlib.Algebra.Order.Ring.Rat

/-!
# The Python values and library functions the application is written over

Floats are kept as exact rationals with the special values: `nan`, the infinities and the negative
zero, which is equal to zero and written differently.  `PyValue` is a value of unknown type, such
as the entries of a provider's diagnostics dictionary; only its truth value and its conversion by
pydantic matter.

The functions that the application imports — `uuid.UUID`, `repr` of a float, pydantic's field
conversion — are a parameter, the class `Runtime`, with what the application relies on as its
laws.  `Runtime.strict` is one instance, exact on canonical identifiers and on values that
already have their field's type.
-/

namespace Earth2Sandbox

/-- A Python float. -/
inductive PyFloat where
  | nan
  | negInf
  | posInf
  | negZero
  | finite (q : ℚ)
  deriving DecidableEq

namespace PyFloat

/-- `x <= y`; every comparison with `nan` is false. -/
def le : PyFloat → PyFloat → Bool
  | nan, _ => false
  | _, nan => false
  | negInf, _ => true
  | _, posInf => true
  | finite p, finite q => p ≤ q
  | finite p, negZero => p ≤ 0
  | negZero, finite q => 0 ≤ q
  | negZero, negZero => true
  | finite _, negInf | negZero, negInf | posInf, negInf => false
  | posInf, finite _ | posInf, negZero => false

/-- `a <= x <= b`. -/
def between (a b x : PyFloat) : Bool := le a x && le x b

/-- Neither `nan` nor an infinity. -/
def isFinite : PyFloat → Bool
  | finite _ | negZero => true
  | _ => false

instance : OfNat PyFloat n := ⟨finite n⟩

instance : Neg PyFloat where
  neg
    | nan => nan
    | negInf => posInf
    | posInf => negInf
    | negZero => 0
    | finite q => if q = 0 then negZero else finite (-q)

end PyFloat

/-- A Python value of unknown type; `object` is anything but the types named before it. -/
inductive PyValue where
  | none
  | bool (b : Bool)
  | int (n : ℤ)
  | float (x : PyFloat)
  | str (s : String)
  | object (truthy : Bool)
  deriving DecidableEq

/-- The truth value of `bool(v)`. -/
def PyValue.truthy : PyValue → Bool
  | .none => false
  | .bool b => b
  | .int n => n ≠ 0
  | .float x => x ≠ 0 && x ≠ .negZero
  | .str s => s ≠ ""
  | .object b => b

/-- A `dict[str, Any]`; the first entry under a key is the one that counts. -/
abbrev PyDict := List (String × PyValue)

/-- `{**d, key: value}`. -/
def PyDict.override (d : PyDict) (key : String) (value : PyValue) : PyDict := (key, value) :: d

@[simp] lemma PyDict.lookup_override_self (d : PyDict) (key : String) (v : PyValue) :
    List.lookup key (d.override key v) = some v := by
  simp [PyDict.override]

lemma PyDict.lookup_override_ne (d : PyDict) {key key' : String} (v : PyValue)
    (h : key' ≠ key) : List.lookup key' (d.override key v) = List.lookup key' d := by
  simp [PyDict.override, List.lookup_cons, beq_false_of_ne h]

lemma natText_injective {m n : ℕ} (h : Nat.repr m = Nat.repr n) : m = n := by
  have hdigits := congrArg (fun text => Nat.ofDigitChars 10 text.toList 0) h
  simpa only [Nat.toList_repr, Nat.ofDigitChars_toDigits (b := 10) (by decide) (by decide)]
    using hdigits

lemma intText_injective {m n : ℤ} (h : toString m = toString n) : m = n := by
  have hdigit (m n : ℕ) : toString (Int.ofNat m) ≠ toString (Int.negSucc n) := by
    intro heq
    have htext : (Nat.repr m).toList = '-' :: (Nat.repr (n + 1)).toList := by
      have heq' : Nat.repr m = "-" ++ Nat.repr (n + 1) := heq
      rw [heq', String.toList_append]
      rfl
    rw [Nat.toList_repr] at htext
    have hminus : '-'.isDigit = true :=
      Nat.isDigit_of_mem_toDigits (by decide) (by decide) (htext ▸ List.mem_cons_self)
    cases hminus
  cases m with
  | ofNat m =>
    cases n with
    | ofNat n => exact congrArg Int.ofNat (natText_injective h)
    | negSucc n => exact absurd h (hdigit m n)
  | negSucc m =>
    cases n with
    | ofNat n => exact absurd h.symm (hdigit n m)
    | negSucc n =>
      have htail : "-" ++ Nat.repr (m + 1) = "-" ++ Nat.repr (n + 1) := h
      have hnat := natText_injective ((String.append_right_inj "-").mp htail)
      rw [Nat.succ_injective hnat]
/-- A point in time, in microseconds since the epoch. -/
abbrev Time := ℤ

/-- `timedelta(seconds=n)`. -/
def timedeltaSeconds (n : ℤ) : ℤ := n * 1000000

/-- `timedelta(hours=n)`. -/
def timedeltaHours (n : ℤ) : ℤ := n * 3600000000

/-- A `datetime` in UTC can be this point in time: it is in the years 1 to 9999. -/
def isDatetime (t : Time) : Bool := -62135596800000000 ≤ t && t < 253402300800000000

/-- The positions of the hyphens in a canonical UUID. -/
def uuidHyphens : List ℕ := [8, 13, 18, 23]

/-- The canonical form of a 128-bit identifier: 36 characters, lower-case hexadecimal digits
with hyphens at the fixed positions. -/
def canonicalUuid (s : String) : Bool :=
  s.toList.length = 36 &&
    s.toList.zipIdx.all fun p =>
      if p.2 ∈ uuidHyphens then p.1 = '-'
      else p.1.isDigit || ('a' ≤ p.1 && p.1 ≤ 'f')

lemma length_of_canonicalUuid {s : String} (h : canonicalUuid s = true) :
    s.toList.length = 36 := by
  simp only [canonicalUuid, Bool.and_eq_true, decide_eq_true_eq] at h
  exact h.1

lemma slash_not_mem_of_canonicalUuid {s : String} (h : canonicalUuid s = true) :
    '/' ∉ s.toList := by
  intro hmem
  obtain ⟨i, hi⟩ := List.mem_iff_getElem?.mp hmem
  simp only [canonicalUuid, Bool.and_eq_true, List.all_eq_true] at h
  have hchar := h.2 ('/', i) (List.mk_mem_zipIdx_iff_getElem?.mpr hi)
  dsimp only at hchar
  split at hchar
  · simp at hchar
  · have hslash : ('/'.isDigit || ('a' ≤ '/' && '/' ≤ 'f')) = false := by decide
    cases hslash.symm.trans hchar

/-- The library functions the application calls. -/
class Runtime where
  /-- `str(uuid.UUID(x))`, or `none` when `uuid.UUID(x)` raises. -/
  parseUuid : String → Option String
  parseUuid_canonical : ∀ {x s : String}, parseUuid x = some s → canonicalUuid s = true
  parseUuid_of_canonical : ∀ {s : String}, canonicalUuid s = true → parseUuid s = some s
  /-- `f"{x}"` of a float. -/
  reprFloat : PyFloat → String
  /-- Pydantic's conversion to a field of type `str | None`. -/
  toOptStr : PyValue → Option (Option String)
  /-- Pydantic's conversion to a field of type `int`. -/
  toInt : PyValue → Option ℤ
  /-- Pydantic's conversion to a field of type `bool`. -/
  toBool : PyValue → Option Bool
  /-- Pydantic's conversion to a field of type `int | None`. -/
  toOptInt : PyValue → Option (Option ℤ)
  toOptStr_str : ∀ s, toOptStr (.str s) = some (some s)

/-- Conversions accept exactly the values that already have the field's type, and identifiers
only in canonical form. -/
@[reducible] def Runtime.strict : Runtime where
  parseUuid s := if canonicalUuid s then some s else none
  parseUuid_canonical {x s} h := by
    split at h
    · next hx =>
      cases h
      exact hx
    · cases h
  parseUuid_of_canonical {s} h := if_pos h
  reprFloat
    | .nan => "nan"
    | .negInf => "-inf"
    | .posInf => "inf"
    | .negZero => "-0.0"
    | .finite q => toString q.num ++ (if q.den = 1 then ".0" else "/" ++ toString q.den)
  toOptStr
    | .none => some none
    | .str s => some (some s)
    | _ => none
  toInt
    | .int n => some n
    | _ => none
  toBool
    | .bool b => some b
    | _ => none
  toOptInt
    | .none => some none
    | .int n => some (some n)
    | _ => none
  toOptStr_str _ := rfl

namespace StrictRuntime

scoped instance : Runtime := Runtime.strict

/-- An identifier in canonical form. -/
def sampleId : String := "6f1d3c2a-0b5e-4c8d-9a7f-0123456789ab"

end StrictRuntime

end Earth2Sandbox
