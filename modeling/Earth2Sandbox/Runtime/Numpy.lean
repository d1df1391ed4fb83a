import Earth2Sandbox.Runtime.Bytes
import Earth2Sandbox.Runtime.Python
import Mathlib.Data.List.Forall2

/-!
# Arrays and archives

What the decoder sees of `numpy` and `tarfile`: the arrays that `np.load` returns, and the members
of an archive with what reading them gives.  Reading itself is a parameter, the class
`ArchiveReader`, and so are the order in which a set is visited and the rounding of a mean.
-/

namespace Earth2Sandbox

/-- An array of `numpy`.  `element` is what `float` makes of the element at an index within the
shape, `none` when it raises an exception. -/
structure NumpyArray where
  shape : List ℕ
  dtype : String
  element : List ℕ → Option PyFloat

namespace NumpyArray

/-- The index is within the shape. -/
def InBounds (array : NumpyArray) (index : List ℕ) : Prop :=
  List.Forall₂ (· < ·) index array.shape

instance (array : NumpyArray) (index : List ℕ) : Decidable (array.InBounds index) :=
  inferInstanceAs (Decidable (List.Forall₂ _ _ _))

def ndim (array : NumpyArray) : ℕ := array.shape.length

/-- The elements are real numbers. -/
def Numeric (array : NumpyArray) : Prop :=
  ∀ index, array.InBounds index → (array.element index).isSome

end NumpyArray

/-- The indices within a shape, in the order of the elements. -/
def shapeIndices : List ℕ → List (List ℕ)
  | [] => [[]]
  | n :: shape => (List.range n).flatMap fun i => (shapeIndices shape).map (i :: ·)

lemma mem_shapeIndices {shape index : List ℕ} :
    index ∈ shapeIndices shape ↔ List.Forall₂ (· < ·) index shape := by
  induction shape generalizing index with
  | nil => simp [shapeIndices]
  | cons n shape ih =>
    simp only [shapeIndices, List.mem_flatMap, List.mem_range, List.mem_map, ih]
    constructor
    · rintro ⟨i, hi, rest, hrest, rfl⟩
      exact .cons hi hrest
    · rintro (_ | ⟨hi, hrest⟩)
      exact ⟨_, hi, _, hrest, rfl⟩

lemma length_shapeIndices (shape : List ℕ) : (shapeIndices shape).length = shape.prod := by
  induction shape with
  | nil => rfl
  | cons n shape ih => simp [shapeIndices, ih]

/-- `f"{t}"` of a tuple of integers, such as a shape or an index. -/
def tupleText : List ℕ → String
  | [n] => "(" ++ toString n ++ ",)"
  | ns => "(" ++ ", ".intercalate (ns.map toString) ++ ")"

/-- What reading an archive or a member of it raises. -/
inductive ReadFailure where
  /-- a `tarfile.TarError` -/
  | tar (message : String)
  /-- an `EOFError`, an `OSError` or a `ValueError` -/
  | unreadable (message : String)
  /-- any other exception -/
  | other (message : String)

/-- A member of an archive.  `loaded` is what `np.load` makes of the extracted member; it is
`none` when there is nothing to extract. -/
structure TarMember where
  name : String
  isFile : Bool := true
  loaded : Option (Except ReadFailure NumpyArray)

/-- The library functions of the decoder. -/
class ArchiveReader where
  /-- `tarfile.open` of the content and `getmembers`. -/
  getmembers : Bytes → Except ReadFailure (List TarMember)
  /-- The value of a decimal digit of any script. -/
  decimalValue : Char → Option ℕ
  decimalValue_lt : ∀ {c : Char} {d : ℕ}, decimalValue c = some d → d < 10
  /-- `repr(s)`. -/
  reprText : String → String
  /-- The order in which a set of these elements is visited. -/
  setOrder : {α : Type} → List α → List α
  setOrder_perm : ∀ {α : Type} (elements : List α), (setOrder elements).Perm elements
  /-- `float(np.mean(values))` of the finite values of an array. -/
  meanOfFinite : NumpyArray → PyFloat

/-- A reader that knows the listed archives; digits are those of ASCII, strings are those without
quotes or escapes, and sets are visited in the order of their elements. -/
@[reducible] def ArchiveReader.ofArchives (archives : List (Bytes × List TarMember)) :
    ArchiveReader where
  getmembers content :=
    match archives.lookup content with
    | none => .error (.tar "file could not be opened successfully")
    | some members => .ok members
  decimalValue c := if c.isDigit then some (c.toNat - 48) else none
  decimalValue_lt {c d} h := by
    split at h
    · next hdigit =>
      have hbound : c.toNat ≤ 57 := by
        simp only [Char.isDigit, Bool.and_eq_true, decide_eq_true_eq] at hdigit
        exact hdigit.2
      rw [Option.some.injEq] at h
      omega
    · cases h
  reprText s := "'" ++ s ++ "'"
  setOrder elements := elements
  setOrder_perm _ := .refl _
  meanOfFinite _ := 0

end Earth2Sandbox
