import Earth2Sandbox.Framework.JsonText
import Earth2Sandbox.Runtime.Python
import Mathlib.Data.List.TakeWhile

/-!
# Python values as JSON

What `json.dumps` makes of a value and of a dictionary, and what Python makes of a JSON value
that it has read.  `float.__repr__` is a parameter, the class `FloatRepr`.
-/

namespace Earth2Sandbox

/-- `float.__repr__` of finite floats. -/
class FloatRepr where
  repr : ℚ → String
  isNumberText_repr : ∀ q, Json.isNumberText (repr q).toList = true

/-- What is documented of the texts: different floats have different texts, no text is that of an
integer, and only a negative float is written with a sign. -/
class LawfulFloatRepr [FloatRepr] : Prop where
  repr_injective : Function.Injective FloatRepr.repr
  mem_repr : ∀ q, '.' ∈ (FloatRepr.repr q).toList ∨ 'e' ∈ (FloatRepr.repr q).toList
  repr_of_nonneg : ∀ q, 0 ≤ q → (FloatRepr.repr q).toList.head? ≠ some '-'

lemma noTexts_ok :
    (([] : List (ℚ × String)).all fun text => Json.isNumberText text.2.toList) = true := rfl

/-- The texts of the listed floats. -/
@[reducible] def FloatRepr.ofTexts (texts : List (ℚ × String))
    (htexts : (texts.all fun text => Json.isNumberText text.2.toList) = true := by
      first | exact noTexts_ok | decide +kernel) : FloatRepr where
  repr q := (texts.lookup q).getD "0.0"
  isNumberText_repr q := by
    cases hlookup : texts.lookup q with
    | none => decide
    | some text =>
      obtain ⟨front, back, hmem, -⟩ := List.lookup_eq_some_iff.mp hlookup
      refine List.all_eq_true.mp htexts (q, text) ?_
      rw [hmem]
      exact List.mem_append_right _ List.mem_cons_self

/-- The JSON value that `json.dumps` writes, or `none` when it raises a `TypeError`. -/
def PyValue.toJson [FloatRepr] : PyValue → Option Json
  | .none => Option.some .null
  | .bool b => Option.some (.bool b)
  | .int n => Option.some (.number (toString n))
  | .float .nan => Option.some (.number "NaN")
  | .float .posInf => Option.some (.number "Infinity")
  | .float .negInf => Option.some (.number "-Infinity")
  | .float .negZero => Option.some (.number "-0.0")
  | .float (.finite q) => Option.some (.number (FloatRepr.repr q))
  | .str s => Option.some (.str s)
  | .object _ => Option.none

/-- The members of the JSON object that `json.dumps` writes for a dictionary. -/
def PyDict.toJson [FloatRepr] (d : PyDict) : Option (List (String × Json)) :=
  (Dictionary.entries d).mapM fun entry => entry.2.toJson.map fun value => (entry.1, value)

/-! ## Literals -/

section Literals

lemma toDigits_begins (n : ℕ) (hn : 0 < n) : ∃ c rest, Nat.toDigits 10 n = c :: rest ∧ c ≠ '0' := by
  induction n using Nat.strong_induction_on with
  | _ n ih =>
    rw [Nat.toDigits_eq_if (by decide)]
    split
    · next hsmall =>
      have hdigit : ∀ m < 10, 0 < m → Nat.digitChar m ≠ '0' := by decide
      exact ⟨_, [], rfl, hdigit n hsmall hn⟩
    · next hlarge =>
      obtain ⟨c, rest, hdigits, hc⟩ := ih (n / 10) (by omega) (by omega)
      exact ⟨c, rest ++ [(n % 10).digitChar], by rw [hdigits]; rfl, hc⟩

lemma skipInteger_toDigits (n : ℕ) : Json.skipInteger (Nat.toDigits 10 n) = some [] := by
  rcases Nat.eq_zero_or_pos n with rfl | hn
  · decide
  · obtain ⟨c, rest, hdigits, hc⟩ := toDigits_begins n hn
    have hall : ∀ d ∈ c :: rest, d.isDigit = true := fun d hd =>
      Nat.isDigit_of_mem_toDigits (by decide) (by decide) (hdigits ▸ hd)
    rw [hdigits, Json.skipInteger, if_neg hc, if_pos (hall c List.mem_cons_self),
      List.dropWhile_eq_nil_iff.mpr fun d hd => hall d (List.mem_cons_of_mem _ hd)]

lemma isNumberText_digits (sign : List Char) (hsign : sign = [] ∨ sign = ['-']) (n : ℕ) :
    Json.isNumberText (sign ++ Nat.toDigits 10 n) = true := by
  have hall : ∀ c ∈ Nat.toDigits 10 n, Json.isNumberChar c = true := fun c hc => by
    rw [Json.isNumberChar, Nat.isDigit_of_mem_toDigits (by decide) (by decide) hc, Bool.true_or]
  have hminus : Json.skipMinus (sign ++ Nat.toDigits 10 n) = Nat.toDigits 10 n := by
    rcases hsign with rfl | rfl
    · rw [List.nil_append]
      unfold Json.skipMinus
      split
      · next rest heq =>
        have hdigit : '-'.isDigit = true :=
          Nat.isDigit_of_mem_toDigits (by decide) (by decide) (heq ▸ List.mem_cons_self)
        cases hdigit
      · rfl
    · rfl
  rw [Json.isNumberText, hminus, skipInteger_toDigits, Bool.and_eq_true, List.all_eq_true]
  refine ⟨fun c hc => ?_, rfl⟩
  rcases List.mem_append.mp hc with hc | hc
  · rcases hsign with rfl | rfl
    · cases hc
    · rw [List.mem_singleton.mp hc]
      decide
  · exact hall c hc

lemma isNumberLiteral_natCast (n : ℕ) : Json.isNumberLiteral (toString n) = true := by
  have htext := isNumberText_digits [] (.inl rfl) n
  have hdigits : (toString n).toList = Nat.toDigits 10 n := by
    rw [Nat.toString_eq_repr, Nat.repr_eq_ofList_toDigits, String.toList_ofList]
  rw [Json.isNumberLiteral, hdigits, Bool.or_eq_true]
  exact .inl htext

lemma isNumberLiteral_int (n : ℤ) : Json.isNumberLiteral (toString n) = true := by
  cases n with
  | ofNat m => exact isNumberLiteral_natCast m
  | negSucc m =>
    have htext := isNumberText_digits ['-'] (.inr rfl) (m + 1)
    have hdigits : (toString (Int.negSucc m)).toList = ['-'] ++ Nat.toDigits 10 (m + 1) := by
      change ("-" ++ Nat.repr (m + 1)).toList = _
      simp only [String.toList_append, Nat.repr_eq_ofList_toDigits, String.toList_ofList]
      rfl
    rw [Json.isNumberLiteral, hdigits, Bool.or_eq_true]
    exact .inl htext

variable [FloatRepr]

lemma hasLiterals_toJson {v : PyValue} {j : Json} (h : v.toJson = some j) : j.HasLiterals := by
  cases v with
  | none | bool b | str s =>
    cases h
    trivial
  | int n =>
    cases h
    exact isNumberLiteral_int n
  | float x =>
    cases x with
    | finite q =>
      cases h
      simp [Json.HasLiterals, Json.isNumberLiteral, FloatRepr.isNumberText_repr]
    | nan | posInf | negInf | negZero =>
      cases h
      change Json.isNumberLiteral _ = true
      decide
  | object b => cases h

/-- A value is written without an object in it. -/
lemma sortKeys_toJson {v : PyValue} {j : Json} (h : v.toJson = some j) : j.sortKeys = j := by
  cases v with
  | none | bool b | int n | str s =>
    cases h
    rfl
  | float x => cases x <;> cases h <;> rfl
  | object b => cases h

/-- The members of a dictionary are scalars. -/
lemma PyDict.of_toJson {d : PyDict} {members : List (String × Json)} (h : d.toJson = some members) :
    Json.MembersHaveLiterals members ∧ Json.sortMembers members = members := by
  unfold PyDict.toJson at h
  generalize Dictionary.entries d = entries at h
  induction entries generalizing members with
  | nil =>
    cases h
    exact ⟨trivial, rfl⟩
  | cons entry entries ih =>
    rw [List.mapM_cons] at h
    simp only [Option.bind_eq_bind, Option.bind_eq_some_iff, Option.map_eq_some_iff,
      Option.pure_def, Option.some.injEq] at h
    obtain ⟨member, ⟨value, hvalue, rfl⟩, rest, hrest, rfl⟩ := h
    obtain ⟨hliterals, hsorted⟩ := ih hrest
    refine ⟨⟨hasLiterals_toJson hvalue, hliterals⟩, ?_⟩
    rw [Json.sortMembers, sortKeys_toJson hvalue, hsorted]

/-- A value of a type that JSON has is written. -/
lemma exists_toJson {v : PyValue} (h : ∀ b, v ≠ .object b) : ∃ j, v.toJson = some j := by
  cases v with
  | none | bool _ | int _ | str _ => exact ⟨_, rfl⟩
  | float x => cases x <;> exact ⟨_, rfl⟩
  | object b => exact absurd rfl (h b)

/-- A dictionary of such values is written. -/
lemma PyDict.exists_toJson {d : PyDict} (h : ∀ entry ∈ d, ∀ b, entry.2 ≠ .object b) :
    ∃ members, d.toJson = some members := by
  have hentries : ∀ entry ∈ Dictionary.entries d, ∀ b, entry.2 ≠ .object b :=
    fun entry hentry => h entry (Dictionary.mem_entries hentry)
  unfold PyDict.toJson
  generalize Dictionary.entries d = entries at hentries
  induction entries with
  | nil => exact ⟨[], rfl⟩
  | cons entry entries ih =>
    obtain ⟨value, hvalue⟩ := Earth2Sandbox.exists_toJson (hentries entry List.mem_cons_self)
    obtain ⟨members, hmembers⟩ := ih fun e he => hentries e (List.mem_cons_of_mem _ he)
    refine ⟨(entry.1, value) :: members, ?_⟩
    rw [List.mapM_cons, hvalue, hmembers]
    rfl

end Literals

end Earth2Sandbox
