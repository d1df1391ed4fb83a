import Mathlib.Data.Nat.Notation
import Mathlib.Tactic.Common

/-!
# Flat JSON objects as text

JSON objects whose members are strings or null, in the form that Python's `json.dumps` writes
with `separators=(",", ":")` and its default `ensure_ascii`: a character outside printable
ASCII is written as the `\u` escapes of its UTF-16 code units.  `loads` reads that form back,
joining surrogate pairs; a lone surrogate, which no character here stands for, becomes the
replacement character.

`loads_dumps` is the round trip.
-/

namespace Earth2Sandbox

namespace FlatJson

/-! ## Code units -/

/-- The UTF-16 code units of a character. -/
def utf16 (c : Char) : List ℕ :=
  if c.toNat < 0x10000 then [c.toNat]
  else [0xD800 + (c.toNat - 0x10000) / 0x400, 0xDC00 + (c.toNat - 0x10000) % 0x400]

def isHighSurrogate (u : ℕ) : Bool := 0xD800 ≤ u && u ≤ 0xDBFF

def isLowSurrogate (u : ℕ) : Bool := 0xDC00 ≤ u && u ≤ 0xDFFF

/-- What a lone surrogate becomes. -/
def replacementChar : Char := Char.ofNat 0xFFFD

/-- The characters of a sequence of code units. -/
def joinUnits : List ℕ → List Char
  | [] => []
  | [u] =>
    if isHighSurrogate u || isLowSurrogate u then [replacementChar] else [Char.ofNat u]
  | u :: v :: rest =>
    if isHighSurrogate u && isLowSurrogate v then
      Char.ofNat (0x10000 + (u - 0xD800) * 0x400 + (v - 0xDC00)) :: joinUnits rest
    else if isHighSurrogate u || isLowSurrogate u then replacementChar :: joinUnits (v :: rest)
    else Char.ofNat u :: joinUnits (v :: rest)

/-- A unit that is no surrogate is a character. -/
lemma joinUnits_cons {u : ℕ} (hhigh : isHighSurrogate u = false)
    (hlow : isLowSurrogate u = false) (rest : List ℕ) :
    joinUnits (u :: rest) = Char.ofNat u :: joinUnits rest := by
  cases rest with
  | nil => simp [joinUnits, hhigh, hlow]
  | cons v rest => simp [joinUnits, hhigh, hlow]

lemma toNat_range (c : Char) :
    c.toNat < 0xD800 ∨ (0xDFFF < c.toNat ∧ c.toNat < 0x110000) := c.valid

lemma joinUnits_utf16_append (c : Char) (units : List ℕ) :
    joinUnits (utf16 c ++ units) = c :: joinUnits units := by
  have hrange := toNat_range c
  unfold utf16
  split
  · next hsmall =>
    have hhigh : isHighSurrogate c.toNat = false := by
      simp only [isHighSurrogate, Bool.and_eq_false_iff, decide_eq_false_iff_not]
      omega
    have hlow : isLowSurrogate c.toNat = false := by
      simp only [isLowSurrogate, Bool.and_eq_false_iff, decide_eq_false_iff_not]
      omega
    rw [List.cons_append, List.nil_append, joinUnits_cons hhigh hlow, Char.ofNat_toNat]
  · next hlarge =>
    have hhigh : isHighSurrogate (0xD800 + (c.toNat - 0x10000) / 0x400) = true := by
      simp only [isHighSurrogate, Bool.and_eq_true, decide_eq_true_eq]
      omega
    have hlow : isLowSurrogate (0xDC00 + (c.toNat - 0x10000) % 0x400) = true := by
      simp only [isLowSurrogate, Bool.and_eq_true, decide_eq_true_eq]
      omega
    have hsum : 0x10000 + (0xD800 + (c.toNat - 0x10000) / 0x400 - 0xD800) * 0x400 +
        (0xDC00 + (c.toNat - 0x10000) % 0x400 - 0xDC00) = c.toNat := by
      omega
    simp only [List.cons_append, List.nil_append, joinUnits, hhigh, hlow, Bool.and_self, if_true,
      hsum, Char.ofNat_toNat]

lemma joinUnits_flatMap (cs : List Char) : joinUnits (cs.flatMap utf16) = cs := by
  induction cs with
  | nil => rfl
  | cons c cs ih => rw [List.flatMap_cons, joinUnits_utf16_append, ih]

/-! ## Hexadecimal digits -/

/-- A lower-case hexadecimal digit. -/
def hexDigit (d : ℕ) : Char :=
  if d < 10 then Char.ofNat (48 + d) else Char.ofNat (87 + d)

/-- The value of a hexadecimal digit of either case. -/
def hexValue (c : Char) : Option ℕ :=
  if c.isDigit then some (c.toNat - 48)
  else if 'a' ≤ c ∧ c ≤ 'f' then some (c.toNat - 87)
  else if 'A' ≤ c ∧ c ≤ 'F' then some (c.toNat - 55)
  else none

lemma hexValue_hexDigit : ∀ d < 16, hexValue (hexDigit d) = some d := by decide

/-- The escape of one code unit, `\uXXXX`. -/
def escapeUnit (u : ℕ) : List Char :=
  ['\\', 'u', hexDigit (u / 4096 % 16), hexDigit (u / 256 % 16), hexDigit (u / 16 % 16),
    hexDigit (u % 16)]

/-! ## Strings -/

/-- The letter of a two-character escape that is written. -/
def shortEscape (c : Char) : Option Char :=
  if c = '"' then some '"'
  else if c = '\\' then some '\\'
  else if c = '\n' then some 'n'
  else if c = '\r' then some 'r'
  else if c = '\t' then some 't'
  else if c.toNat = 12 then some 'f'
  else if c.toNat = 8 then some 'b'
  else none

/-- The code unit that a two-character escape stands for. -/
def shortUnescape (letter : Char) : Option ℕ :=
  if letter = '"' then some 34
  else if letter = '\\' then some 92
  else if letter = '/' then some 47
  else if letter = 'n' then some 10
  else if letter = 'r' then some 13
  else if letter = 't' then some 9
  else if letter = 'f' then some 12
  else if letter = 'b' then some 8
  else none

/-- A character within a JSON string. -/
def escapeChar (c : Char) : List Char :=
  match shortEscape c with
  | some letter => ['\\', letter]
  | none => if 32 ≤ c.toNat ∧ c.toNat ≤ 126 then [c] else (utf16 c).flatMap escapeUnit

/-- The code units of a JSON string up to its closing quote, and the text after it. -/
def unescape : List Char → Option (List ℕ × List Char)
  | [] => none
  | '"' :: rest => some ([], rest)
  | '\\' :: 'u' :: a :: b :: c :: d :: rest => do
    let a ← hexValue a
    let b ← hexValue b
    let c ← hexValue c
    let d ← hexValue d
    let p ← unescape rest
    some ((a * 4096 + b * 256 + c * 16 + d) :: p.1, p.2)
  | '\\' :: letter :: rest => do
    let unit ← shortUnescape letter
    let p ← unescape rest
    some (unit :: p.1, p.2)
  | c :: rest =>
    if c.toNat < 32 ∨ c = '\\' then none
    else (unescape rest).map fun p => (c.toNat :: p.1, p.2)

lemma shortUnescape_shortEscape {c letter : Char} (h : shortEscape c = some letter) :
    shortUnescape letter = some c.toNat ∧ letter ≠ 'u' ∧ utf16 c = [c.toNat] := by
  have hsmall : c.toNat < 128 := by
    unfold shortEscape at h
    repeat' split at h
    all_goals first | (subst c; decide) | omega | cases h
  have hutf : utf16 c = [c.toNat] := by
    unfold utf16
    rw [if_pos (by omega)]
  refine ⟨?_, ?_, hutf⟩
  all_goals
    unfold shortEscape at h
    repeat' split at h
    all_goals first
      | (cases h; subst c; decide)
      | (cases h; simp_all [shortUnescape])
      | cases h

lemma unescape_short {letter : Char} {unit : ℕ} (h : shortUnescape letter = some unit)
    (hu : letter ≠ 'u') (rest : List Char) :
    unescape ('\\' :: letter :: rest) = (unescape rest).map fun p => (unit :: p.1, p.2) := by
  rw [unescape.eq_def]
  split
  · next heq => cases heq
  · next heq => cases (List.cons.inj heq).1
  · next heq => exact absurd (List.cons.inj (List.cons.inj heq).2).1 hu
  · next letter' rest' _ heq =>
    obtain ⟨-, htail⟩ := List.cons.inj heq
    obtain ⟨rfl, rfl⟩ := List.cons.inj htail
    simp only [h, Option.bind_eq_bind, Option.bind_some]
    cases unescape rest <;> rfl
  · next hother heq =>
    obtain ⟨rfl, rfl⟩ := List.cons.inj heq
    exact absurd rfl (hother letter rest rfl)

lemma unescape_escapeUnit {u : ℕ} (hu : u < 0x10000) (rest : List Char) :
    unescape (escapeUnit u ++ rest) = (unescape rest).map fun p => (u :: p.1, p.2) := by
  have hsum : u / 4096 % 16 * 4096 + u / 256 % 16 * 256 + u / 16 % 16 * 16 + u % 16 = u := by
    omega
  simp only [escapeUnit, List.cons_append, List.nil_append, unescape,
    hexValue_hexDigit _ (Nat.mod_lt _ (by decide : 16 > 0)), Option.bind_eq_bind,
    Option.bind_some, hsum]
  cases unescape rest <;> rfl

lemma unescape_plain {c : Char} (hshort : shortEscape c = none) (hmin : 32 ≤ c.toNat)
    (rest : List Char) :
    unescape (c :: rest) = (unescape rest).map fun p => (c.toNat :: p.1, p.2) := by
  have hquote : c ≠ '"' := by
    rintro rfl
    simp [shortEscape] at hshort
  have hback : c ≠ '\\' := by
    rintro rfl
    simp [shortEscape] at hshort
  rw [unescape.eq_def]
  split
  · next heq => cases heq
  · next heq => exact absurd (List.cons.inj heq).1 hquote
  · next heq => exact absurd (List.cons.inj heq).1 hback
  · next heq => exact absurd (List.cons.inj heq).1 hback
  · next heq =>
    obtain ⟨rfl, rfl⟩ := List.cons.inj heq
    rw [if_neg (not_or.mpr ⟨by omega, hback⟩)]

lemma utf16_lt (c : Char) : ∀ u ∈ utf16 c, u < 0x10000 := by
  have hrange := toNat_range c
  intro u hu
  unfold utf16 at hu
  split at hu
  · simp only [List.mem_singleton] at hu
    omega
  · simp only [List.mem_cons, List.not_mem_nil, or_false] at hu
    omega

/-- Escapes are read back unit by unit. -/
lemma unescape_flatMap_escapeUnit {units : List ℕ} (h : ∀ u ∈ units, u < 0x10000)
    (rest : List Char) :
    unescape (units.flatMap escapeUnit ++ rest) =
      (unescape rest).map fun p => (units ++ p.1, p.2) := by
  induction units with
  | nil => simp
  | cons u units ih =>
    obtain ⟨hu, hunits⟩ := List.forall_mem_cons.mp h
    rw [List.flatMap_cons, List.append_assoc, unescape_escapeUnit hu, ih hunits, Option.map_map]
    rfl

/-- A character is read back as its code units. -/
lemma unescape_escapeChar (c : Char) (rest : List Char) :
    unescape (escapeChar c ++ rest) = (unescape rest).map fun p => (utf16 c ++ p.1, p.2) := by
  unfold escapeChar
  split
  · next letter hletter =>
    obtain ⟨hunit, hu, hutf⟩ := shortUnescape_shortEscape hletter
    rw [hutf]
    exact unescape_short hunit hu rest
  · next hshort =>
    split
    · next hprintable =>
      have hutf : utf16 c = [c.toNat] := by
        unfold utf16
        rw [if_pos (by omega)]
      rw [hutf]
      exact unescape_plain hshort hprintable.1 rest
    · exact unescape_flatMap_escapeUnit (utf16_lt c) rest

/-- A string is read back as its code units, up to the closing quote. -/
lemma unescape_flatMap_escapeChar (cs rest : List Char) :
    unescape (cs.flatMap escapeChar ++ '"' :: rest) = some (cs.flatMap utf16, rest) := by
  induction cs with
  | nil => simp [unescape]
  | cons c cs ih =>
    rw [List.flatMap_cons, List.append_assoc, unescape_escapeChar, ih, List.flatMap_cons,
      Option.map_some]

/-! ## Objects -/

/-- A string or null. -/
abbrev Value := Option String

/-- A JSON string literal. -/
def dumpString (s : String) : List Char := '"' :: (s.toList.flatMap escapeChar ++ ['"'])

/-- A value. -/
def dumpValue : Value → List Char
  | none => ['n', 'u', 'l', 'l']
  | some s => dumpString s

/-- The members of an object, separated by commas and closed. -/
def dumpMembers : List (String × Value) → List Char
  | [] => ['}']
  | [m] => dumpString m.1 ++ ':' :: (dumpValue m.2 ++ ['}'])
  | m :: rest => dumpString m.1 ++ ':' :: (dumpValue m.2 ++ ',' :: dumpMembers rest)

/-- `json.dumps` of an object, members in the given order. -/
def dumps (members : List (String × Value)) : String :=
  String.ofList ('{' :: dumpMembers members)

/-- A string literal at the beginning of the text. -/
def loadString : List Char → Option (String × List Char)
  | '"' :: rest => do
    let p ← unescape rest
    some (String.ofList (joinUnits p.1), p.2)
  | _ => none

/-- A value at the beginning of the text. -/
def loadValue : List Char → Option (Value × List Char)
  | 'n' :: 'u' :: 'l' :: 'l' :: rest => some (none, rest)
  | text => (loadString text).map fun p => (some p.1, p.2)

/-- Members up to the closing brace, which ends the text.  The first argument bounds their
number. -/
def loadMembers : ℕ → List Char → Option (List (String × Value))
  | 0, _ => none
  | _ + 1, ['}'] => some []
  | n + 1, text => do
    let name ← loadString text
    match name.2 with
    | ':' :: rest => do
      let value ← loadValue rest
      match value.2 with
      | ['}'] => some [(name.1, value.1)]
      | ',' :: rest => do
        let members ← loadMembers n rest
        some ((name.1, value.1) :: members)
      | _ => none
    | _ => none

/-- `json.loads` of an object. -/
def loads (text : String) : Option (List (String × Value)) :=
  match text.toList with
  | '{' :: rest => loadMembers rest.length rest
  | _ => none

lemma loadString_dumpString (s : String) (rest : List Char) :
    loadString (dumpString s ++ rest) = some (s, rest) := by
  simp only [dumpString, List.cons_append, List.append_assoc, List.nil_append, loadString,
    unescape_flatMap_escapeChar, Option.bind_eq_bind, Option.bind_some, joinUnits_flatMap,
    String.ofList_toList]

lemma loadValue_dumpValue (v : Value) (rest : List Char) :
    loadValue (dumpValue v ++ rest) = some (v, rest) := by
  cases v with
  | none => rfl
  | some s =>
    change (loadString (dumpString s ++ rest)).map (fun p => (some p.1, p.2)) = _
    rw [loadString_dumpString, Option.map_some]

/-- A text that begins with a string literal is not the end of an object. -/
lemma loadMembers_dumpString (n : ℕ) (s : String) (rest : List Char) :
    loadMembers (n + 1) (dumpString s ++ rest) =
      (loadString (dumpString s ++ rest)).bind fun name =>
        match name.2 with
        | ':' :: rest => (loadValue rest).bind fun value =>
          match value.2 with
          | ['}'] => some [(name.1, value.1)]
          | ',' :: rest => (loadMembers n rest).bind fun members =>
            some ((name.1, value.1) :: members)
          | _ => none
        | _ => none := rfl

lemma length_dumpMembers : ∀ members : List (String × Value),
    members.length ≤ (dumpMembers members).length
  | [] => by simp [dumpMembers]
  | [m] => by simp [dumpMembers, dumpString]
  | m :: m' :: rest => by
    have ih := length_dumpMembers (m' :: rest)
    simp only [dumpMembers, List.length_append, List.length_cons] at ih ⊢
    omega

lemma loadMembers_dumpMembers : ∀ (members : List (String × Value)) (n : ℕ),
    members.length ≤ n → 0 < n → loadMembers n (dumpMembers members) = some members
  | [], n + 1, _, _ => by simp [dumpMembers, loadMembers]
  | [m], n + 1, _, _ => by
    change loadMembers (n + 1) (dumpString m.1 ++ ':' :: (dumpValue m.2 ++ ['}'])) = _
    rw [loadMembers_dumpString, loadString_dumpString]
    simp only [Option.bind_some, loadValue_dumpValue]
  | m :: m' :: rest, n + 1, h, _ => by
    have hlength : (m' :: rest).length ≤ n := Nat.le_of_succ_le_succ h
    have ih := loadMembers_dumpMembers (m' :: rest) n hlength
      (Nat.lt_of_lt_of_le (Nat.succ_pos _) hlength)
    change loadMembers (n + 1) (dumpString m.1 ++ ':' :: (dumpValue m.2 ++ ',' ::
      dumpMembers (m' :: rest))) = _
    rw [loadMembers_dumpString, loadString_dumpString]
    simp only [Option.bind_some, loadValue_dumpValue, ih]

/-- **Round trip.** -/
theorem loads_dumps (members : List (String × Value)) : loads (dumps members) = some members := by
  have hlength : 0 < (dumpMembers members).length := by
    cases members with
    | nil => simp [dumpMembers]
    | cons m rest => cases rest <;> simp [dumpMembers, dumpString]
  simp only [loads, dumps, String.toList_ofList]
  exact loadMembers_dumpMembers members _ (length_dumpMembers members) hlength

end FlatJson

end Earth2Sandbox
