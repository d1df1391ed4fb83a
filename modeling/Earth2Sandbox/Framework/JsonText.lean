import Earth2Sandbox.Framework.Dictionary
import Earth2Sandbox.Framework.FlatJson
import Earth2Sandbox.Framework.Json
import Mathlib.Data.List.Infix
import Mathlib.Data.String.Basic

/-!
# JSON as text

`write` is what Python's `json.dumps` writes of a value, in one of its styles; `dumps` sorts the
members of every object first, as `sort_keys=True` asks for.  `loads` is `json.loads`: it skips
white space between tokens, keeps a number as its literal, and of several members of one name
takes the last.

`loads_dumps` is the round trip, for every style: a value whose numbers are literals is read back
with its members sorted.
-/

namespace Earth2Sandbox

namespace Json

open FlatJson (loadString)

/-! ## Number literals -/

/-- The characters of a number. -/
def isNumberChar (c : Char) : Bool := c.isDigit || c ∈ ['-', '+', '.', 'e', 'E']

/-- The text after the integer part of a number. -/
def skipInteger : List Char → Option (List Char)
  | [] => none
  | c :: rest =>
    if c = '0' then some rest
    else if c.isDigit then some (rest.dropWhile Char.isDigit) else none

/-- The text after the fraction of a number, if there is one. -/
def skipFraction : List Char → List Char
  | '.' :: d :: rest => if d.isDigit then rest.dropWhile Char.isDigit else '.' :: d :: rest
  | text => text

/-- The text without a sign. -/
def skipSign : List Char → List Char
  | '-' :: rest | '+' :: rest => rest
  | text => text

/-- The text after the exponent of a number, if there is one. -/
def skipExponent : List Char → List Char
  | [] => []
  | e :: rest =>
    if e = 'e' ∨ e = 'E' then
      match skipSign rest with
      | [] => e :: rest
      | d :: digits => if d.isDigit then digits.dropWhile Char.isDigit else e :: rest
    else e :: rest

/-- The text without a minus sign. -/
def skipMinus : List Char → List Char
  | '-' :: rest => rest
  | text => text

/-- The text is `-?(0|[1-9][0-9]*)(\.[0-9]+)?([eE][-+]?[0-9]+)?`. -/
def isNumberText (text : List Char) : Bool :=
  text.all isNumberChar &&
    (skipInteger (skipMinus text)).any fun rest => skipExponent (skipFraction rest) = []

/-- The literals that stand for numbers; the last three are an extension of Python's. -/
def isNumberLiteral (literal : String) : Bool :=
  isNumberText literal.toList || literal ∈ ["NaN", "Infinity", "-Infinity"]

/-! ## Writing -/

/-- White space between tokens. -/
def isJsonSpace (c : Char) : Bool := c ∈ [' ', '\t', '\n', '\r']

/-- How a value is laid out: the string literals, what stands before each item and before a
closing bracket, and what follows a colon. -/
structure Style where
  quote : String → List Char
  newline : ℕ → List Char
  afterColon : List Char
  loadString_quote : ∀ s rest, loadString (quote s ++ rest) = some (s, rest)
  newline_space : ∀ level, ∀ c ∈ newline level, isJsonSpace c = true
  afterColon_space : ∀ c ∈ afterColon, isJsonSpace c = true

mutual

/-- A value at a level of nesting. -/
def write (style : Style) (level : ℕ) : Json → List Char
  | null => "null".toList
  | bool true => "true".toList
  | bool false => "false".toList
  | number literal => literal.toList
  | str s => style.quote s
  | array [] => "[]".toList
  | array (item :: items) =>
    '[' :: (style.newline (level + 1) ++ (write style (level + 1) item ++
      writeItems style level items))
  | object [] => "\x7b\x7d".toList
  | object ((name, value) :: members) =>
    '\x7b' :: (style.newline (level + 1) ++ (style.quote name ++ ':' :: (style.afterColon ++
      (write style (level + 1) value ++ writeMembers style level members))))

/-- The items after the first and the closing bracket. -/
def writeItems (style : Style) (level : ℕ) : List Json → List Char
  | [] => style.newline level ++ [']']
  | item :: items =>
    ',' :: (style.newline (level + 1) ++ (write style (level + 1) item ++
      writeItems style level items))

/-- The members after the first and the closing bracket. -/
def writeMembers (style : Style) (level : ℕ) : List (String × Json) → List Char
  | [] => style.newline level ++ ['\x7d']
  | (name, value) :: members =>
    ',' :: (style.newline (level + 1) ++ (style.quote name ++ ':' :: (style.afterColon ++
      (write style (level + 1) value ++ writeMembers style level members))))

end

mutual

/-- The members of every object that count, by their names. -/
def sortKeys : Json → Json
  | array items => array (sortItems items)
  | object members => object (Dictionary.sortedEntries (sortMembers members))
  | null => null
  | bool b => bool b
  | number literal => number literal
  | str s => str s

def sortItems : List Json → List Json
  | [] => []
  | item :: items => sortKeys item :: sortItems items

def sortMembers : List (String × Json) → List (String × Json)
  | [] => []
  | (name, value) :: members => (name, sortKeys value) :: sortMembers members

end

/-- `json.dumps(value, sort_keys=True)` in a style. -/
def dumps (style : Style) (value : Json) : String := String.ofList (write style 0 value.sortKeys)

/-! ## Reading -/

/-- The text after white space. -/
def skipSpace (text : List Char) : List Char := text.dropWhile isJsonSpace

/-- The text after a token. -/
def skipToken (token text : List Char) : Option (List Char) :=
  if token <+: text then some (text.drop token.length) else none

/-- A number at the beginning of a text. -/
def readNumber (text : List Char) : Option (Json × List Char) :=
  if isNumberText (text.takeWhile isNumberChar) then
    some (number (String.ofList (text.takeWhile isNumberChar)), text.dropWhile isNumberChar)
  else none

/-- A value that is written as a word, or a number. -/
def readWord (text : List Char) : Option (Json × List Char) :=
  ((skipToken "null".toList text).map fun rest => (null, rest)) <|>
  ((skipToken "true".toList text).map fun rest => (bool true, rest)) <|>
  ((skipToken "false".toList text).map fun rest => (bool false, rest)) <|>
  ((skipToken "NaN".toList text).map fun rest => (number "NaN", rest)) <|>
  ((skipToken "Infinity".toList text).map fun rest => (number "Infinity", rest)) <|>
  ((skipToken "-Infinity".toList text).map fun rest => (number "-Infinity", rest)) <|>
  readNumber text

/-- Items up to the closing bracket.  The number bounds how many there are. -/
def readItems (readValue : List Char → Option (Json × List Char)) :
    ℕ → List Char → Option (List Json × List Char)
  | 0, _ => none
  | n + 1, text => do
    let item ← readValue text
    match skipSpace item.2 with
    | ',' :: rest => do
      let items ← readItems readValue n (skipSpace rest)
      some (item.1 :: items.1, items.2)
    | ']' :: rest => some ([item.1], rest)
    | _ => none

/-- A member name and the text of its value. -/
def readName (text : List Char) : Option (String × List Char) := do
  let name ← loadString text
  match skipSpace name.2 with
  | ':' :: rest => some (name.1, skipSpace rest)
  | _ => none

/-- Members up to the closing bracket.  The number bounds how many there are. -/
def readMembers (readValue : List Char → Option (Json × List Char)) :
    ℕ → List Char → Option (List (String × Json) × List Char)
  | 0, _ => none
  | n + 1, text => do
    let name ← readName text
    let value ← readValue name.2
    match skipSpace value.2 with
    | ',' :: rest => do
      let members ← readMembers readValue n (skipSpace rest)
      some ((name.1, value.1) :: members.1, members.2)
    | '\x7d' :: rest => some ([(name.1, value.1)], rest)
    | _ => none

/-- The dictionary of these members: the last value of each name. -/
def dictOf (members : List (String × Json)) : List (String × Json) :=
  (Dictionary.entries members.reverse).reverse

/-- A value at the beginning of a text.  The number bounds its nesting and its members. -/
def readValue : ℕ → List Char → Option (Json × List Char)
  | 0, _ => none
  | n + 1, text =>
    match text with
    | '"' :: _ => (loadString text).map fun p => (str p.1, p.2)
    | '[' :: rest =>
      match skipSpace rest with
      | ']' :: rest => some (array [], rest)
      | text => (readItems (readValue n) n text).map fun p => (array p.1, p.2)
    | '\x7b' :: rest =>
      match skipSpace rest with
      | '\x7d' :: rest => some (object [], rest)
      | text => (readMembers (readValue n) n text).map fun p => (object (dictOf p.1), p.2)
    | _ => readWord text

/-- `json.loads(text)`, or `none` when it raises a `ValueError`.  The limits of an interpreter, on
the digits of an integer and on the depth of a text, are left out. -/
def loads (text : String) : Option Json := do
  let value ← readValue (text.toList.length + 1) (skipSpace text.toList)
  if skipSpace value.2 = [] then some value.1 else none

/-! ## White space -/

lemma skipSpace_append {space : List Char} (h : ∀ c ∈ space, isJsonSpace c = true)
    (rest : List Char) : skipSpace (space ++ rest) = skipSpace rest :=
  List.dropWhile_append_of_pos h

lemma skipSpace_cons {c : Char} (h : isJsonSpace c = false) (rest : List Char) :
    skipSpace (c :: rest) = c :: rest := by
  rw [skipSpace, List.dropWhile_cons_of_neg (by simp [h])]

/-- A text that begins with a value. -/
def BeginsValue (text : List Char) : Prop :=
  ∃ c rest, text = c :: rest ∧ isJsonSpace c = false ∧ c ≠ ']' ∧ c ≠ '\x7d'

lemma BeginsValue.skipSpace_eq {text : List Char} (h : BeginsValue text) :
    skipSpace text = text := by
  obtain ⟨c, rest, rfl, hspace, -⟩ := h
  exact skipSpace_cons hspace rest

lemma BeginsValue.append {text : List Char} (h : BeginsValue text) (rest : List Char) :
    BeginsValue (text ++ rest) := by
  obtain ⟨c, rest', rfl, hc⟩ := h
  exact ⟨c, rest' ++ rest, rfl, hc⟩

/-- A text that ends a number. -/
def Stops (text : List Char) : Prop := ∀ c ∈ text.head?, isNumberChar c = false

lemma stops_cons {c : Char} {rest : List Char} (h : isNumberChar c = false) :
    Stops (c :: rest) := by
  intro d hd
  cases hd
  exact h

lemma isNumberChar_of_isJsonSpace {c : Char} (h : isJsonSpace c = true) :
    isNumberChar c = false := by
  simp only [isJsonSpace, List.mem_cons, List.not_mem_nil, or_false, decide_eq_true_eq] at h
  rcases h with rfl | rfl | rfl | rfl <;> decide

lemma stops_append {space rest : List Char} (h : ∀ c ∈ space, isJsonSpace c = true)
    (hrest : Stops rest) : Stops (space ++ rest) := by
  cases space with
  | nil => exact hrest
  | cons c space => exact stops_cons (isNumberChar_of_isJsonSpace (h c List.mem_cons_self))

/-! ## Numbers -/

lemma isNumberText_begins {text : List Char} (h : isNumberText text = true) :
    ∃ c rest, text = c :: rest ∧ (c.isDigit = true ∨
      c = '-' ∧ ∃ d rest', rest = d :: rest' ∧ d.isDigit = true) := by
  have hdigit : ∀ body, (skipInteger body).isSome = true →
      ∃ d rest, body = d :: rest ∧ d.isDigit = true := by
    intro body hbody
    cases body with
    | nil => cases hbody
    | cons d rest =>
      refine ⟨d, rest, rfl, ?_⟩
      rw [skipInteger] at hbody
      by_cases hzero : d = '0'
      · rw [hzero]
        decide
      · rw [if_neg hzero] at hbody
        by_contra hd
        rw [if_neg hd] at hbody
        cases hbody
  simp only [isNumberText, Bool.and_eq_true, Option.any_eq_true] at h
  obtain ⟨-, rest, hinteger, -⟩ := h
  obtain ⟨d, rest', hbody, hd⟩ := hdigit (skipMinus text) (by rw [hinteger]; rfl)
  unfold skipMinus at hbody
  split at hbody
  · exact ⟨'-', _, rfl, .inr ⟨rfl, d, rest', hbody, hd⟩⟩
  · exact ⟨d, rest', hbody, .inl hd⟩

lemma readNumber_append {text rest : List Char} (h : isNumberText text = true)
    (hrest : Stops rest) :
    readNumber (text ++ rest) = some (number (String.ofList text), rest) := by
  have hall : ∀ c ∈ text, isNumberChar c = true := by
    simp only [isNumberText, Bool.and_eq_true, List.all_eq_true] at h
    exact h.1
  have htake : rest.takeWhile isNumberChar = [] := by
    cases rest with
    | nil => rfl
    | cons c rest => exact List.takeWhile_cons_of_neg (by simp [hrest c rfl])
  have hdrop : rest.dropWhile isNumberChar = rest := by
    cases rest with
    | nil => rfl
    | cons c rest => exact List.dropWhile_cons_of_neg (by simp [hrest c rfl])
  rw [readNumber, List.takeWhile_append_of_pos hall, List.dropWhile_append_of_pos hall, htake,
    hdrop, List.append_nil, if_pos h]

lemma skipToken_cons_of_ne {c d : Char} (h : d ≠ c) (token text : List Char) :
    skipToken (d :: token) (c :: text) = none := by
  refine if_neg fun hprefix => h ?_
  exact (List.cons_prefix_cons.mp hprefix).1

/-- A number is not taken for a word. -/
lemma readWord_of_isNumberText {text : List Char} (h : isNumberText text = true)
    (rest : List Char) : readWord (text ++ rest) = readNumber (text ++ rest) := by
  have hdigit : ∀ c : Char, c.isDigit = true → 'n' ≠ c ∧ 't' ≠ c ∧ 'f' ≠ c ∧ 'N' ≠ c ∧ 'I' ≠ c ∧
      '-' ≠ c := by
    intro c hc
    refine ⟨?_, ?_, ?_, ?_, ?_, ?_⟩ <;> (rintro rfl; cases hc)
  obtain ⟨c, tail, rfl, hc | ⟨rfl, d, tail', rfl, hd⟩⟩ := isNumberText_begins h
  · obtain ⟨hn, ht, hf, hN, hI, hminus⟩ := hdigit c hc
    unfold readWord
    simp only [List.cons_append, String.reduceToList, skipToken_cons_of_ne hn,
      skipToken_cons_of_ne ht, skipToken_cons_of_ne hf, skipToken_cons_of_ne hN,
      skipToken_cons_of_ne hI, skipToken_cons_of_ne hminus]
    rfl
  · obtain ⟨-, -, -, -, hI, -⟩ := hdigit d hd
    have hinfinity : skipToken "-Infinity".toList ('-' :: d :: (tail' ++ rest)) = none := by
      refine if_neg fun hprefix => hI ?_
      exact (List.cons_prefix_cons.mp (List.cons_prefix_cons.mp hprefix).2).1
    unfold readWord
    rw [List.cons_append, List.cons_append, hinfinity]
    simp only [String.reduceToList, skipToken_cons_of_ne (show 'n' ≠ '-' by decide),
      skipToken_cons_of_ne (show 't' ≠ '-' by decide),
      skipToken_cons_of_ne (show 'f' ≠ '-' by decide),
      skipToken_cons_of_ne (show 'N' ≠ '-' by decide),
      skipToken_cons_of_ne (show 'I' ≠ '-' by decide)]
    rfl

lemma readWord_number {literal : String} (h : isNumberLiteral literal = true) {rest : List Char}
    (hrest : Stops rest) : readWord (literal.toList ++ rest) = some (number literal, rest) := by
  simp only [isNumberLiteral, Bool.or_eq_true, decide_eq_true_eq, List.mem_cons,
    List.not_mem_nil, or_false] at h
  rcases h with h | rfl | rfl | rfl
  · rw [readWord_of_isNumberText h, readNumber_append h hrest, String.ofList_toList]
  all_goals rfl

/-! ## Values that can be read back -/

mutual

/-- Every number is a literal and every object has one member a name. -/
def Readable : Json → Prop
  | number literal => isNumberLiteral literal = true
  | array items => ReadableItems items
  | object members => (members.map Prod.fst).Nodup ∧ ReadableMembers members
  | null | bool _ | str _ => True

def ReadableItems : List Json → Prop
  | [] => True
  | item :: items => item.Readable ∧ ReadableItems items

def ReadableMembers : List (String × Json) → Prop
  | [] => True
  | (_, value) :: members => value.Readable ∧ ReadableMembers members

end

mutual

/-- A bound on the nesting and the members of a value. -/
def weight : Json → ℕ
  | array items => 1 + weightItems items
  | object members => 1 + weightMembers members
  | null | bool _ | number _ | str _ => 1

def weightItems : List Json → ℕ
  | [] => 0
  | item :: items => weight item + weightItems items

def weightMembers : List (String × Json) → ℕ
  | [] => 0
  | (_, value) :: members => weight value + weightMembers members

end

lemma weight_pos (value : Json) : 0 < value.weight := by
  cases value <;> simp [weight]

lemma length_le_weightItems (items : List Json) : items.length ≤ weightItems items := by
  induction items with
  | nil => exact Nat.le_refl 0
  | cons item items ih =>
    have := weight_pos item
    simp only [List.length_cons, weightItems]
    omega

lemma length_le_weightMembers (members : List (String × Json)) :
    members.length ≤ weightMembers members := by
  induction members with
  | nil => exact Nat.le_refl 0
  | cons member members ih =>
    obtain ⟨name, value⟩ := member
    have := weight_pos value
    simp only [List.length_cons, weightMembers]
    omega

lemma dictOf_eq_self {members : List (String × Json)} (h : (members.map Prod.fst).Nodup) :
    dictOf members = members := by
  have hreverse : (members.reverse.map Prod.fst).Nodup := by
    rw [List.map_reverse]
    exact List.nodup_reverse.mpr h
  rw [dictOf, Dictionary.entries_eq_self hreverse, List.reverse_reverse]

section Layout

variable (style : Style)

lemma Style.quote_begins (s : String) : ∃ rest, style.quote s = '"' :: rest := by
  have hload := style.loadString_quote s []
  rw [List.append_nil] at hload
  unfold loadString at hload
  split at hload
  · next rest heq => exact ⟨rest, heq⟩
  · cases hload

lemma beginsValue_quote (s : String) : BeginsValue (style.quote s) := by
  obtain ⟨rest, hrest⟩ := style.quote_begins s
  exact ⟨'"', rest, hrest, by decide, by decide, by decide⟩

lemma beginsValue_write {value : Json} (h : value.Readable) (level : ℕ) :
    BeginsValue (write style level value) := by
  cases value with
  | null => exact ⟨'n', _, rfl, by decide, by decide, by decide⟩
  | bool b =>
    cases b with
    | true => exact ⟨'t', _, rfl, by decide, by decide, by decide⟩
    | false => exact ⟨'f', _, rfl, by decide, by decide, by decide⟩
  | number literal =>
    simp only [Readable, isNumberLiteral, Bool.or_eq_true, decide_eq_true_eq, List.mem_cons,
      List.not_mem_nil, or_false] at h
    have hdigit : ∀ c : Char, c.isDigit = true → isJsonSpace c = false ∧ c ≠ ']' ∧ c ≠ '\x7d' := by
      intro c hc
      refine ⟨?_, ?_, ?_⟩
      · by_contra hspace
        simp only [Bool.not_eq_false] at hspace
        simp only [isJsonSpace, List.mem_cons, List.not_mem_nil, or_false,
          decide_eq_true_eq] at hspace
        rcases hspace with rfl | rfl | rfl | rfl <;> cases hc
      all_goals
        rintro rfl
        cases hc
    rcases h with h | rfl | rfl | rfl
    · obtain ⟨c, rest, htext, hc | ⟨rfl, -⟩⟩ := isNumberText_begins h
      · exact ⟨c, rest, htext, hdigit c hc⟩
      · exact ⟨'-', rest, htext, by decide, by decide, by decide⟩
    · exact ⟨'N', _, rfl, by decide, by decide, by decide⟩
    · exact ⟨'I', _, rfl, by decide, by decide, by decide⟩
    · exact ⟨'-', _, rfl, by decide, by decide, by decide⟩
  | str s => exact beginsValue_quote style s
  | array items =>
    cases items with
    | nil => exact ⟨'[', _, rfl, by decide, by decide, by decide⟩
    | cons item items => exact ⟨'[', _, rfl, by decide, by decide, by decide⟩
  | object members =>
    cases members with
    | nil => exact ⟨'\x7b', _, rfl, by decide, by decide, by decide⟩
    | cons member members => exact ⟨'\x7b', _, rfl, by decide, by decide, by decide⟩

/-- What follows an item ends a number. -/
lemma stops_writeItems (level : ℕ) (items : List Json) (rest : List Char) :
    Stops (writeItems style level items ++ rest) := by
  cases items with
  | nil =>
    rw [writeItems, List.append_assoc]
    exact stops_append (style.newline_space level) (stops_cons (by decide))
  | cons item items => exact stops_cons (by decide)

lemma stops_writeMembers (level : ℕ) (members : List (String × Json)) (rest : List Char) :
    Stops (writeMembers style level members ++ rest) := by
  cases members with
  | nil =>
    rw [writeMembers, List.append_assoc]
    exact stops_append (style.newline_space level) (stops_cons (by decide))
  | cons member members => exact stops_cons (by decide)

end Layout

/-! ## The round trip -/

section RoundTrip

variable (style : Style)

/-- The value is read back from what is written of it. -/
def ReadsBack (n : ℕ) (level : ℕ) (value : Json) : Prop :=
  ∀ rest, Stops rest → readValue n (write style level value ++ rest) = some (value, rest)

lemma readItems_last {n m level : ℕ} {item : Json} (h : ReadsBack style m (level + 1) item)
    (rest : List Char) :
    readItems (readValue m) (n + 1) (write style (level + 1) item ++
      (writeItems style level [] ++ rest)) = some ([item], rest) := by
  rw [readItems, h _ (stops_writeItems style level [] rest)]
  simp only [Option.bind_eq_bind, Option.bind_some, writeItems, List.append_assoc,
    List.cons_append, List.nil_append]
  rw [skipSpace_append (style.newline_space level), skipSpace_cons (by decide)]
  rfl

lemma readItems_more {n m level : ℕ} {item next : Json} {items : List Json}
    (h : ReadsBack style m (level + 1) item) (hnext : next.Readable) {rest : List Char}
    (hrest : readItems (readValue m) n (write style (level + 1) next ++
      (writeItems style level items ++ rest)) = some (next :: items, rest)) :
    readItems (readValue m) (n + 1) (write style (level + 1) item ++
      (writeItems style level (next :: items) ++ rest)) = some (item :: next :: items, rest) := by
  rw [readItems, h _ (stops_writeItems style level (next :: items) rest)]
  simp only [Option.bind_eq_bind, Option.bind_some, writeItems, List.append_assoc,
    List.cons_append]
  rw [skipSpace_cons (by decide)]
  simp only
  rw [skipSpace_append (style.newline_space (level + 1)),
    ((beginsValue_write style hnext (level + 1)).append _).skipSpace_eq, hrest]
  rfl

lemma readName_quote (name : String) {text : List Char} (htext : BeginsValue text) :
    readName (style.quote name ++ ':' :: (style.afterColon ++ text)) = some (name, text) := by
  rw [readName, style.loadString_quote]
  simp only [Option.bind_eq_bind, Option.bind_some]
  rw [skipSpace_cons (by decide)]
  simp only
  rw [skipSpace_append style.afterColon_space, htext.skipSpace_eq]

lemma readMembers_last {n m level : ℕ} {name : String} {value : Json}
    (h : ReadsBack style m (level + 1) value) (hvalue : value.Readable) (rest : List Char) :
    readMembers (readValue m) (n + 1) (style.quote name ++ ':' :: (style.afterColon ++
      (write style (level + 1) value ++ (writeMembers style level [] ++ rest)))) =
      some ([(name, value)], rest) := by
  rw [readMembers, readName_quote style name ((beginsValue_write style hvalue _).append _)]
  simp only [Option.bind_eq_bind, Option.bind_some]
  rw [h _ (stops_writeMembers style level [] rest)]
  simp only [Option.bind_some, writeMembers, List.append_assoc, List.cons_append, List.nil_append]
  rw [skipSpace_append (style.newline_space level), skipSpace_cons (by decide)]
  rfl

lemma readMembers_more {n m level : ℕ} {name : String} {value : Json} {next : String × Json}
    {members : List (String × Json)} (h : ReadsBack style m (level + 1) value)
    (hvalue : value.Readable) {rest : List Char}
    (hrest : readMembers (readValue m) n (style.quote next.1 ++ ':' :: (style.afterColon ++
      (write style (level + 1) next.2 ++ (writeMembers style level members ++ rest)))) =
      some (next :: members, rest)) :
    readMembers (readValue m) (n + 1) (style.quote name ++ ':' :: (style.afterColon ++
      (write style (level + 1) value ++ (writeMembers style level (next :: members) ++ rest)))) =
      some ((name, value) :: next :: members, rest) := by
  rw [readMembers, readName_quote style name ((beginsValue_write style hvalue _).append _)]
  simp only [Option.bind_eq_bind, Option.bind_some]
  rw [h _ (stops_writeMembers style level (next :: members) rest)]
  simp only [Option.bind_some, writeMembers, List.append_assoc, List.cons_append]
  rw [skipSpace_cons (by decide)]
  simp only
  rw [skipSpace_append (style.newline_space (level + 1)),
    ((beginsValue_quote style next.1).append _).skipSpace_eq, hrest]
  rfl

lemma readValue_eq_readWord {c : Char} {rest : List Char} (n : ℕ) (hstring : c ≠ '"')
    (harray : c ≠ '[') (hobject : c ≠ '\x7b') :
    readValue (n + 1) (c :: rest) = readWord (c :: rest) := by
  rw [readValue.eq_def]
  split
  · next heq => cases heq
  · next m text heq =>
    split
    · next h => exact absurd (List.cons.inj h).1 hstring
    · next h => exact absurd (List.cons.inj h).1 harray
    · next h => exact absurd (List.cons.inj h).1 hobject
    · rfl

lemma readValue_number {literal : String} (h : isNumberLiteral literal = true) (n : ℕ)
    {rest : List Char} (hrest : Stops rest) :
    readValue (n + 1) (literal.toList ++ rest) = some (number literal, rest) := by
  have hword : readValue (n + 1) (literal.toList ++ rest) = readWord (literal.toList ++ rest) := by
    have hdigit : ∀ c : Char, c.isDigit = true → c ≠ '"' ∧ c ≠ '[' ∧ c ≠ '\x7b' := by
      intro c hc
      refine ⟨?_, ?_, ?_⟩ <;> (rintro rfl; cases hc)
    have h' := h
    simp only [isNumberLiteral, Bool.or_eq_true, decide_eq_true_eq, List.mem_cons,
      List.not_mem_nil, or_false] at h'
    rcases h' with h' | rfl | rfl | rfl
    · obtain ⟨c, tail, htext, hc | ⟨rfl, -⟩⟩ := isNumberText_begins h'
      · obtain ⟨hstring, harray, hobject⟩ := hdigit c hc
        rw [htext]
        exact readValue_eq_readWord n hstring harray hobject
      · rw [htext]
        exact readValue_eq_readWord n (by decide) (by decide) (by decide)
    all_goals exact readValue_eq_readWord n (by decide) (by decide) (by decide)
  rw [hword, readWord_number h hrest]

lemma readValue_quote (s : String) (n : ℕ) (rest : List Char) :
    readValue (n + 1) (style.quote s ++ rest) = some (str s, rest) := by
  have hload := style.loadString_quote s rest
  obtain ⟨tail, htail⟩ := style.quote_begins s
  rw [htail, List.cons_append] at hload ⊢
  rw [readValue]
  rw [hload]
  rfl

lemma readValue_array {n : ℕ} {space text : List Char} {result : List Json × List Char}
    (hspace : ∀ c ∈ space, isJsonSpace c = true) (htext : BeginsValue text)
    (h : readItems (readValue n) n text = some result) :
    readValue (n + 1) ('[' :: (space ++ text)) = some (array result.1, result.2) := by
  rw [readValue]
  rw [skipSpace_append hspace, htext.skipSpace_eq]
  obtain ⟨c, rest, rfl, -, hbracket, -⟩ := htext
  split
  · next heq => exact absurd (List.cons.inj heq).1 hbracket
  · rw [h]
    rfl

lemma readValue_object {n : ℕ} {space text : List Char}
    {result : List (String × Json) × List Char} (hspace : ∀ c ∈ space, isJsonSpace c = true)
    (htext : BeginsValue text) (h : readMembers (readValue n) n text = some result) :
    readValue (n + 1) ('\x7b' :: (space ++ text)) =
      some (object (dictOf result.1), result.2) := by
  rw [readValue]
  rw [skipSpace_append hspace, htext.skipSpace_eq]
  obtain ⟨c, rest, rfl, -, -, hbracket⟩ := htext
  split
  · next heq => exact absurd (List.cons.inj heq).1 hbracket
  · rw [h]
    rfl

mutual

lemma readValue_write : ∀ (value : Json), value.Readable → ∀ n level, value.weight ≤ n →
    ReadsBack style n level value
  | null, _, n + 1, level, _ => fun rest _ => rfl
  | bool true, _, n + 1, level, _ => fun rest _ => rfl
  | bool false, _, n + 1, level, _ => fun rest _ => rfl
  | number literal, h, n + 1, level, _ => fun rest hrest => readValue_number h n hrest
  | str s, _, n + 1, level, _ => fun rest _ => readValue_quote style s n rest
  | array [], _, n + 1, level, _ => fun rest _ => rfl
  | array (item :: items), h, n + 1, level, hn => fun rest _ => by
    have hweight : weight (array (item :: items)) = 1 + (item.weight + weightItems items) := rfl
    have hlength := length_le_weightItems items
    have hpos := weight_pos item
    have hitems := readItems_write items h.2 item n n level rest
      (readValue_write item h.1 n (level + 1) (by omega)) (by omega) (by omega)
    rw [write, List.cons_append, List.append_assoc, List.append_assoc]
    exact readValue_array (style.newline_space (level + 1))
      ((beginsValue_write style h.1 (level + 1)).append _) hitems
  | object [], _, n + 1, level, _ => fun rest _ => rfl
  | object ((name, value) :: members), h, n + 1, level, hn => fun rest _ => by
    have hweight : weight (object ((name, value) :: members)) =
      1 + (value.weight + weightMembers members) := rfl
    have hlength := length_le_weightMembers members
    have hpos := weight_pos value
    have hmembers := readMembers_write members h.2.2 name value n n level rest
      (readValue_write value h.2.1 n (level + 1) (by omega)) h.2.1 (by omega) (by omega)
    simp only [write, List.cons_append, List.append_assoc]
    rw [readValue_object (style.newline_space (level + 1))
      ((beginsValue_quote style name).append _) hmembers, dictOf_eq_self h.1]
  | value, _, 0, level, hn => by
    have := weight_pos value
    omega

lemma readItems_write : ∀ (items : List Json), ReadableItems items → ∀ item n m level rest,
    ReadsBack style m (level + 1) item → weightItems items ≤ m → items.length < n →
    readItems (readValue m) n (write style (level + 1) item ++
      (writeItems style level items ++ rest)) = some (item :: items, rest)
  | [], _, item, n + 1, m, level, rest, hitem, _, _ => readItems_last style hitem rest
  | next :: items, h, item, n + 1, m, level, rest, hitem, hm, hn => by
    have hweight : weightItems (next :: items) = next.weight + weightItems items := rfl
    have hnext := readValue_write next h.1 m (level + 1) (by omega)
    exact readItems_more style hitem h.1 (readItems_write items h.2 next n m level rest hnext
      (by omega) (Nat.lt_of_succ_lt_succ hn))

lemma readMembers_write : ∀ (members : List (String × Json)), ReadableMembers members →
    ∀ name (value : Json) n m level rest, ReadsBack style m (level + 1) value →
    value.Readable → weightMembers members ≤ m → members.length < n →
    readMembers (readValue m) n (style.quote name ++ ':' :: (style.afterColon ++
      (write style (level + 1) value ++ (writeMembers style level members ++ rest)))) =
      some ((name, value) :: members, rest)
  | [], _, name, value, n + 1, m, level, rest, hread, hvalue, _, _ =>
    readMembers_last style hread hvalue rest
  | (name', next) :: members, h, name, value, n + 1, m, level, rest, hread, hvalue, hm, hn => by
    have hweight : weightMembers ((name', next) :: members) = next.weight + weightMembers members :=
      rfl
    have hnext := readValue_write next h.1 m (level + 1) (by omega)
    exact readMembers_more style hread hvalue (readMembers_write members h.2 name' next n m level
      rest hnext h.1 (by omega) (Nat.lt_of_succ_lt_succ hn))

end

mutual

lemma weight_le_length : ∀ (value : Json) (level : ℕ), value.Readable →
    value.weight ≤ (write style level value).length
  | null, _, _ => by simp [write, weight]
  | bool true, _, _ => by simp [write, weight]
  | bool false, _, _ => by simp [write, weight]
  | number literal, level, h => by
    obtain ⟨c, rest, htext, -⟩ := beginsValue_write style h level
    rw [htext]
    exact Nat.succ_le_succ (Nat.zero_le _)
  | str s, _, _ => by
    obtain ⟨rest, hrest⟩ := style.quote_begins s
    rw [write, hrest]
    exact Nat.succ_le_succ (Nat.zero_le _)
  | array [], _, _ => by simp [write, weight, weightItems]
  | array (item :: items), level, h => by
    have hitem := weight_le_length item (level + 1) h.1
    have hitems := weightItems_le_length items level h.2
    simp only [write, weight, weightItems, List.length_cons, List.length_append]
    omega
  | object [], _, _ => by simp [write, weight, weightMembers]
  | object ((name, value) :: members), level, h => by
    have hvalue := weight_le_length value (level + 1) h.2.1
    have hmembers := weightMembers_le_length members level h.2.2
    simp only [write, weight, weightMembers, List.length_cons, List.length_append]
    omega

lemma weightItems_le_length : ∀ (items : List Json) (level : ℕ), ReadableItems items →
    weightItems items ≤ (writeItems style level items).length
  | [], _, _ => Nat.zero_le _
  | item :: items, level, h => by
    have hitem := weight_le_length item (level + 1) h.1
    have hitems := weightItems_le_length items level h.2
    simp only [writeItems, weightItems, List.length_cons, List.length_append]
    omega

lemma weightMembers_le_length : ∀ (members : List (String × Json)) (level : ℕ),
    ReadableMembers members → weightMembers members ≤ (writeMembers style level members).length
  | [], _, _ => Nat.zero_le _
  | (name, value) :: members, level, h => by
    have hvalue := weight_le_length value (level + 1) h.1
    have hmembers := weightMembers_le_length members level h.2
    simp only [writeMembers, weightMembers, List.length_cons, List.length_append]
    omega

end

/-- What is written of a value is read back. -/
lemma loads_write {value : Json} (h : value.Readable) :
    loads (String.ofList (write style 0 value)) = some value := by
  have hweight := weight_le_length style value 0 h
  have hread := readValue_write style value h ((write style 0 value).length + 1) 0 (by omega) []
    (by simp [Stops])
  rw [List.append_nil] at hread
  rw [loads, String.toList_ofList, (beginsValue_write style h 0).skipSpace_eq, hread]
  rfl

/-! ## Sorted values -/

mutual

/-- Every number is a literal. -/
def HasLiterals : Json → Prop
  | number literal => isNumberLiteral literal = true
  | array items => ItemsHaveLiterals items
  | object members => MembersHaveLiterals members
  | null | bool _ | str _ => True

def ItemsHaveLiterals : List Json → Prop
  | [] => True
  | item :: items => item.HasLiterals ∧ ItemsHaveLiterals items

def MembersHaveLiterals : List (String × Json) → Prop
  | [] => True
  | (_, value) :: members => value.HasLiterals ∧ MembersHaveLiterals members

end

lemma readableMembers_iff {members : List (String × Json)} :
    ReadableMembers members ↔ ∀ member ∈ members, member.2.Readable := by
  induction members with
  | nil => simp [ReadableMembers]
  | cons member members ih =>
    rw [List.forall_mem_cons, ← ih]
    exact Iff.rfl

lemma membersHaveLiterals_iff {members : List (String × Json)} :
    MembersHaveLiterals members ↔ ∀ member ∈ members, member.2.HasLiterals := by
  induction members with
  | nil => simp [MembersHaveLiterals]
  | cons member members ih =>
    rw [List.forall_mem_cons, ← ih]
    exact Iff.rfl

mutual

lemma readable_sortKeys : ∀ (value : Json), value.HasLiterals → value.sortKeys.Readable
  | null, _ => trivial
  | bool _, _ => trivial
  | number _, h => h
  | str _, _ => trivial
  | array items, h => readableItems_sortItems items h
  | object members, h => by
    refine ⟨Dictionary.nodup_sortedEntries _, readableMembers_iff.mpr fun member hmember => ?_⟩
    refine readableMembers_iff.mp (readableMembers_sortMembers members h) member ?_
    exact Dictionary.mem_entries ((Dictionary.sortedEntries_perm _).mem_iff.mp hmember)

lemma readableItems_sortItems : ∀ (items : List Json), ItemsHaveLiterals items →
    ReadableItems (sortItems items)
  | [], _ => trivial
  | item :: items, h => ⟨readable_sortKeys item h.1, readableItems_sortItems items h.2⟩

lemma readableMembers_sortMembers : ∀ (members : List (String × Json)),
    MembersHaveLiterals members → ReadableMembers (sortMembers members)
  | [], _ => trivial
  | (_, value) :: members, h =>
    ⟨readable_sortKeys value h.1, readableMembers_sortMembers members h.2⟩

end

/-- **Round trip.**  In every style, a value is read back with the members of its objects sorted
by their names. -/
theorem loads_dumps {value : Json} (h : value.HasLiterals) :
    loads (dumps style value) = some value.sortKeys :=
  loads_write style (readable_sortKeys value h)

/-- Two values have the same text when they differ in the order of members only. -/
theorem dumps_eq_iff {value value' : Json} (h : value.HasLiterals) (h' : value'.HasLiterals) :
    dumps style value = dumps style value' ↔ value.sortKeys = value'.sortKeys := by
  constructor
  · intro heq
    have hread := congrArg loads heq
    rwa [loads_dumps style h, loads_dumps style h', Option.some.injEq] at hread
  · intro heq
    rw [dumps, dumps, heq]

lemma lookup_sortMembers (members : List (String × Json)) (name : String) :
    (sortMembers members).lookup name = (members.lookup name).map sortKeys := by
  induction members with
  | nil => rfl
  | cons member members ih =>
    obtain ⟨name', value⟩ := member
    rw [sortMembers, List.lookup_cons, List.lookup_cons, ih]
    split <;> rfl

lemma get?_sortKeys (value : Json) (name : String) :
    value.sortKeys.get? name = (value.get? name).map sortKeys := by
  cases value with
  | object members =>
    change (Dictionary.sortedEntries (sortMembers members)).lookup name = _
    rw [Dictionary.lookup_sortedEntries, lookup_sortMembers]
    rfl
  | null | bool _ | number _ | str _ | array _ => rfl

end RoundTrip

/-! ## The two styles -/

/-- `separators=(",", ":")`, with characters outside ASCII escaped. -/
def compact : Style where
  quote := FlatJson.dumpString
  newline _ := []
  afterColon := []
  loadString_quote := FlatJson.loadString_dumpString
  newline_space _ c hc := by cases hc
  afterColon_space c hc := by cases hc

/-- A character within a string that keeps what is not ASCII. -/
def escapeControl (c : Char) : List Char :=
  match FlatJson.shortEscape c with
  | some letter => ['\\', letter]
  | none => if c.toNat < 32 then FlatJson.escapeUnit c.toNat else [c]

lemma unescape_escapeControl (c : Char) (rest : List Char) :
    FlatJson.unescape (escapeControl c ++ rest) =
      (FlatJson.unescape rest).map fun p => (c.toNat :: p.1, p.2) := by
  unfold escapeControl
  split
  · next letter hletter =>
    obtain ⟨hunit, hu, -⟩ := FlatJson.shortUnescape_shortEscape hletter
    exact FlatJson.unescape_short hunit hu rest
  · next hshort =>
    split
    · exact FlatJson.unescape_escapeUnit (by omega) rest
    · exact FlatJson.unescape_plain hshort (by omega) rest

lemma unescape_flatMap_escapeControl (cs rest : List Char) :
    FlatJson.unescape (cs.flatMap escapeControl ++ '"' :: rest) =
      some (cs.map Char.toNat, rest) := by
  induction cs with
  | nil => simp [FlatJson.unescape]
  | cons c cs ih =>
    rw [List.flatMap_cons, List.append_assoc, unescape_escapeControl, ih, Option.map_some,
      List.map_cons]

/-- Characters are no surrogates. -/
lemma joinUnits_map_toNat (cs : List Char) : FlatJson.joinUnits (cs.map Char.toNat) = cs := by
  induction cs with
  | nil => rfl
  | cons c cs ih =>
    have hrange := FlatJson.toNat_range c
    have hhigh : FlatJson.isHighSurrogate c.toNat = false := by
      simp only [FlatJson.isHighSurrogate, Bool.and_eq_false_iff, decide_eq_false_iff_not]
      omega
    have hlow : FlatJson.isLowSurrogate c.toNat = false := by
      simp only [FlatJson.isLowSurrogate, Bool.and_eq_false_iff, decide_eq_false_iff_not]
      omega
    rw [List.map_cons, FlatJson.joinUnits_cons hhigh hlow, ih, Char.ofNat_toNat]

/-- `indent=2`, with `ensure_ascii=False`. -/
def indented : Style where
  quote s := '"' :: (s.toList.flatMap escapeControl ++ ['"'])
  newline level := '\n' :: List.replicate (2 * level) ' '
  afterColon := [' ']
  loadString_quote s rest := by
    simp only [loadString, List.cons_append, List.append_assoc, List.nil_append,
      unescape_flatMap_escapeControl, Option.bind_eq_bind, Option.bind_some, joinUnits_map_toNat,
      String.ofList_toList]
  newline_space level c hc := by
    rcases List.mem_cons.mp hc with rfl | hc
    · decide
    · rw [List.eq_of_mem_replicate hc]
      decide
  afterColon_space c hc := by
    rw [List.mem_singleton.mp hc]
    decide

example : dumps indented (object [("b", array [number "1.5", null]), ("a", str "é")]) =
    "\x7b\n  \"a\": \"é\",\n  \"b\": [\n    1.5,\n    null\n  ]\n\x7d" := by
  decide +kernel

end Json

end Earth2Sandbox
