import Mathlib.Data.List.Infix

/-!
# Glob patterns

A pattern is read once into tokens (`parseGlob`) and the tokens are matched against a text from the
left.  `*` stands for any text, `?` for one character, a bracket expression for one character of
(with `^`: outside) its ranges, and `\` quotes the next character.  A bracket that is not closed
reaches to the end of the pattern.

A pattern of ordinary characters before a final `*` accepts the texts that begin with them
(`globMatches_plain_star`).
-/

namespace Earth2Sandbox

/-- What stands in a pattern. -/
inductive GlobToken where
  | star
  | one
  | among (negated : Bool) (ranges : List (Char × Char))
  | char (c : Char)
  deriving DecidableEq

namespace GlobToken

/-- The token accepts this one character. -/
def accepts : GlobToken → Char → Bool
  | star, _ => false
  | one, _ => true
  | among negated ranges, c => (ranges.any fun r => r.1 ≤ c && c ≤ r.2) != negated
  | char d, c => c = d

/-- The tokens accept the text. -/
def matchAll : List GlobToken → List Char → Bool
  | [], text => text.isEmpty
  | star :: tokens, text => text.tails.any (matchAll tokens)
  | token :: tokens, c :: text => token.accepts c && matchAll tokens text
  | _ :: _, [] => false

end GlobToken

/-- The tokens of a pattern.  The first argument is the bracket expression that is open: whether it
is negated, and its ranges so far. -/
def parseGlob : Option (Bool × List (Char × Char)) → List Char → List GlobToken
  | none, [] => []
  | none, '*' :: rest => .star :: parseGlob none rest
  | none, '?' :: rest => .one :: parseGlob none rest
  | none, '[' :: '^' :: rest => parseGlob (some (true, [])) rest
  | none, '[' :: rest => parseGlob (some (false, [])) rest
  | none, '\\' :: c :: rest => .char c :: parseGlob none rest
  | none, c :: rest => .char c :: parseGlob none rest
  | some (negated, ranges), [] => [.among negated ranges]
  | some (negated, ranges), '\\' :: c :: rest => parseGlob (some (negated, (c, c) :: ranges)) rest
  | some (negated, ranges), ']' :: rest => .among negated ranges :: parseGlob none rest
  | some (negated, ranges), a :: '-' :: b :: rest =>
    parseGlob (some (negated, (if a ≤ b then (a, b) else (b, a)) :: ranges)) rest
  | some (negated, ranges), c :: rest => parseGlob (some (negated, (c, c) :: ranges)) rest

/-- The pattern accepts the text. -/
def globMatches (pattern text : List Char) : Bool :=
  GlobToken.matchAll (parseGlob none pattern) text

/-! ## Ordinary characters -/

/-- The characters that mean themselves. -/
def PlainGlob (text : List Char) : Prop := ∀ c ∈ text, c ∉ ['*', '?', '[', '\\']

lemma parseGlob_plain {text : List Char} (h : PlainGlob text) (rest : List Char) :
    parseGlob none (text ++ rest) = text.map .char ++ parseGlob none rest := by
  induction text with
  | nil => rfl
  | cons c text ih =>
    obtain ⟨hc, htext⟩ := List.forall_mem_cons.mp h
    simp only [List.mem_cons, List.not_mem_nil, or_false, not_or] at hc
    rw [List.cons_append, List.map_cons, List.cons_append, ← ih htext]
    rw [parseGlob]
    all_goals simp_all

/-- Ordinary characters before a final `*`. -/
lemma globMatches_plain_star {start : List Char} (h : PlainGlob start) (text : List Char) :
    globMatches (start ++ ['*']) text = true ↔ start <+: text := by
  rw [globMatches, parseGlob_plain h]
  clear h
  induction start generalizing text with
  | nil =>
    have hlast : ([] : List Char) ∈ text.tails := (List.mem_tails _ _).mpr List.nil_suffix
    simp only [List.map_nil, List.nil_append, parseGlob, GlobToken.matchAll, List.nil_prefix,
      iff_true, List.any_eq_true]
    exact ⟨[], hlast, rfl⟩
  | cons c start ih =>
    cases text with
    | nil => simp [GlobToken.matchAll]
    | cons d text =>
      rw [List.map_cons, List.cons_append, GlobToken.matchAll, Bool.and_eq_true, ih,
        List.cons_prefix_cons]
      · simp [GlobToken.accepts, eq_comm]
      · simp

example : globMatches "*[:lease:*".toList "jobs:sequence".toList := by decide

end Earth2Sandbox
