import Mathlib.Data.List.Basic

/-!
# The text format of Prometheus

A sample is one line: a metric name, labels in braces with quoted values, a blank and a value.  In a
quoted value a backslash, a quote and a newline are written as two characters (`escapeLabel`).
`readSample` reads a line by these rules; `readSample_sampleLine` says that it reads what was
written, whatever the label values are, and `sampleLine_line` that a sample stays on its line.
-/

namespace Earth2Sandbox

/-! ## Quoted values -/

/-- How a character of a label value is written. -/
def escapeLabelChar (c : Char) : List Char :=
  if c = '\\' then ['\\', '\\'] else if c = '\n' then ['\\', 'n'] else
    if c = '"' then ['\\', '"'] else [c]

/-- A label value as it is written between the quotes. -/
def escapeLabel (value : List Char) : List Char := value.flatMap escapeLabelChar

/-- Reads a label value up to the closing quote; the rest of the text comes with it. -/
def readLabelValue : List Char → Option (List Char × List Char)
  | [] => none
  | '"' :: rest => some ([], rest)
  | '\\' :: '\\' :: rest => (readLabelValue rest).map fun read => ('\\' :: read.1, read.2)
  | '\\' :: '"' :: rest => (readLabelValue rest).map fun read => ('"' :: read.1, read.2)
  | '\\' :: 'n' :: rest => (readLabelValue rest).map fun read => ('\n' :: read.1, read.2)
  | '\\' :: _ => none
  | c :: rest => (readLabelValue rest).map fun read => (c :: read.1, read.2)

lemma readLabelValue_escapeLabel (value rest : List Char) :
    readLabelValue (escapeLabel value ++ '"' :: rest) = some (value, rest) := by
  induction value with
  | nil => rfl
  | cons c value ih =>
    rw [escapeLabel, List.flatMap_cons, List.append_assoc, ← escapeLabel]
    unfold escapeLabelChar
    by_cases hbackslash : c = '\\'
    · subst hbackslash
      simp [readLabelValue, ih]
    by_cases hnewline : c = '\n'
    · subst hnewline
      simp [readLabelValue, ih]
    by_cases hquote : c = '"'
    · subst hquote
      simp [readLabelValue, ih]
    · simp only [if_neg hbackslash, if_neg hnewline, if_neg hquote, List.singleton_append]
      rw [readLabelValue, ih]
      · rfl
      all_goals simp_all

lemma newline_not_mem_escapeLabel (value : List Char) : '\n' ∉ escapeLabel value := by
  intro hmem
  obtain ⟨c, -, hc⟩ := List.mem_flatMap.mp hmem
  unfold escapeLabelChar at hc
  by_cases hbackslash : c = '\\'
  · simp [hbackslash] at hc
  by_cases hnewline : c = '\n'
  · simp [hnewline] at hc
  by_cases hquote : c = '"'
  · simp [hquote] at hc
  · rw [if_neg hbackslash, if_neg hnewline, if_neg hquote, List.mem_singleton] at hc
    exact hnewline hc.symm

/-! ## Labels -/

/-- A label: its name, the equality sign and the quoted value. -/
def labelText (label : String × String) : List Char :=
  label.1.toList ++ '=' :: '"' :: escapeLabel label.2.toList ++ ['"']

/-- The labels between the braces, separated by commas. -/
def labelsText (labels : List (String × String)) : List Char :=
  [','].intercalate (labels.map labelText)

lemma labelsText_singleton (label : String × String) : labelsText [label] = labelText label := by
  simp [labelsText]

lemma labelsText_cons_cons (label next : String × String) (labels : List (String × String)) :
    labelsText (label :: next :: labels) =
      labelText label ++ ',' :: labelsText (next :: labels) := by
  simp [labelsText, List.intercalate_cons_cons]

/-- Reads at most `n` labels up to the closing brace. -/
def readLabels : ℕ → List Char → Option (List (String × String) × List Char)
  | 0, _ => none
  | n + 1, text =>
    match text.dropWhile (· ≠ '=') with
    | '=' :: '"' :: quoted =>
      match readLabelValue quoted with
      | none => none
      | some (value, rest) =>
        let label := (String.ofList (text.takeWhile (· ≠ '=')), String.ofList value)
        match rest with
        | '\x7d' :: rest => some ([label], rest)
        | ',' :: rest => (readLabels n rest).map fun read => (label :: read.1, read.2)
        | _ => none
    | _ => none

/-- The label can be told from its text. -/
def LabelName (label : String × String) : Prop := '=' ∉ label.1.toList

lemma takeWhile_ne_append {c : Char} {xs : List Char} (h : c ∉ xs) (ys : List Char) :
    (xs ++ c :: ys).takeWhile (· ≠ c) = xs ∧ (xs ++ c :: ys).dropWhile (· ≠ c) = c :: ys := by
  have hxs : ∀ x ∈ xs, decide (x ≠ c) = true := fun x hx =>
    decide_eq_true fun heq => h (heq ▸ hx)
  constructor
  · rw [List.takeWhile_append_of_pos hxs]
    simp
  · rw [List.dropWhile_append_of_pos hxs]
    simp

/-- One label is read up to what follows it. -/
lemma readLabels_labelText {label : String × String} (hname : LabelName label) (n : ℕ)
    (text : List Char) :
    readLabels (n + 1) (labelText label ++ text) =
      match text with
      | '\x7d' :: rest => some ([label], rest)
      | ',' :: rest => (readLabels n rest).map fun read => (label :: read.1, read.2)
      | _ => none := by
  have hsplit : labelText label ++ text = label.1.toList ++ '=' ::
      ('"' :: (escapeLabel label.2.toList ++ '"' :: text)) := by
    simp [labelText]
  obtain ⟨htake, hdrop⟩ := takeWhile_ne_append hname
    ('"' :: (escapeLabel label.2.toList ++ '"' :: text))
  rw [hsplit, readLabels, hdrop, htake]
  simp only [readLabelValue_escapeLabel, String.ofList_toList]

lemma readLabels_labelsText {labels : List (String × String)} (hne : labels ≠ [])
    (hnames : ∀ label ∈ labels, LabelName label) {n : ℕ} (hn : labels.length ≤ n)
    (rest : List Char) :
    readLabels n (labelsText labels ++ '\x7d' :: rest) = some (labels, rest) := by
  induction labels generalizing n with
  | nil => exact absurd rfl hne
  | cons label labels ih =>
    obtain ⟨hname, hnames⟩ := List.forall_mem_cons.mp hnames
    obtain ⟨n, rfl⟩ : ∃ m, n = m + 1 := ⟨n - 1, by simp at hn; omega⟩
    cases labels with
    | nil =>
      rw [labelsText_singleton, readLabels_labelText hname]
      rfl
    | cons next labels =>
      rw [labelsText_cons_cons, List.append_assoc, List.cons_append, readLabels_labelText hname]
      show Option.map _ (readLabels n (labelsText (next :: labels) ++ '\x7d' :: rest)) = _
      rw [ih (List.cons_ne_nil _ _) hnames (by simpa using hn)]
      rfl

lemma newline_not_mem_labelsText {labels : List (String × String)}
    (hnames : ∀ label ∈ labels, '\n' ∉ label.1.toList) : '\n' ∉ labelsText labels := by
  induction labels with
  | nil => simp [labelsText]
  | cons label labels ih =>
    obtain ⟨hname, hnames⟩ := List.forall_mem_cons.mp hnames
    have hlabel : '\n' ∉ labelText label := by
      simp [labelText, hname, newline_not_mem_escapeLabel]
    cases labels with
    | nil => rwa [labelsText_singleton]
    | cons next labels => simp [labelsText_cons_cons, hlabel, ih hnames]

lemma length_le_labelsText (labels : List (String × String)) :
    labels.length ≤ (labelsText labels).length := by
  induction labels with
  | nil => simp
  | cons label labels ih =>
    cases labels with
    | nil =>
      simp only [labelsText_singleton, labelText, List.length_append, List.length_cons]
      omega
    | cons next labels =>
      rw [labelsText_cons_cons, List.length_append]
      simp only [List.length_cons] at ih ⊢
      omega

/-! ## Samples -/

/-- A sample of a metric with labels. -/
def sampleLine (name : String) (labels : List (String × String)) (value : String) : String :=
  name ++ "\x7b" ++ String.ofList (labelsText labels) ++ "\x7d " ++ value

/-- Reads a line with labels: the name, the labels and the value. -/
def readSample (line : String) : Option (String × List (String × String) × String) :=
  match line.toList.dropWhile (· ≠ '\x7b') with
  | '\x7b' :: text =>
    match readLabels text.length text with
    | some (labels, ' ' :: value) =>
      some (String.ofList (line.toList.takeWhile (· ≠ '\x7b')), labels, String.ofList value)
    | _ => none
  | _ => none

/-- The name and the label names can be told from the rest of a line. -/
structure Legible (name : String) (labels : List (String × String)) : Prop where
  brace : '\x7b' ∉ name.toList
  line : '\n' ∉ name.toList
  labels_ne : labels ≠ []
  labelName : ∀ label ∈ labels, LabelName label
  labelLine : ∀ label ∈ labels, '\n' ∉ label.1.toList

/-- What was written is read. -/
theorem readSample_sampleLine {name : String} {labels : List (String × String)}
    (h : Legible name labels) (value : String) :
    readSample (sampleLine name labels value) = some (name, labels, value) := by
  have htext : (sampleLine name labels value).toList =
      name.toList ++ '\x7b' :: (labelsText labels ++ '\x7d' :: ' ' :: value.toList) := by
    simp [sampleLine]
  obtain ⟨htake, hdrop⟩ := takeWhile_ne_append h.brace
    (labelsText labels ++ '\x7d' :: ' ' :: value.toList)
  have hlength : labels.length ≤ (labelsText labels ++ '\x7d' :: ' ' :: value.toList).length := by
    rw [List.length_append]
    have := length_le_labelsText labels
    omega
  rw [readSample, htext, hdrop, htake]
  simp only [readLabels_labelsText h.labels_ne h.labelName hlength, String.ofList_toList]

/-- A sample is one line. -/
theorem sampleLine_line {name : String} {labels : List (String × String)}
    (h : Legible name labels) {value : String} (hvalue : '\n' ∉ value.toList) :
    '\n' ∉ (sampleLine name labels value).toList := by
  have := newline_not_mem_labelsText h.labelLine
  simp [sampleLine, h.line, hvalue, this]

end Earth2Sandbox
