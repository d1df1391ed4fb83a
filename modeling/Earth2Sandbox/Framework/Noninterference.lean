import Mathlib.Data.List.Basic

/-!
# Inputs that do not interfere

A machine answers each input and moves on.  `Unwinding step visible same` says that the states
related by `same` answer the visible inputs alike, and that the other inputs stay within a state's
class.  Then the other inputs can be deleted from any sequence and no answer to a visible input
changes (`Unwinding.purge`).  `outputs_eq_append_cons` finds the state in which an answer is given.
-/

namespace Earth2Sandbox

variable {S I O : Type}

/-- The inputs with the answers to them. -/
def outputs (step : S → I → O × S) : S → List I → List (I × O)
  | _, [] => []
  | s, i :: inputs => (i, (step s i).1) :: outputs step (step s i).2 inputs

/-- The state after the inputs. -/
def finalState (step : S → I → O × S) : S → List I → S
  | s, [] => s
  | s, i :: inputs => finalState step (step s i).2 inputs

/-- What one step has to satisfy for the invisible inputs not to interfere. -/
structure Unwinding (step : S → I → O × S) (visible : I → Bool) (same : S → S → Prop) : Prop where
  hidden : ∀ {s t i}, same s t → visible i = false → same (step s i).2 t
  output : ∀ {s t i}, same s t → visible i = true → (step s i).1 = (step t i).1
  respects : ∀ {s t i}, same s t → visible i = true → same (step s i).2 (step t i).2

/-- Invisible inputs can be deleted. -/
theorem Unwinding.purge {step : S → I → O × S} {visible : I → Bool} {same : S → S → Prop}
    (h : Unwinding step visible same) {s t : S} (hst : same s t) (inputs : List I) :
    (outputs step s inputs).filter (fun o => visible o.1) =
      outputs step t (inputs.filter visible) := by
  induction inputs generalizing s t with
  | nil => rfl
  | cons i inputs ih =>
    cases hi : visible i with
    | false =>
      simp only [outputs, List.filter_cons, hi]
      exact ih (h.hidden hst hi)
    | true =>
      simp only [outputs, List.filter_cons, hi, if_true]
      rw [h.output hst hi, ih (h.respects hst hi)]

@[simp] lemma map_fst_outputs (step : S → I → O × S) (s : S) (inputs : List I) :
    (outputs step s inputs).map (·.1) = inputs := by
  induction inputs generalizing s with
  | nil => rfl
  | cons i inputs ih => rw [outputs, List.map_cons, ih]

/-- An answer is given in the state after the inputs before it. -/
lemma outputs_eq_append_cons {step : S → I → O × S} {s : S} {inputs : List I}
    {earlier later : List (I × O)} {o : I × O}
    (h : outputs step s inputs = earlier ++ o :: later) :
    ∃ before, earlier = outputs step s before ∧ before <+: inputs ∧ o.1 ∈ inputs ∧
      o.2 = (step (finalState step s before) o.1).1 := by
  induction earlier generalizing s inputs with
  | nil =>
    cases inputs with
    | nil => simp [outputs] at h
    | cons i inputs =>
      obtain ⟨rfl, -⟩ := List.cons.inj h
      exact ⟨[], rfl, List.nil_prefix, List.mem_cons_self, rfl⟩
  | cons e earlier ih =>
    cases inputs with
    | nil => simp [outputs] at h
    | cons i inputs =>
      obtain ⟨rfl, htail⟩ := List.cons.inj h
      obtain ⟨before, rfl, hbefore, hmem, ho⟩ := ih htail
      exact ⟨i :: before, rfl, (List.prefix_cons_inj i).mpr hbefore, List.mem_cons_of_mem i hmem,
        ho⟩

lemma outputs_append (step : S → I → O × S) (s : S) (inputs later : List I) :
    outputs step s (inputs ++ later) =
      outputs step s inputs ++ outputs step (finalState step s inputs) later := by
  induction inputs generalizing s with
  | nil => rfl
  | cons i inputs ih => simp only [List.cons_append, outputs, finalState, ih]

lemma takeWhile_outputs (step : S → I → O × S) (p : I → Bool) (s : S) (inputs : List I) :
    (outputs step s inputs).takeWhile (fun o => p o.1) = outputs step s (inputs.takeWhile p) := by
  induction inputs generalizing s with
  | nil => rfl
  | cons i inputs ih =>
    simp only [outputs, List.takeWhile_cons]
    split
    · rw [ih, outputs]
    · rfl

lemma dropWhile_outputs (step : S → I → O × S) (p : I → Bool) (s : S) (inputs : List I) :
    (outputs step s inputs).dropWhile (fun o => p o.1) =
      outputs step (finalState step s (inputs.takeWhile p)) (inputs.dropWhile p) := by
  induction inputs generalizing s with
  | nil => rfl
  | cons i inputs ih =>
    simp only [outputs, List.dropWhile_cons, List.takeWhile_cons]
    split
    · rw [ih, finalState]
    · rfl

/-- What one step preserves, all do. -/
lemma finalState_induct {step : S → I → O × S} {P : S → Prop}
    (h : ∀ s i, P s → P (step s i).2) {s : S} (hs : P s) (inputs : List I) :
    P (finalState step s inputs) := by
  induction inputs generalizing s with
  | nil => exact hs
  | cons i inputs ih => exact ih (h s i hs)

/-- What one answer always satisfies, all do. -/
lemma outputs_forall {step : S → I → O × S} {P : I → O → Prop}
    (h : ∀ s i, P i (step s i).1) (s : S) (inputs : List I) :
    ∀ o ∈ outputs step s inputs, P o.1 o.2 := by
  induction inputs generalizing s with
  | nil => simp [outputs]
  | cons i inputs ih =>
    intro o ho
    rcases List.mem_cons.mp ho with rfl | ho
    · exact h s i
    · exact ih _ o ho

end Earth2Sandbox
