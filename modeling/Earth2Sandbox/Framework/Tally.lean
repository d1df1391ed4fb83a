import Mathlib.Data.Nat.Notation

/-!
# Tallies over the tasks of a system

A tally adds up a number for every element of a list.  When one element is replaced and some are
appended, which is what a step of a task does to the list of all tasks, a tally changes by the
difference (`tally_step`).  `Single` says that no more than one thing is counted.
-/

namespace Earth2Sandbox

variable {α : Type}

/-- The sum of `f` over the elements of `xs`. -/
def tally (f : α → ℕ) : List α → ℕ
  | [] => 0
  | x :: xs => f x + tally f xs

@[simp] lemma tally_nil (f : α → ℕ) : tally f [] = 0 := rfl

@[simp] lemma tally_cons (f : α → ℕ) (x : α) (xs : List α) :
    tally f (x :: xs) = f x + tally f xs := rfl

lemma tally_append (f : α → ℕ) (xs ys : List α) :
    tally f (xs ++ ys) = tally f xs + tally f ys := by
  induction xs with
  | nil => simp
  | cons x xs ih =>
    simp only [List.cons_append, tally_cons, ih]
    omega

lemma tally_add (f g : α → ℕ) (xs : List α) :
    tally (fun x => f x + g x) xs = tally f xs + tally g xs := by
  induction xs with
  | nil => rfl
  | cons x xs ih =>
    simp only [tally_cons, ih]
    omega

lemma tally_map {β : Type} (f : β → ℕ) (g : α → β) (xs : List α) :
    tally f (xs.map g) = tally (fun x => f (g x)) xs := by
  induction xs with
  | nil => rfl
  | cons x xs ih => simp only [List.map_cons, tally_cons, ih]

/-- A tally of positive numbers counts at least the elements. -/
lemma countP_le_tally {f : α → ℕ} {p : α → Bool} (h : ∀ x, p x = true → 1 ≤ f x) (xs : List α) :
    xs.countP p ≤ tally f xs := by
  induction xs with
  | nil => simp
  | cons x xs ih =>
    rw [List.countP_cons, tally_cons]
    split
    · next hx =>
      have hhead := h x hx
      omega
    · omega

lemma tally_set (f : α → ℕ) {xs : List α} {i : ℕ} {x : α} (h : xs[i]? = some x) (y : α) :
    tally f (xs.set i y) + f x = tally f xs + f y := by
  induction xs generalizing i with
  | nil => simp at h
  | cons z xs ih =>
    cases i with
    | zero =>
      obtain rfl : z = x := by simpa using h
      simp only [List.set_cons_zero, tally_cons]
      omega
    | succ i =>
      have hrest := ih (i := i) (by simpa using h)
      simp only [List.set_cons_succ, tally_cons]
      omega

lemma tally_set_of_eq (f : α → ℕ) {xs : List α} {i : ℕ} {x y : α} (h : xs[i]? = some x)
    (heq : f y = f x) : tally f (xs.set i y) = tally f xs := by
  have hset := tally_set f h y
  omega

lemma tally_step (f : α → ℕ) {xs : List α} {i : ℕ} {x : α} (h : xs[i]? = some x) (y : α)
    (new : List α) :
    tally f (xs.set i y ++ new) + f x = tally f xs + f y + tally f new := by
  have hset := tally_set f h y
  rw [tally_append]
  omega

lemma le_tally (f : α → ℕ) {xs : List α} {i : ℕ} {x : α} (h : xs[i]? = some x) :
    f x ≤ tally f xs := by
  obtain ⟨ys, zs, rfl⟩ := List.append_of_mem (List.mem_of_getElem? h)
  rw [tally_append, tally_cons]
  omega

lemma tally_eq_zero {f : α → ℕ} {xs : List α} (h : ∀ x ∈ xs, f x = 0) : tally f xs = 0 := by
  induction xs with
  | nil => rfl
  | cons x xs ih =>
    rw [tally_cons, h x List.mem_cons_self, ih fun y hy => h y (List.mem_cons_of_mem _ hy)]

lemma tally_mono {f g : α → ℕ} {xs : List α} (h : ∀ x ∈ xs, f x ≤ g x) :
    tally f xs ≤ tally g xs := by
  induction xs with
  | nil => exact Nat.le_refl 0
  | cons x xs ih =>
    have hrest := ih fun y hy => h y (List.mem_cons_of_mem _ hy)
    have hhead := h x List.mem_cons_self
    simp only [tally_cons]
    omega

/-! ## At most one thing -/

section Single

variable {κ : Type} [DecidableEq κ]

/-- What `count` counts is `m`, once, or nothing. -/
def Single (count : κ → ℕ) (m : Option κ) : Prop :=
  ∀ k, count k = if m = some k then 1 else 0

lemma Single.eq_some {count : κ → ℕ} {m : Option κ} (h : Single count m) {k : κ}
    (hk : 0 < count k) : m = some k := by
  by_cases hm : m = some k
  · exact hm
  · rw [h k, if_neg hm] at hk
    exact absurd hk (Nat.lt_irrefl 0)

/-- The thing is exchanged for another one, is lost or is found. -/
lemma Single.exchange {count count' : κ → ℕ} {m m' : Option κ} (h : Single count m)
    (hcount : ∀ k, count' k + (if m = some k then 1 else 0) =
      count k + if m' = some k then 1 else 0) : Single count' m' := by
  intro k
  have hk := hcount k
  rw [h k] at hk
  omega

end Single

end Earth2Sandbox
