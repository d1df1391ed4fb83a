import Mathlib.Data.List.Sort

/-!
# Sorting by a key

`list.sort(key=...)` is an insertion sort by the key of an element.  When the elements of a list
have different keys, the result does not depend on the order of the list.
-/

namespace Earth2Sandbox

variable {α κ : Type} [LinearOrder κ] (key : α → κ)

lemma pairwise_insertionSort_key (xs : List α) :
    (xs.insertionSort fun a b => key a ≤ key b).Pairwise fun a b => key a ≤ key b := by
  have htotal : Std.Total fun a b : α => key a ≤ key b := ⟨fun a b => le_total (key a) (key b)⟩
  have htrans : IsTrans α fun a b => key a ≤ key b := ⟨fun _ _ _ => le_trans⟩
  exact List.pairwise_insertionSort _ _

variable {key}

/-- Sorting depends on the keys alone. -/
lemma map_insertionSort_key {β : Type} {key' : β → κ} {f : α → β} (h : ∀ a, key' (f a) = key a)
    (xs : List α) : ((xs.map f).insertionSort fun a b => key' a ≤ key' b) =
      (xs.insertionSort fun a b => key a ≤ key b).map f := by
  refine (List.map_insertionSort (fun a b => key a ≤ key b) (fun a b => key' a ≤ key' b) f xs
    fun a _ b _ => ?_).symm
  rw [h, h]

lemma eq_of_perm_of_sorted {xs ys : List α} (hperm : xs.Perm ys)
    (hinj : ∀ a ∈ xs, ∀ b ∈ xs, key a = key b → a = b)
    (hxs : xs.Pairwise fun a b => key a ≤ key b) (hys : ys.Pairwise fun a b => key a ≤ key b) :
    xs = ys := by
  refine hperm.eq_of_pairwise (fun a b ha hb hab hba => ?_) hxs hys
  exact hinj a ha b (hperm.mem_iff.mpr hb) (le_antisymm hab hba)

/-- Sorting forgets the order of a list. -/
theorem insertionSort_key_eq_of_perm {xs ys : List α} (hperm : xs.Perm ys)
    (hinj : ∀ a ∈ xs, ∀ b ∈ xs, key a = key b → a = b) :
    (xs.insertionSort fun a b => key a ≤ key b) = ys.insertionSort fun a b => key a ≤ key b := by
  have hxs := List.perm_insertionSort (fun a b => key a ≤ key b) xs
  have hys := List.perm_insertionSort (fun a b => key a ≤ key b) ys
  refine eq_of_perm_of_sorted (hxs.trans (hperm.trans hys.symm)) (fun a ha b hb => ?_)
    (pairwise_insertionSort_key key xs) (pairwise_insertionSort_key key ys)
  exact hinj a (hxs.mem_iff.mp ha) b (hxs.mem_iff.mp hb)

end Earth2Sandbox
