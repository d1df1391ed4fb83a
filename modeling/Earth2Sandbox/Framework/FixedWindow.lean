import Mathlib.Algebra.Order.Group.Defs
import Mathlib.Data.List.Pairwise

/-!
# Windows that open with their first event

Events come in the order of their times.  The first event opens a window of width `W`, and the
first event that is not in the window opens the next one (`windowsOf`), so that the windows do not
tile the time line: between the end of one and the start of the next nothing happens.  An interval
of length `W` meets at most two of them, and what each window bounds by `n` is bounded by `2 * n`
in the interval (`countP_interval_le`).
-/

namespace Earth2Sandbox

variable {α K : Type} [AddCommGroup K] [LinearOrder K]

/-- The windows of width `W` of a list of events, each with the events in it. -/
def windowsOf (time : α → K) (W : K) : List α → List (List α)
  | [] => []
  | x :: xs =>
    (x :: xs.takeWhile (fun y => time y < time x + W)) ::
      windowsOf time W (xs.dropWhile fun y => time y < time x + W)
termination_by xs => xs.length
decreasing_by
  simp only [List.length_cons]
  exact Nat.lt_succ_of_le (List.dropWhile_sublist _).length_le

variable {time : α → K} {W : K}

@[simp] lemma windowsOf_nil : windowsOf time W [] = [] := by rw [windowsOf]

lemma windowsOf_cons (x : α) (xs : List α) :
    windowsOf time W (x :: xs) =
      (x :: xs.takeWhile (fun y => time y < time x + W)) ::
        windowsOf time W (xs.dropWhile fun y => time y < time x + W) := by
  rw [windowsOf]

/-- What comes after the first window is not in it. -/
lemma le_time_of_mem_dropWhile {x : α} {xs : List α} (hordered : xs.Pairwise (time · ≤ time ·)) :
    ∀ y ∈ xs.dropWhile (fun y => time y < time x + W), time x + W ≤ time y := by
  induction xs with
  | nil => simp
  | cons z xs ih =>
    obtain ⟨hfirst, hrest⟩ := List.pairwise_cons.mp hordered
    by_cases hz : time z < time x + W
    · simpa [List.dropWhile_cons, hz] using ih hrest
    · intro y hy
      have hy : y ∈ z :: xs := by simpa [List.dropWhile_cons, hz] using hy
      rcases List.mem_cons.mp hy with rfl | hy
      · exact not_lt.mp hz
      · exact (not_lt.mp hz).trans (hfirst y hy)

lemma pairwise_dropWhile {r : α → α → Prop} {p : α → Bool} {xs : List α} (h : xs.Pairwise r) :
    (xs.dropWhile p).Pairwise r :=
  h.sublist (List.dropWhile_sublist p)

/-! ## Intervals -/

variable {p : α → Bool} {n : ℕ}

/-- The event falls into the half-open interval of length `W` that starts at `a`. -/
def inInterval (time : α → K) (W a : K) (x : α) : Bool := a ≤ time x && time x < a + W

lemma countP_inInterval_le (time : α → K) (W : K) (p : α → Bool) (a : K) (xs : List α) :
    xs.countP (fun x => inInterval time W a x && p x) ≤ xs.countP p :=
  List.countP_mono_left fun _ _ h => (Bool.and_eq_true_iff.mp h).2

lemma countP_inInterval_eq_zero {a : K} {xs : List α}
    (h : ∀ x ∈ xs, inInterval time W a x = false) :
    xs.countP (fun x => inInterval time W a x && p x) = 0 :=
  List.countP_eq_zero.mpr fun x hx => by simp [h x hx]

variable [IsOrderedAddMonoid K]

/-- From the start of the interval on, one window fills it. -/
lemma countP_interval_le_of_le {a : K} {x : α} {xs : List α} (ha : a ≤ time x)
    (hordered : (x :: xs).Pairwise (time · ≤ time ·))
    (hbound : ∀ window ∈ windowsOf time W (x :: xs), window.countP p ≤ n) :
    (x :: xs).countP (fun x => inInterval time W a x && p x) ≤ n := by
  rw [windowsOf_cons] at hbound
  have hlate : (xs.dropWhile fun y => time y < time x + W).countP
      (fun x => inInterval time W a x && p x) = 0 := by
    apply countP_inInterval_eq_zero
    intro y hy
    have hy := le_time_of_mem_dropWhile (List.pairwise_cons.mp hordered).2 y hy
    have : a + W ≤ time y := (add_le_add_left ha W).trans hy
    simp [inInterval, this]
  have hfirst := (countP_inInterval_le time W p a
    (x :: xs.takeWhile fun y => time y < time x + W)).trans (hbound _ List.mem_cons_self)
  have hsplit : x :: xs = (x :: xs.takeWhile fun y => time y < time x + W) ++
      xs.dropWhile fun y => time y < time x + W := by
    rw [List.cons_append, List.takeWhile_append_dropWhile]
  rw [hsplit, List.countP_append, hlate]
  exact hfirst

/-- An interval of length `W` meets at most two windows. -/
theorem countP_interval_le (a : K) (xs : List α) (hordered : xs.Pairwise (time · ≤ time ·))
    (hbound : ∀ window ∈ windowsOf time W xs, window.countP p ≤ n) :
    xs.countP (fun x => inInterval time W a x && p x) ≤ 2 * n := by
  induction xs using windowsOf.induct time W with
  | case1 => simp
  | case2 x xs ih =>
    by_cases ha : a ≤ time x
    · have := countP_interval_le_of_le ha hordered hbound
      omega
    have hrest := pairwise_dropWhile (p := fun y => time y < time x + W)
      (List.pairwise_cons.mp hordered).2
    rw [windowsOf_cons, List.forall_mem_cons] at hbound
    have hsplit : x :: xs = (x :: xs.takeWhile fun y => time y < time x + W) ++
        xs.dropWhile fun y => time y < time x + W := by
      rw [List.cons_append, List.takeWhile_append_dropWhile]
    have hfirst := (countP_inInterval_le time W p a
      (x :: xs.takeWhile fun y => time y < time x + W)).trans hbound.1
    have ih := ih hrest hbound.2
    cases hlater : xs.dropWhile fun y => time y < time x + W with
    | nil =>
      rw [hsplit, hlater, List.append_nil]
      omega
    | cons y ys =>
      rw [hlater] at ih hrest hbound
      by_cases hy : a ≤ time y
      · -- the first window ends in the interval, the second one fills it
        have := countP_interval_le_of_le hy hrest hbound.2
        rw [hsplit, hlater, List.countP_append]
        omega
      · -- the first window ends before the interval
        have hearly : (x :: xs.takeWhile fun y => time y < time x + W).countP
            (fun x => inInterval time W a x && p x) = 0 := by
          apply countP_inInterval_eq_zero
          intro z hz
          have hz : time z ≤ time y := by
            have hordered := hsplit ▸ hordered
            refine (List.pairwise_append.mp hordered).2.2 z hz y ?_
            rw [hlater]
            exact List.mem_cons_self
          have : ¬ a ≤ time z := fun h => hy (h.trans hz)
          simp [inInterval, this]
        rw [hsplit, hlater, List.countP_append, hearly, Nat.zero_add]
        exact ih

end Earth2Sandbox
