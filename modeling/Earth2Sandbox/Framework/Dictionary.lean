import Earth2Sandbox.Framework.Sorting

/-!
# Association lists as dictionaries

A list of entries stands for a dictionary: the first entry under a key is the one that counts.
`sortedEntries` lists the entries that count by their keys; two lists stand for the same
dictionary exactly when they have the same sorted entries (`sortedEntries_eq_iff`).
-/

namespace Earth2Sandbox

namespace Dictionary

variable {κ ν : Type}

/-! ## Entries that count -/

section Entries

variable [DecidableEq κ]

/-- The first entry under each key. -/
def entries : List (κ × ν) → List (κ × ν)
  | [] => []
  | entry :: rest => entry :: (entries rest).filter fun e => e.1 ≠ entry.1

/-- With one entry a key, an entry is found when it is there. -/
lemma lookup_eq_some_iff_mem {d : List (κ × ν)} (h : (d.map Prod.fst).Nodup) {k : κ} {v : ν} :
    d.lookup k = some v ↔ (k, v) ∈ d := by
  induction d with
  | nil => simp
  | cons entry rest ih =>
    obtain ⟨hhead, htail⟩ := List.nodup_cons.mp h
    rw [List.lookup_cons, List.mem_cons]
    by_cases hk : k = entry.1
    · subst hk
      have hnot : (entry.1, v) ∉ rest := fun hmem => hhead (List.mem_map.mpr ⟨_, hmem, rfl⟩)
      simp only [BEq.rfl, Option.some.injEq, hnot, or_false]
      exact ⟨fun hv => Prod.ext rfl hv.symm, fun heq => (congrArg Prod.snd heq).symm⟩
    · have hne : (k, v) ≠ entry := fun heq => hk (congrArg Prod.fst heq)
      rw [beq_false_of_ne hk]
      simp only [hne, false_or]
      exact ih htail

/-- The order of the entries does not matter. -/
lemma lookup_of_perm {d d' : List (κ × ν)} (hperm : d.Perm d') (h : (d.map Prod.fst).Nodup)
    (k : κ) : d.lookup k = d'.lookup k := by
  have h' : (d'.map Prod.fst).Nodup := (hperm.map Prod.fst).nodup_iff.mp h
  refine Option.ext fun v => ?_
  rw [lookup_eq_some_iff_mem h, lookup_eq_some_iff_mem h', hperm.mem_iff]

lemma mem_entries {d : List (κ × ν)} {entry : κ × ν} (h : entry ∈ entries d) : entry ∈ d := by
  induction d with
  | nil => exact h
  | cons first rest ih =>
    rcases List.mem_cons.mp h with rfl | hrest
    · exact List.mem_cons_self
    · exact List.mem_cons_of_mem _ (ih (List.mem_of_mem_filter hrest))

lemma nodup_entries (d : List (κ × ν)) : ((entries d).map Prod.fst).Nodup := by
  induction d with
  | nil => exact List.nodup_nil
  | cons entry rest ih =>
    rw [entries, List.map_cons, List.nodup_cons]
    constructor
    · intro hmem
      obtain ⟨e, he, heq⟩ := List.mem_map.mp hmem
      have hne := (List.mem_filter.mp he).2
      exact absurd heq (by simpa using hne)
    · exact ih.sublist ((List.filter_sublist ..).map Prod.fst)

lemma lookup_filter_ne {d : List (κ × ν)} {k k' : κ} (h : k ≠ k') :
    (d.filter fun e => e.1 ≠ k').lookup k = d.lookup k := by
  induction d with
  | nil => rfl
  | cons entry rest ih =>
    by_cases hentry : entry.1 = k'
    · rw [List.filter_cons_of_neg (by simpa using hentry), ih, List.lookup_cons,
        beq_false_of_ne fun heq => h (heq.trans hentry)]
    · rw [List.filter_cons_of_pos (by simpa using hentry), List.lookup_cons, List.lookup_cons, ih]

@[simp] lemma lookup_entries (d : List (κ × ν)) (k : κ) : (entries d).lookup k = d.lookup k := by
  induction d with
  | nil => rfl
  | cons entry rest ih =>
    rw [entries, List.lookup_cons, List.lookup_cons]
    by_cases hk : k = entry.1
    · rw [hk, BEq.rfl]
    · rw [beq_false_of_ne hk, lookup_filter_ne hk, ih]

/-- With one entry a key, every entry counts. -/
lemma entries_eq_self {d : List (κ × ν)} (h : (d.map Prod.fst).Nodup) : entries d = d := by
  induction d with
  | nil => rfl
  | cons entry rest ih =>
    obtain ⟨hhead, htail⟩ := List.nodup_cons.mp h
    rw [entries, ih htail, List.filter_eq_self.mpr]
    intro e he
    simp only [ne_eq, decide_not, Bool.not_eq_eq_eq_not, Bool.not_true, decide_eq_false_iff_not]
    exact fun heq => hhead (heq ▸ List.mem_map_of_mem he)

lemma entries_map {ν' : Type} (f : ν → ν') (d : List (κ × ν)) :
    entries (d.map (Prod.map id f)) = (entries d).map (Prod.map id f) := by
  induction d with
  | nil => rfl
  | cons entry rest ih =>
    rw [List.map_cons, entries, entries, ih, List.map_cons, List.filter_map]
    rfl

end Entries

/-! ## Sorted entries -/

section Sorted

variable [LinearOrder κ]

/-- The entries that count, by their keys. -/
def sortedEntries (d : List (κ × ν)) : List (κ × ν) :=
  (entries d).insertionSort fun a b => a.1 ≤ b.1

lemma sortedEntries_perm (d : List (κ × ν)) : (sortedEntries d).Perm (entries d) :=
  List.perm_insertionSort _ _

lemma nodup_sortedEntries (d : List (κ × ν)) : ((sortedEntries d).map Prod.fst).Nodup :=
  ((sortedEntries_perm d).map Prod.fst).nodup_iff.mpr (nodup_entries d)

lemma mem_sortedEntries {d : List (κ × ν)} {entry : κ × ν} :
    entry ∈ sortedEntries d ↔ d.lookup entry.1 = some entry.2 := by
  rw [(sortedEntries_perm d).mem_iff, ← lookup_entries, lookup_eq_some_iff_mem (nodup_entries d)]

lemma mem_map_fst_sortedEntries {d : List (κ × ν)} {k : κ} :
    k ∈ (sortedEntries d).map Prod.fst ↔ k ∈ d.map Prod.fst := by
  constructor
  · intro h
    obtain ⟨entry, hentry, rfl⟩ := List.mem_map.mp h
    exact List.mem_map_of_mem (mem_entries ((sortedEntries_perm d).mem_iff.mp hentry))
  · intro h
    obtain ⟨entry, hentry, rfl⟩ := List.mem_map.mp h
    cases hlookup : d.lookup entry.1 with
    | none =>
      have hne := List.lookup_eq_none_iff.mp hlookup entry hentry
      simp at hne
    | some v => exact List.mem_map.mpr ⟨(entry.1, v), mem_sortedEntries.mpr hlookup, rfl⟩

@[simp] lemma lookup_sortedEntries (d : List (κ × ν)) (k : κ) :
    (sortedEntries d).lookup k = d.lookup k := by
  refine Option.ext fun v => ?_
  rw [lookup_eq_some_iff_mem (nodup_sortedEntries d), mem_sortedEntries]

/-- The sorted entries are the dictionary. -/
theorem sortedEntries_eq_iff {d d' : List (κ × ν)} :
    sortedEntries d = sortedEntries d' ↔ ∀ k, d.lookup k = d'.lookup k := by
  constructor
  · intro h k
    rw [← lookup_sortedEntries d, h, lookup_sortedEntries]
  · intro h
    have hperm : (sortedEntries d).Perm (sortedEntries d') := by
      refine (List.perm_ext_iff_of_nodup ((nodup_sortedEntries d).of_map _)
        ((nodup_sortedEntries d').of_map _)).mpr fun entry => ?_
      rw [mem_sortedEntries, mem_sortedEntries, h]
    refine eq_of_perm_of_sorted hperm (fun a ha b hb hkey => ?_)
      (pairwise_insertionSort_key Prod.fst _) (pairwise_insertionSort_key Prod.fst _)
    have hb' := (mem_sortedEntries.mp hb)
    rw [← hkey, mem_sortedEntries.mp ha, Option.some.injEq] at hb'
    exact Prod.ext hkey hb'

lemma sortedEntries_map {ν' : Type} (f : ν → ν') (d : List (κ × ν)) :
    sortedEntries (d.map (Prod.map id f)) = (sortedEntries d).map (Prod.map id f) := by
  rw [sortedEntries, entries_map, sortedEntries]
  exact map_insertionSort_key (fun _ => rfl) _

end Sorted

end Dictionary

end Earth2Sandbox
