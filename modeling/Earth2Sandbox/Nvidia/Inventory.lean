import Earth2Sandbox.Nvidia.Members

/-!
# What a decoded archive accounts for

A regular file of an archive comes to one outcome: an entry for the array that was loaded, or a
warning (`Produces`).  `decodeTarBytes_accounts` says that the entries and the warnings of a summary
are the outcomes of the files, one for each, and what holds of the entries and the lists of a
summary.
-/

namespace Earth2Sandbox

/-- An outcome is of one of two kinds. -/
lemma length_outcomes {α β : Type} (outcomes : List (α ⊕ β)) :
    (outcomes.filterMap Sum.getLeft?).length + (outcomes.filterMap Sum.getRight?).length =
      outcomes.length := by
  induction outcomes with
  | nil => rfl
  | cons outcome outcomes ih =>
    simp only [List.filterMap_cons, List.length_cons]
    cases outcome with
    | inl a | inr b =>
      simp only [Sum.getLeft?, Sum.getRight?, List.length_cons]
      omega

/-- The sorted values of a field are the values that occur, each once. -/
lemma sortedValues {α κ : Type} [LinearOrder κ] (field : α → κ) (xs : List α) :
    ((xs.map field).toFinset.sort (· ≤ ·)).Pairwise (· < ·) ∧
      ∀ value, value ∈ (xs.map field).toFinset.sort (· ≤ ·) ↔ ∃ x ∈ xs, field x = value := by
  refine ⟨(Finset.sortedLT_sort _).pairwise, fun value => ?_⟩
  rw [Finset.mem_sort, List.mem_toFinset, List.mem_map]

namespace FourCastNetPostProcessor

/-! ## Entries -/

/-- The counts and extremes of an entry agree. -/
structure Consistent (entry : FourCastNetDecodedArray) : Prop where
  finiteCount_le : entry.finiteCount ≤ entry.shape.prod
  minValue_eq_none : entry.minValue = none ↔ entry.finiteCount = 0
  maxValue_eq_none : entry.maxValue = none ↔ entry.finiteCount = 0
  min_le_max : ∀ low high, entry.minValue = some low → entry.maxValue = some high →
    PyFloat.le low high = true

/-- The finite elements of an array are no more than its elements. -/
lemma of_finiteValues {array : NumpyArray} {values : List PyFloat}
    (h : finiteValues array = .ok values) :
    values.length ≤ array.shape.prod ∧ ∀ value ∈ values, value.isFinite = true := by
  obtain ⟨elements, helements, hvalues⟩ := Except.bind_eq_ok.mp h
  cases hvalues
  constructor
  · calc (elements.filter (·.isFinite)).length
      _ ≤ elements.length := List.length_filter_le _ _
      _ = (shapeIndices array.shape).length := (Except.mapM_eq_ok.mp helements).length_eq.symm
      _ = array.shape.prod := length_shapeIndices array.shape
  · intro value hvalue
    exact (List.mem_filter.mp hvalue).2

section Archive

variable [ArchiveReader]

lemma consistent_of_summarizeArray {member : DecodedNumpyMember} {entry : FourCastNetDecodedArray}
    (h : summarizeArray member = .ok entry) : Consistent entry := by
  obtain ⟨finite, hfinite, hentry⟩ := Except.bind_eq_ok.mp h
  obtain ⟨hcount, hvalues⟩ := of_finiteValues hfinite
  cases hentry
  cases finite with
  | nil => exact ⟨hcount, by simp, by simp, by simp⟩
  | cons first rest =>
    obtain ⟨hfirst, hrest⟩ := List.forall_mem_cons.mp hvalues
    refine ⟨hcount, by simp, by simp, ?_⟩
    rintro _ _ ⟨⟩ ⟨⟩
    exact PyFloat.minOf_le_maxOf hfirst hrest

lemma consistent_of_forall₂ {members : List DecodedNumpyMember}
    {entries : List FourCastNetDecodedArray}
    (h : List.Forall₂ (fun member entry => summarizeArray member = .ok entry) members entries) :
    ∀ entry ∈ entries, Consistent entry := by
  induction h with
  | nil => simp
  | cons hentry _ ih => exact List.forall_mem_cons.mpr ⟨consistent_of_summarizeArray hentry, ih⟩

/-! ## Outcomes of files -/

/-- What a regular file comes to; the loader has four exits for a file. -/
inductive Produces (member : TarMember) : FourCastNetDecodedArray ⊕ String → Prop where
  | decoded {lead batch : ℕ} {array : NumpyArray} {entry : FourCastNetDecodedArray}
      (hname : matchMemberName (baseName member.name) = some (lead, batch))
      (hloaded : member.loaded = some (.ok array))
      (hentry : summarizeArray ⟨baseName member.name, lead, batch, array⟩ = .ok entry) :
      Produces member (.inl entry)
  | unsupported (hname : matchMemberName (baseName member.name) = none) :
      Produces member (.inr ("Skipping unsupported tar member name: " ++ member.name))
  | missing {times : ℕ × ℕ} (hname : matchMemberName (baseName member.name) = some times)
      (hloaded : member.loaded = none) :
      Produces member (.inr ("Could not extract tar member: " ++ member.name))
  | unreadable {times : ℕ × ℕ} {error : String}
      (hname : matchMemberName (baseName member.name) = some times)
      (hloaded : member.loaded = some (.error (.unreadable error))) :
      Produces member (.inr ("Could not load NumPy array from " ++ member.name ++ ": " ++ error))

lemma Produces.unique {member : TarMember} {outcome outcome' : FourCastNetDecodedArray ⊕ String}
    (h : Produces member outcome) (h' : Produces member outcome') : outcome = outcome' := by
  cases h <;> cases h' <;> simp_all

/-- A file that is read well has an outcome, which is what the loader makes of it. -/
lemma exists_produces {member : TarMember} (h : WellRead member) :
    (∃ decoded entry, decodedOf member = some decoded ∧ warningOf member = none ∧
        summarizeArray decoded = .ok entry ∧ Produces member (.inl entry)) ∨
      ∃ warning, decodedOf member = none ∧ warningOf member = some warning ∧
        Produces member (.inr warning) := by
  unfold WellRead at h
  unfold decodedOf warningOf
  cases hname : matchMemberName (baseName member.name) with
  | none => exact .inr ⟨_, rfl, rfl, .unsupported hname⟩
  | some times =>
    cases hloaded : member.loaded with
    | none => exact .inr ⟨_, rfl, rfl, .missing hname hloaded⟩
    | some result =>
      rw [hloaded] at h
      cases result with
      | ok array =>
        obtain ⟨entry, hentry⟩ := exists_summarizeArray (baseName member.name) times.1 times.2 h
        exact .inl ⟨_, _, rfl, rfl, hentry, .decoded hname hloaded hentry⟩
      | error failure =>
        cases failure with
        | unreadable error => exact .inr ⟨_, rfl, rfl, .unreadable hname hloaded⟩
        | tar error | other error => exact h.elim

/-- **Loop.**  The outcomes of files are the entries of the decoded members and the warnings. -/
lemma exists_outcomes {files : List TarMember} (h : ∀ member ∈ files, WellRead member) :
    ∃ outcomes, List.Forall₂ Produces files outcomes ∧
      List.Forall₂ (fun decoded entry => summarizeArray decoded = .ok entry)
        (files.filterMap decodedOf) (outcomes.filterMap Sum.getLeft?) ∧
      files.filterMap warningOf = outcomes.filterMap Sum.getRight? := by
  induction files with
  | nil => exact ⟨[], .nil, .nil, rfl⟩
  | cons member files ih =>
    obtain ⟨hmember, hfiles⟩ := List.forall_mem_cons.mp h
    obtain ⟨outcomes, hproduces, hentries, hwarnings⟩ := ih hfiles
    rcases exists_produces hmember with
      ⟨decoded, entry, hdecoded, hwarning, hentry, hproduced⟩ |
      ⟨warning, hdecoded, hwarning, hproduced⟩
    · refine ⟨.inl entry :: outcomes, .cons hproduced hproduces, ?_, ?_⟩
      · simp only [List.filterMap_cons, hdecoded, Sum.getLeft?]
        exact .cons hentry hentries
      · simp only [List.filterMap_cons, hwarning, Sum.getRight?]
        exact hwarnings
    · refine ⟨.inr warning :: outcomes, .cons hproduced hproduces, ?_, ?_⟩
      · simp only [List.filterMap_cons, hdecoded, Sum.getLeft?]
        exact hentries
      · simp only [List.filterMap_cons, hwarning, Sum.getRight?, hwarnings]

/-! ## Summaries -/

/-- **Every file is accounted for.**  An archive whose files are read well is decoded to a summary
in which each regular file has one outcome: the entries are the outcomes of the one kind, sorted,
and the warnings are those of the other.  The lead times and the batches of a summary are those of
its entries, and an entry's counts and extremes agree. -/
theorem decodeTarBytes_accounts {content : Bytes} {members : List TarMember}
    (hopen : ArchiveReader.getmembers content = .ok members)
    (hread : ∀ member ∈ members.filter (·.isFile), WellRead member) :
    (∀ member ∈ members.filter (·.isFile), ∃! outcome, Produces member outcome) ∧
      ∃ summary outcomes, decodeTarBytes content = .ok summary ∧
        List.Forall₂ Produces (members.filter (·.isFile)) outcomes ∧
        summary.arrays.Perm (outcomes.filterMap Sum.getLeft?) ∧
        summary.warnings = outcomes.filterMap Sum.getRight? ∧
        summary.memberCount = summary.arrays.length ∧
        summary.memberCount + summary.warnings.length = (members.filter (·.isFile)).length ∧
        summary.arrays.Pairwise (fun a b => arrayKey a ≤ arrayKey b) ∧
        summary.leadTimeHours.Pairwise (· < ·) ∧
        (∀ lead, lead ∈ summary.leadTimeHours ↔
          ∃ entry ∈ summary.arrays, entry.leadTimeHours = lead) ∧
        summary.batchIndices.Pairwise (· < ·) ∧
        (∀ batch, batch ∈ summary.batchIndices ↔
          ∃ entry ∈ summary.arrays, entry.batchIndex = batch) ∧
        ∀ entry ∈ summary.arrays, Consistent entry := by
  obtain ⟨outcomes, hproduces, hentries, hwarnings⟩ := exists_outcomes hread
  refine ⟨fun member hmember => ?_, ?_⟩
  · rcases exists_produces (hread member hmember) with ⟨_, entry, -, -, -, h⟩ | ⟨warning, -, -, h⟩
    · exact ⟨_, h, fun _ h' => h'.unique h⟩
    · exact ⟨_, h, fun _ h' => h'.unique h⟩
  · -- the members are sorted before they are summarized, and the summaries once more
    obtain ⟨summaries, hsummaries, hperm⟩ := List.perm_comp_forall₂
      (List.perm_insertionSort (fun a b => sortKey a ≤ sortKey b) _) hentries
    have harrays := (List.perm_insertionSort (fun a b => arrayKey a ≤ arrayKey b) summaries)
    refine ⟨_, outcomes, Except.bind_eq_ok.mpr ⟨_, loadTarMembers_eq hopen hread,
      Except.bind_eq_ok.mpr ⟨summaries, Except.mapM_eq_ok.mpr hsummaries, rfl⟩⟩, hproduces,
      harrays.trans hperm, hwarnings, rfl, ?_, pairwise_insertionSort_key arrayKey summaries,
      (sortedValues _ _).1, (sortedValues _ _).2, (sortedValues _ _).1, (sortedValues _ _).2,
      fun entry hentry => ?_⟩
    · rw [(harrays.trans hperm).length_eq, hwarnings, length_outcomes, hproduces.length_eq]
    · exact consistent_of_forall₂ hsummaries entry (harrays.mem_iff.mp hentry)

end Archive

/-! ## An archive -/

namespace SampleArchive

/-- The five regular files of the archive leave four entries and a warning. -/
theorem decodeTarBytes_accounts_sample :
    ∃ summary, decodeTarBytes [1] = .ok summary ∧
      summary.memberCount + summary.warnings.length = 5 ∧
      summary.arrays.Pairwise (fun a b => arrayKey a ≤ arrayKey b) ∧
      ∀ entry ∈ summary.arrays, Consistent entry := by
  have hopen : ArchiveReader.getmembers [1] = .ok sampleMembers := rfl
  obtain ⟨-, summary, outcomes, hdecode, -, -, -, -, hcount, hsorted, -, -, -, -, hentries⟩ :=
    decodeTarBytes_accounts hopen (wellRead_files wellRead_sampleMembers)
  exact ⟨summary, hdecode, hcount, hsorted, hentries⟩

end SampleArchive

end FourCastNetPostProcessor

end Earth2Sandbox
