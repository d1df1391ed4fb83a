import Earth2Sandbox.Framework.Program
import Earth2Sandbox.Framework.Sorting
import Earth2Sandbox.Nvidia.Decoder
import Mathlib.Tactic.Linarith

/-!
# Members of an archive

Which members of an archive a forecast is made of.  A regular file is decoded or leaves a warning
(`decodedOf`, `warningOf`); the decoded members are sorted, those of one batch are selected, and
the first one counts for each lead time.

`timeline_one_batch` says what the timeline of a summary consists of, and `archiveOrder_irrelevant`
that the order of the archive does not matter.
-/

namespace Earth2Sandbox

namespace FourCastNetPostProcessor

/-! ## The selected members -/

section Selection

variable {members : List DecodedNumpyMember}

/-- The batch that is selected: 0 if there is one, else that of the first member. -/
def selectedBatch (members : List DecodedNumpyMember) : ℕ :=
  if members.any (·.batchIndex = 0) then 0 else (members.head?.map (·.batchIndex)).getD 0

lemma selectedBatch_eq_zero (h : ∃ member ∈ members, member.batchIndex = 0) :
    selectedBatch members = 0 := by
  have hany : members.any (fun member => member.batchIndex = 0) = true := by simpa using h
  exact if_pos hany

/-- The members of the selected batch, under their lead times. -/
def batchEntries (members : List DecodedNumpyMember) : List (ℕ × DecodedNumpyMember) :=
  (members.filter (·.batchIndex = selectedBatch members)).map fun member =>
    (member.leadTimeHours, member)

lemma selectBatchMembers_eq (members : List DecodedNumpyMember) :
    selectBatchMembers members = (Dictionary.sortedEntries (batchEntries members)).map (·.2) := by
  cases members with
  | nil => rfl
  | cons first rest => rfl

lemma mem_batchEntries {lead : ℕ} {member : DecodedNumpyMember} :
    (lead, member) ∈ batchEntries members ↔
      member ∈ members ∧ member.batchIndex = selectedBatch members ∧
        member.leadTimeHours = lead := by
  simp only [batchEntries, List.mem_map, List.mem_filter, decide_eq_true_eq, Prod.mk.injEq]
  constructor
  · rintro ⟨_, ⟨hmem, hbatch⟩, hlead, rfl⟩
    exact ⟨hmem, hbatch, hlead⟩
  · rintro ⟨hmem, hbatch, hlead⟩
    exact ⟨member, ⟨hmem, hbatch⟩, hlead, rfl⟩

/-- An entry that counts is a member of the selected batch. -/
lemma of_mem_sortedEntries {entry : ℕ × DecodedNumpyMember}
    (h : entry ∈ Dictionary.sortedEntries (batchEntries members)) :
    entry.2 ∈ members ∧ entry.2.batchIndex = selectedBatch members ∧
      entry.2.leadTimeHours = entry.1 :=
  mem_batchEntries.mp
    (Dictionary.mem_entries ((Dictionary.sortedEntries_perm _).mem_iff.mp h))

lemma of_mem_selectBatchMembers {member : DecodedNumpyMember}
    (h : member ∈ selectBatchMembers members) :
    member ∈ members ∧ member.batchIndex = selectedBatch members := by
  rw [selectBatchMembers_eq] at h
  obtain ⟨entry, hentry, rfl⟩ := List.mem_map.mp h
  obtain ⟨hmem, hbatch, -⟩ := of_mem_sortedEntries hentry
  exact ⟨hmem, hbatch⟩

/-- The lead times of the selected members are the keys of the entries. -/
lemma map_leadTimeHours_selectBatchMembers :
    (selectBatchMembers members).map (·.leadTimeHours) =
      (Dictionary.sortedEntries (batchEntries members)).map Prod.fst := by
  rw [selectBatchMembers_eq, List.map_map]
  exact List.map_congr_left fun entry hentry => (of_mem_sortedEntries hentry).2.2

lemma pairwise_selectBatchMembers :
    ((selectBatchMembers members).map (·.leadTimeHours)).Pairwise (· < ·) := by
  rw [map_leadTimeHours_selectBatchMembers]
  have hle : ((Dictionary.sortedEntries (batchEntries members)).map Prod.fst).Pairwise (· ≤ ·) :=
    List.pairwise_map.mpr (pairwise_insertionSort_key Prod.fst _)
  exact hle.imp₂ (fun _ _ hle hne => lt_of_le_of_ne hle hne)
    (Dictionary.nodup_sortedEntries _)

/-- No lead time of the selected batch is missing. -/
lemma mem_leads_selectBatchMembers {lead : ℕ} :
    lead ∈ (selectBatchMembers members).map (·.leadTimeHours) ↔
      ∃ member ∈ members, member.batchIndex = selectedBatch members ∧
        member.leadTimeHours = lead := by
  rw [map_leadTimeHours_selectBatchMembers, Dictionary.mem_map_fst_sortedEntries]
  constructor
  · intro h
    obtain ⟨⟨_, member⟩, hentry, rfl⟩ := List.mem_map.mp h
    exact ⟨member, mem_batchEntries.mp hentry⟩
  · rintro ⟨member, hmember⟩
    exact List.mem_map.mpr ⟨(lead, member), mem_batchEntries.mpr hmember, rfl⟩

end Selection

/-! ## The members that are read -/

section Archive

variable [ArchiveReader]

/-- `tarfile` finds nothing wrong with the member, and `np.load` returns an array of real numbers
or rejects the payload. -/
def WellRead (member : TarMember) : Prop :=
  match member.loaded with
  | none | some (.error (.unreadable _)) => True
  | some (.error (.tar _)) | some (.error (.other _)) => False
  | some (.ok array) => array.Numeric

/-- What a regular file is decoded to. -/
def decodedOf (member : TarMember) : Option DecodedNumpyMember :=
  match matchMemberName (baseName member.name), member.loaded with
  | some (lead, batch), some (.ok array) => some ⟨baseName member.name, lead, batch, array⟩
  | _, _ => none

/-- The warning that a regular file leaves. -/
def warningOf (member : TarMember) : Option String :=
  match matchMemberName (baseName member.name), member.loaded with
  | none, _ => some ("Skipping unsupported tar member name: " ++ member.name)
  | some _, none => some ("Could not extract tar member: " ++ member.name)
  | some _, some (.error (.unreadable error)) =>
    some ("Could not load NumPy array from " ++ member.name ++ ": " ++ error)
  | _, _ => none

/-- **Loop.**  When every member is read well, each is decoded or leaves a warning. -/
lemma readMembers_eq {members : List TarMember} (h : ∀ member ∈ members, WellRead member) :
    readMembers members = .ok (members.filterMap decodedOf, members.filterMap warningOf) := by
  induction members with
  | nil => rfl
  | cons member members ih =>
    obtain ⟨hmember, hmembers⟩ := List.forall_mem_cons.mp h
    rw [readMembers, ih hmembers]
    unfold WellRead at hmember
    dsimp only
    cases hmatch : matchMemberName (baseName member.name) with
    | none => simp [decodedOf, warningOf, hmatch, Except.map]
    | some times =>
      cases hloaded : member.loaded with
      | none => simp [decodedOf, warningOf, hmatch, hloaded, Except.map]
      | some result =>
        rw [hloaded] at hmember
        cases result with
        | ok array => simp [decodedOf, warningOf, hmatch, hloaded, Except.map]
        | error failure =>
          cases failure with
          | unreadable error => simp [decodedOf, warningOf, hmatch, hloaded, Except.map]
          | tar error | other error => exact hmember.elim

variable {content content' : Bytes} {members members' : List TarMember}

omit [ArchiveReader] in
lemma wellRead_files (hread : ∀ member ∈ members, WellRead member) :
    ∀ member ∈ members.filter (·.isFile), WellRead member :=
  fun member hmember => hread member (List.mem_of_mem_filter hmember)

/-- The decoded members and the warnings of an archive whose files are read well. -/
lemma loadTarMembers_eq (hopen : ArchiveReader.getmembers content = .ok members)
    (hread : ∀ member ∈ members.filter (·.isFile), WellRead member) :
    loadTarMembers content =
      .ok (((members.filter (·.isFile)).filterMap decodedOf).insertionSort
          fun a b => sortKey a ≤ sortKey b,
        (members.filter (·.isFile)).filterMap warningOf) := by
  rw [loadTarMembers, hopen]
  dsimp only
  rw [readMembers_eq hread]
  rfl

lemma pairwise_of_loadTarMembers {decoded : List DecodedNumpyMember} {warnings : List String}
    (h : loadTarMembers content = .ok (decoded, warnings)) :
    decoded.Pairwise fun a b => sortKey a ≤ sortKey b := by
  unfold loadTarMembers at h
  split at h
  · cases h
    exact .nil
  · cases h
  · cases h
  · next members hopen =>
    cases hread : readMembers (members.filter (·.isFile)) with
    | error failure =>
      rw [hread] at h
      cases h
    | ok result =>
      rw [hread] at h
      cases h
      exact pairwise_insertionSort_key sortKey result.1

/-- Without a batch 0, the batch is that of the first member. -/
lemma exists_first_of_loadTarMembers {decoded : List DecodedNumpyMember} {warnings : List String}
    (h : loadTarMembers content = .ok (decoded, warnings)) (hne : decoded ≠ [])
    (hzero : ∀ member ∈ decoded, member.batchIndex ≠ 0) :
    ∃ first ∈ decoded, (∀ member ∈ decoded, sortKey first ≤ sortKey member) ∧
      selectedBatch decoded = first.batchIndex := by
  have hsorted := pairwise_of_loadTarMembers h
  obtain ⟨first, rest, rfl⟩ := List.exists_cons_of_ne_nil hne
  refine ⟨first, List.mem_cons_self, fun member hmember => ?_, ?_⟩
  · rcases List.mem_cons.mp hmember with rfl | hrest
    · exact le_rfl
    · exact List.rel_of_pairwise_cons hsorted hrest
  · have hany : ¬ (first :: rest).any (fun member => member.batchIndex = 0) = true := by
      simpa using hzero
    exact if_neg hany

end Archive

/-! ## The timeline -/

section Timeline

variable [FloatRepr] [ArchiveReader] {content : Bytes}
  {request : FourCastNetHostedInferenceRequest} {latitude longitude : ℚ} {generatedAt : Time}
  {summary : ForecastSummary}

/-- What a summary is made of: the steps of the selected members. -/
lemma steps_of_build
    (h : buildForecastSummaryFromTarBytes content request latitude longitude generatedAt =
      .ok summary) :
    ∃ decoded warnings firstStep steps, loadTarMembers content = .ok (decoded, warnings) ∧
      List.Forall₂ (fun member step => buildTimelineStep member request.hostedVariables latitude
          longitude generatedAt warnings.length = .ok step)
        (selectBatchMembers decoded) (firstStep :: steps) ∧
      summary = summaryOf firstStep steps latitude longitude generatedAt := by
  unfold buildForecastSummaryFromTarBytes at h
  dsimp only at h
  split at h
  · cases h
  · obtain ⟨⟨decoded, warnings⟩, hload, h⟩ := Except.bind_eq_ok.mp h
    dsimp only at h
    split at h
    · cases h
    · next first rest hselected =>
      obtain ⟨firstStep, hfirst, h⟩ := Except.bind_eq_ok.mp h
      obtain ⟨steps, hsteps, h⟩ := Except.bind_eq_ok.mp h
      split at h
      · cases h
        refine ⟨decoded, warnings, firstStep, steps, hload, ?_, rfl⟩
        rw [hselected]
        exact .cons hfirst (Except.mapM_eq_ok.mp hsteps)
      · cases h

/-- What a step takes from its member. -/
lemma of_buildTimelineStep {member : DecodedNumpyMember}
    {hostedVariables : List HostedFourCastNetVariable} {warningCount : ℕ}
    {step : ForecastTimelineStep}
    (h : buildTimelineStep member hostedVariables latitude longitude generatedAt warningCount =
      .ok step) :
    step.leadTimeHours = member.leadTimeHours ∧
      step.validAt = generatedAt + timedeltaHours step.leadTimeHours := by
  unfold buildTimelineStep at h
  obtain ⟨values, -, h⟩ := Except.bind_eq_ok.mp h
  dsimp only at h
  split at h
  · cases h
    exact ⟨rfl, rfl⟩
  · cases h

/-- What the steps of the selected members have in common with them. -/
lemma leads_of_forall₂ {selected : List DecodedNumpyMember} {warningCount : ℕ}
    {hostedVariables : List HostedFourCastNetVariable} {steps : List ForecastTimelineStep}
    (h : List.Forall₂ (fun member step => buildTimelineStep member hostedVariables latitude
      longitude generatedAt warningCount = .ok step) selected steps) :
    steps.map (·.leadTimeHours) = (selected.map (·.leadTimeHours)).map Nat.cast ∧
      ∀ step ∈ steps, step.validAt = generatedAt + timedeltaHours step.leadTimeHours := by
  induction h with
  | nil => simp
  | cons hstep _ ih =>
    obtain ⟨hlead, hvalid⟩ := of_buildTimelineStep hstep
    obtain ⟨hleads, hvalids⟩ := ih
    refine ⟨?_, List.forall_mem_cons.mpr ⟨hvalid, hvalids⟩⟩
    rw [List.map_cons, List.map_cons, List.map_cons, hlead, hleads]

omit [FloatRepr] [ArchiveReader] in
/-- With increasing lead times, the first step is valid first and the last one last. -/
lemma window_of_pairwise {first : ForecastTimelineStep} {rest : List ForecastTimelineStep}
    (hleads : ((first :: rest).map (·.leadTimeHours)).Pairwise (· < ·))
    (hvalid : ∀ step ∈ first :: rest,
      step.validAt = generatedAt + timedeltaHours step.leadTimeHours) :
    ∀ step ∈ first :: rest, first.validAt ≤ step.validAt ∧
      step.validAt ≤ ((first :: rest).getLast (List.cons_ne_nil _ _)).validAt := by
  have hmono : (first :: rest).Pairwise fun a b => a.validAt ≤ b.validAt := by
    refine (List.pairwise_map.mp hleads).imp_of_mem fun {a b} ha hb hlt => ?_
    have hlead : a.leadTimeHours < b.leadTimeHours := hlt
    rw [hvalid a ha, hvalid b hb]
    unfold timedeltaHours
    linarith
  intro step hstep
  constructor
  · rcases List.mem_cons.mp hstep with rfl | hrest
    · exact le_rfl
    · exact List.rel_of_pairwise_cons hmono hrest
  · exact hmono.rel_getLast_of_rel_getLast_getLast hstep le_rfl

/-- **One ensemble member.**  The timeline of a summary consists of the steps of one batch, which is
batch 0 if there is one and else that of the first decoded member, one step for each of its lead
times, in their order; the forecast window is that of the steps. -/
theorem timeline_one_batch
    (h : buildForecastSummaryFromTarBytes content request latitude longitude generatedAt =
      .ok summary) :
    ∃ decoded warnings batch, loadTarMembers content = .ok (decoded, warnings) ∧
      ((∃ member ∈ decoded, member.batchIndex = 0) → batch = 0) ∧
      ((∀ member ∈ decoded, member.batchIndex ≠ 0) →
        ∃ first ∈ decoded, (∀ member ∈ decoded, sortKey first ≤ sortKey member) ∧
          batch = first.batchIndex) ∧
      (∃ selected : List DecodedNumpyMember,
        (∀ member ∈ selected, member ∈ decoded ∧ member.batchIndex = batch) ∧
        List.Forall₂ (fun member step => buildTimelineStep member request.hostedVariables latitude
          longitude generatedAt warnings.length = .ok step) selected summary.timeline) ∧
      (summary.timeline.map (·.leadTimeHours)).Pairwise (· < ·) ∧
      (∀ lead : ℤ, lead ∈ summary.timeline.map (·.leadTimeHours) ↔
        ∃ member ∈ decoded, member.batchIndex = batch ∧ (member.leadTimeHours : ℤ) = lead) ∧
      summary.forecastWindow.leadHours = summary.timeline.map (·.leadTimeHours) ∧
      (∀ step ∈ summary.timeline,
        step.validAt = generatedAt + timedeltaHours step.leadTimeHours) ∧
      (∃ step ∈ summary.timeline, summary.forecastWindow.startAt = step.validAt) ∧
      (∃ step ∈ summary.timeline, summary.forecastWindow.endAt = step.validAt) ∧
      ∀ step ∈ summary.timeline, summary.forecastWindow.startAt ≤ step.validAt ∧
        step.validAt ≤ summary.forecastWindow.endAt := by
  obtain ⟨decoded, warnings, firstStep, steps, hload, hsteps, rfl⟩ := steps_of_build h
  obtain ⟨hleads, hvalid⟩ := leads_of_forall₂ hsteps
  have hsorted : ((firstStep :: steps).map (·.leadTimeHours)).Pairwise (· < ·) := by
    rw [hleads]
    exact pairwise_selectBatchMembers.map _ fun _ _ => Int.ofNat_lt.mpr
  refine ⟨decoded, warnings, selectedBatch decoded, hload, selectedBatch_eq_zero,
    exists_first_of_loadTarMembers hload ?_, ⟨_, fun _ => of_mem_selectBatchMembers, hsteps⟩,
    hsorted, fun lead => ?_, rfl, hvalid, ⟨_, List.mem_cons_self, rfl⟩,
    ⟨_, List.getLast_mem _, rfl⟩, window_of_pairwise hsorted hvalid⟩
  · rintro rfl
    cases hsteps
  · rw [summaryOf, hleads, List.mem_map]
    constructor
    · rintro ⟨n, hn, rfl⟩
      obtain ⟨member, hmember, hbatch, rfl⟩ := mem_leads_selectBatchMembers.mp hn
      exact ⟨member, hmember, hbatch, rfl⟩
    · rintro ⟨member, hmember, hbatch, rfl⟩
      exact ⟨_, mem_leads_selectBatchMembers.mpr ⟨member, hmember, hbatch, rfl⟩, rfl⟩

end Timeline

/-! ## The order of the archive -/

section Order

variable [ArchiveReader] {content content' : Bytes} {members members' : List TarMember}

lemma mem_decodedOf {decoded : DecodedNumpyMember}
    (h : decoded ∈ (members.filter (·.isFile)).filterMap decodedOf) :
    ∃ member ∈ members, decodedOf member = some decoded ∧
      decoded.filename = baseName member.name := by
  obtain ⟨member, hmember, hdecoded⟩ := List.mem_filterMap.mp h
  refine ⟨member, List.mem_of_mem_filter hmember, hdecoded, ?_⟩
  unfold decodedOf at hdecoded
  split at hdecoded
  · cases hdecoded
    rfl
  · cases hdecoded

lemma sortKey_injOn (hnames : (members.map fun member => baseName member.name).Nodup) :
    ∀ a ∈ (members.filter (·.isFile)).filterMap decodedOf,
      ∀ b ∈ (members.filter (·.isFile)).filterMap decodedOf, sortKey a = sortKey b → a = b := by
  intro a ha b hb hkey
  obtain ⟨member, hmember, hdecoded, hfilename⟩ := mem_decodedOf ha
  obtain ⟨member', hmember', hdecoded', hfilename'⟩ := mem_decodedOf hb
  have hsame : a.filename = b.filename := by
    simp only [sortKey, EmbeddingLike.apply_eq_iff_eq, Prod.mk.injEq] at hkey
    exact hkey.2.2
  have hmembers : member = member' := by
    refine List.inj_on_of_nodup_map hnames hmember hmember' ?_
    rw [← hfilename, ← hfilename', hsame]
  subst hmembers
  exact Option.some.inj (hdecoded.symm.trans hdecoded')

lemma loadTarMembers_of_perm (hopen : ArchiveReader.getmembers content = .ok members)
    (hopen' : ArchiveReader.getmembers content' = .ok members') (hperm : members.Perm members')
    (hnames : (members.map fun member => baseName member.name).Nodup)
    (hread : ∀ member ∈ members, WellRead member) :
    ∃ decoded warnings warnings', loadTarMembers content = .ok (decoded, warnings) ∧
      loadTarMembers content' = .ok (decoded, warnings') ∧ warnings.Perm warnings' := by
  have hread' : ∀ member ∈ members', WellRead member :=
    fun member hmember => hread member (hperm.mem_iff.mpr hmember)
  have hfiles := hperm.filter (·.isFile)
  refine ⟨_, _, _, loadTarMembers_eq hopen (wellRead_files hread), ?_, hfiles.filterMap warningOf⟩
  rw [loadTarMembers_eq hopen' (wellRead_files hread'),
    insertionSort_key_eq_of_perm (hfiles.filterMap decodedOf) (sortKey_injOn hnames)]

omit [ArchiveReader] in
/-- Real elements can be tested for being finite. -/
lemma finiteValues_of_numeric {array : NumpyArray} (h : array.Numeric) :
    ∃ values, finiteValues array = .ok values := by
  unfold finiteValues
  refine (Except.exists_mapM_eq_ok.mpr fun index hindex => ?_).elim
    fun elements helements => ⟨_, Except.bind_eq_ok.mpr ⟨elements, helements, rfl⟩⟩
  obtain ⟨value, hvalue⟩ := Option.isSome_iff_exists.mp (h index (mem_shapeIndices.mp hindex))
  exact ⟨value, by rw [hvalue]⟩

lemma numeric_of_decodedOf {member : TarMember} {decoded : DecodedNumpyMember}
    (hread : WellRead member) (h : decodedOf member = some decoded) : decoded.array.Numeric := by
  unfold decodedOf at h
  split at h
  · next lead batch array _ hloaded =>
    cases h
    unfold WellRead at hread
    rw [hloaded] at hread
    exact hread
  · cases h

/-- An array of real numbers can be summarized. -/
lemma exists_summarizeArray (filename : String) (lead batch : ℕ) {array : NumpyArray}
    (h : array.Numeric) : ∃ entry, summarizeArray ⟨filename, lead, batch, array⟩ = .ok entry := by
  obtain ⟨values, hvalues⟩ := finiteValues_of_numeric h
  exact ⟨_, Except.bind_eq_ok.mpr ⟨values, hvalues, rfl⟩⟩

lemma exists_summaries {decoded : List DecodedNumpyMember} {warnings : List String}
    (hopen : ArchiveReader.getmembers content = .ok members)
    (hread : ∀ member ∈ members, WellRead member)
    (hload : loadTarMembers content = .ok (decoded, warnings)) :
    ∃ summaries, decoded.mapM summarizeArray = .ok summaries := by
  refine Except.exists_mapM_eq_ok.mpr fun member hmember => ?_
  rw [loadTarMembers_eq hopen (wellRead_files hread), Except.ok.injEq, Prod.mk.injEq] at hload
  rw [← hload.1, List.mem_insertionSort] at hmember
  obtain ⟨tarMember, htarMember, hdecoded, -⟩ := mem_decodedOf hmember
  exact exists_summarizeArray _ _ _ (numeric_of_decodedOf (hread tarMember htarMember) hdecoded)

/-- Archives with the same decoded members are decoded alike, but for the warnings. -/
lemma decodeTarBytes_of_load {decoded : List DecodedNumpyMember} {warnings : List String}
    {summaries : List FourCastNetDecodedArray}
    (hload : loadTarMembers content = .ok (decoded, warnings))
    (hsummaries : decoded.mapM summarizeArray = .ok summaries) :
    ∃ summary, decodeTarBytes content = .ok summary ∧ summary.warnings = warnings ∧
      ∀ content' warnings', loadTarMembers content' = .ok (decoded, warnings') →
        decodeTarBytes content' = .ok { summary with warnings := warnings' } := by
  refine ⟨_, Except.bind_eq_ok.mpr ⟨(decoded, warnings), hload,
    Except.bind_eq_ok.mpr ⟨summaries, hsummaries, rfl⟩⟩, rfl, fun content' warnings' hload' => ?_⟩
  exact Except.bind_eq_ok.mpr ⟨(decoded, warnings'), hload',
    Except.bind_eq_ok.mpr ⟨summaries, hsummaries, rfl⟩⟩

/-- **The order of an archive.**  Two archives with the same members, in whatever order, are decoded
to the same arrays with the same warnings up to order, and every forecast summary is built of both
alike. -/
theorem archiveOrder_irrelevant [FloatRepr]
    (hopen : ArchiveReader.getmembers content = .ok members)
    (hopen' : ArchiveReader.getmembers content' = .ok members') (hperm : members.Perm members')
    (hnames : (members.map fun member => baseName member.name).Nodup)
    (hread : ∀ member ∈ members, WellRead member) :
    (∃ summary summary' : FourCastNetDecodedTarSummary,
      decodeTarBytes content = .ok summary ∧ decodeTarBytes content' = .ok summary' ∧
        summary'.arrays = summary.arrays ∧ summary'.memberCount = summary.memberCount ∧
        summary'.leadTimeHours = summary.leadTimeHours ∧
        summary'.batchIndices = summary.batchIndices ∧ summary'.warnings.Perm summary.warnings) ∧
      ∀ (request : FourCastNetHostedInferenceRequest) (latitude longitude : ℚ)
        (generatedAt : Time),
        buildForecastSummaryFromTarBytes content' request latitude longitude generatedAt =
          buildForecastSummaryFromTarBytes content request latitude longitude generatedAt := by
  obtain ⟨decoded, warnings, warnings', hload, hload', hwarnings⟩ :=
    loadTarMembers_of_perm hopen hopen' hperm hnames hread
  constructor
  · obtain ⟨summaries, hsummaries⟩ := exists_summaries hopen hread hload
    obtain ⟨summary, hsummary, rfl, hother⟩ := decodeTarBytes_of_load hload hsummaries
    exact ⟨summary, _, hsummary, hother content' warnings' hload', rfl, rfl, rfl, rfl,
      hwarnings.symm⟩
  · intro request latitude longitude generatedAt
    unfold buildForecastSummaryFromTarBytes
    rw [hload, hload']
    dsimp only [bind, Except.bind]
    rw [hwarnings.length_eq]

end Order

/-! ## An archive -/

namespace SampleArchive

/-- An array for five variables on a grid of one cell. -/
def cell (value : ℚ) : NumpyArray := ⟨[1, 5, 1, 1], "float32", fun _ => some (.finite value)⟩

/-- Two lead times of batch 0, one of which is written twice, a member of batch 1, and a text. -/
def sampleMembers : List TarMember :=
  [⟨"run/006_000.npy", true, some (.ok (cell 3))⟩, ⟨"run/000_000.npy", true, some (.ok (cell 2))⟩,
    ⟨"run/000_001.npy", true, some (.ok (cell 1))⟩,
    ⟨"run/006_000.npy\n", true, some (.ok (cell 4))⟩,
    ⟨"run", false, none⟩, ⟨"run/readme.txt", true, some (.error (.unreadable "no array"))⟩]

/-- An archive of these members, and one in which they are in reverse. -/
scoped instance archiveReader : ArchiveReader :=
  .ofArchives [([1], sampleMembers), ([2], sampleMembers.reverse)]

scoped instance floatRepr : FloatRepr := .ofTexts [(2, "2.0"), (3, "3.0")]

lemma wellRead_sampleMembers : ∀ member ∈ sampleMembers, WellRead member := by
  simp [sampleMembers, WellRead, NumpyArray.Numeric, cell]

lemma nodup_sampleMembers : (sampleMembers.map fun member => baseName member.name).Nodup := by
  decide +kernel

lemma isOk_sample :
    (buildForecastSummaryFromTarBytes [1] {} 0 0 0).isOk = true := by
  decide +kernel

/-- The archive of the example has the timeline of batch 0. -/
theorem timeline_one_batch_sample :
    ∃ decoded warnings batch summary, loadTarMembers [1] = .ok (decoded, warnings) ∧
      buildForecastSummaryFromTarBytes [1] {} 0 0 0 = .ok summary ∧
      ((∃ member ∈ decoded, member.batchIndex = 0) → batch = 0) ∧
      (summary.timeline.map (·.leadTimeHours)).Pairwise (· < ·) := by
  cases hsummary : buildForecastSummaryFromTarBytes [1] {} 0 0 0 with
  | error failure =>
    have hok := isOk_sample
    rw [hsummary] at hok
    cases hok
  | ok summary =>
    obtain ⟨decoded, warnings, batch, hload, hbatch, -, -, hleads, -⟩ := timeline_one_batch hsummary
    exact ⟨decoded, warnings, batch, summary, hload, rfl, hbatch, hleads⟩

/-- In reverse, it gives the same. -/
theorem archiveOrder_irrelevant_sample :
    buildForecastSummaryFromTarBytes [2] {} 0 0 0 =
      buildForecastSummaryFromTarBytes [1] {} 0 0 0 := by
  have hopen : ArchiveReader.getmembers [1] = .ok sampleMembers := rfl
  have hopen' : ArchiveReader.getmembers [2] = .ok sampleMembers.reverse := rfl
  have hperm := (List.reverse_perm sampleMembers).symm
  exact (archiveOrder_irrelevant hopen hopen' hperm nodup_sampleMembers
    wellRead_sampleMembers).2 {} 0 0 0

end SampleArchive

end FourCastNetPostProcessor

end Earth2Sandbox
