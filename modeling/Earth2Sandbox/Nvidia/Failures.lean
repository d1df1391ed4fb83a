import Earth2Sandbox.Nvidia.Sampling
import Earth2Sandbox.Nvidia.Steps

/-!
# What escapes from the post-processor

The post-processor checks the dimensions of an array, its grid, the position of a variable and the
value it has read, and raises its own error for each.  It does not check the axes before that of
the variables: an array with an empty batch or time axis makes it read out of bounds, and the
exception escapes.

`buildForecastSummary_escapes_iff` says that nothing else does.
-/

namespace Earth2Sandbox

namespace FourCastNetPostProcessor

/-- An exception other than the post-processor's own. -/
def Escapes {α : Type} (result : Except DecoderFailure α) : Prop :=
  ∃ message, result = .error (.other message)

section Escapes

variable {α β : Type}

lemma not_escapes_ok (a : α) : ¬ Escapes (.ok a : Except DecoderFailure α) := by
  rintro ⟨message, h⟩
  cases h

/-- Nothing escapes from a computation that returns or raises the post-processor's own error. -/
lemma not_escapes_iff {result : Except DecoderFailure α} :
    ¬ Escapes result ↔
      (∃ a, result = .ok a) ∨ ∃ message, result = .error (.postProcessing message) := by
  cases result with
  | ok a => simp [Escapes]
  | error failure => cases failure <;> simp [Escapes]

lemma escapes_bind {x : Except DecoderFailure α} {f : α → Except DecoderFailure β} :
    Escapes (x >>= f) ↔ Escapes x ∨ ∃ a, x = .ok a ∧ Escapes (f a) := by
  cases x with
  | error failure => simp [Escapes, bind, Except.bind]
  | ok a => simp [Escapes, bind, Except.bind]

lemma escapes_map {x : Except DecoderFailure α} {f : α → β} : Escapes (x.map f) ↔ Escapes x := by
  cases x with
  | error failure => simp [Escapes, Except.map]
  | ok a => simp [Escapes, Except.map]

/-- What escapes from a loop escapes from the first element that fails. -/
lemma escapes_mapM {f : α → Except DecoderFailure β} {xs : List α} :
    Escapes (xs.mapM f) ↔ ∃ before x after, xs = before ++ x :: after ∧
      (∀ y ∈ before, ∃ z, f y = .ok z) ∧ Escapes (f x) := by
  constructor
  · rintro ⟨message, h⟩
    obtain ⟨before, x, after, hsplit, hbefore, hx⟩ := Except.mapM_eq_error.mp h
    exact ⟨before, x, after, hsplit, hbefore, message, hx⟩
  · rintro ⟨before, x, after, hsplit, hbefore, message, hx⟩
    exact ⟨message, Except.mapM_eq_error.mpr ⟨before, x, after, hsplit, hbefore, hx⟩⟩

end Escapes

/-! ## Sampling an array -/

section Sampling

variable {array : NumpyArray} {leading : List ℕ} {slots rows columns : ℕ}
  {latitude longitude : ℚ} {hostedVariables : List HostedFourCastNetVariable}

lemma escapes_readGridValue (hnumeric : array.Numeric) (variableIndex i j : ℕ) :
    Escapes (readGridValue array variableIndex i j) ↔
      variableIndex < variableSlots array ∧
        ¬ array.InBounds (readIndex array variableIndex i j) := by
  have houtcome := readOutcome_readGridValue array variableIndex i j
  generalize readGridValue array variableIndex i j = result at houtcome
  cases houtcome with
  | noSlot message hslot => simp [Escapes, hslot]
  | outOfBounds message hslot hbounds => simp [Escapes, hslot, hbounds]
  | notReal message hslot hbounds helement =>
    have hsome := hnumeric _ hbounds
    rw [helement] at hsome
    cases hsome
  | notFinite message x hslot hbounds helement hvalue => simp [Escapes, hbounds]
  | read value x hslot hbounds helement hvalue => simp [Escapes, hbounds]

/-- Reading succeeds in bounds with a finite value. -/
lemma exists_readGridValue (variableIndex i j : ℕ) :
    (∃ value, readGridValue array variableIndex i j = .ok value) ↔
      variableIndex < variableSlots array ∧
        array.InBounds (readIndex array variableIndex i j) ∧
        ∃ x, array.element (readIndex array variableIndex i j) = some x ∧ x.isFinite = true := by
  have hfinite (x : PyFloat) : x.isFinite = true ↔ ∃ value, finiteValue x = some value := by
    cases x <;> simp [PyFloat.isFinite, finiteValue]
  simp only [hfinite]
  have houtcome := readOutcome_readGridValue array variableIndex i j
  generalize readGridValue array variableIndex i j = result at houtcome
  cases houtcome with
  | noSlot message hslot => simp [hslot]
  | outOfBounds message hslot hbounds => simp [hbounds]
  | notReal message hslot hbounds helement => simp [helement]
  | notFinite message x hslot hbounds helement hvalue => simp [helement, hvalue]
  | read value x hslot hbounds helement hvalue => simp [hslot, hbounds, helement, hvalue]

/-- Reading in a layout. -/
lemma exists_readGridValue_of_layout (layout : array.HasLayout leading slots rows columns)
    (variableIndex i j : ℕ) :
    (∃ value, readGridValue array variableIndex i j = .ok value) ↔
      ((∀ n ∈ leading, 0 < n) ∧ variableIndex < slots ∧ i < rows ∧ j < columns) ∧
        ∃ x, array.element (leading.map (fun _ => 0) ++ [variableIndex, i, j]) = some x ∧
          x.isFinite = true := by
  rw [exists_readGridValue, variableSlots_of_layout layout, inBounds_readIndex_of_layout layout,
    readIndex_of_layout layout]
  exact and_iff_right_of_imp fun h => h.1.2.1

lemma nearestCell_lt (hrows : 0 < rows) (hcolumns : 0 < columns) (latitude longitude : ℚ) :
    (nearestCell rows columns latitude longitude).1.toNat < rows ∧
      (nearestCell rows columns latitude longitude).2.toNat < columns := by
  unfold nearestCell
  dsimp only
  omega

variable [ArchiveReader]

/-- An array of which every required variable can be read at a location: no axis before that of the
variables is empty, the grid is not, the variables have slots and the values are finite. -/
def Samplable (array : NumpyArray) (hostedVariables : List HostedFourCastNetVariable)
    (latitude longitude : ℚ) : Prop :=
  ∃ leading slots rows columns, array.HasLayout leading slots rows columns ∧
    (∀ n ∈ leading, 0 < n) ∧ 0 < rows ∧ 0 < columns ∧
    ∀ hostedVariable ∈ requiredPointVariables, hostedVariables.idxOf hostedVariable < slots ∧
      ∃ x, array.element (leading.map (fun _ => 0) ++ [hostedVariables.idxOf hostedVariable,
          (nearestCell rows columns latitude longitude).1.toNat,
          (nearestCell rows columns latitude longitude).2.toNat]) = some x ∧
        x.isFinite = true

/-- An array with a grid but an empty axis before that of the variables, in which there is a slot
for the variable that is read first. -/
def EmptyLeading (array : NumpyArray) (hostedVariables : List HostedFourCastNetVariable) : Prop :=
  ∃ leading slots rows columns, array.HasLayout leading slots rows columns ∧
    0 ∈ leading ∧ 0 < rows ∧ 0 < columns ∧
    ∀ first ∈ (ArchiveReader.setOrder requiredPointVariables).head?,
      hostedVariables.idxOf first < slots

/-- What is read of an array. -/
lemma sampleMemberValues_of_layout (layout : array.HasLayout leading slots rows columns)
    (hrows : 0 < rows) (hcolumns : 0 < columns) :
    sampleMemberValues array hostedVariables latitude longitude =
      ((ArchiveReader.setOrder requiredPointVariables).mapM fun hostedVariable =>
        (readGridValue array (hostedVariables.idxOf hostedVariable)
          (nearestCell rows columns latitude longitude).1.toNat
          (nearestCell rows columns latitude longitude).2.toNat).map fun value =>
            (hostedVariable, value)) >>= fun values => 
        .ok (SampledValues.ofValues values) := by
  have hndim : ¬ (array.ndim ≠ 4 ∧ array.ndim ≠ 5) := by
    have h := layout.ndim
    omega
  have hgrid : ¬ (rows = 0 ∨ columns = 0) := by omega
  rw [sampleMemberValues, if_neg hndim, gridIndices_of_layout layout, if_neg hgrid]
  rfl

/-- Without a layout or a grid, the post-processor raises its own error. -/
lemma sampleMemberValues_cases (array : NumpyArray)
    (hostedVariables : List HostedFourCastNetVariable) (latitude longitude : ℚ) :
    (∃ message, sampleMemberValues array hostedVariables latitude longitude =
      .error (.postProcessing message)) ∨
    ∃ leading slots rows columns, array.HasLayout leading slots rows columns ∧
      0 < rows ∧ 0 < columns := by
  by_cases hndim : array.ndim ≠ 4 ∧ array.ndim ≠ 5
  · left
    rw [sampleMemberValues, if_pos hndim]
    exact ⟨_, rfl⟩
  · obtain ⟨leading, slots, rows, columns, layout⟩ :=
      NumpyArray.exists_hasLayout (show array.ndim = 4 ∨ array.ndim = 5 by omega)
    by_cases hgrid : rows = 0 ∨ columns = 0
    · left
      rw [sampleMemberValues, if_neg hndim, gridIndices_of_layout layout, if_pos hgrid]
      exact ⟨_, rfl⟩
    · exact .inr ⟨leading, slots, rows, columns, layout, by omega, by omega⟩

lemma exists_sampleMemberValues :
    (∃ values, sampleMemberValues array hostedVariables latitude longitude = .ok values) ↔
      Samplable array hostedVariables latitude longitude := by
  have hvisited (hostedVariable : HostedFourCastNetVariable) :=
    (ArchiveReader.setOrder_perm requiredPointVariables).mem_iff (a := hostedVariable)
  constructor
  · rintro ⟨values, hvalues⟩
    rcases sampleMemberValues_cases array hostedVariables latitude longitude with
      ⟨message, herror⟩ | ⟨leading, slots, rows, columns, layout, hrows, hcolumns⟩
    · rw [herror] at hvalues
      cases hvalues
    · rw [sampleMemberValues_of_layout layout hrows hcolumns] at hvalues
      obtain ⟨entries, hentries, -⟩ := Except.bind_eq_ok.mp hvalues
      have hread : ∀ hostedVariable ∈ requiredPointVariables,
          ∃ value, readGridValue array (hostedVariables.idxOf hostedVariable)
            (nearestCell rows columns latitude longitude).1.toNat
            (nearestCell rows columns latitude longitude).2.toNat = .ok value := by
        intro hostedVariable hmem
        obtain ⟨entry, hentry⟩ := Except.exists_mapM_eq_ok.mp ⟨entries, hentries⟩ hostedVariable
          ((hvisited hostedVariable).mpr hmem)
        obtain ⟨value, hvalue, -⟩ := Except.map_eq_ok.mp hentry
        exact ⟨value, hvalue⟩
      have hspec (hostedVariable : HostedFourCastNetVariable)
          (hmem : hostedVariable ∈ requiredPointVariables) :=
        (exists_readGridValue_of_layout layout _ _ _).mp (hread hostedVariable hmem)
      exact ⟨leading, slots, rows, columns, layout, (hspec .w10m (by decide)).1.1, hrows, hcolumns,
        fun hostedVariable hmem => ⟨(hspec hostedVariable hmem).1.2.1,
          (hspec hostedVariable hmem).2⟩⟩
  · rintro ⟨leading, slots, rows, columns, layout, hleading, hrows, hcolumns, hread⟩
    rw [sampleMemberValues_of_layout layout hrows hcolumns]
    refine (Except.exists_mapM_eq_ok.mpr fun hostedVariable hmem => ?_).elim
      fun entries hentries => ⟨_, Except.bind_eq_ok.mpr ⟨entries, hentries, rfl⟩⟩
    obtain ⟨hslot, hfinite⟩ := hread hostedVariable ((hvisited hostedVariable).mp hmem)
    have hcell := nearestCell_lt hrows hcolumns latitude longitude
    obtain ⟨value, hvalue⟩ := (exists_readGridValue_of_layout layout _ _ _).mpr
      ⟨⟨hleading, hslot, hcell⟩, hfinite⟩
    exact ⟨_, Except.map_eq_ok.mpr ⟨value, hvalue, rfl⟩⟩

/-- Sampling escapes from an array with an empty leading axis. -/
lemma escapes_sampleMemberValues (hnumeric : array.Numeric) :
    Escapes (sampleMemberValues array hostedVariables latitude longitude) ↔
      EmptyLeading array hostedVariables := by
  have hescapes {leading : List ℕ} {slots rows columns : ℕ}
      (layout : array.HasLayout leading slots rows columns) (hrows : 0 < rows)
      (hcolumns : 0 < columns) (variableIndex : ℕ) :
      Escapes (readGridValue array variableIndex
          (nearestCell rows columns latitude longitude).1.toNat
          (nearestCell rows columns latitude longitude).2.toNat) ↔
        variableIndex < slots ∧ 0 ∈ leading := by
    have hcell := nearestCell_lt hrows hcolumns latitude longitude
    have hpositive : (∀ n ∈ leading, 0 < n) ↔ 0 ∉ leading := by
      simp only [Nat.pos_iff_ne_zero, ne_eq]
      exact ⟨fun h hzero => h 0 hzero rfl, fun h n hn hzero => h (hzero ▸ hn)⟩
    rw [escapes_readGridValue hnumeric, variableSlots_of_layout layout,
      inBounds_readIndex_of_layout layout, hpositive]
    refine and_congr_right fun hslot => ?_
    rw [not_and_or, not_not]
    exact or_iff_left fun h => h ⟨hslot, hcell⟩
  constructor
  · intro hsample
    rcases sampleMemberValues_cases array hostedVariables latitude longitude with
      ⟨message, herror⟩ | ⟨leading, slots, rows, columns, layout, hrows, hcolumns⟩
    · obtain ⟨message', hother⟩ := hsample
      rw [herror] at hother
      cases hother
    · rw [sampleMemberValues_of_layout layout hrows hcolumns, escapes_bind, escapes_mapM] at hsample
      rcases hsample with ⟨before, first, after, horder, hbefore, hfirst⟩ | ⟨_, _, hok⟩
      · obtain ⟨hslot, hzero⟩ := (hescapes layout hrows hcolumns _).mp (escapes_map.mp hfirst)
        refine ⟨leading, slots, rows, columns, layout, hzero, hrows, hcolumns, ?_⟩
        cases before with
        | nil =>
          rw [horder]
          rintro _ ⟨⟩
          exact hslot
        | cons earlier before =>
          -- nothing can be read before the variable that escapes
          obtain ⟨_, hearlier⟩ := hbefore earlier List.mem_cons_self
          obtain ⟨value, hvalue, -⟩ := Except.map_eq_ok.mp hearlier
          have hpositive :=
            ((exists_readGridValue_of_layout layout _ _ _).mp ⟨value, hvalue⟩).1.1 0 hzero
          exact absurd hpositive (lt_irrefl 0)
      · exact absurd hok (not_escapes_ok _)
  · rintro ⟨leading, slots, rows, columns, layout, hzero, hrows, hcolumns, hfirst⟩
    rw [sampleMemberValues_of_layout layout hrows hcolumns, escapes_bind, escapes_mapM]
    left
    cases horder : ArchiveReader.setOrder requiredPointVariables with
    | nil =>
      have hlength := (ArchiveReader.setOrder_perm requiredPointVariables).length_eq
      rw [horder] at hlength
      cases hlength
    | cons first after =>
      rw [horder] at hfirst
      exact ⟨[], first, after, rfl, by simp, escapes_map.mpr
        ((hescapes layout hrows hcolumns _).mpr ⟨hfirst first rfl, hzero⟩)⟩

end Sampling

/-! ## Building a summary -/

section Summary

variable [FloatRepr] [ArchiveReader] {content : Bytes} {members : List TarMember}
  {request : FourCastNetHostedInferenceRequest} {member : DecodedNumpyMember}
  {hostedVariables : List HostedFourCastNetVariable} {latitude longitude : ℚ}
  {generatedAt : Time} {warningCount : ℕ}

lemma exists_buildTimelineStep :
    (∃ step, buildTimelineStep member hostedVariables latitude longitude generatedAt
        warningCount = .ok step) ↔
      Samplable member.array hostedVariables latitude longitude := by
  rw [buildTimelineStep_eq, ← exists_sampleMemberValues]
  constructor
  · rintro ⟨step, hstep⟩
    obtain ⟨values, hvalues, -⟩ := Except.bind_eq_ok.mp hstep
    exact ⟨values, hvalues⟩
  · rintro ⟨values, hvalues⟩
    exact ⟨_, Except.bind_eq_ok.mpr ⟨values, hvalues, rfl⟩⟩

lemma escapes_buildTimelineStep (hnumeric : member.array.Numeric) :
    Escapes (buildTimelineStep member hostedVariables latitude longitude generatedAt
        warningCount) ↔
      EmptyLeading member.array hostedVariables := by
  rw [buildTimelineStep_eq, escapes_bind, escapes_sampleMemberValues hnumeric]
  exact or_iff_left fun ⟨_, _, hok⟩ => not_escapes_ok _ hok

lemma isInstance_of_buildTimelineStep {step : ForecastTimelineStep}
    (h : buildTimelineStep member hostedVariables latitude longitude generatedAt warningCount =
      .ok step) : step.isInstance = true := by
  rw [buildTimelineStep_eq] at h
  obtain ⟨values, -, hstep⟩ := Except.bind_eq_ok.mp h
  cases hstep
  exact isInstance_timelineStepOf _ _ _ _

lemma isInstance_of_forall₂ {selected : List DecodedNumpyMember} {steps : List ForecastTimelineStep}
    (h : List.Forall₂ (fun member step => buildTimelineStep member hostedVariables latitude
      longitude generatedAt warningCount = .ok step) selected steps) :
    ∀ step ∈ steps, step.isInstance = true := by
  induction h with
  | nil => simp
  | cons hstep _ ih => exact List.forall_mem_cons.mpr ⟨isInstance_of_buildTimelineStep hstep, ih⟩

omit [ArchiveReader] in
lemma isInstance_summaryOf (hlatitude : -90 ≤ latitude ∧ latitude ≤ 90)
    (hlongitude : -180 ≤ longitude ∧ longitude ≤ 180) {first : ForecastTimelineStep}
    {rest : List ForecastTimelineStep} (hsteps : ∀ step ∈ first :: rest, step.isInstance = true) :
    (summaryOf first rest latitude longitude generatedAt).isInstance = true := by
  have hsouth : (-90 : PyFloat) = .finite (-90) := by decide +kernel
  have hwest : (-180 : PyFloat) = .finite (-180) := by decide +kernel
  simp only [ForecastSummary.isInstance, summaryOf, Bool.and_eq_true, List.all_eq_true, hsouth,
    hwest]
  exact ⟨⟨between_finite.mpr hlatitude, between_finite.mpr hlongitude⟩, hsteps⟩

/-- The members that the timeline of an archive is made of: those of the selected batch, one for
each lead time, in the order of the lead times. -/
def timelineMembers (members : List TarMember) : List DecodedNumpyMember :=
  selectBatchMembers (((members.filter (·.isFile)).filterMap decodedOf).insertionSort
    fun a b => sortKey a ≤ sortKey b)

omit [FloatRepr] in
lemma numeric_of_timelineMembers (hread : ∀ member ∈ members, WellRead member) :
    ∀ member ∈ timelineMembers members, member.array.Numeric := by
  intro member hmember
  have hdecoded := (of_mem_selectBatchMembers hmember).1
  rw [List.mem_insertionSort] at hdecoded
  obtain ⟨tarMember, htarMember, hdecode, -⟩ := mem_decodedOf hdecoded
  exact numeric_of_decodedOf (hread tarMember htarMember) hdecode

/-- What escapes from a summary escapes from the loop over the timeline. -/
lemma escapes_buildForecastSummary (hopen : ArchiveReader.getmembers content = .ok members)
    (hread : ∀ member ∈ members, WellRead member) (hlatitude : -90 ≤ latitude ∧ latitude ≤ 90)
    (hlongitude : -180 ≤ longitude ∧ longitude ≤ 180)
    (hrequired : ∀ hostedVariable ∈ requiredPointVariables,
      hostedVariable ∈ request.hostedVariables) :
    Escapes (buildForecastSummaryFromTarBytes content request latitude longitude generatedAt) ↔
      Escapes ((timelineMembers members).mapM fun member =>
        buildTimelineStep member request.hostedVariables latitude longitude generatedAt
          ((members.filter (·.isFile)).filterMap warningOf).length) := by
  have hmissing : ¬ requiredPointVariables.filter (· ∉ request.hostedVariables) ≠ [] := by
    simpa [List.filter_eq_nil_iff] using hrequired
  have hload := loadTarMembers_eq hopen (wellRead_files hread)
  unfold buildForecastSummaryFromTarBytes
  dsimp only
  rw [if_neg hmissing, hload]
  simp only [escapes_bind, not_escapes_ok, false_or, Except.ok.injEq, exists_eq_left']
  unfold timelineMembers
  cases selectBatchMembers _ with
  | nil =>
    refine iff_of_false ?_ (not_escapes_ok _)
    rintro ⟨message, h⟩
    cases h
  | cons first rest =>
    rw [List.mapM_cons]
    simp only [escapes_bind]
    refine or_congr_right (exists_congr fun firstStep => and_congr_right fun hfirst =>
      or_congr_right (exists_congr fun steps => and_congr_right fun hsteps => ?_))
    have hvalid : ∀ step ∈ firstStep :: steps, step.isInstance = true :=
      List.forall_mem_cons.mpr ⟨isInstance_of_buildTimelineStep hfirst,
        isInstance_of_forall₂ (Except.mapM_eq_ok.mp hsteps)⟩
    rw [if_pos (isInstance_summaryOf hlatitude hlongitude hvalid)]
    exact iff_of_false (not_escapes_ok _) (not_escapes_ok _)

/-- **What escapes.**  For members that are read well and a location in range, a summary is returned
or the post-processor's own error is raised, unless the first member of the timeline that cannot
be sampled has an empty batch or time axis. -/
theorem ownError_iff (hopen : ArchiveReader.getmembers content = .ok members)
    (hread : ∀ member ∈ members, WellRead member) (hlatitude : -90 ≤ latitude ∧ latitude ≤ 90)
    (hlongitude : -180 ≤ longitude ∧ longitude ≤ 180) :
    ((∃ summary, buildForecastSummaryFromTarBytes content request latitude longitude
        generatedAt = .ok summary) ∨
      ∃ message, buildForecastSummaryFromTarBytes content request latitude longitude
        generatedAt = .error (.postProcessing message)) ↔
      ¬ ((∀ hostedVariable ∈ requiredPointVariables,
          hostedVariable ∈ request.hostedVariables) ∧
        ∃ before member after, timelineMembers members = before ++ member :: after ∧
          (∀ earlier ∈ before,
            Samplable earlier.array request.hostedVariables latitude longitude) ∧
          EmptyLeading member.array request.hostedVariables) := by
  rw [← not_escapes_iff, not_iff_not]
  by_cases hrequired : ∀ hostedVariable ∈ requiredPointVariables,
      hostedVariable ∈ request.hostedVariables
  · rw [escapes_buildForecastSummary hopen hread hlatitude hlongitude hrequired, escapes_mapM,
      and_iff_right hrequired]
    refine exists_congr fun before => exists_congr fun member => exists_congr fun after =>
      and_congr_right fun hsplit => ?_
    have hmember : member ∈ timelineMembers members := by simp [hsplit]
    rw [escapes_buildTimelineStep (numeric_of_timelineMembers hread member hmember)]
    simp only [exists_buildTimelineStep]
  · have hmissing : requiredPointVariables.filter (· ∉ request.hostedVariables) ≠ [] := by
      simpa [List.filter_eq_nil_iff] using hrequired
    refine iff_of_false ?_ fun h => hrequired h.1
    rintro ⟨message, h⟩
    unfold buildForecastSummaryFromTarBytes at h
    dsimp only at h
    rw [if_pos hmissing] at h
    cases h

end Summary

/-! ## An array without batches -/

namespace SampleFailure

/-- Grids for five variables, but no batch. -/
def emptyBatch : NumpyArray := ⟨[0, 5, 2, 2], "float32", fun _ => some (.finite 1)⟩

def sampleMembers : List TarMember := [⟨"000_000.npy", true, some (.ok emptyBatch)⟩]

scoped instance archiveReader : ArchiveReader := .ofArchives [([0], sampleMembers)]

scoped instance floatRepr : FloatRepr := .ofTexts []

lemma wellRead_sampleMembers : ∀ member ∈ sampleMembers, WellRead member := by
  simp [sampleMembers, WellRead, NumpyArray.Numeric, emptyBatch]

/-- The exception of reading the array escapes. -/
theorem ownError_fails :
    ¬ ((∃ summary, buildForecastSummaryFromTarBytes [0] {} 0 0 0 = .ok summary) ∨
      ∃ message, buildForecastSummaryFromTarBytes [0] {} 0 0 0 =
        .error (.postProcessing message)) := by
  have hescapes : Escapes (buildForecastSummaryFromTarBytes [0] {} 0 0 0) :=
    ⟨"index is out of bounds", by rfl⟩
  exact fun h => not_escapes_iff.mpr h hescapes

/-- The array is the first of the timeline, and has an empty batch axis. -/
theorem ownError_iff_sample :
    ((∃ summary, buildForecastSummaryFromTarBytes [0] {} 0 0 0 = .ok summary) ∨
      ∃ message, buildForecastSummaryFromTarBytes [0] {} 0 0 0 =
        .error (.postProcessing message)) ↔
      ¬ ((∀ hostedVariable ∈ requiredPointVariables,
          hostedVariable ∈ ({} : FourCastNetHostedInferenceRequest).hostedVariables) ∧
        ∃ before member after, timelineMembers sampleMembers = before ++ member :: after ∧
          (∀ earlier ∈ before,
            Samplable earlier.array ({} : FourCastNetHostedInferenceRequest).hostedVariables 0 0) ∧
          EmptyLeading member.array ({} : FourCastNetHostedInferenceRequest).hostedVariables) := by
  have hopen : ArchiveReader.getmembers [0] = .ok sampleMembers := rfl
  exact ownError_iff hopen wellRead_sampleMembers (by norm_num) (by norm_num)

end SampleFailure

end FourCastNetPostProcessor

end Earth2Sandbox
