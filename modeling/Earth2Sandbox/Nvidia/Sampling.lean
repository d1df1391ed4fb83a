import Earth2Sandbox.Nvidia.Members
import Mathlib.Data.List.OfFn
import Mathlib.Logic.Equiv.Defs

/-!
# Sampling by name

What is read of an array depends on the names of the variables and not on the layout of the array.
Whether a computation succeeds, and with what, is `Except.toOption`: two archives are alike when
they give the same summary or when both fail.

`sampling_by_name` covers two changes of the layout: the variables are rearranged in the request and
in every array (`permuteVariables`), and the time axis of an array with five axes is dropped
(`dropTime`).
-/

namespace Earth2Sandbox

/-! ## Success -/

section Success

variable {ε α β : Type}

@[simp] lemma Except.toOption_ok (a : α) : (Except.ok a : Except ε α).toOption = some a := rfl

@[simp] lemma Except.toOption_error (e : ε) : (Except.error e : Except ε α).toOption = none := rfl

@[simp] lemma Except.toOption_bind (x : Except ε α) (f : α → Except ε β) :
    (x >>= f).toOption = x.toOption >>= fun a => (f a).toOption := by
  cases x <;> rfl

@[simp] lemma Except.toOption_map (x : Except ε α) (f : α → β) :
    (x.map f).toOption = x.toOption.map f := by
  cases x <;> rfl

lemma Except.toOption_mapM_congr {f g : α → Except ε β} {xs : List α}
    (h : ∀ x ∈ xs, (f x).toOption = (g x).toOption) :
    (xs.mapM f).toOption = (xs.mapM g).toOption := by
  induction xs with
  | nil => rfl
  | cons x xs ih =>
    obtain ⟨hx, hxs⟩ := List.forall_mem_cons.mp h
    simp only [List.mapM_cons, Except.toOption_bind, hx, ih hxs]

end Success

/-! ## Layouts -/

namespace NumpyArray

/-- `numpy.take(array, positions, axis)`. -/
def take (array : NumpyArray) (axis : ℕ) (positions : List ℕ) : NumpyArray where
  shape := array.shape.set axis positions.length
  dtype := array.dtype
  element index := array.element (index.modify axis fun position => positions.getD position 0)

/-- The variables of an array with four or five axes, in another order. -/
def permuteVariables {n : ℕ} (σ : Equiv.Perm (Fin n)) (array : NumpyArray) : NumpyArray :=
  let positions := List.ofFn fun position => (σ position : ℕ)
  if array.ndim = 4 then array.take 1 positions
  else if array.ndim = 5 then array.take 2 positions
  else array

/-- The variable axis has `n` slots. -/
def VariableSlots (n : ℕ) (array : NumpyArray) : Prop :=
  (array.ndim = 4 → array.shape.getD 1 0 = n) ∧ (array.ndim = 5 → array.shape.getD 2 0 = n)

/-- `array[:, 0]` of an array with five axes whose batch and time axes are not empty. -/
def dropTime (array : NumpyArray) : NumpyArray :=
  if array.ndim = 5 ∧ 0 < array.shape.getD 0 0 ∧ 0 < array.shape.getD 1 0 then
    { shape := array.shape.eraseIdx 1
      dtype := array.dtype
      element := fun index => array.element (index.insertIdx 1 0) }
  else array

/-- The array has four or five axes: batch, time if there are five, variable, row, column. -/
structure HasLayout (array : NumpyArray) (leading : List ℕ) (slots rows columns : ℕ) : Prop where
  shape : array.shape = leading ++ [slots, rows, columns]
  axes : leading.length = 1 ∨ leading.length = 2

lemma exists_hasLayout {array : NumpyArray} (h : array.ndim = 4 ∨ array.ndim = 5) :
    ∃ leading slots rows columns, array.HasLayout leading slots rows columns := by
  obtain ⟨shape, dtype, element⟩ := array
  rcases h with h | h
  · obtain ⟨batches, slots, rows, columns, rfl⟩ := List.length_eq_four.mp h
    exact ⟨[batches], slots, rows, columns, rfl, .inl rfl⟩
  · obtain ⟨batches, rest, rfl⟩ := List.exists_cons_of_length_eq_add_one h
    obtain ⟨times, slots, rows, columns, rfl⟩ := List.length_eq_four.mp (Nat.succ.inj h)
    exact ⟨[batches, times], slots, rows, columns, rfl, .inr rfl⟩

namespace HasLayout

variable {array : NumpyArray} {leading : List ℕ} {slots rows columns : ℕ}
  (layout : array.HasLayout leading slots rows columns)
include layout

lemma ndim_eq : array.ndim = leading.length + 3 := by
  rw [ndim, layout.shape, List.length_append]
  rfl

lemma ndim : array.ndim = 4 ∨ array.ndim = 5 := by
  have hndim := layout.ndim_eq
  have haxes := layout.axes
  omega

end HasLayout

end NumpyArray

namespace FourCastNetPostProcessor

/-! ## Reading a value -/

section Reading

variable {array array' : NumpyArray} {latitude longitude : ℚ}

/-- The number that is read, unless it is not finite. -/
def finiteValue : PyFloat → Option ℚ
  | .finite value => some value
  | .negZero => some 0
  | _ => none

/-- The axis that `readGridValue` takes for that of the variables. -/
def variableSlots (array : NumpyArray) : ℕ :=
  array.shape.getD (if array.ndim = 4 then 1 else 2) 0

/-- The index that is read. -/
def readIndex (array : NumpyArray) (variableIndex i j : ℕ) : List ℕ :=
  if array.ndim = 4 then [0, variableIndex, i, j] else [0, 0, variableIndex, i, j]

section Layout

variable {leading : List ℕ} {slots rows columns : ℕ}
  (layout : array.HasLayout leading slots rows columns)
include layout

lemma variableSlots_of_layout : variableSlots array = slots := by
  unfold variableSlots
  rw [layout.ndim_eq, layout.shape]
  rcases layout.axes with h | h
  · obtain ⟨batches, rfl⟩ := List.length_eq_one_iff.mp h
    rfl
  · obtain ⟨batches, times, rfl⟩ := List.length_eq_two.mp h
    rfl

/-- The first of every leading axis is read. -/
lemma readIndex_of_layout (variableIndex i j : ℕ) :
    readIndex array variableIndex i j = leading.map (fun _ => 0) ++ [variableIndex, i, j] := by
  unfold readIndex
  rw [layout.ndim_eq]
  rcases layout.axes with h | h
  · obtain ⟨batches, rfl⟩ := List.length_eq_one_iff.mp h
    rfl
  · obtain ⟨batches, times, rfl⟩ := List.length_eq_two.mp h
    rfl

lemma inBounds_readIndex_of_layout {variableIndex i j : ℕ} :
    array.InBounds (readIndex array variableIndex i j) ↔
      (∀ n ∈ leading, 0 < n) ∧ variableIndex < slots ∧ i < rows ∧ j < columns := by
  rw [readIndex_of_layout layout, NumpyArray.InBounds, layout.shape]
  rcases layout.axes with h | h
  · obtain ⟨batches, rfl⟩ := List.length_eq_one_iff.mp h
    simp
  · obtain ⟨batches, times, rfl⟩ := List.length_eq_two.mp h
    simp [and_assoc]

lemma gridIndices_of_layout :
    gridIndices array latitude longitude =
      if rows = 0 ∨ columns = 0 then
        .error (.postProcessing ("Invalid grid shape " ++ tupleText array.shape ++ "."))
      else .ok (nearestCell rows columns latitude longitude) := by
  have hreverse : array.shape.reverse = columns :: rows :: slots :: leading.reverse := by
    rw [layout.shape, List.reverse_append]
    rfl
  unfold gridIndices
  rw [hreverse]

lemma toOption_gridIndices_of_layout :
    (gridIndices array latitude longitude).toOption =
      if rows = 0 ∨ columns = 0 then none
      else some (nearestCell rows columns latitude longitude) := by
  rw [gridIndices_of_layout layout]
  split <;> rfl

end Layout

/-- What reading a value can come to. -/
inductive ReadOutcome (array : NumpyArray) (variableIndex i j : ℕ) :
    Except DecoderFailure ℚ → Prop
  | noSlot (message : String) (hslot : ¬ variableIndex < variableSlots array) :
      ReadOutcome array variableIndex i j (.error (.postProcessing message))
  | outOfBounds (message : String) (hslot : variableIndex < variableSlots array)
      (hbounds : ¬ array.InBounds (readIndex array variableIndex i j)) :
      ReadOutcome array variableIndex i j (.error (.other message))
  | notReal (message : String) (hslot : variableIndex < variableSlots array)
      (hbounds : array.InBounds (readIndex array variableIndex i j))
      (helement : array.element (readIndex array variableIndex i j) = none) :
      ReadOutcome array variableIndex i j (.error (.other message))
  | notFinite (message : String) (x : PyFloat) (hslot : variableIndex < variableSlots array)
      (hbounds : array.InBounds (readIndex array variableIndex i j))
      (helement : array.element (readIndex array variableIndex i j) = some x)
      (hvalue : finiteValue x = none) :
      ReadOutcome array variableIndex i j (.error (.postProcessing message))
  | read (value : ℚ) (x : PyFloat) (hslot : variableIndex < variableSlots array)
      (hbounds : array.InBounds (readIndex array variableIndex i j))
      (helement : array.element (readIndex array variableIndex i j) = some x)
      (hvalue : finiteValue x = some value) :
      ReadOutcome array variableIndex i j (.ok value)

lemma readOutcome_readGridValue (array : NumpyArray) (variableIndex i j : ℕ) :
    ReadOutcome array variableIndex i j (readGridValue array variableIndex i j) := by
  have hindex : (if array.ndim = 4 then [0, variableIndex, i, j] else [0, 0, variableIndex, i, j]) =
      readIndex array variableIndex i j := rfl
  have hslots : array.shape.getD (if array.ndim = 4 then 1 else 2) 0 = variableSlots array := rfl
  unfold readGridValue
  dsimp only
  rw [hindex, hslots]
  split
  · next hslot => exact .noSlot _ (not_lt.mpr hslot)
  · next hslot =>
    split
    · next hbounds => exact .outOfBounds _ (not_le.mp hslot) hbounds
    · next hbounds =>
      cases helement : array.element (readIndex array variableIndex i j) with
      | none => exact .notReal _ (not_le.mp hslot) (not_not.mp hbounds) helement
      | some x =>
        cases x with
        | finite value => exact .read _ _ (not_le.mp hslot) (not_not.mp hbounds) helement rfl
        | negZero => exact .read _ _ (not_le.mp hslot) (not_not.mp hbounds) helement rfl
        | nan | posInf | negInf =>
          exact .notFinite _ _ (not_le.mp hslot) (not_not.mp hbounds) helement rfl

/-- Reading succeeds at an index in bounds with a finite value. -/
lemma toOption_readGridValue (variableIndex i j : ℕ) :
    (readGridValue array variableIndex i j).toOption =
      if variableIndex < variableSlots array ∧ array.InBounds (readIndex array variableIndex i j)
      then (array.element (readIndex array variableIndex i j)).bind finiteValue
      else none := by
  cases hread : readGridValue array variableIndex i j with
  | error failure =>
    have houtcome := readOutcome_readGridValue array variableIndex i j
    rw [hread] at houtcome
    cases houtcome <;> simp [*]
  | ok value =>
    have houtcome := readOutcome_readGridValue array variableIndex i j
    rw [hread] at houtcome
    cases houtcome
    simp [*]

/-- Two arrays are read alike where the axes, the bounds and the elements agree. -/
lemma toOption_readGridValue_congr {variableIndex variableIndex' i j : ℕ}
    (hslots : variableIndex < variableSlots array ↔ variableIndex' < variableSlots array')
    (hbounds : array.InBounds (readIndex array variableIndex i j) ↔
      array'.InBounds (readIndex array' variableIndex' i j))
    (helement : array.element (readIndex array variableIndex i j) =
      array'.element (readIndex array' variableIndex' i j)) :
    (readGridValue array variableIndex i j).toOption =
      (readGridValue array' variableIndex' i j).toOption := by
  rw [toOption_readGridValue, toOption_readGridValue, helement, if_congr (and_congr hslots hbounds)
    rfl rfl]

/-- Sampling depends on the grid and on what is read of it. -/
lemma toOption_sampleMemberValues_congr [ArchiveReader]
    {hostedVariables hostedVariables' : List HostedFourCastNetVariable}
    (hndim : (array.ndim ≠ 4 ∧ array.ndim ≠ 5) ↔ (array'.ndim ≠ 4 ∧ array'.ndim ≠ 5))
    (hgrid : (gridIndices array latitude longitude).toOption =
      (gridIndices array' latitude longitude).toOption)
    (hread : ∀ hostedVariable ∈ requiredPointVariables, ∀ i j,
      (readGridValue array (hostedVariables.idxOf hostedVariable) i j).toOption =
        (readGridValue array' (hostedVariables'.idxOf hostedVariable) i j).toOption) :
    (sampleMemberValues array hostedVariables latitude longitude).toOption =
      (sampleMemberValues array' hostedVariables' latitude longitude).toOption := by
  unfold sampleMemberValues
  by_cases h : array.ndim ≠ 4 ∧ array.ndim ≠ 5
  · rw [if_pos h, if_pos (hndim.mp h)]
    rfl
  · rw [if_neg h, if_neg fun h' => h (hndim.mpr h')]
    simp only [Except.toOption_bind, hgrid]
    refine Option.bind_congr fun ⟨i, j⟩ _ => ?_
    congr 1
    refine Except.toOption_mapM_congr fun hostedVariable hmem => ?_
    have hrequired := (ArchiveReader.setOrder_perm requiredPointVariables).mem_iff.mp hmem
    rw [Except.toOption_map, Except.toOption_map, hread hostedVariable hrequired]

end Reading

/-! ## The order of the variables -/

section Permutation

variable {n : ℕ} {σ : Equiv.Perm (Fin n)} {array : NumpyArray} {latitude longitude : ℚ}

lemma slots_eq_of_layout {leading : List ℕ} {slots rows columns : ℕ}
    (layout : array.HasLayout leading slots rows columns) (hslots : array.VariableSlots n) :
    slots = n := by
  have hcount := variableSlots_of_layout layout
  unfold variableSlots at hcount
  rcases layout.ndim with h | h
  · rw [if_pos h, hslots.1 h] at hcount
    exact hcount.symm
  · rw [if_neg (by omega), hslots.2 h] at hcount
    exact hcount.symm

lemma permuteVariables_eq (hndim : array.ndim = 4 ∨ array.ndim = 5) :
    array.permuteVariables σ = array.take (if array.ndim = 4 then 1 else 2)
      (List.ofFn fun position => (σ position : ℕ)) := by
  unfold NumpyArray.permuteVariables
  rcases hndim with h | h
  · simp [h]
  · simp [h]

lemma shape_permuteVariables {leading : List ℕ} {rows columns : ℕ}
    (layout : array.HasLayout leading n rows columns) :
    (array.permuteVariables σ).shape = array.shape := by
  rw [permuteVariables_eq layout.ndim, NumpyArray.take, List.length_ofFn, layout.ndim_eq]
  dsimp only
  rw [layout.shape]
  rcases layout.axes with h | h
  · obtain ⟨batches, rfl⟩ := List.length_eq_one_iff.mp h
    rfl
  · obtain ⟨batches, times, rfl⟩ := List.length_eq_two.mp h
    rfl

lemma element_permuteVariables (hndim : array.ndim = 4 ∨ array.ndim = 5) (k : Fin n) (i j : ℕ) :
    (array.permuteVariables σ).element (readIndex array k i j) =
      array.element (readIndex array (σ k) i j) := by
  rw [permuteVariables_eq hndim, NumpyArray.take]
  dsimp only
  congr 1
  unfold readIndex
  split
  · simp
  · simp

lemma idxOf_permuted {hostedVariables : List HostedFourCastNetVariable}
    (hnodup : hostedVariables.Nodup) (σ : Equiv.Perm (Fin hostedVariables.length))
    {hostedVariable : HostedFourCastNetVariable} (hmem : hostedVariable ∈ hostedVariables) :
    ∃ k : Fin hostedVariables.length, hostedVariables.idxOf hostedVariable = σ k ∧
      (List.ofFn fun k => hostedVariables.get (σ k)).idxOf hostedVariable = k := by
  have hindex := List.idxOf_lt_length_of_mem hmem
  let k := σ.symm ⟨hostedVariables.idxOf hostedVariable, hindex⟩
  refine ⟨k, by simp [k], ?_⟩
  have hinj : Function.Injective fun k => hostedVariables.get (σ k) :=
    (List.nodup_iff_injective_get.mp hnodup).comp σ.injective
  set permuted := List.ofFn fun k => hostedVariables.get (σ k) with hpermuted
  have hlength : (k : ℕ) < permuted.length := by simp [hpermuted]
  have hk : permuted[(k : ℕ)] = hostedVariable := by simp [hpermuted, k]
  rw [← hk]
  exact (List.nodup_ofFn.mpr hinj).idxOf_getElem k hlength

/-- **Rearranged variables.**  What is sampled of an array stays when the variables of the request
and of the array are rearranged alike. -/
lemma toOption_sampleMemberValues_permute [ArchiveReader]
    {hostedVariables : List HostedFourCastNetVariable} (hnodup : hostedVariables.Nodup)
    (hrequired : ∀ hostedVariable ∈ requiredPointVariables, hostedVariable ∈ hostedVariables)
    (σ : Equiv.Perm (Fin hostedVariables.length))
    (hslots : array.VariableSlots hostedVariables.length) :
    (sampleMemberValues (array.permuteVariables σ)
        (List.ofFn fun k => hostedVariables.get (σ k)) latitude longitude).toOption =
      (sampleMemberValues array hostedVariables latitude longitude).toOption := by
  by_cases hndim : array.ndim = 4 ∨ array.ndim = 5
  · obtain ⟨leading, slots, rows, columns, layout⟩ := NumpyArray.exists_hasLayout hndim
    obtain rfl := slots_eq_of_layout layout hslots
    have hshape := shape_permuteVariables (σ := σ) layout
    have layout' : (array.permuteVariables σ).HasLayout leading _ rows columns :=
      ⟨hshape.trans layout.shape, layout.axes⟩
    have hindex (k : ℕ) (i j : ℕ) :
        readIndex (array.permuteVariables σ) k i j = readIndex array k i j := by
      rw [readIndex_of_layout layout', readIndex_of_layout layout]
    refine toOption_sampleMemberValues_congr ?_ ?_ fun hostedVariable hmem i j => ?_
    · rw [layout.ndim_eq, layout'.ndim_eq]
    · rw [toOption_gridIndices_of_layout layout, toOption_gridIndices_of_layout layout']
    · obtain ⟨k, hold, hnew⟩ := idxOf_permuted hnodup σ (hrequired hostedVariable hmem)
      rw [hold, hnew]
      refine toOption_readGridValue_congr ?_ ?_ ?_
      · simp only [variableSlots_of_layout layout, variableSlots_of_layout layout', Fin.is_lt]
      · simp only [inBounds_readIndex_of_layout layout, inBounds_readIndex_of_layout layout',
          Fin.is_lt]
      · rw [hindex]
        exact element_permuteVariables hndim k i j
  · have hneither : array.ndim ≠ 4 ∧ array.ndim ≠ 5 := not_or.mp hndim
    have hsame : array.permuteVariables σ = array := by
      simp only [NumpyArray.permuteVariables, hneither.1, hneither.2, if_false]
    unfold sampleMemberValues
    rw [hsame, if_pos hneither, if_pos hneither]

end Permutation

/-! ## The time axis -/

section Time

variable {array : NumpyArray} {latitude longitude : ℚ}

lemma dropTime_of_layout {batches times slots rows columns : ℕ}
    (layout : array.HasLayout [batches, times] slots rows columns) (hbatches : 0 < batches)
    (htimes : 0 < times) :
    array.dropTime = ⟨[batches, slots, rows, columns], array.dtype, fun index =>
      array.element (index.insertIdx 1 0)⟩ := by
  have hdrop : array.ndim = 5 ∧ 0 < array.shape.getD 0 0 ∧ 0 < array.shape.getD 1 0 := by
    rw [layout.ndim_eq, layout.shape]
    exact ⟨rfl, hbatches, htimes⟩
  rw [NumpyArray.dropTime, if_pos hdrop, layout.shape]
  rfl

/-- **Dropped time.**  What is sampled of an array stays when its time axis is dropped. -/
lemma toOption_sampleMemberValues_dropTime [ArchiveReader]
    {hostedVariables : List HostedFourCastNetVariable} :
    (sampleMemberValues array.dropTime hostedVariables latitude longitude).toOption =
      (sampleMemberValues array hostedVariables latitude longitude).toOption := by
  by_cases h : array.ndim = 5 ∧ 0 < array.shape.getD 0 0 ∧ 0 < array.shape.getD 1 0
  · obtain ⟨hndim, hbatches, htimes⟩ := h
    obtain ⟨leading, slots, rows, columns, layout⟩ := NumpyArray.exists_hasLayout (.inr hndim)
    have hlength : leading.length = 2 := by
      have hndim' := layout.ndim_eq
      omega
    obtain ⟨batches, times, rfl⟩ := List.length_eq_two.mp hlength
    rw [layout.shape] at hbatches htimes
    have hbatches : 0 < batches := hbatches
    have htimes : 0 < times := htimes
    have hdrop := dropTime_of_layout layout hbatches htimes
    have layout' : array.dropTime.HasLayout [batches] slots rows columns :=
      ⟨congrArg NumpyArray.shape hdrop, .inl rfl⟩
    refine toOption_sampleMemberValues_congr ?_ ?_ fun hostedVariable _ i j => ?_
    · rw [layout'.ndim_eq, hndim, List.length_singleton]
      decide
    · rw [toOption_gridIndices_of_layout layout, toOption_gridIndices_of_layout layout']
    · refine toOption_readGridValue_congr ?_ ?_ ?_
      · rw [variableSlots_of_layout layout, variableSlots_of_layout layout']
      · simp [inBounds_readIndex_of_layout layout, inBounds_readIndex_of_layout layout', hbatches,
          htimes]
      · rw [readIndex_of_layout layout, readIndex_of_layout layout', hdrop]
        rfl
  · rw [NumpyArray.dropTime, if_neg h]

end Time

/-! ## Archives with other arrays -/

section Archive

variable {f : NumpyArray → NumpyArray}

/-- The member with its array changed. -/
def mapArray (f : NumpyArray → NumpyArray) (member : TarMember) : TarMember :=
  { member with loaded := member.loaded.map (Except.map f) }

/-- The decoded member with its array changed. -/
def mapDecoded (f : NumpyArray → NumpyArray) (member : DecodedNumpyMember) : DecodedNumpyMember :=
  { member with array := f member.array }

lemma batchEntries_map (members : List DecodedNumpyMember) :
    batchEntries (members.map (mapDecoded f)) =
      (batchEntries members).map (Prod.map id (mapDecoded f)) := by
  have hbatch : selectedBatch (members.map (mapDecoded f)) = selectedBatch members := by
    cases members with
    | nil => rfl
    | cons first rest =>
      unfold selectedBatch
      rw [List.any_map]
      rfl
  unfold batchEntries
  rw [hbatch, List.filter_map, List.map_map, List.map_map]
  rfl

lemma selectBatchMembers_map (members : List DecodedNumpyMember) :
    selectBatchMembers (members.map (mapDecoded f)) =
      (selectBatchMembers members).map (mapDecoded f) := by
  rw [selectBatchMembers_eq, selectBatchMembers_eq, batchEntries_map, Dictionary.sortedEntries_map,
    List.map_map, List.map_map]
  rfl

variable [ArchiveReader] {content content' : Bytes} {members : List TarMember}

lemma readMembers_map (members : List TarMember) :
    readMembers (members.map (mapArray f)) =
      (readMembers members).map fun result => (result.1.map (mapDecoded f), result.2) := by
  induction members with
  | nil => rfl
  | cons member members ih =>
    rw [List.map_cons, readMembers, readMembers, ih]
    dsimp only [mapArray]
    cases matchMemberName (baseName member.name) with
    | none => cases readMembers members <;> rfl
    | some times =>
      cases member.loaded with
      | none => cases readMembers members <;> rfl
      | some result =>
        cases result with
        | ok array => cases readMembers members <;> rfl
        | error failure =>
          cases failure with
          | unreadable error => cases readMembers members <;> rfl
          | tar error | other error => rfl

lemma loadTarMembers_map (hopen : ArchiveReader.getmembers content = .ok members)
    (hopen' : ArchiveReader.getmembers content' = .ok (members.map (mapArray f))) :
    loadTarMembers content' =
      (loadTarMembers content).map fun result => (result.1.map (mapDecoded f), result.2) := by
  have hfiles : (members.map (mapArray f)).filter (·.isFile) =
      (members.filter (·.isFile)).map (mapArray f) := List.filter_map
  unfold loadTarMembers
  rw [hopen, hopen']
  dsimp only
  rw [hfiles, readMembers_map]
  cases readMembers (members.filter (·.isFile)) with
  | error failure => rfl
  | ok result =>
    refine congrArg (fun sorted => Except.ok (sorted, result.2)) ?_
    exact map_insertionSort_key (fun _ => rfl) _

/-- A decoded array was loaded from a member. -/
lemma loaded_of_readMembers {members : List TarMember} {decoded : List DecodedNumpyMember}
    {warnings : List String} (h : readMembers members = .ok (decoded, warnings)) :
    ∀ member ∈ decoded, ∃ tarMember ∈ members, tarMember.loaded = some (.ok member.array) := by
  induction members generalizing decoded warnings with
  | nil =>
    cases h
    simp
  | cons first rest ih =>
    have hwarn {warning : String} (h : ((readMembers rest).map fun result =>
        (result.1, warning :: result.2)) = .ok (decoded, warnings)) :
        ∀ member ∈ decoded, ∃ tarMember ∈ first :: rest,
          tarMember.loaded = some (.ok member.array) := by
      obtain ⟨result, hresult, hpair⟩ := Except.map_eq_ok.mp h
      cases hpair
      intro member hmember
      obtain ⟨tarMember, htarMember, hloaded⟩ := ih hresult member hmember
      exact ⟨tarMember, List.mem_cons_of_mem _ htarMember, hloaded⟩
    rw [readMembers] at h
    dsimp only at h
    cases hmatch : matchMemberName (baseName first.name) with
    | none =>
      rw [hmatch] at h
      exact hwarn h
    | some times =>
      rw [hmatch] at h
      cases hfirst : first.loaded with
      | none =>
        rw [hfirst] at h
        exact hwarn h
      | some result =>
        rw [hfirst] at h
        cases result with
        | ok array =>
          obtain ⟨result, hresult, hpair⟩ := Except.map_eq_ok.mp h
          cases hpair
          intro member hmember
          rcases List.mem_cons.mp hmember with rfl | hrest
          · exact ⟨first, List.mem_cons_self, hfirst⟩
          · obtain ⟨tarMember, htarMember, hloaded⟩ := ih hresult member hrest
            exact ⟨tarMember, List.mem_cons_of_mem _ htarMember, hloaded⟩
        | error failure =>
          cases failure with
          | unreadable error => exact hwarn h
          | tar error =>
            cases h
            simp
          | other error => cases h

lemma loaded_of_loadTarMembers {decoded : List DecodedNumpyMember} {warnings : List String}
    (hopen : ArchiveReader.getmembers content = .ok members)
    (h : loadTarMembers content = .ok (decoded, warnings)) :
    ∀ member ∈ decoded, ∃ tarMember ∈ members, tarMember.loaded = some (.ok member.array) := by
  unfold loadTarMembers at h
  rw [hopen] at h
  obtain ⟨result, hresult, hpair⟩ := Except.map_eq_ok.mp h
  cases hpair
  intro member hmember
  rw [List.mem_insertionSort] at hmember
  obtain ⟨tarMember, htarMember, hloaded⟩ := loaded_of_readMembers hresult member hmember
  exact ⟨tarMember, List.mem_of_mem_filter htarMember, hloaded⟩

variable [FloatRepr] {request request' : FourCastNetHostedInferenceRequest}
  {latitude longitude : ℚ} {generatedAt : Time}

/-- The rest of a step does not look at the array. -/
lemma toOption_buildTimelineStep_map {member : DecodedNumpyMember}
    {hostedVariables hostedVariables' : List HostedFourCastNetVariable} {warningCount : ℕ}
    (hsample : (sampleMemberValues (f member.array) hostedVariables' latitude longitude).toOption =
      (sampleMemberValues member.array hostedVariables latitude longitude).toOption) :
    (buildTimelineStep (mapDecoded f member) hostedVariables' latitude longitude generatedAt
        warningCount).toOption =
      (buildTimelineStep member hostedVariables latitude longitude generatedAt
        warningCount).toOption := by
  unfold buildTimelineStep
  rw [Except.toOption_bind, Except.toOption_bind]
  exact congrArg (· >>= _) hsample

/-- Archives whose arrays are sampled alike give the same summary, or both fail. -/
lemma toOption_buildForecastSummary_map (hopen : ArchiveReader.getmembers content = .ok members)
    (hopen' : ArchiveReader.getmembers content' = .ok (members.map (mapArray f)))
    (hvariables : ∀ hostedVariable,
      hostedVariable ∈ request'.hostedVariables ↔ hostedVariable ∈ request.hostedVariables)
    (hsample : (∀ hostedVariable ∈ requiredPointVariables,
        hostedVariable ∈ request.hostedVariables) →
      ∀ member ∈ members, ∀ array, member.loaded = some (.ok array) →
        (sampleMemberValues (f array) request'.hostedVariables latitude longitude).toOption =
          (sampleMemberValues array request.hostedVariables latitude longitude).toOption) :
    (buildForecastSummaryFromTarBytes content' request' latitude longitude
        generatedAt).toOption =
      (buildForecastSummaryFromTarBytes content request latitude longitude
        generatedAt).toOption := by
  have hmissing : requiredPointVariables.filter (· ∉ request'.hostedVariables) =
      requiredPointVariables.filter (· ∉ request.hostedVariables) := by
    simp only [hvariables]
  unfold buildForecastSummaryFromTarBytes
  rw [hmissing, loadTarMembers_map hopen hopen']
  dsimp only
  by_cases hrequired : requiredPointVariables.filter (· ∉ request.hostedVariables) ≠ []
  · rw [if_pos hrequired, if_pos hrequired]
  · rw [if_neg hrequired, if_neg hrequired]
    rw [Except.toOption_bind, Except.toOption_bind, Except.toOption_map]
    cases hload : loadTarMembers content with
    | error failure =>
      simp only [Except.toOption_error, Option.map_none, Option.bind_eq_bind, Option.bind_none]
    | ok result =>
      obtain ⟨decoded, warnings⟩ := result
      have hstep : ∀ member ∈ selectBatchMembers decoded,
          (buildTimelineStep (mapDecoded f member) request'.hostedVariables latitude longitude
              generatedAt warnings.length).toOption =
            (buildTimelineStep member request.hostedVariables latitude longitude generatedAt
              warnings.length).toOption := by
        intro member hmember
        obtain ⟨tarMember, htarMember, hloaded⟩ := loaded_of_loadTarMembers hopen hload member
          (of_mem_selectBatchMembers hmember).1
        refine toOption_buildTimelineStep_map (hsample ?_ tarMember htarMember _ hloaded)
        simpa [List.filter_eq_nil_iff] using hrequired
      simp only [Except.toOption_ok, Option.map_some, Option.bind_eq_bind, Option.bind_some]
      rw [selectBatchMembers_map]
      cases hselected : selectBatchMembers decoded with
      | nil => rfl
      | cons first rest =>
        rw [hselected] at hstep
        obtain ⟨hfirst, hrest⟩ := List.forall_mem_cons.mp hstep
        rw [List.map_cons]
        dsimp only
        rw [List.mapM_map]
        simp only [Except.toOption_bind, Function.comp_def, hfirst,
          Except.toOption_mapM_congr hrest]

/-- The request with its variables rearranged. -/
def permuteRequest (request : FourCastNetHostedInferenceRequest)
    (σ : Equiv.Perm (Fin request.hostedVariables.length)) : FourCastNetHostedInferenceRequest :=
  { request with hostedVariables := List.ofFn fun k => request.hostedVariables.get (σ k) }

omit [ArchiveReader] [FloatRepr] in
lemma mem_permuteRequest (σ : Equiv.Perm (Fin request.hostedVariables.length))
    (hostedVariable : HostedFourCastNetVariable) :
    hostedVariable ∈ (permuteRequest request σ).hostedVariables ↔
      hostedVariable ∈ request.hostedVariables := by
  simp only [permuteRequest, List.mem_ofFn]
  constructor
  · rintro ⟨k, rfl⟩
    exact List.get_mem _ _
  · intro h
    obtain ⟨k, rfl⟩ := List.get_of_mem h
    exact ⟨σ.symm k, by rw [Equiv.apply_symm_apply]⟩

/-- **Sampling by name.**  The same summary is built, or none is built, when the variables of the
request and those of every array are rearranged alike, and when the time axis of every array that
has one is dropped. -/
theorem sampling_by_name {permuted dropped : Bytes}
    (σ : Equiv.Perm (Fin request.hostedVariables.length))
    (hopen : ArchiveReader.getmembers content = .ok members)
    (hpermuted : ArchiveReader.getmembers permuted =
      .ok (members.map (mapArray (NumpyArray.permuteVariables σ))))
    (hdropped : ArchiveReader.getmembers dropped =
      .ok (members.map (mapArray NumpyArray.dropTime)))
    (hnodup : request.hostedVariables.Nodup)
    (hslots : ∀ member ∈ members, ∀ array, member.loaded = some (.ok array) →
      array.VariableSlots request.hostedVariables.length) :
    (buildForecastSummaryFromTarBytes permuted (permuteRequest request σ) latitude longitude
        generatedAt).toOption =
      (buildForecastSummaryFromTarBytes content request latitude longitude
        generatedAt).toOption ∧
    (buildForecastSummaryFromTarBytes dropped request latitude longitude generatedAt).toOption =
      (buildForecastSummaryFromTarBytes content request latitude longitude
        generatedAt).toOption := by
  constructor
  · refine toOption_buildForecastSummary_map hopen hpermuted (mem_permuteRequest σ)
      fun hrequired member hmember array hloaded => ?_
    exact toOption_sampleMemberValues_permute hnodup hrequired σ
      (hslots member hmember array hloaded)
  · exact toOption_buildForecastSummary_map hopen hdropped (fun _ => Iff.rfl)
      fun _ _ _ _ _ => toOption_sampleMemberValues_dropTime

end Archive

/-! ## An archive in three layouts -/

namespace SampleLayouts

def sampleRequest : FourCastNetHostedInferenceRequest := {}

/-- The third and the fifth variable change places. -/
def sampleOrder : Equiv.Perm (Fin sampleRequest.hostedVariables.length) :=
  Equiv.swap ⟨2, by decide⟩ ⟨4, by decide⟩

/-- An array with five axes, whose values tell the variables apart. -/
def sampleArray : NumpyArray :=
  ⟨[1, 2, 5, 2, 2], "float32", fun index => some (.finite (10 * (index.getD 2 0 : ℕ) + 1))⟩

def sampleMembers : List TarMember :=
  [⟨"000_000.npy", true, some (.ok sampleArray)⟩, ⟨"notes.txt", true, none⟩]

scoped instance archiveReader : ArchiveReader :=
  .ofArchives [([0], sampleMembers),
    ([1], sampleMembers.map (mapArray (NumpyArray.permuteVariables sampleOrder))),
    ([2], sampleMembers.map (mapArray NumpyArray.dropTime))]

scoped instance floatRepr : FloatRepr := .ofTexts []

lemma variableSlots_sampleMembers :
    ∀ member ∈ sampleMembers, ∀ array, member.loaded = some (.ok array) →
      array.VariableSlots 5 := by
  intro member hmember array hloaded
  simp only [sampleMembers, List.mem_cons, List.not_mem_nil, or_false] at hmember
  rcases hmember with rfl | rfl
  · cases hloaded
    exact ⟨fun hndim => absurd hndim (by decide), fun _ => rfl⟩
  · cases hloaded

/-- The archive gives a summary, and the same one in either other layout. -/
theorem sampling_by_name_sample :
    (buildForecastSummaryFromTarBytes [0] sampleRequest 0 0 0).isOk = true ∧
      (buildForecastSummaryFromTarBytes [1] (permuteRequest sampleRequest sampleOrder) 0 0
          0).toOption =
        (buildForecastSummaryFromTarBytes [0] sampleRequest 0 0 0).toOption ∧
      (buildForecastSummaryFromTarBytes [2] sampleRequest 0 0 0).toOption =
        (buildForecastSummaryFromTarBytes [0] sampleRequest 0 0 0).toOption := by
  have hopen : ArchiveReader.getmembers [0] = .ok sampleMembers := rfl
  exact ⟨by decide +kernel, sampling_by_name sampleOrder hopen rfl rfl (by decide)
    variableSlots_sampleMembers⟩

end SampleLayouts

end FourCastNetPostProcessor

end Earth2Sandbox
