import Earth2Sandbox.Framework.Program
import Earth2Sandbox.Schemas.Jobs
import Mathlib.Data.List.Sort
import Mathlib.Data.String.Basic

/-!
# Helpers shared by the job stores

The functions of `infrastructure/storage/job_store_helpers.py`.  Readings of the clock and
generated ids are arguments: `now` is what `clock.now()` returns and `newId` what
`id_generator.new_id()` returns.

A listing is sorted newest first by `(created_at, id)`.  Since stored ids are distinct the
order of the input does not matter (`sortJobs_eq_of_perm`), which is why a store may enumerate
its records in any order.
-/

namespace Earth2Sandbox

section Runtime

variable [Runtime]

/-- The identity of the parent job, when there is one. -/
def parseParentJobId : Option String → Except JobError (Option ForecastJobIdentity)
  | none => .ok none
  | some parent => do
    let identity ← ForecastJobIdentity.parse parent
    return some identity

def buildNewJob (latitude longitude : PyFloat) (parentJobId : Option String) (attempt : ℤ)
    (now : Time) (newId : String) : Except JobError ForecastJob := do
  let coordinates ← ForecastJobCoordinates.make latitude longitude
  let parentIdentity ← parseParentJobId parentJobId
  let jobAttempt ← ForecastJobAttempt.make attempt parentIdentity
  let jobIdentity ← ForecastJobIdentity.parse newId
  let message :=
    if parentJobId.any (· ≠ "") then "Forecast retry accepted." else "Forecast job accepted."
  return {
    id := jobIdentity.value
    status := .queued
    latitude := coordinates.latitude
    longitude := coordinates.longitude
    parentJobId := parentIdentity.map ForecastJobIdentity.value
    attempt := jobAttempt.value
    createdAt := now
    updatedAt := now
    diagnostics := some { message := some "Waiting for forecast worker." }
    events := [⟨now, .queued, message⟩] }

def normalizeJobId (jobId : String) : Except JobError String :=
  match ForecastJobIdentity.parse jobId with
  | .ok identity => .ok identity.value
  | .error _ => .error (.notFound jobId)

def prepareJobForUpdate (job : ForecastJob) (now : Time) : Except JobError ForecastJob := do
  let normalizedJobId ← normalizeJobId job.id
  return { job with id := normalizedJobId, updatedAt := now }

end Runtime

def ensureTransitionAllowed (current : ForecastJob)
    (expectedStatuses : Finset ForecastJobStatus) : Except JobError Unit :=
  if canTransitionFrom current.status expectedStatuses then .ok ()
  else .error (.transition current.id current.status expectedStatuses)

/-- The order of a listing: `key=lambda job: (job.created_at, job.id), reverse=True`. -/
def newestFirst (a b : ForecastJob) : Prop :=
  b.createdAt < a.createdAt ∨ b.createdAt = a.createdAt ∧ b.id ≤ a.id

instance : DecidableRel newestFirst := fun a b => by
  unfold newestFirst
  infer_instance

def sortJobs (jobs : List ForecastJob) : List ForecastJob := jobs.insertionSort newestFirst

/-- The slice `xs[:n]`, which counts from the end when `n` is negative. -/
def sliceTo {α : Type} (xs : List α) (n : ℤ) : List α :=
  if n < 0 then xs.take (xs.length + n).toNat else xs.take n.toNat

def sortAndFilterJobs (jobs : List ForecastJob) (limit : ℤ)
    (status : Option ForecastJobStatus) : List ForecastJob :=
  sliceTo (sortJobs (jobs.filter fun job => status.all (job.status = ·))) limit

/-! ## What the helpers do -/

section Specification

variable [Runtime]

lemma normalizeJobId_eq_ok {jobId k : String} :
    normalizeJobId jobId = .ok k ↔ Runtime.parseUuid jobId = some k := by
  constructor
  · intro h
    unfold normalizeJobId at h
    split at h
    · next identity hid =>
      cases h
      exact ForecastJobIdentity.parse_eq_ok.mp hid
    · cases h
  · intro h
    have hk := Runtime.parseUuid_of_canonical (Runtime.parseUuid_canonical h)
    have hid : ForecastJobIdentity.parse jobId = .ok ⟨k, hk⟩ :=
      ForecastJobIdentity.parse_eq_ok.mpr h
    simp [normalizeJobId, hid]

lemma parseUuid_of_normalize {jobId k : String} (h : normalizeJobId jobId = .ok k) :
    Runtime.parseUuid k = some k :=
  Runtime.parseUuid_of_canonical (Runtime.parseUuid_canonical (normalizeJobId_eq_ok.mp h))

lemma normalizeJobId_canonical {k : String} (h : Runtime.parseUuid k = some k) :
    normalizeJobId k = .ok k :=
  normalizeJobId_eq_ok.mpr h

lemma prepareJobForUpdate_eq_ok {job next : ForecastJob} {now : Time} :
    prepareJobForUpdate job now = .ok next ↔
      ∃ k, normalizeJobId job.id = .ok k ∧ next = { job with id := k, updatedAt := now } := by
  unfold prepareJobForUpdate
  rw [Except.bind_eq_ok]
  simp only [pure, Except.pure, Except.ok.injEq, eq_comm (b := next)]

lemma parseParentJobId_ok {parentJobId : Option String} {parent : Option ForecastJobIdentity}
    (h : parseParentJobId parentJobId = .ok parent) :
    parent.map ForecastJobIdentity.value = parentJobId.bind Runtime.parseUuid := by
  cases parentJobId with
  | none =>
    cases h
    rfl
  | some p =>
    obtain ⟨identity, hid, hparent⟩ := Except.bind_eq_ok.mp h
    cases hparent
    simp [ForecastJobIdentity.parse_eq_ok.mp hid]

/-- The checks a creation passes, and the record it builds; every field not named has its
default. -/
lemma buildNewJob_ok {latitude longitude : PyFloat} {parentJobId : Option String} {attempt : ℤ}
    {now : Time} {newId : String} {job : ForecastJob}
    (h : buildNewJob latitude longitude parentJobId attempt now newId = .ok job) :
    ∃ (coordinates : ForecastJobCoordinates) (jobAttempt : ForecastJobAttempt)
      (identity : ForecastJobIdentity) (message : String),
      Runtime.parseUuid newId = some identity.value ∧
      coordinates.latitude = latitude ∧ coordinates.longitude = longitude ∧
      jobAttempt.value = attempt ∧
      jobAttempt.parentJobId.map ForecastJobIdentity.value =
        parentJobId.bind Runtime.parseUuid ∧
      job = {
        id := identity.value
        status := .queued
        latitude := latitude
        longitude := longitude
        parentJobId := parentJobId.bind Runtime.parseUuid
        attempt := attempt
        createdAt := now
        updatedAt := now
        diagnostics := some { message := some "Waiting for forecast worker." }
        events := [⟨now, .queued, message⟩] } := by
  simp only [buildNewJob, Except.bind_eq_ok] at h
  obtain ⟨coordinates, hc, parent, hp, jobAttempt, ha, identity, hid, hjob⟩ := h
  obtain ⟨hlat, hlon⟩ := ForecastJobCoordinates.make_ok hc
  obtain ⟨hval, hpar⟩ := ForecastJobAttempt.make_ok ha
  simp only [pure, Except.pure, Except.ok.injEq, hlat, hlon, hval, parseParentJobId_ok hp] at hjob
  exact ⟨coordinates, jobAttempt, identity, _, ForecastJobIdentity.parse_eq_ok.mp hid, hlat,
    hlon, hval, hpar ▸ parseParentJobId_ok hp, hjob.symm⟩

end Specification

lemma ensureTransitionAllowed_eq_ok {current : ForecastJob}
    {expectedStatuses : Finset ForecastJobStatus} :
    ensureTransitionAllowed current expectedStatuses = .ok () ↔
      current.status ∈ expectedStatuses := by
  simp [ensureTransitionAllowed, canTransitionFrom]

/-! ## Sorting -/

lemma newestFirst_total (a b : ForecastJob) : newestFirst a b ∨ newestFirst b a := by
  unfold newestFirst
  rcases lt_trichotomy a.createdAt b.createdAt with h | h | h
  · exact .inr (.inl h)
  · rcases le_total a.id b.id with hid | hid
    · exact .inr (.inr ⟨h, hid⟩)
    · exact .inl (.inr ⟨h.symm, hid⟩)
  · exact .inl (.inl h)

lemma newestFirst_trans {a b c : ForecastJob} (hab : newestFirst a b) (hbc : newestFirst b c) :
    newestFirst a c := by
  unfold newestFirst at *
  rcases hab with hab | ⟨hab, hid⟩ <;> rcases hbc with hbc | ⟨hbc, hid'⟩
  · exact .inl (hbc.trans hab)
  · exact .inl (hbc ▸ hab)
  · exact .inl (hab ▸ hbc)
  · exact .inr ⟨hbc.trans hab, hid'.trans hid⟩

instance : Std.Total newestFirst := ⟨newestFirst_total⟩

instance : IsTrans ForecastJob newestFirst := ⟨fun _ _ _ => newestFirst_trans⟩

lemma newestFirst_antisymm_id {a b : ForecastJob} (hab : newestFirst a b)
    (hba : newestFirst b a) : a.id = b.id := by
  unfold newestFirst at *
  rcases hab with hab | ⟨hab, hid⟩ <;> rcases hba with hba | ⟨hba, hid'⟩
  · exact absurd hab (lt_asymm hba)
  · exact absurd hab (hba ▸ lt_irrefl _)
  · exact absurd hba (hab ▸ lt_irrefl _)
  · exact le_antisymm hid' hid

lemma sortJobs_perm (jobs : List ForecastJob) : (sortJobs jobs).Perm jobs :=
  List.perm_insertionSort newestFirst jobs

@[simp] lemma mem_sortJobs {job : ForecastJob} {jobs : List ForecastJob} :
    job ∈ sortJobs jobs ↔ job ∈ jobs :=
  (sortJobs_perm jobs).mem_iff

lemma sortJobs_pairwise (jobs : List ForecastJob) : (sortJobs jobs).Pairwise newestFirst :=
  List.pairwise_insertionSort newestFirst jobs

lemma sortJobs_eq_of_perm {xs ys : List ForecastJob} (h : xs.Perm ys)
    (hid : ∀ a ∈ xs, ∀ b ∈ xs, a.id = b.id → a = b) : sortJobs xs = sortJobs ys := by
  refine List.Perm.eq_of_pairwise ?_ (sortJobs_pairwise xs)
    (sortJobs_pairwise ys) ((sortJobs_perm xs).trans (h.trans (sortJobs_perm ys).symm))
  intro a b ha hb hab hba
  exact hid a (mem_sortJobs.mp ha) b (h.mem_iff.mpr (mem_sortJobs.mp hb))
    (newestFirst_antisymm_id hab hba)

lemma sortAndFilterJobs_eq_of_perm {xs ys : List ForecastJob} (h : xs.Perm ys)
    (hid : ∀ a ∈ xs, ∀ b ∈ xs, a.id = b.id → a = b) (limit : ℤ)
    (status : Option ForecastJobStatus) :
    sortAndFilterJobs xs limit status = sortAndFilterJobs ys limit status := by
  unfold sortAndFilterJobs
  rw [sortJobs_eq_of_perm (h.filter _) fun a ha b hb =>
    hid a (List.mem_of_mem_filter ha) b (List.mem_of_mem_filter hb)]

end Earth2Sandbox
