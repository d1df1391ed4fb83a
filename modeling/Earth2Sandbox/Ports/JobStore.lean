import Earth2Sandbox.Storage.JobStoreHelpers

/-!
# The job store port

`Records` is what a job store holds, a map from canonical ids to records, and the `Records.*`
functions are what the calls of the port do to it.  A `ForecastJobStore` is any implementation
whose single calls are atomic: a state, the operations of the `ForecastJobStore` protocol as
functions of it, and the laws that they act on the state's records as the `Records.*` functions
do.  A listing may enumerate the records in any order before sorting.

`InMemoryForecastJobStore` (`Storage/MemoryJobStore.lean`) is one.  No `ForecastJobStore` is built
from `FileForecastJobStore`; `Storage/Interchangeable.lean` shows that its calls answer as those of
the in-memory store do.
-/

namespace Earth2Sandbox

/-- The contents of a job store. -/
abbrev Records := String → Option ForecastJob

/-- `jobs` lists the stored records, each once. -/
structure Records.Enumerates (recs : Records) (jobs : List ForecastJob) : Prop where
  nodup_ids : (jobs.map ForecastJob.id).Nodup
  mem_iff : ∀ job, job ∈ jobs ↔ recs job.id = some job

/-- Two enumerations of the same records differ in the order only. -/
lemma Records.Enumerates.perm {recs : Records} {xs ys : List ForecastJob}
    (hxs : recs.Enumerates xs) (hys : recs.Enumerates ys) : xs.Perm ys := by
  refine (List.perm_ext_iff_of_nodup (hxs.nodup_ids.of_map _) (hys.nodup_ids.of_map _)).mpr ?_
  intro job
  rw [hxs.mem_iff, hys.mem_iff]

/-- The cleanup policy applied to a record. -/
def ForecastJob.shouldCleanup (job : ForecastJob) (cutoff : Time)
    (statuses : Finset ForecastJobTerminalStatus) : Bool :=
  shouldCleanupJob job.status job.completedAt job.updatedAt cutoff statuses

namespace Records

variable [Runtime]

def get (recs : Records) (jobId : String) : Except JobError ForecastJob := do
  let normalizedJobId ← normalizeJobId jobId
  match recs normalizedJobId with
  | none => .error (.notFound jobId)
  | some job => .ok job

/-- `create`: the new record is stored under its id, whatever was there. -/
def create (recs : Records) (latitude longitude : PyFloat) (parentJobId : Option String)
    (attempt : ℤ) (now : Time) (newId : String) : Except JobError ForecastJob × Records :=
  match buildNewJob latitude longitude parentJobId attempt now newId with
  | .error e => (.error e, recs)
  | .ok job => (.ok job, Function.update recs job.id (some job))

/-- `update_if_status`: the record is replaced when the stored one has an expected status. -/
def updateIfStatus (recs : Records) (job : ForecastJob)
    (expectedStatuses : Finset ForecastJobStatus) (now : Time) :
    Except JobError ForecastJob × Records :=
  match prepareJobForUpdate job now with
  | .error e => (.error e, recs)
  | .ok nextJob =>
    match recs nextJob.id with
    | none => (.error (.notFound nextJob.id), recs)
    | some current =>
      match ensureTransitionAllowed current expectedStatuses with
      | .error e => (.error e, recs)
      | .ok () => (.ok nextJob, Function.update recs nextJob.id (some nextJob))

/-- `delete_older_than`, without the count. -/
def deleteOlderThan (recs : Records) (cutoff : Time)
    (statuses : Finset ForecastJobTerminalStatus) : Records :=
  fun k => (recs k).filter fun job => !job.shouldCleanup cutoff statuses

end Records

/-- A job store whose single calls are atomic. -/
structure ForecastJobStore [Runtime] where
  State : Type
  records : State → Records
  create : State → PyFloat → PyFloat → Option String → ℤ → Time → String →
    Except JobError ForecastJob × State
  get : State → String → Except JobError ForecastJob
  updateIfStatus : State → ForecastJob → Finset ForecastJobStatus → Time →
    Except JobError ForecastJob × State
  listRecent : State → ℤ → Option ForecastJobStatus → List ForecastJob
  listActive : State → List ForecastJob
  deleteOlderThan : State → Time → Finset ForecastJobTerminalStatus → ℕ × State
  /-- Records are stored under their own id, which is canonical. -/
  records_id : ∀ s k job, records s k = some job → job.id = k ∧ Runtime.parseUuid k = some k
  create_eq : ∀ s lat lon parent attempt now newId,
    let q := create s lat lon parent attempt now newId
    (q.1, records q.2) = (records s).create lat lon parent attempt now newId
  get_eq : ∀ s jobId, get s jobId = (records s).get jobId
  updateIfStatus_eq : ∀ s job expected now,
    let q := updateIfStatus s job expected now
    (q.1, records q.2) = (records s).updateIfStatus job expected now
  listRecent_eq : ∀ s limit status, ∃ jobs, (records s).Enumerates jobs ∧
    listRecent s limit status = sortAndFilterJobs jobs limit status
  listActive_eq : ∀ s, ∃ jobs, (records s).Enumerates jobs ∧
    listActive s = sortJobs (jobs.filter fun job => job.status ∈ activeJobStatuses)
  deleteOlderThan_records : ∀ s cutoff statuses,
    records (deleteOlderThan s cutoff statuses).2 = (records s).deleteOlderThan cutoff statuses
  deleteOlderThan_count : ∀ s cutoff statuses, ∃ jobs, (records s).Enumerates jobs ∧
    (deleteOlderThan s cutoff statuses).1 =
      (jobs.filter fun job => job.shouldCleanup cutoff statuses).length

/-! ## What a call can do to the records -/

namespace Records

variable [Runtime] {recs : Records}

lemma get_eq_ok {jobId : String} {job : ForecastJob} :
    recs.get jobId = .ok job ↔ ∃ k, normalizeJobId jobId = .ok k ∧ recs k = some job := by
  unfold get
  rw [Except.bind_eq_ok]
  refine exists_congr fun k => and_congr_right fun _ => ?_
  cases recs k <;> simp

/-- Everything a guarded write can do: it leaves the records alone, or it replaces a record
that has an expected status. -/
lemma updateIfStatus_cases (recs : Records) (job : ForecastJob)
    (expected : Finset ForecastJobStatus) (now : Time) :
    (∃ e, recs.updateIfStatus job expected now = (.error e, recs)) ∨
    (∃ k current, normalizeJobId job.id = .ok k ∧ recs k = some current ∧
      current.status ∈ expected ∧
      recs.updateIfStatus job expected now =
        (.ok { job with id := k, updatedAt := now },
          Function.update recs k (some { job with id := k, updatedAt := now }))) := by
  unfold updateIfStatus
  split
  · exact .inl ⟨_, rfl⟩
  · next nextJob hprep =>
    obtain ⟨k, hk, rfl⟩ := prepareJobForUpdate_eq_ok.mp hprep
    split
    · exact .inl ⟨_, rfl⟩
    · next current hcurrent =>
      split
      · exact .inl ⟨_, rfl⟩
      · next hallowed =>
        exact .inr ⟨k, current, hk, hcurrent, ensureTransitionAllowed_eq_ok.mp hallowed, rfl⟩

/-- A guarded write on a canonical id fails only because the record is gone or because its
status is not expected. -/
lemma updateIfStatus_error {job : ForecastJob} {expected : Finset ForecastJobStatus}
    {now : Time} {e : JobError} (hid : Runtime.parseUuid job.id = some job.id)
    (h : (recs.updateIfStatus job expected now).1 = .error e) :
    (recs job.id = none ∧ e = .notFound job.id) ∨
    (∃ current, recs job.id = some current ∧ current.status ∉ expected ∧
      e = .transition current.id current.status expected) := by
  have hprep : prepareJobForUpdate job now = .ok { job with updatedAt := now } :=
    prepareJobForUpdate_eq_ok.mpr ⟨_, normalizeJobId_canonical hid, rfl⟩
  simp only [updateIfStatus, hprep] at h
  split at h
  · next hnone =>
    cases h
    exact .inl ⟨hnone, rfl⟩
  · next current hcurrent =>
    split at h
    · next e' hallowed =>
      cases h
      refine .inr ⟨current, hcurrent, ?_⟩
      unfold ensureTransitionAllowed canTransitionFrom at hallowed
      split at hallowed
      · cases hallowed
      · next hmem =>
        cases hallowed
        exact ⟨by simpa using hmem, rfl⟩
    · cases h

/-- A guarded write on a canonical id replaces a record that has an expected status. -/
lemma updateIfStatus_eq {job current : ForecastJob} {expected : Finset ForecastJobStatus}
    (hid : Runtime.parseUuid job.id = some job.id) (hcurrent : recs job.id = some current)
    (hstatus : current.status ∈ expected) (now : Time) :
    recs.updateIfStatus job expected now =
      (.ok { job with updatedAt := now },
        Function.update recs job.id (some { job with updatedAt := now })) := by
  have hprep : prepareJobForUpdate job now = .ok { job with updatedAt := now } :=
    prepareJobForUpdate_eq_ok.mpr ⟨_, normalizeJobId_canonical hid, rfl⟩
  have hallowed : ensureTransitionAllowed current expected = .ok () :=
    ensureTransitionAllowed_eq_ok.mpr hstatus
  simp only [updateIfStatus, hprep, hcurrent, hallowed]

/-- Everything a creation can do. -/
lemma create_cases (recs : Records) (lat lon : PyFloat) (parent : Option String) (attempt : ℤ)
    (now : Time) (newId : String) :
    (∃ e, buildNewJob lat lon parent attempt now newId = .error e ∧
      recs.create lat lon parent attempt now newId = (.error e, recs)) ∨
    (∃ job, buildNewJob lat lon parent attempt now newId = .ok job ∧
      recs.create lat lon parent attempt now newId =
        (.ok job, Function.update recs job.id (some job))) := by
  unfold create
  split
  · next e he => exact .inl ⟨e, he, rfl⟩
  · next job hjob => exact .inr ⟨job, hjob, rfl⟩

omit [Runtime] in
lemma deleteOlderThan_eq_some {cutoff : Time} {statuses : Finset ForecastJobTerminalStatus}
    {k : String} {job : ForecastJob} :
    recs.deleteOlderThan cutoff statuses k = some job ↔
      recs k = some job ∧ job.shouldCleanup cutoff statuses = false := by
  simp [deleteOlderThan]

omit [Runtime] in
/-- Deletion removes terminal records only. -/
lemma deleteOlderThan_cases (recs : Records) (cutoff : Time)
    (statuses : Finset ForecastJobTerminalStatus) (k : String) :
    recs.deleteOlderThan cutoff statuses k = recs k ∨
      (recs.deleteOlderThan cutoff statuses k = none ∧
        ∃ job, recs k = some job ∧ job.status ∈ terminalJobStatuses) := by
  unfold deleteOlderThan
  cases hk : recs k with
  | none => exact .inl rfl
  | some job =>
    by_cases hc : job.shouldCleanup cutoff statuses = true
    · exact .inr ⟨by simp [hc], job, rfl, terminal_of_shouldCleanupJob hc⟩
    · exact .inl (by simp [hc])

end Records

namespace ForecastJobStore

variable [Runtime] (S : ForecastJobStore)

lemma create_reply (s : S.State) (lat lon : PyFloat) (parent : Option String) (attempt : ℤ)
    (now : Time) (newId : String) :
    (S.create s lat lon parent attempt now newId).1 =
      ((S.records s).create lat lon parent attempt now newId).1 :=
  congrArg Prod.fst (S.create_eq s lat lon parent attempt now newId)

lemma create_records (s : S.State) (lat lon : PyFloat) (parent : Option String) (attempt : ℤ)
    (now : Time) (newId : String) :
    S.records (S.create s lat lon parent attempt now newId).2 =
      ((S.records s).create lat lon parent attempt now newId).2 :=
  congrArg Prod.snd (S.create_eq s lat lon parent attempt now newId)

lemma updateIfStatus_reply (s : S.State) (job : ForecastJob)
    (expected : Finset ForecastJobStatus) (now : Time) :
    (S.updateIfStatus s job expected now).1 =
      ((S.records s).updateIfStatus job expected now).1 :=
  congrArg Prod.fst (S.updateIfStatus_eq s job expected now)

lemma updateIfStatus_records (s : S.State) (job : ForecastJob)
    (expected : Finset ForecastJobStatus) (now : Time) :
    S.records (S.updateIfStatus s job expected now).2 =
      ((S.records s).updateIfStatus job expected now).2 :=
  congrArg Prod.snd (S.updateIfStatus_eq s job expected now)

lemma mem_listActive {s : S.State} {job : ForecastJob} :
    job ∈ S.listActive s ↔
      S.records s job.id = some job ∧ job.status ∈ activeJobStatuses := by
  obtain ⟨jobs, henum, heq⟩ := S.listActive_eq s
  rw [heq, mem_sortJobs, List.mem_filter, henum.mem_iff, decide_eq_true_eq]

lemma listActive_nodup_ids (s : S.State) : ((S.listActive s).map ForecastJob.id).Nodup := by
  obtain ⟨jobs, henum, heq⟩ := S.listActive_eq s
  rw [heq, ((sortJobs_perm _).map _).nodup_iff]
  exact henum.nodup_ids.sublist (List.filter_sublist.map _)

end ForecastJobStore

end Earth2Sandbox
