import Earth2Sandbox.Ports.JobStore
import Mathlib.Data.List.AList

/-!
# The in-memory job store

`InMemoryForecastJobStore` keeps a dictionary of records by id.  The dictionary is Mathlib's
`AList`, together with what every operation keeps: a record's key is its own id, and that id
is canonical.  `memoryStore` is the store as an implementation of the port.
-/

namespace Earth2Sandbox

variable [Runtime]

/-- The state of an `InMemoryForecastJobStore`: the dictionary `_jobs`. -/
structure InMemoryForecastJobStore where
  jobs : AList (fun _ : String => ForecastJob)
  jobs_id : ∀ k job, jobs.lookup k = some job → job.id = k ∧ Runtime.parseUuid k = some k

namespace InMemoryForecastJobStore

/-- The store a process starts with. -/
def empty : InMemoryForecastJobStore := ⟨∅, fun k job h => by simp at h⟩

/-- `self._jobs.values()`. -/
def values (store : InMemoryForecastJobStore) : List ForecastJob :=
  store.jobs.entries.map Sigma.snd

/-- `self._jobs[job.id] = job`. -/
def put (store : InMemoryForecastJobStore) (job : ForecastJob)
    (hid : Runtime.parseUuid job.id = some job.id) : InMemoryForecastJobStore :=
  ⟨store.jobs.insert job.id job, fun k job' h => by
    by_cases hk : k = job.id
    · subst hk
      rw [AList.lookup_insert] at h
      cases h
      exact ⟨rfl, hid⟩
    · rw [AList.lookup_insert_ne hk] at h
      exact store.jobs_id k job' h⟩

/-- `del self._jobs[job_id]`. -/
def remove (store : InMemoryForecastJobStore) (jobId : String) : InMemoryForecastJobStore :=
  ⟨store.jobs.erase jobId, fun k job h => by
    by_cases hk : k = jobId
    · subst hk
      simp at h
    · rw [AList.lookup_erase_ne hk] at h
      exact store.jobs_id k job h⟩

def create (store : InMemoryForecastJobStore) (latitude longitude : PyFloat)
    (parentJobId : Option String) (attempt : ℤ) (now : Time) (newId : String) :
    Except JobError ForecastJob × InMemoryForecastJobStore :=
  match h : buildNewJob latitude longitude parentJobId attempt now newId with
  | .error e => (.error e, store)
  | .ok job =>
    (.ok job, store.put job (by
      obtain ⟨_, _, identity, _, _, _, _, _, _, rfl⟩ := buildNewJob_ok h
      exact identity.canonical))

def get (store : InMemoryForecastJobStore) (jobId : String) : Except JobError ForecastJob := do
  let normalizedJobId ← normalizeJobId jobId
  match store.jobs.lookup normalizedJobId with
  | none => .error (.notFound jobId)
  | some job => .ok job

def updateIfStatus (store : InMemoryForecastJobStore) (job : ForecastJob)
    (expectedStatuses : Finset ForecastJobStatus) (now : Time) :
    Except JobError ForecastJob × InMemoryForecastJobStore :=
  match h : prepareJobForUpdate job now with
  | .error e => (.error e, store)
  | .ok nextJob =>
    match store.jobs.lookup nextJob.id with
    | none => (.error (.notFound nextJob.id), store)
    | some current =>
      match ensureTransitionAllowed current expectedStatuses with
      | .error e => (.error e, store)
      | .ok () =>
        (.ok nextJob, store.put nextJob (by
          obtain ⟨k, hk, rfl⟩ := prepareJobForUpdate_eq_ok.mp h
          exact parseUuid_of_normalize hk))

def update (store : InMemoryForecastJobStore) (job : ForecastJob) (now : Time) :
    Except JobError ForecastJob × InMemoryForecastJobStore :=
  store.updateIfStatus job allJobStatuses now

def listRecent (store : InMemoryForecastJobStore) (limit : ℤ)
    (status : Option ForecastJobStatus) : List ForecastJob :=
  sortAndFilterJobs store.values limit status

def listActive (store : InMemoryForecastJobStore) : List ForecastJob :=
  sortJobs (store.values.filter fun job => job.status ∈ activeJobStatuses)

def deleteOlderThan (store : InMemoryForecastJobStore) (cutoff : Time)
    (statuses : Finset ForecastJobTerminalStatus) : ℕ × InMemoryForecastJobStore :=
  let jobIds := (store.values.filter fun job => job.shouldCleanup cutoff statuses).map (·.id)
  (jobIds.length, jobIds.foldl remove store)

/-! ## The contents of the dictionary -/

/-- The records of the store. -/
def records (store : InMemoryForecastJobStore) : Records := fun k => store.jobs.lookup k

@[simp] lemma records_empty : records empty = fun _ => none := by
  funext k
  simp [records, empty]

lemma records_put (store : InMemoryForecastJobStore) (job : ForecastJob)
    (hid : Runtime.parseUuid job.id = some job.id) :
    (store.put job hid).records = Function.update store.records job.id (some job) := by
  funext k
  by_cases hk : k = job.id
  · subst hk
    simp [records, put]
  · simp [records, put, Function.update_of_ne hk, AList.lookup_insert_ne hk]

lemma records_remove (store : InMemoryForecastJobStore) (jobId : String) :
    (store.remove jobId).records = Function.update store.records jobId none := by
  funext k
  by_cases hk : k = jobId
  · subst hk
    simp [records, remove]
  · simp [records, remove, hk, AList.lookup_erase_ne hk]

lemma records_foldl_remove (store : InMemoryForecastJobStore) (jobIds : List String)
    (k : String) :
    (jobIds.foldl remove store).records k = if k ∈ jobIds then none else store.records k := by
  induction jobIds generalizing store with
  | nil => simp
  | cons id jobIds ih =>
    rw [List.foldl_cons, ih, records_remove]
    by_cases hk : k = id
    · simp [hk]
    · simp [hk]

lemma enumerates_values (store : InMemoryForecastJobStore) :
    store.records.Enumerates store.values := by
  have hmem : ∀ k job, (⟨k, job⟩ : Sigma fun _ : String => ForecastJob) ∈ store.jobs.entries ↔
      store.records k = some job := fun k job => AList.mem_lookup_iff.symm
  have hids : store.values.map ForecastJob.id = store.jobs.keys := by
    rw [values, List.map_map]
    refine List.map_congr_left fun e he => ?_
    exact (store.jobs_id e.1 e.2 ((hmem e.1 e.2).mp he)).1
  refine ⟨hids ▸ store.jobs.nodupKeys, fun job => ?_⟩
  rw [← hmem, values, List.mem_map]
  constructor
  · rintro ⟨⟨k, job⟩, he, rfl⟩
    have hid := (store.jobs_id k job ((hmem k job).mp he)).1
    exact hid.symm ▸ he
  · intro h
    exact ⟨_, h, rfl⟩

lemma create_eq (store : InMemoryForecastJobStore) (latitude longitude : PyFloat)
    (parentJobId : Option String) (attempt : ℤ) (now : Time) (newId : String) :
    let q := store.create latitude longitude parentJobId attempt now newId
    (q.1, q.2.records) =
      store.records.create latitude longitude parentJobId attempt now newId := by
  dsimp only [create]
  split
  · next e he => simp only [Records.create, he]
  · next job hjob => simp only [Records.create, hjob, records_put]

lemma updateIfStatus_eq (store : InMemoryForecastJobStore) (job : ForecastJob)
    (expected : Finset ForecastJobStatus) (now : Time) :
    let q := store.updateIfStatus job expected now
    (q.1, q.2.records) = store.records.updateIfStatus job expected now := by
  dsimp only [updateIfStatus]
  split
  · next e he => simp only [Records.updateIfStatus, he]
  · next nextJob hnext =>
    simp only [Records.updateIfStatus, hnext]
    show _ = match store.jobs.lookup nextJob.id with
      | none => _
      | some current => _
    cases store.jobs.lookup nextJob.id with
    | none => rfl
    | some current =>
      dsimp only
      cases ensureTransitionAllowed current expected with
      | error e => rfl
      | ok _ => simp only [records_put]

lemma deleteOlderThan_records (store : InMemoryForecastJobStore) (cutoff : Time)
    (statuses : Finset ForecastJobTerminalStatus) :
    (store.deleteOlderThan cutoff statuses).2.records =
      store.records.deleteOlderThan cutoff statuses := by
  funext k
  simp only [deleteOlderThan, records_foldl_remove, Records.deleteOlderThan]
  cases hk : store.records k with
  | none => simp
  | some job =>
    have hid := (store.jobs_id k job hk).1
    have henum := store.enumerates_values
    have hmem : k ∈ (store.values.filter fun job => job.shouldCleanup cutoff statuses).map (·.id) ↔
        job.shouldCleanup cutoff statuses = true := by
      simp only [List.mem_map, List.mem_filter]
      constructor
      · rintro ⟨job', ⟨hjob', hc⟩, hid'⟩
        have := (henum.mem_iff job').mp hjob'
        rw [hid', hk] at this
        cases this
        exact hc
      · intro hc
        exact ⟨job, ⟨(henum.mem_iff job).mpr (by rw [hid]; exact hk), hc⟩, hid⟩
    by_cases hc : job.shouldCleanup cutoff statuses = true
    · rw [if_pos (hmem.mpr hc), Option.filter_some, hc]
      rfl
    · rw [if_neg (mt hmem.mp hc), Option.filter_some, Bool.eq_false_iff.mpr hc]
      rfl

end InMemoryForecastJobStore

/-- The in-memory store as an implementation of the port. -/
def memoryStore : ForecastJobStore where
  State := InMemoryForecastJobStore
  records := InMemoryForecastJobStore.records
  create := InMemoryForecastJobStore.create
  get := InMemoryForecastJobStore.get
  updateIfStatus := InMemoryForecastJobStore.updateIfStatus
  listRecent := InMemoryForecastJobStore.listRecent
  listActive := InMemoryForecastJobStore.listActive
  deleteOlderThan := InMemoryForecastJobStore.deleteOlderThan
  records_id s := s.jobs_id
  create_eq := InMemoryForecastJobStore.create_eq
  get_eq _ _ := rfl
  updateIfStatus_eq := InMemoryForecastJobStore.updateIfStatus_eq
  listRecent_eq s _ _ := ⟨s.values, s.enumerates_values, rfl⟩
  listActive_eq s := ⟨s.values, s.enumerates_values, rfl⟩
  deleteOlderThan_records := InMemoryForecastJobStore.deleteOlderThan_records
  deleteOlderThan_count s _ _ := ⟨s.values, s.enumerates_values, List.length_map _⟩

end Earth2Sandbox
