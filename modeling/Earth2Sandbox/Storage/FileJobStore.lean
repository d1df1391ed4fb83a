import Earth2Sandbox.Ports.JobStore
import Earth2Sandbox.Runtime.FileSystem

/-!
# The file job store

`FileForecastJobStore` keeps one JSON file per job in a directory.  Its operations are programs
over file calls; a write goes through a temporary file that is renamed.  How pydantic turns a
record into text and back is a parameter, `JobCodec`.

An id in any spelling is mapped to the file named after its normal form, directly inside the
root directory (`path_eq`).
-/

namespace Earth2Sandbox

/-- The records that JSON can represent: instances of the model with finite numbers. -/
def ForecastJob.serializable (job : ForecastJob) : Bool := job.isInstance && job.hasFiniteFloats

/-- `job.model_dump_json(indent=2)` and `ForecastJob.model_validate_json(text)`, which is `none`
when it raises a `ValueError`. -/
structure JobCodec where
  modelDumpJson : ForecastJob → String
  modelValidateJson : String → Option ForecastJob
  validate_dump : ∀ job, job.serializable = true →
    modelValidateJson (modelDumpJson job) = some job

/-- A `UnicodeDecodeError` is a `ValueError`, as a validation error is. -/
instance jobErrorRaises : RaisesFileError JobError where
  ofFileError
    | .osError => .osError
    | .undecodable => .validation

/-- A `FileForecastJobStore`, with its root directory resolved. -/
structure FileForecastJobStore where
  codec : JobCodec
  root : Path
  root_resolved : root.resolve = root

namespace FileForecastJobStore

variable [Runtime] (store : FileForecastJobStore)

/-! ## Operations -/

/-- `model_validate_json` outside of a handler. -/
def validate (text : String) : Except JobError ForecastJob :=
  match store.codec.modelValidateJson text with
  | none => .error .validation
  | some job => .ok job

def path (jobId : String) : Except JobError Path := do
  let normalizedJobId ← normalizeJobId jobId
  let root := store.root.resolve
  let target := (root.join (normalizedJobId ++ ".json")).resolve
  if root <+: target then return target else .error (.notFound jobId)

def write (job : ForecastJob) : FileProgram JobError Unit := do
  FileProgram.mkdir store.root
  let target ← .ofExcept (store.path job.id)
  let temporary := target.withSuffix ".json.tmp"
  FileProgram.writeText temporary (store.codec.modelDumpJson job)
  FileProgram.replace temporary target

def create (latitude longitude : PyFloat) (parentJobId : Option String) (attempt : ℤ)
    (now : Time) (newId : String) : FileProgram JobError ForecastJob := do
  let job ← .ofExcept (buildNewJob latitude longitude parentJobId attempt now newId)
  store.write job
  return job

def get (jobId : String) : FileProgram JobError ForecastJob := do
  let path ← .ofExcept (store.path jobId)
  if !(← FileProgram.pathExists path) then .raise (.notFound jobId)
  else
    let text ← FileProgram.readText path
    .ofExcept (store.validate text)

def updateIfStatus (job : ForecastJob) (expectedStatuses : Finset ForecastJobStatus)
    (now : Time) : FileProgram JobError ForecastJob := do
  let nextJob ← .ofExcept (prepareJobForUpdate job now)
  let path ← .ofExcept (store.path nextJob.id)
  if !(← FileProgram.pathExists path) then .raise (.notFound nextJob.id)
  else
    let text ← FileProgram.readText path
    let current ← .ofExcept (store.validate text)
    let () ← .ofExcept (ensureTransitionAllowed current expectedStatuses)
    store.write nextJob
    return nextJob

def update (job : ForecastJob) (now : Time) : FileProgram JobError ForecastJob :=
  store.updateIfStatus job allJobStatuses now

/-- `model_validate_json(path.read_text("utf-8"))`, or `none` when it raises a `ValueError`. -/
def readJob (path : Path) : FileProgram JobError (Option ForecastJob) :=
  .call (.readText path) fun
    | .ok text => .ret (store.codec.modelValidateJson text)
    | .error .undecodable => .ret none
    | .error .osError => .raise .osError

/-- The loop of `_read_all_unlocked`; files that are not valid are skipped. -/
def readLoop : List Path → FileProgram JobError (List ForecastJob)
  | [] => return []
  | path :: paths => do
    let job ← store.readJob path
    let jobs ← readLoop paths
    return job.toList ++ jobs

def readAllUnlocked : FileProgram JobError (List ForecastJob) := do
  if !(← FileProgram.pathExists store.root) then return []
  else
    let paths ← FileProgram.glob store.root ".json"
    store.readLoop paths

def listRecent (limit : ℤ) (status : Option ForecastJobStatus) :
    FileProgram JobError (List ForecastJob) := do
  let jobs ← store.readAllUnlocked
  return sortAndFilterJobs jobs limit status

def listActive : FileProgram JobError (List ForecastJob) := do
  let jobs ← store.readAllUnlocked
  return sortJobs (jobs.filter fun job => job.status ∈ activeJobStatuses)

/-- The loop of `delete_older_than`. -/
def deleteLoop (cutoff : Time) (statuses : Finset ForecastJobTerminalStatus) :
    List Path → ℕ → FileProgram JobError ℕ
  | [], deletedCount => return deletedCount
  | path :: paths, deletedCount => do
    match ← store.readJob path with
    | none => deleteLoop cutoff statuses paths deletedCount
    | some job =>
      if !job.shouldCleanup cutoff statuses then deleteLoop cutoff statuses paths deletedCount
      else
        FileProgram.unlink path
        deleteLoop cutoff statuses paths (deletedCount + 1)

def deleteOlderThan (cutoff : Time) (statuses : Finset ForecastJobTerminalStatus) :
    FileProgram JobError ℕ := do
  if !(← FileProgram.pathExists store.root) then return 0
  else
    let paths ← FileProgram.glob store.root ".json"
    store.deleteLoop cutoff statuses paths 0

/-! ## Paths -/

/-- The file of a job. -/
def recordPath (k : String) : Path := store.root ++ [k ++ ".json"]

/-- The file that a record is first written to. -/
def temporaryPath (k : String) : Path := store.root ++ [k ++ ".json.tmp"]

/-- A spelling of an id is mapped to the file of the normalized id. -/
lemma path_eq (jobId : String) :
    store.path jobId = (normalizeJobId jobId).map store.recordPath := by
  unfold path
  cases hk : normalizeJobId jobId with
  | error e => rfl
  | ok k =>
    have hcanonical := Runtime.parseUuid_canonical (normalizeJobId_eq_ok.mp hk)
    have hlength := length_of_canonicalUuid hcanonical
    have hslash : '/' ∉ (k ++ ".json").toList := by
      rw [String.toList_append, List.mem_append, not_or]
      exact ⟨slash_not_mem_of_canonicalUuid hcanonical, by decide⟩
    have hname : 2 < (k ++ ".json").toList.length := by
      rw [String.toList_append, List.length_append, hlength]
      omega
    have htarget : (store.root.resolve.join (k ++ ".json")).resolve = store.recordPath k := by
      rw [Path.join_of_not_mem hslash, Path.resolve_append_name hname, store.root_resolved,
        store.root_resolved]
      rfl
    have hstart : store.root.resolve <+: store.recordPath k := by
      rw [store.root_resolved]
      exact List.prefix_append _ _
    simp only [bind, Except.bind, htarget, if_pos hstart]
    rfl

omit [Runtime] in
lemma withSuffix_recordPath {k : String} (hk : canonicalUuid k = true) :
    (store.recordPath k).withSuffix ".json.tmp" = store.temporaryPath k := by
  have hne : k.toList ≠ [] := by
    intro hnil
    have hlength := length_of_canonicalUuid hk
    rw [hnil] at hlength
    cases hlength
  have hstem : Path.stem (k ++ ".json") = k :=
    Path.stem_append hne ['j', 's', 'o', 'n'] (by decide) (by decide)
  rw [recordPath, Path.withSuffix_append, hstem, temporaryPath]

omit [Runtime] in
lemma recordPath_injective : Function.Injective store.recordPath := by
  intro k k' h
  have hname := (List.append_cancel_left h)
  simpa using hname

omit [Runtime] in
lemma temporaryPath_ne_recordPath (k k' : String) :
    store.temporaryPath k ≠ store.recordPath k' := by
  intro h
  have hname : k ++ ".json.tmp" = k' ++ ".json" := by
    simpa using List.append_cancel_left h
  have hlast := congrArg (fun s : String => s.toList.getLast?) hname
  simp [String.toList_append] at hlast

end FileForecastJobStore

end Earth2Sandbox
