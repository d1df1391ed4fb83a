import Earth2Sandbox.Domain.Jobs
import Earth2Sandbox.Schemas.Forecast

/-!
# Job schemas

`ForecastJob`, its diagnostics and its events, as in `schemas/jobs.py`, with the views of
`application/services/forecast_job_view.py` that commands apply to a record.

`ForecastJobDiagnostics.ofDict` is the pydantic constructor over a dictionary: it ignores
unknown keys and fails when the value under a known key does not convert to the field's type.
-/

namespace Earth2Sandbox

/-! ## Diagnostics -/

structure ForecastJobDiagnostics where
  provider : Option String := none
  responseSource : Option String := none
  cacheStatus : Option String := none
  cachedArtifactId : Option String := none
  nvcfRequestId : Option String := none
  nvcfStatus : Option String := none
  pollAttempts : ℤ := 0
  responseReferencePresent : Bool := false
  byteLength : Option ℤ := none
  sha256 : Option String := none
  message : Option String := none
  deriving DecidableEq

/-- One field of a pydantic model: its default when the key is missing, otherwise the
converted value. -/
def pydanticField {β : Type} (d : PyDict) (key : String) (convert : PyValue → Option β)
    (default : β) : Option β :=
  match d.lookup key with
  | none => some default
  | some v => convert v

lemma pydanticField_override_self {β : Type} (d : PyDict) (key : String)
    (convert : PyValue → Option β) (default : β) (v : PyValue) :
    pydanticField (d.override key v) key convert default = convert v := by
  simp [pydanticField]

lemma pydanticField_override_ne {β : Type} (d : PyDict) {key key' : String}
    (convert : PyValue → Option β) (default : β) (v : PyValue) (h : key' ≠ key) :
    pydanticField (d.override key v) key' convert default =
      pydanticField d key' convert default := by
  simp [pydanticField, PyDict.lookup_override_ne d v h]

section Diagnostics

variable [Runtime]

/-- `ForecastJobDiagnostics(**d)`; `none` is pydantic's `ValidationError`. -/
def ForecastJobDiagnostics.ofDict (d : PyDict) : Option ForecastJobDiagnostics := do
  let provider ← pydanticField d "provider" Runtime.toOptStr none
  let responseSource ← pydanticField d "response_source" Runtime.toOptStr none
  let cacheStatus ← pydanticField d "cache_status" Runtime.toOptStr none
  let cachedArtifactId ← pydanticField d "cached_artifact_id" Runtime.toOptStr none
  let nvcfRequestId ← pydanticField d "nvcf_request_id" Runtime.toOptStr none
  let nvcfStatus ← pydanticField d "nvcf_status" Runtime.toOptStr none
  let pollAttempts ← pydanticField d "poll_attempts" Runtime.toInt 0
  let responseReferencePresent ←
    pydanticField d "response_reference_present" Runtime.toBool false
  let byteLength ← pydanticField d "byte_length" Runtime.toOptInt none
  let sha256 ← pydanticField d "sha256" Runtime.toOptStr none
  let message ← pydanticField d "message" Runtime.toOptStr none
  return ⟨provider, responseSource, cacheStatus, cachedArtifactId, nvcfRequestId, nvcfStatus,
    pollAttempts, responseReferencePresent, byteLength, sha256, message⟩

/-- Replacing the message of well-typed diagnostics by a string keeps them well typed. -/
lemma ForecastJobDiagnostics.isSome_ofDict_override_message {d : PyDict}
    (h : (ForecastJobDiagnostics.ofDict d).isSome) (s : String) :
    (ForecastJobDiagnostics.ofDict (d.override "message" (.str s))).isSome := by
  simp only [ofDict, pydanticField_override_self, Runtime.toOptStr_str,
    pydanticField_override_ne d _ _ _ (show "provider" ≠ "message" by decide),
    pydanticField_override_ne d _ _ _ (show "response_source" ≠ "message" by decide),
    pydanticField_override_ne d _ _ _ (show "cache_status" ≠ "message" by decide),
    pydanticField_override_ne d _ _ _ (show "cached_artifact_id" ≠ "message" by decide),
    pydanticField_override_ne d _ _ _ (show "nvcf_request_id" ≠ "message" by decide),
    pydanticField_override_ne d _ _ _ (show "nvcf_status" ≠ "message" by decide),
    pydanticField_override_ne d _ _ _ (show "poll_attempts" ≠ "message" by decide),
    pydanticField_override_ne d _ _ _ (show "response_reference_present" ≠ "message" by decide),
    pydanticField_override_ne d _ _ _ (show "byte_length" ≠ "message" by decide),
    pydanticField_override_ne d _ _ _ (show "sha256" ≠ "message" by decide)] at h ⊢
  simp only [Option.isSome_iff_exists, Option.bind_eq_bind, Option.bind_eq_some_iff] at h ⊢
  obtain ⟨_, a, ha, b, hb, c, hc, d, hd, e, he, f, hf, g, hg, i, hi, j, hj, k, hk, -⟩ := h
  exact ⟨_, a, ha, b, hb, c, hc, d, hd, e, he, f, hf, g, hg, i, hi, j, hj, k, hk, _, rfl, rfl⟩

end Diagnostics

/-! ## Jobs -/

structure ForecastJobEvent where
  occurredAt : Time
  status : ForecastJobStatus
  message : String
  deriving DecidableEq

structure ForecastJob where
  id : String
  status : ForecastJobStatus
  latitude : PyFloat
  longitude : PyFloat
  parentJobId : Option String := none
  attempt : ℤ := 1
  createdAt : Time
  updatedAt : Time
  startedAt : Option Time := none
  completedAt : Option Time := none
  forecast : Option ForecastSummary := none
  diagnostics : Option ForecastJobDiagnostics := none
  events : List ForecastJobEvent := []
  error : Option String := none
  links : List (String × String) := []
  deriving DecidableEq

structure ForecastJobCleanupResponse where
  deletedCount : ℕ
  cutoff : Time
  statuses : List ForecastJobTerminalStatus
  deriving DecidableEq

/-- The fields of a record are within their bounds, and no link is given twice. -/
def ForecastJob.isInstance (job : ForecastJob) : Bool :=
  PyFloat.between (-90) 90 job.latitude && PyFloat.between (-180) 180 job.longitude &&
    1 ≤ job.attempt && job.forecast.all ForecastSummary.isInstance &&
    (job.links.map Prod.fst).Nodup

/-- Every number of the record is finite. -/
def ForecastJob.hasFiniteFloats (job : ForecastJob) : Bool :=
  job.latitude.isFinite && job.longitude.isFinite &&
    job.forecast.all ForecastSummary.hasFiniteFloats

def appendJobEvent (job : ForecastJob) (status : ForecastJobStatus) (message : String)
    (occurredAt : Time) : ForecastJob :=
  { job with events := job.events ++ [⟨occurredAt, status, message⟩] }

def withJobLinks [Runtime] (job : ForecastJob) : ForecastJob :=
  { job with
    links :=
      [("self", "/api/v1/forecast/jobs/" ++ job.id),
       ("poll", "/api/v1/forecast/jobs/" ++ job.id ++ "/poll"),
       ("point_forecast", "/api/v1/forecast/point?latitude=" ++ Runtime.reprFloat job.latitude ++
         "&longitude=" ++ Runtime.reprFloat job.longitude),
       ("retry", "/api/v1/forecast/jobs/" ++ job.id ++ "/retry"),
       ("cancel", "/api/v1/forecast/jobs/" ++ job.id ++ "/cancel")] }

section AppendJobEvent

variable (job : ForecastJob) (status : ForecastJobStatus) (message : String) (t : Time)

@[simp] lemma appendJobEvent_events :
    (appendJobEvent job status message t).events = job.events ++ [⟨t, status, message⟩] := rfl

@[simp] lemma appendJobEvent_id : (appendJobEvent job status message t).id = job.id := rfl

@[simp] lemma appendJobEvent_status :
    (appendJobEvent job status message t).status = job.status := rfl

@[simp] lemma appendJobEvent_startedAt :
    (appendJobEvent job status message t).startedAt = job.startedAt := rfl

@[simp] lemma appendJobEvent_completedAt :
    (appendJobEvent job status message t).completedAt = job.completedAt := rfl

@[simp] lemma appendJobEvent_forecast :
    (appendJobEvent job status message t).forecast = job.forecast := rfl

@[simp] lemma appendJobEvent_error :
    (appendJobEvent job status message t).error = job.error := rfl

end AppendJobEvent

end Earth2Sandbox
