import Earth2Sandbox.Runtime.Python
import Mathlib.Data.Finset.Image
import Mathlib.Data.Fintype.Defs

/-!
# Forecast job domain vocabulary and lifecycle policies

The statuses, priorities, identities and policies of `domain/jobs`, and the exceptions of
`application/errors.py` that the stores and commands raise.  Validated values are structures
that carry the check as a field: a `ForecastJobIdentity` is canonical, `ForecastJobCoordinates`
are in range, a `ForecastJobAttempt` has a parent exactly from the second attempt on.
-/

namespace Earth2Sandbox

/-! ## Statuses -/

inductive ForecastJobStatus where
  | queued
  | running
  | succeeded
  | failed
  | cancelled
  deriving DecidableEq

inductive ForecastJobTerminalStatus where
  | succeeded
  | failed
  | cancelled
  deriving DecidableEq

namespace ForecastJobStatus

/-- The status as the source spells it. -/
def text : ForecastJobStatus → String
  | queued => "queued"
  | running => "running"
  | succeeded => "succeeded"
  | failed => "failed"
  | cancelled => "cancelled"

end ForecastJobStatus

/-- A terminal status among all statuses. -/
def ForecastJobTerminalStatus.toStatus : ForecastJobTerminalStatus → ForecastJobStatus
  | succeeded => .succeeded
  | failed => .failed
  | cancelled => .cancelled

open ForecastJobStatus in
def terminalJobStatuses : Finset ForecastJobStatus := {succeeded, failed, cancelled}

open ForecastJobStatus in
def allJobStatuses : Finset ForecastJobStatus := {queued, running, succeeded, failed, cancelled}

open ForecastJobStatus in
def activeJobStatuses : Finset ForecastJobStatus := {queued, running}

@[simp] lemma mem_terminalJobStatuses {s : ForecastJobStatus} :
    s ∈ terminalJobStatuses ↔ s = .succeeded ∨ s = .failed ∨ s = .cancelled := by
  simp [terminalJobStatuses]

@[simp] lemma mem_activeJobStatuses {s : ForecastJobStatus} :
    s ∈ activeJobStatuses ↔ s = .queued ∨ s = .running := by
  simp [activeJobStatuses]

@[simp] lemma mem_allJobStatuses (s : ForecastJobStatus) : s ∈ allJobStatuses := by
  cases s <;> simp [allJobStatuses]

lemma not_mem_terminal_iff_active {s : ForecastJobStatus} :
    s ∉ terminalJobStatuses ↔ s ∈ activeJobStatuses := by
  cases s <;> simp

@[simp] lemma ForecastJobTerminalStatus.toStatus_mem (s : ForecastJobTerminalStatus) :
    s.toStatus ∈ terminalJobStatuses := by
  cases s <;> simp [toStatus]

/-! ## Priorities -/

inductive ForecastJobPriority where
  | low
  | normal
  | high
  deriving DecidableEq

/-- The priority as the source spells it. -/
def ForecastJobPriority.text : ForecastJobPriority → String
  | low => "low"
  | normal => "normal"
  | high => "high"

def defaultForecastJobPriority : ForecastJobPriority := .normal

/-- `priority_rank`, the lookup in `FORECAST_JOB_PRIORITY_RANK`. -/
def priorityRank : ForecastJobPriority → ℕ
  | .high => 0
  | .normal => 10
  | .low => 20

/-! ## Exceptions -/

/-- The exceptions that job stores, commands, queue adapters and pydantic models raise; `overflow`
is an `OverflowError` of a time, and `interrupted` stands for those that are not an `Exception`,
such as the cancellation of a task. -/
inductive JobError where
  | notFound (jobId : String)
  | conflict (message : String)
  | transition (jobId : String) (currentStatus : ForecastJobStatus)
      (expectedStatuses : Finset ForecastJobStatus)
  | invalidIdentity (value : String)
  | invalidCoordinates (message : String)
  | invalidAttempt (message : String)
  | validation
  | malformedPayload
  | osError
  | overflow
  | interrupted
  deriving DecidableEq

/-! ## Validated entities -/

section Entities

variable [Runtime]

/-- A job id in canonical form. -/
structure ForecastJobIdentity where
  value : String
  canonical : Runtime.parseUuid value = some value

def ForecastJobIdentity.parse (value : String) : Except JobError ForecastJobIdentity :=
  match h : Runtime.parseUuid value with
  | none => .error (.invalidIdentity value)
  | some parsed =>
    .ok ⟨parsed, Runtime.parseUuid_of_canonical (Runtime.parseUuid_canonical h)⟩

lemma ForecastJobIdentity.parse_eq_ok {value : String} {identity : ForecastJobIdentity} :
    ForecastJobIdentity.parse value = .ok identity ↔
      Runtime.parseUuid value = some identity.value := by
  unfold ForecastJobIdentity.parse
  split
  · next h => simp [h]
  · next parsed h =>
    simp only [h, Except.ok.injEq, Option.some.injEq]
    constructor
    · rintro rfl
      rfl
    · intro hv
      cases identity
      cases hv
      rfl

end Entities

/-- Coordinates within the supported bounds. -/
structure ForecastJobCoordinates where
  latitude : PyFloat
  longitude : PyFloat
  latitude_ok : (PyFloat.le (-90) latitude && PyFloat.le latitude 90) = true
  longitude_ok : (PyFloat.le (-180) longitude && PyFloat.le longitude 180) = true

/-- The constructor `ForecastJobCoordinates(...)` with its `__post_init__` checks. -/
def ForecastJobCoordinates.make (latitude longitude : PyFloat) :
    Except JobError ForecastJobCoordinates :=
  if hlat : (PyFloat.le (-90) latitude && PyFloat.le latitude 90) = true then
    if hlon : (PyFloat.le (-180) longitude && PyFloat.le longitude 180) = true then
      .ok ⟨latitude, longitude, hlat, hlon⟩
    else .error (.invalidCoordinates "longitude must be between -180 and 180")
  else .error (.invalidCoordinates "latitude must be between -90 and 90")

/-- An attempt number with its parent: the first attempt has none, every retry has one. -/
structure ForecastJobAttempt [Runtime] where
  value : ℤ
  parentJobId : Option ForecastJobIdentity
  positive : 1 ≤ value
  parent_iff : parentJobId.isSome ↔ 1 < value

/-- The constructor `ForecastJobAttempt(...)` with its `__post_init__` checks. -/
def ForecastJobAttempt.make [Runtime] (value : ℤ) (parentJobId : Option ForecastJobIdentity) :
    Except JobError ForecastJobAttempt :=
  if h₁ : value < 1 then
    .error (.invalidAttempt "attempt must be greater than or equal to 1")
  else if h₂ : value = 1 ∧ parentJobId.isSome then
    .error (.invalidAttempt "first attempts cannot reference a parent job")
  else if h₃ : 1 < value ∧ parentJobId.isNone then
    .error (.invalidAttempt "retry attempts must reference a parent job")
  else
    .ok ⟨value, parentJobId, by omega, by
      cases parentJobId
      · simp_all
      · simp_all
        omega⟩

lemma ForecastJobCoordinates.make_ok {latitude longitude : PyFloat}
    {coordinates : ForecastJobCoordinates}
    (h : ForecastJobCoordinates.make latitude longitude = .ok coordinates) :
    coordinates.latitude = latitude ∧ coordinates.longitude = longitude := by
  unfold ForecastJobCoordinates.make at h
  split at h
  · split at h
    · cases h
      exact ⟨rfl, rfl⟩
    · cases h
  · cases h

lemma ForecastJobAttempt.make_ok [Runtime] {value : ℤ} {parent : Option ForecastJobIdentity}
    {attempt : ForecastJobAttempt} (h : ForecastJobAttempt.make value parent = .ok attempt) :
    attempt.value = value ∧ attempt.parentJobId = parent := by
  unfold ForecastJobAttempt.make at h
  split at h
  · cases h
  · split at h
    · cases h
    · split at h
      · cases h
      · cases h
        exact ⟨rfl, rfl⟩

/-! ## Policies -/

def canTransitionFrom (currentStatus : ForecastJobStatus)
    (expectedStatuses : Finset ForecastJobStatus) : Bool :=
  currentStatus ∈ expectedStatuses

def shouldMarkJobStale (updatedAt now : Time) (timeoutSeconds : ℤ) : Bool :=
  updatedAt ≤ now - timedeltaSeconds timeoutSeconds

def shouldCleanupJob (status : ForecastJobStatus) (completedAt : Option Time) (updatedAt : Time)
    (cutoff : Time) (statuses : Finset ForecastJobTerminalStatus) : Bool :=
  if status ∉ statuses.image ForecastJobTerminalStatus.toStatus then false
  else completedAt.getD updatedAt < cutoff

/-- Only terminal jobs are ever cleaned up. -/
lemma terminal_of_shouldCleanupJob {status : ForecastJobStatus} {completedAt : Option Time}
    {updatedAt cutoff : Time} {statuses : Finset ForecastJobTerminalStatus}
    (h : shouldCleanupJob status completedAt updatedAt cutoff statuses = true) :
    status ∈ terminalJobStatuses := by
  unfold shouldCleanupJob at h
  split at h
  · cases h
  · next hmem =>
    obtain ⟨t, -, rfl⟩ := Finset.mem_image.mp (not_not.mp hmem)
    exact t.toStatus_mem

end Earth2Sandbox
