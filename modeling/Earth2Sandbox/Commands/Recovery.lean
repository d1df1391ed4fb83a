import Earth2Sandbox.Commands.Requests

/-!
# Recovery of interrupted jobs

`ForecastJobRecoveryService.recover_interrupted_jobs` goes over the active jobs in the order of
`list_active`: a stale job is failed, a running one is moved back to queued, and every job that
is queued afterwards is handed to the worker.
-/

namespace Earth2Sandbox

structure ForecastJobRecoveryReport where
  scannedCount : ℕ
  requeuedCount : ℕ
  timedOutCount : ℕ
  skippedCount : ℕ
  deriving DecidableEq

/-- The record of a running job that is to run again. -/
def recoveredJob (job : ForecastJob) (now : Time) : ForecastJob :=
  appendJobEvent
    { job with
      status := .queued
      startedAt := none
      diagnostics := some {
        provider := job.diagnostics.bind (·.provider)
        message := some "Forecast job recovered for worker retry." }
      error := none }
    .queued "Forecast job recovered for worker retry." now

/-- The record of a job without progress for `timeoutSeconds`. -/
def timedOutJob (job : ForecastJob) (occurredAt : Time) (timeoutSeconds : ℤ) : ForecastJob :=
  appendJobEvent
    { job with
      status := .failed
      completedAt := some occurredAt
      error := some ("Forecast worker timed out after " ++ toString timeoutSeconds ++
        " seconds without progress.")
      diagnostics := some {
        provider := job.diagnostics.bind (·.provider)
        message := some "Forecast worker timed out." } }
    .failed "Forecast worker timed out." occurredAt

def markTimedOut (job : ForecastJob) (occurredAt : Time) (timeoutSeconds : ℤ) :
    JobProgram Bool := do
  match ← tryUpdateIfStatus (timedOutJob job occurredAt timeoutSeconds) activeJobStatuses with
  | .error _ => return false
  | .ok _ => return true

/-- `worker.enqueue(job_id)`. -/
def workerEnqueue (jobId : String) : JobProgram Unit := .call (.enqueue jobId) .ret

/-- `should_mark_job_stale` in a command: its subtraction may raise. -/
def isJobStale (representable : Time → Bool) (updatedAt now : Time) (timeoutSeconds : ℤ) :
    JobProgram Bool := do
  let _ ← subtractTimedelta representable now (timedeltaSeconds timeoutSeconds)
  return shouldMarkJobStale updatedAt now timeoutSeconds

/-- What recovery does with one job when its age is known, and the report so far. -/
def treatJob (stale : Bool) (now : Time) (timeout : ℤ) (report : ForecastJobRecoveryReport)
    (job : ForecastJob) : JobProgram ForecastJobRecoveryReport := do
  if stale then
    if ← markTimedOut job now timeout then
      return { report with timedOutCount := report.timedOutCount + 1 }
    else
      return { report with skippedCount := report.skippedCount + 1 }
  else if job.status = .running then
    match ← tryUpdateIfStatus (recoveredJob job now) {.running} with
    | .error _ => return { report with skippedCount := report.skippedCount + 1 }
    | .ok updated =>
      workerEnqueue updated.id
      return { report with requeuedCount := report.requeuedCount + 1 }
  else
    workerEnqueue job.id
    return { report with requeuedCount := report.requeuedCount + 1 }

/-- The body of the loop over the active jobs. -/
def recoverJob (now : Time) (timeout : ℤ) (report : ForecastJobRecoveryReport)
    (job : ForecastJob) (representable : Time → Bool := fun _ => true) :
    JobProgram ForecastJobRecoveryReport := do
  let stale ← isJobStale representable job.updatedAt now timeout
  treatJob stale now timeout report job

/-- The loop over the active jobs. -/
def recoverJobs (now : Time) (timeout : ℤ) (report : ForecastJobRecoveryReport)
    (jobs : List ForecastJob) (representable : Time → Bool := fun _ => true) :
    JobProgram ForecastJobRecoveryReport :=
  match jobs with
  | [] => return report
  | job :: rest => do
    let report' ← recoverJob now timeout report job representable
    recoverJobs now timeout report' rest representable

/-- `recover_interrupted_jobs`; by default every time can be a `datetime`. -/
def recoverInterruptedJobs (defaultStaleTimeoutSeconds : ℤ) (staleTimeoutSeconds : Option ℤ)
    (representable : Time → Bool := fun _ => true) : JobProgram ForecastJobRecoveryReport := do
  let timeout := intOr staleTimeoutSeconds defaultStaleTimeoutSeconds
  let now ← clockNow
  let activeJobs ← .call .listActive .ret
  recoverJobs now timeout ⟨activeJobs.length, 0, 0, 0⟩ activeJobs representable

lemma recoverJob_of_representable {representable : Time → Bool} {now : Time} {timeout : ℤ}
    (h : representable (now - timedeltaSeconds timeout) = true) (report : ForecastJobRecoveryReport)
    (job : ForecastJob) :
    recoverJob now timeout report job representable =
      treatJob (shouldMarkJobStale job.updatedAt now timeout) now timeout report job := by
  rw [recoverJob, isJobStale, subtractTimedelta, if_pos h]
  rfl

lemma recoverJob_of_not_representable {representable : Time → Bool} {now : Time} {timeout : ℤ}
    (h : ¬ representable (now - timedeltaSeconds timeout) = true)
    (report : ForecastJobRecoveryReport) (job : ForecastJob) :
    recoverJob now timeout report job representable = .raise .overflow := by
  rw [recoverJob, isJobStale, subtractTimedelta, if_neg h]
  rfl

end Earth2Sandbox
