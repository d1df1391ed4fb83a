import Earth2Sandbox.Commands.Calls

/-!
# The requests of a client

`SubmitForecastJob`, `CancelForecastJob`, `RetryForecastJob` and `CleanupForecastJobs`.
-/

namespace Earth2Sandbox

variable [Runtime]

/-- `SubmitForecastJob.execute`. -/
def submitForecastJob (latitude longitude : PyFloat) : JobProgram ForecastJob := do
  let job ← createJob latitude longitude none 1
  incrementForecastJobEvent "accepted"
  return withJobLinks job

omit [Runtime] in
/-- The record of a cancelled job. -/
def cancelledJob (job : ForecastJob) (now : Time) : ForecastJob :=
  appendJobEvent
    { job with
      status := .cancelled
      completedAt := some now
      diagnostics := some {
        provider := job.diagnostics.bind (·.provider)
        message := some "Forecast job cancelled by request." }
      error := none }
    .cancelled "Forecast job cancelled by request." now

/-- `CancelForecastJob.execute`. -/
def cancelForecastJob (jobId : String) : JobProgram ForecastJob := do
  let job ← getJob jobId
  if job.status ∈ terminalJobStatuses then
    .raise (.conflict ("Cannot cancel a " ++ job.status.text ++ " forecast job."))
  else
    let now ← clockNow
    match ← tryUpdateIfStatus (cancelledJob job now) activeJobStatuses with
    | .error currentStatus =>
      .raise (.conflict ("Cannot cancel a " ++ currentStatus.text ++ " forecast job."))
    | .ok updated =>
      incrementForecastJobEvent "cancelled"
      return withJobLinks updated

/-- `RetryForecastJob.execute`. -/
def retryForecastJob (jobId : String) : JobProgram ForecastJob := do
  let source ← getJob jobId
  if source.status ∉ terminalJobStatuses then
    .raise (.conflict ("Cannot retry a " ++ source.status.text ++ " forecast job."))
  else
    let retry ← createJob source.latitude source.longitude (some source.id) (source.attempt + 1)
    incrementForecastJobEvent "retry_accepted"
    return withJobLinks retry

omit [Runtime] in
/-- `x or default` of an optional integer, which treats zero as absent. -/
def intOr (x : Option ℤ) (default : ℤ) : ℤ :=
  match x with
  | none => default
  | some n => if n = 0 then default else n

omit [Runtime] in
/-- `set(statuses or sorted(TERMINAL_JOB_STATUSES))`. -/
def cleanupStatuses : Option (List ForecastJobTerminalStatus) → Finset ForecastJobTerminalStatus
  | none | some [] => {.succeeded, .failed, .cancelled}
  | some (s :: rest) => (s :: rest).toFinset

omit [Runtime] in
/-- `sorted(cleanup_statuses)`, in alphabetical order. -/
def sortedStatuses (statuses : Finset ForecastJobTerminalStatus) :
    List ForecastJobTerminalStatus :=
  [.cancelled, .failed, .succeeded].filter (· ∈ statuses)

omit [Runtime] in
/-- `CleanupForecastJobs.execute`; by default every time can be a `datetime`. -/
def cleanupForecastJobs (defaultRetentionHours : ℤ) (olderThanHours : Option ℤ)
    (statuses : Option (List ForecastJobTerminalStatus))
    (representable : Time → Bool := fun _ => true) : JobProgram ForecastJobCleanupResponse := do
  let retentionHours := intOr olderThanHours defaultRetentionHours
  let now ← clockNow
  let cutoff ← subtractTimedelta representable now (timedeltaHours retentionHours)
  let deletedCount ← .call (.deleteOlderThan cutoff (cleanupStatuses statuses)) .ret
  return ⟨deletedCount, cutoff, sortedStatuses (cleanupStatuses statuses)⟩

end Earth2Sandbox
