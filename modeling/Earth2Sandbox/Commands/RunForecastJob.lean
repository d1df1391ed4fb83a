import Earth2Sandbox.Commands.Calls

/-!
# Running a forecast job

`RunForecastJob.execute` claims a queued job by moving it to running, asks the provider, and
completes the job.  The records it writes are functions of the snapshot it has read; the
writes themselves are guarded by the expected status.
-/

namespace Earth2Sandbox

/-! ## The records written -/

/-- The record that claims a queued job. -/
def runningJob (job : ForecastJob) (now : Time) : ForecastJob :=
  appendJobEvent
    { job with
      status := .running
      startedAt := some now
      diagnostics := some { message := some "Forecast provider request is running." }
      error := none }
    .running "Forecast provider request started." now

/-- The record of a job whose provider has answered. -/
def succeededJob (current : ForecastJob) (summary : ForecastSummary)
    (diagnostics : ForecastJobDiagnostics) (completed : Time) : ForecastJob :=
  appendJobEvent
    { current with
      status := .succeeded
      completedAt := some completed
      forecast := some summary
      diagnostics := some diagnostics
      error := none }
    .succeeded "Forecast summary is ready." completed

/-- The record of a job whose provider has failed. -/
def failedJob (job : ForecastJob) (error : String) (diagnostics : ForecastJobDiagnostics)
    (failedAt : Time) : ForecastJob :=
  appendJobEvent
    { job with
      status := .failed
      completedAt := some failedAt
      error := some error
      diagnostics := some diagnostics }
    .failed "Forecast job failed." failedAt

/-- `diagnostic_payload.get("message") or "Forecast job failed."`. -/
def diagnosticMessage (payload : PyDict) : PyValue :=
  match payload.lookup "message" with
  | none => .str "Forecast job failed."
  | some message => if message.truthy then message else .str "Forecast job failed."

/-! ## The command -/

/-- `RunForecastJob._get_provider_result`; `diagnosticMethod` says whether the provider has a
method `get_point_forecast_with_diagnostics`. -/
def getProviderResult (diagnosticMethod : Bool) (job : ForecastJob) :
    JobProgram (ProviderOutcome ForecastProviderResult) :=
  if diagnosticMethod then
    .call (.getPointForecastWithDiagnostics job.latitude job.longitude) .ret
  else
    .call (.getPointForecast job.latitude job.longitude) fun outcome =>
      .ret (outcome.map fun summary =>
        ⟨summary, [("provider", .str summary.provider.text),
          ("message", .str "Provider did not return extended job diagnostics.")]⟩)

section Runtime

variable [Runtime]

/-- `RunForecastJob._mark_failed`. -/
def markJobFailed (jobId error : String) (diagnostics : Option PyDict) : JobProgram Unit := do
  let job ← getJob jobId
  if job.status ≠ .running then return
  let failedAt ← clockNow
  let diagnosticPayload := diagnostics.getD []
  let validated ← validateDiagnostics
    (diagnosticPayload.override "message" (diagnosticMessage diagnosticPayload))
  match ← tryUpdateIfStatus (failedJob job error validated failedAt) {.running} with
  | .error _ => return
  | .ok _ => incrementForecastJobEvent "failed"

/-- The `else` branch of `RunForecastJob.execute`: the provider has returned. -/
def markJobSucceeded (jobId : String) (providerResult : ForecastProviderResult) :
    JobProgram Unit := do
  let completed ← clockNow
  let current ← getJob jobId
  if current.status ≠ .running then return
  let validated ← validateDiagnostics
    (providerResult.diagnostics.override "message" (.str "Forecast summary is ready."))
  match ← tryUpdateIfStatus (succeededJob current providerResult.summary validated completed)
      {.running} with
  | .error _ => return
  | .ok _ => incrementForecastJobEvent "succeeded"

/-- What `RunForecastJob.execute` does once the provider call has ended. -/
def finishJob (jobId : String) : ProviderOutcome ForecastProviderResult → JobProgram Unit
  | .returned providerResult => markJobSucceeded jobId providerResult
  | .unavailable message diagnostics =>
    markJobFailed jobId message (some (unavailableDiagnostics message diagnostics))
  | .failed message => markJobFailed jobId ("Unexpected forecast job error: " ++ message) none
  | .interrupted => .raise .interrupted

/-- `RunForecastJob.execute`. -/
def runForecastJob (diagnosticMethod : Bool) (jobId : String) : JobProgram Unit := do
  let job ← getJob jobId
  if job.status ≠ .queued then return
  let now ← clockNow
  match ← tryUpdateIfStatus (runningJob job now) {.queued} with
  | .error _ => return
  | .ok _ =>
    incrementForecastJobEvent "started"
    let outcome ← getProviderResult diagnosticMethod job
    finishJob jobId outcome

end Runtime

end Earth2Sandbox
