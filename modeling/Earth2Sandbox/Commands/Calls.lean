import Earth2Sandbox.Ports.JobStore

/-!
# The calls of the application services

A command is a `Program` over the calls below: the methods of the job store port, a reading of
the clock, the two provider methods, an increment of a job counter and the hand-over of a job
id to a worker.  A store method reads the clock itself where it needs the time, so such a
reading belongs to the call.

`performStoreCall` is what the environment answers when the store is a `ForecastJobStore`; the
provider's outcome, the clock and the id generator come from the `CallInput`.
-/

namespace Earth2Sandbox

structure ForecastProviderResult where
  summary : ForecastSummary
  diagnostics : PyDict
  deriving DecidableEq

/-- How a provider call ends: with a result, with a `ForecastProviderUnavailableError`, with
another `Exception`, or with an exception that no handler of the application catches. -/
inductive ProviderOutcome (α : Type) where
  | returned (result : α)
  | unavailable (message : String) (diagnostics : Option PyDict)
  | failed (message : String)
  | interrupted
  deriving DecidableEq

/-- The outcome with its result converted. -/
def ProviderOutcome.map {α β : Type} (f : α → β) : ProviderOutcome α → ProviderOutcome β
  | returned result => returned (f result)
  | unavailable message diagnostics => unavailable message diagnostics
  | failed message => failed message
  | interrupted => interrupted

/-- The attribute `diagnostics` of a `ForecastProviderUnavailableError`:
`diagnostics or {"message": message}`. -/
def unavailableDiagnostics (message : String) : Option PyDict → PyDict
  | none | some [] => [("message", .str message)]
  | some (entry :: rest) => entry :: rest

/-- The calls that leave a command. -/
inductive JobCall where
  | create (latitude longitude : PyFloat) (parentJobId : Option String) (attempt : ℤ)
  | get (jobId : String)
  | updateIfStatus (job : ForecastJob) (expectedStatuses : Finset ForecastJobStatus)
  | listActive
  | deleteOlderThan (cutoff : Time) (statuses : Finset ForecastJobTerminalStatus)
  | now
  | getPointForecastWithDiagnostics (latitude longitude : PyFloat)
  | getPointForecast (latitude longitude : PyFloat)
  | incrementForecastJobEvent (event : String)
  | enqueue (jobId : String)
  deriving DecidableEq

/-- The reply to a call. -/
abbrev JobReply : JobCall → Type
  | .create .. | .get _ | .updateIfStatus .. => Except JobError ForecastJob
  | .listActive => List ForecastJob
  | .deleteOlderThan .. => ℕ
  | .now => Time
  | .getPointForecastWithDiagnostics .. => ProviderOutcome ForecastProviderResult
  | .getPointForecast .. => ProviderOutcome ForecastSummary
  | .incrementForecastJobEvent _ | .enqueue _ => Unit

/-- A command or a part of one. -/
abbrev JobProgram (α : Type) := Program JobError JobCall JobReply α

/-- A call of one of the two provider methods. -/
def JobCall.callsProvider : JobCall → Bool
  | .getPointForecastWithDiagnostics .. | .getPointForecast .. => true
  | _ => false

/-! ## The calls as programs -/

/-- `await self.store.create(...)`. -/
def createJob (latitude longitude : PyFloat) (parentJobId : Option String) (attempt : ℤ) :
    JobProgram ForecastJob :=
  .call (.create latitude longitude parentJobId attempt) Program.ofExcept

/-- `await self.store.get(job_id)`. -/
def getJob (jobId : String) : JobProgram ForecastJob :=
  .call (.get jobId) Program.ofExcept

/-- `await self.store.update_if_status(job, expected_statuses=...)` under an
`except ForecastJobTransitionError`: the current status that the error reports is a value,
every other exception is raised. -/
def tryUpdateIfStatus (job : ForecastJob) (expectedStatuses : Finset ForecastJobStatus) :
    JobProgram (Except ForecastJobStatus ForecastJob) :=
  .call (.updateIfStatus job expectedStatuses) fun
    | .ok updated => .ret (.ok updated)
    | .error (.transition _ currentStatus _) => .ret (.error currentStatus)
    | .error e => .raise e

/-- `self.clock.now()`. -/
def clockNow : JobProgram Time := .call .now .ret

/-- `now - delta`, which raises an `OverflowError` when no `datetime` is that time. -/
def subtractTimedelta (representable : Time → Bool) (now : Time) (delta : ℤ) : JobProgram Time :=
  if representable (now - delta) then .ret (now - delta) else .raise .overflow

/-- `increment_forecast_job_event(event)`. -/
def incrementForecastJobEvent (event : String) : JobProgram Unit :=
  .call (.incrementForecastJobEvent event) .ret

/-- `ForecastJobDiagnostics(**d)` in a command. -/
def validateDiagnostics [Runtime] (d : PyDict) : JobProgram ForecastJobDiagnostics :=
  match ForecastJobDiagnostics.ofDict d with
  | none => .raise .validation
  | some diagnostics => .ret diagnostics

/-! ## What the environment answers -/

/-- What the environment contributes to a call: a reading of the clock, a generated id and the
outcome of the provider, as far as the call needs them. -/
structure CallInput where
  clock : Time := 0
  newId : String := ""
  outcome : ProviderOutcome ForecastProviderResult := .interrupted

/-- A call answered by the store `S` in state `store` and by the input. -/
def performStoreCall [Runtime] (S : ForecastJobStore) (store : S.State) (input : CallInput) :
    (c : JobCall) → JobReply c × S.State
  | .create latitude longitude parentJobId attempt =>
    S.create store latitude longitude parentJobId attempt input.clock input.newId
  | .get jobId => (S.get store jobId, store)
  | .updateIfStatus job expectedStatuses =>
    S.updateIfStatus store job expectedStatuses input.clock
  | .listActive => (S.listActive store, store)
  | .deleteOlderThan cutoff statuses => S.deleteOlderThan store cutoff statuses
  | .now => (input.clock, store)
  | .getPointForecastWithDiagnostics .. => (input.outcome, store)
  | .getPointForecast .. => (input.outcome.map (·.summary), store)
  | .incrementForecastJobEvent _ => ((), store)
  | .enqueue _ => ((), store)

end Earth2Sandbox
