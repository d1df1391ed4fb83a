import Earth2Sandbox.Commands.RunAlone
import Earth2Sandbox.Lifecycle.History
import Earth2Sandbox.Queue.Adapter
import Earth2Sandbox.Workers.Drain

/-!
# The process

One life of the backend process over a job store and a queue.  At startup interrupted jobs are
recovered; then requests are served.  Recovery, and the requests that create a job, start a worker
task for every job that they hand over: `_enqueue_and_drain`, with `RunForecastJob.execute` as
`run_job`.

`process` is the system of all interleavings.  No task is cancelled, calls of the store do not fail
with I/O errors, and the generator does not repeat an id.  What the provider may answer is a
parameter: a theorem that needs its diagnostics to fit says so (`AnswersFit`).
-/

namespace Earth2Sandbox

/-! ## Tasks -/

/-- A request to the job routes. -/
inductive Request where
  | submit (latitude longitude : PyFloat)
  | retry (jobId : String)
  | cancel (jobId : String)
  | cleanup (olderThanHours : Option ℤ) (statuses : Option (List ForecastJobTerminalStatus))
  deriving DecidableEq

/-- What a task of the process awaits. -/
inductive ProcessCall (Q : ForecastQueue) where
  | job (call : JobCall)
  | queue (call : Q.Call)
  /-- The startup of the application is complete. -/
  | serve

abbrev ProcessReply (Q : ForecastQueue) : ProcessCall Q → Type
  | .job call => JobReply call
  | .queue call => Q.Reply call
  | .serve => Unit

/-- A task of the process. -/
abbrev ProcessProgram (Q : ForecastQueue) (α : Type) :=
  Program JobError (ProcessCall Q) (ProcessReply Q) α

/-- A command in the process. -/
def onJobs (Q : ForecastQueue) {α : Type} (p : JobProgram α) : ProcessProgram Q α :=
  p.embed id .job fun _ r => r

/-- An operation of the queue in the process. -/
def onQueue (Q : ForecastQueue) {α : Type} (p : Program JobError Q.Call Q.Reply α) :
    ProcessProgram Q α :=
  p.embed id .queue fun _ r => r

/-- What is left of a task. -/
inductive ProcessTask where
  | startup
  | request (request : Request)
  | enqueueAndDrain (jobId : String)
  | drainQueue
  deriving DecidableEq

section Runtime

variable [Runtime]

def createForecastJob (latitude longitude : PyFloat) : JobProgram ForecastJob := do
  let job ← submitForecastJob latitude longitude
  workerEnqueue job.id
  return job

/-- `retry_forecast_job`. -/
def retryForecastJobRoute (jobId : String) : JobProgram ForecastJob := do
  let job ← retryForecastJob jobId
  workerEnqueue job.id
  return job

/-- The handler of a request, without what it returns to the client. -/
def Request.program (config : ServiceConfig) : Request → JobProgram Unit
  | submit latitude longitude => do let _ ← createForecastJob latitude longitude
  | retry jobId => do let _ ← retryForecastJobRoute jobId
  | cancel jobId => do let _ ← cancelForecastJob jobId
  | cleanup olderThanHours statuses => do
    let _ ← cleanupForecastJobs config.defaultRetentionHours olderThanHours statuses

section Programs

variable (Q : ForecastQueue) (config : ServiceConfig)

/-- `lifespan`, up to its `yield`. -/
def lifespan : ProcessProgram Q DrainNext := do
  let _ ← onJobs Q (recoverInterruptedJobs config.defaultStaleTimeoutSeconds none)
  .call .serve fun _ => .ret .done

/-- One round of the loop of `_drain_queue`; `except Exception` does not catch a cancellation. -/
def drainQueueOf : ProcessProgram Q DrainNext := do
  match ← onQueue Q Q.dequeue with
  | none => return .done
  | some item =>
    match ← (onJobs Q (runForecastJob config.diagnosticMethod item.jobId)).attempt with
    | .ok _ =>
      onQueue Q (Q.markCompleted item)
      return .again
    | .error .interrupted => .raise .interrupted
    | .error e =>
      onQueue Q (Q.markFailed item false)
      .raise e

/-- `_enqueue_and_drain`. -/
def enqueueAndDrainOf (jobId : String) : ProcessProgram Q DrainNext := do
  let result ← onQueue Q (Q.enqueue jobId defaultForecastJobPriority (some jobId))
  if result.enqueued then drainQueueOf Q config else return .done

/-- The program of a task. -/
def ProcessTask.program : ProcessTask → ProcessProgram Q DrainNext
  | startup => lifespan Q config
  | request r => do
    onJobs Q (r.program config)
    return .done
  | enqueueAndDrain jobId => enqueueAndDrainOf Q config jobId
  | drainQueue => drainQueueOf Q config

end Programs

/-! ## Interleavings -/

variable (S : ForecastJobStore) (Q : ForecastQueue)

/-- What the tasks share. -/
structure ProcessState where
  store : S.State
  /-- The ids that have been stored at some time. -/
  issued : String → Bool
  queue : Q.State
  serving : Bool

/-- What the environment contributes to a call. -/
structure ProcessInput where
  call : CallInput
  queue : Q.Input

variable {S Q}

/-- What the provider may answer. -/
abbrev ProviderAnswers := ProviderOutcome ForecastProviderResult → Bool

/-- Whatever the provider may answer, its diagnostics fit: validation does not fail. -/
def AnswersFit (config : ServiceConfig) (answers : ProviderAnswers) : Prop :=
  ∀ outcome, answers outcome = true → DiagnosticsFit config.diagnosticMethod outcome

instance (diagnosticMethod : Bool) (outcome : ProviderOutcome ForecastProviderResult) :
    Decidable (DiagnosticsFit diagnosticMethod outcome) :=
  match outcome with
  | .returned providerResult =>
    inferInstanceAs (Decidable (diagnosticMethod = true → (ForecastJobDiagnostics.ofDict
      (providerResult.diagnostics.override "message" (.str "Forecast summary is ready."))).isSome))
  | .unavailable message diagnostics =>
    inferInstanceAs (Decidable ((ForecastJobDiagnostics.ofDict
      ((unavailableDiagnostics message diagnostics).override "message"
        (diagnosticMessage (unavailableDiagnostics message diagnostics)))).isSome))
  | .failed _ => .isTrue trivial
  | .interrupted => .isFalse not_false

/-- Every answer with diagnostics that fit. -/
def fittingAnswers (config : ServiceConfig) : ProviderAnswers :=
  fun outcome => decide (DiagnosticsFit config.diagnosticMethod outcome)

lemma answersFit_fittingAnswers (config : ServiceConfig) :
    AnswersFit config (fittingAnswers config) :=
  fun _ h => of_decide_eq_true h

/-- A call of a command. -/
def ProcessState.performJob (answers : ProviderAnswers) (s : ProcessState S Q) (c : JobCall)
    (input : CallInput) : Option (JobReply c × ProcessState S Q) :=
  let q := performStoreCall S s.store input c
  if freshReply s.issued c q.1 ∧ (c.callsProvider = true → answers input.outcome = true) then
    some (q.1, { s with store := q.2, issued := markIssued s.issued c q.1 })
  else none

/-- A call of a task. -/
def ProcessState.perform (answers : ProviderAnswers) (s : ProcessState S Q) :
    (c : ProcessCall Q) → ProcessInput Q → Option (ProcessReply Q c × ProcessState S Q)
  | .job call, input => s.performJob answers call input.call
  | .queue call, input =>
    some ((Q.perform s.queue input.queue call).1,
      { s with queue := (Q.perform s.queue input.queue call).2 })
  | .serve, _ => some ((), { s with serving := true })

/-- The tasks that a call of a command starts. -/
def workersOf : JobCall → List ProcessTask
  | .enqueue jobId => [.enqueueAndDrain jobId]
  | _ => []

variable (S Q) in
/-- All interleavings of one process that serves the permitted requests, with a provider that gives
these answers. -/
def process (config : ServiceConfig) (permitted : Request → Bool) (answers : ProviderAnswers) :
    System (ProcessState S Q) ProcessTask (ProcessInput Q) JobError (ProcessCall Q)
      (ProcessReply Q) DrainNext where
  body := fun t => t.program Q config
  perform _ _ s c input := s.perform answers c input
  spawns c _ :=
    match c with
    | .job call => workersOf call
    | _ => []
  admits s t :=
    match t with
    | .request r => s.serving = true ∧ permitted r = true
    | _ => False
  admitsDecidable s t :=
    match t with
    | .request r => inferInstanceAs (Decidable (s.serving = true ∧ permitted r = true))
    | .startup | .enqueueAndDrain _ | .drainQueue => .isFalse not_false
  resumes
    | .again => some .drainQueue
    | .done => none

/-- A state of the process. -/
abbrev ProcessConfig (S : ForecastJobStore) (Q : ForecastQueue) :=
  Config (ProcessState S Q) ProcessTask JobError (ProcessCall Q) (ProcessReply Q) DrainNext

/-- The process has just been started, over what is in the store and in the queue. -/
def ProcessState.started (config : ServiceConfig) (store : S.State) (queue : Q.State) :
    ProcessConfig S Q :=
  ⟨⟨store, fun k => (S.records store k).isSome, queue, false⟩, [⟨.startup, lifespan Q config⟩]⟩

end Runtime

end Earth2Sandbox
