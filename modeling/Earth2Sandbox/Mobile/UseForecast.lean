import Earth2Sandbox.Domain.Jobs
import Earth2Sandbox.Framework.Cooperative
import Mathlib.Data.Rat.Defs

/-!
# The forecast hook

`apps/mobile/src/hooks/useForecast.ts`: `refreshForecast`, `retryJob` and the functions they call,
as coroutines over the hook's state; `cancelJob` is left out.  What the requests of
`api/forecast.ts` answer comes from outside.  Awaiting an asynchronous function takes a turn of its
own after that function has ended (`awaitCall`).
-/

namespace Earth2Sandbox

namespace Mobile

/-! ## Values -/

/-- A number of the language. -/
inductive JsNumber where
  | finite (value : ℚ)
  | nan
  | infinity (negative : Bool)
  deriving DecidableEq

/-- What is thrown: an `Error`, or anything else. -/
inductive Rejection where
  | error (message : String)
  | other
  deriving DecidableEq

/-- `error instanceof Error ? error.message : fallback`. -/
def Rejection.message (fallback : String) : Rejection → String
  | error message => message
  | other => fallback

/-- What the hook reads of a `ForecastSummary`: the lead times of its timeline.  `content` stands
for the rest. -/
structure ForecastSummary where
  leadTimeHours : List ℚ
  content : String
  deriving DecidableEq

structure ForecastJobEvent where
  status : ForecastJobStatus
  message : String
  occurredAt : String
  deriving DecidableEq

/-- What the hook reads of a `ForecastJob`. -/
structure ForecastJob where
  id : String
  status : ForecastJobStatus
  forecast : Option ForecastSummary
  events : List ForecastJobEvent
  updatedAt : String
  error : Option String
  links : List (String × String)
  deriving DecidableEq

/-- What the hook reads of a `ForecastJobSummary`, or of a job to retry. -/
structure ForecastJobSummary where
  id : String
  links : List (String × String)
  deriving DecidableEq

structure ForecastJobPollResponse where
  id : String
  status : ForecastJobStatus
  terminal : Bool
  forecastReady : Bool
  updatedAt : String
  retryAfterSeconds : Option ℚ
  eventCount : ℕ
  latestEvent : Option ForecastJobEvent
  links : List (String × String)
  deriving DecidableEq

def maxJobPollAttempts : ℕ := 60

def defaultJobPollDelayMs : ℚ := 2000

/-- `getJobLink`: a missing link and an empty one are errors. -/
def getJobLink (links : List (String × String)) (key : String) : Except Rejection String :=
  match links.lookup key with
  | some link =>
    if link = "" then .error (.error ("Forecast job response is missing the " ++ key ++ " link."))
    else .ok link
  | none => .error (.error ("Forecast job response is missing the " ++ key ++ " link."))

def shortJobId (jobId : String) : String := "Job " ++ String.ofList (jobId.toList.take 8)

def jobToPollResponse (job : ForecastJob) : ForecastJobPollResponse where
  id := job.id
  status := job.status
  terminal := job.status ∈ [.succeeded, .failed, .cancelled]
  forecastReady := job.forecast.isSome
  updatedAt := job.updatedAt
  retryAfterSeconds := if job.status = .queued ∨ job.status = .running then some 2 else none
  eventCount := job.events.length
  latestEvent := job.events.getLast?
  links := job.links

/-! ## The state of the hook -/

/-- The state that the modelled functions set. -/
structure HookCells where
  forecast : Option ForecastSummary := none
  forecastJob : Option ForecastJob := none
  forecastJobPoll : Option ForecastJobPollResponse := none
  jobHistory : List ForecastJobSummary := []
  isLoading : Bool := false
  isJobPolling : Bool := false
  isJobHistoryLoading : Bool := false
  errorMessage : Option String := none
  jobHistoryErrorMessage : Option String := none
  jobActionMessage : Option String := none
  selectedLeadHour : Option ℚ := none
  deriving DecidableEq

/-- The state, the ref `activeJobId`, and which task has stored which job in it, the latest
first. -/
structure Hook where
  cells : HookCells := {}
  activeJobId : Option String := none
  stored : List (ℕ × String) := []
  deriving DecidableEq

/-- What is done at once. -/
inductive HookOp where
  /-- A state setter. -/
  | modify (f : HookCells → HookCells)
  | readActiveJobId
  | setActiveJobId (jobId : Option String)
  /-- The request of `refreshJobHistory` is sent, and nobody awaits the function. -/
  | startJobHistory (status : Option ForecastJobStatus)

abbrev HookReply : HookOp → Type
  | .readActiveJobId => Option String
  | .modify _ | .setActiveJobId _ | .startJobHistory _ => Unit

/-- The asynchronous functions that others await. -/
inductive AsyncFunction where
  | trackForecastJob
  | waitForForecastJob
  deriving DecidableEq

inductive HookAwait where
  | createForecastJob (latitude longitude : ℚ)
  | retryForecastJob (link : String)
  | pollForecastJob (link : String)
  | fetchForecastJob (link : String)
  | listForecastJobs (limit : ℕ) (status : Option ForecastJobStatus)
  | delay (milliseconds : ℚ)
  /-- The function has ended. -/
  | settled (name : AsyncFunction) (rejected : Bool)
  deriving DecidableEq

abbrev HookAnswer : HookAwait → Type
  | .createForecastJob .. | .retryForecastJob _ | .fetchForecastJob _ =>
    Except Rejection ForecastJob
  | .pollForecastJob _ => Except Rejection ForecastJobPollResponse
  | .listForecastJobs .. => Except Rejection (List ForecastJobSummary)
  | .delay _ | .settled .. => Unit

abbrev HookProgram (α : Type) := Coroutine Rejection HookOp HookAwait HookReply HookAnswer α

/-! ## Setters -/

/-- A state setter. -/
def setState (f : HookCells → HookCells) : HookProgram Unit := .call (.inl (.modify f)) .ret

def setForecast (forecast : Option ForecastSummary) : HookProgram Unit :=
  setState fun cells => { cells with forecast := forecast }

def setForecastJob (job : Option ForecastJob) : HookProgram Unit :=
  setState fun cells => { cells with forecastJob := job }

def setForecastJobPoll (poll : Option ForecastJobPollResponse) : HookProgram Unit :=
  setState fun cells => { cells with forecastJobPoll := poll }

def setJobHistory (jobs : List ForecastJobSummary) : HookProgram Unit :=
  setState fun cells => { cells with jobHistory := jobs }

def setIsLoading (isLoading : Bool) : HookProgram Unit :=
  setState fun cells => { cells with isLoading := isLoading }

def setIsJobPolling (isJobPolling : Bool) : HookProgram Unit :=
  setState fun cells => { cells with isJobPolling := isJobPolling }

def setIsJobHistoryLoading (isJobHistoryLoading : Bool) : HookProgram Unit :=
  setState fun cells => { cells with isJobHistoryLoading := isJobHistoryLoading }

def setErrorMessage (message : Option String) : HookProgram Unit :=
  setState fun cells => { cells with errorMessage := message }

def setJobHistoryErrorMessage (message : Option String) : HookProgram Unit :=
  setState fun cells => { cells with jobHistoryErrorMessage := message }

def setJobActionMessage (message : Option String) : HookProgram Unit :=
  setState fun cells => { cells with jobActionMessage := message }

def setSelectedLeadHour (leadHour : Option ℚ) : HookProgram Unit :=
  setState fun cells => { cells with selectedLeadHour := leadHour }

/-- Reading `activeJobId.current`. -/
def readActiveJobId : HookProgram (Option String) := .call (.inl .readActiveJobId) .ret

/-- Setting `activeJobId.current`. -/
def setActiveJobId (jobId : Option String) : HookProgram Unit :=
  .call (.inl (.setActiveJobId jobId)) .ret

/-! ## Functions -/

/-- An await. -/
def await (a : HookAwait) : HookProgram (HookAnswer a) := .call (.inr a) .ret

/-- `refreshJobHistory` up to its await; `none` is the filter `all`. -/
def refreshJobHistory (filter : Option ForecastJobStatus) : HookProgram Unit := do
  setIsJobHistoryLoading true
  setJobHistoryErrorMessage none
  .call (.inl (.startJobHistory filter)) .ret

/-- `refreshJobHistory` from its await on. -/
def awaitJobHistory (filter : Option ForecastJobStatus) : HookProgram Unit := do
  match ← await (.listForecastJobs 20 filter) with
  | .ok jobs => setJobHistory jobs
  | .error e => setJobHistoryErrorMessage (some (e.message "Forecast job history failed."))
  setIsJobHistoryLoading false

/-- The loop of `waitForForecastJob`, with the attempts left. -/
def pollUntilTerminal (pollLink : String) :
    ℕ → ForecastJobPollResponse → HookProgram ForecastJobPollResponse
  | 0, latestPoll => return latestPoll
  | attempts + 1, latestPoll =>
    if latestPoll.terminal then return latestPoll
    else do
      let retryAfterSeconds := latestPoll.retryAfterSeconds.getD (defaultJobPollDelayMs / 1000)
      await (.delay (max 250 (retryAfterSeconds * 1000)))
      let reply ← await (.pollForecastJob pollLink)
      pollUntilTerminal pollLink attempts (← .ofExcept reply)

def waitForForecastJob (job : ForecastJob) : HookProgram ForecastJobPollResponse := do
  let pollLink ← .ofExcept (getJobLink job.links "poll")
  let reply ← await (.pollForecastJob pollLink)
  let latestPoll ← pollUntilTerminal pollLink maxJobPollAttempts (← .ofExcept reply)
  if latestPoll.terminal then return latestPoll
  else .raise (.error "Forecast job did not finish before the polling timeout.")

/-- `await` of an asynchronous function: the caller goes on in a turn of its own. -/
def awaitCall {α : Type} (name : AsyncFunction) (program : HookProgram α) :
    HookProgram (Except Rejection α) := do
  let outcome ← program.attempt
  await (.settled name !outcome.isOk)
  return outcome

def trackForecastJob (filter : Option ForecastJobStatus) (job : ForecastJob) :
    HookProgram Unit := do
  setActiveJobId (some job.id)
  setForecastJob (some job)
  setForecastJobPoll (some (jobToPollResponse job))
  refreshJobHistory filter
  let finalPoll ← .ofExcept (← awaitCall .waitForForecastJob (waitForForecastJob job))
  if (← readActiveJobId) ≠ some job.id then return
  setForecastJobPoll (some finalPoll)
  let reply ← await (.fetchForecastJob (← .ofExcept (getJobLink job.links "self")))
  let completedJob ← .ofExcept reply
  if (← readActiveJobId) ≠ some job.id then return
  setForecastJob (some completedJob)
  refreshJobHistory filter
  match completedJob.status, completedJob.forecast with
  | .succeeded, some forecast =>
    setForecast (some forecast)
    setSelectedLeadHour forecast.leadTimeHours.head?
  | status, _ =>
    .raise (.error (completedJob.error.getD ("Forecast job " ++ status.text ++ ".")))

/-- The `catch` and `finally` blocks of `refreshForecast` and `retryJob`, which differ in one text.
Without a job of its own a call counts as the current one. -/
def concludeRequest (fallback : String) (startedJobId : Option String)
    (outcome : Except Rejection Unit) : HookProgram Unit := do
  match outcome with
  | .ok () => pure ()
  | .error e =>
    setForecast none
    setErrorMessage (some (e.message fallback))
    setSelectedLeadHour none
  let activeJobId ← readActiveJobId
  if startedJobId = none ∨ activeJobId = startedJobId then
    setActiveJobId none
    setIsLoading false
    setIsJobPolling false

/-- `refreshForecast`, with its coordinates as numbers. -/
def refreshForecast (filter : Option ForecastJobStatus) :
    JsNumber → JsNumber → HookProgram Unit
  | .finite latitude, .finite longitude => do
    setIsLoading true
    setIsJobPolling true
    setErrorMessage none
    setJobActionMessage none
    match ← await (.createForecastJob latitude longitude) with
    | .error e => concludeRequest "Forecast request failed." none (.error e)
    | .ok job =>
      let outcome ← awaitCall .trackForecastJob (trackForecastJob filter job)
      concludeRequest "Forecast request failed." (some job.id) outcome
  | _, _ => setErrorMessage (some "Enter numeric coordinates.")

def retryJob (filter : Option ForecastJobStatus) (job : ForecastJobSummary) :
    HookProgram Unit := do
  setIsLoading true
  setIsJobPolling true
  setErrorMessage none
  setJobActionMessage none
  setJobHistoryErrorMessage none
  match getJobLink job.links "retry" with
  | .error e => concludeRequest "Forecast job retry failed." none (.error e)
  | .ok link =>
    match ← await (.retryForecastJob link) with
    | .error e => concludeRequest "Forecast job retry failed." none (.error e)
    | .ok retry =>
      setJobActionMessage (some ("Retry accepted for " ++ shortJobId job.id ++ "."))
      let outcome ← awaitCall .trackForecastJob (trackForecastJob filter retry)
      concludeRequest "Forecast job retry failed." (some retry.id) outcome

/-! ## The hook and its server -/

/-- The calls; `jobHistory` is the rest of a `refreshJobHistory` that nobody awaits.  A call closes
over the filter of the job history. -/
inductive HookCall where
  | refreshForecast (filter : Option ForecastJobStatus) (latitude longitude : JsNumber)
  | retryJob (filter : Option ForecastJobStatus) (job : ForecastJobSummary)
  | jobHistory (filter : Option ForecastJobStatus)

def HookCall.body : HookCall → HookProgram Unit
  | refreshForecast filter latitude longitude => Mobile.refreshForecast filter latitude longitude
  | retryJob filter job => Mobile.retryJob filter job
  | jobHistory filter => awaitJobHistory filter

/-- What comes from outside. -/
inductive HookInput where
  | job (reply : Except Rejection ForecastJob)
  | poll (reply : Except Rejection ForecastJobPollResponse)
  | history (reply : Except Rejection (List ForecastJobSummary))
  | elapsed

/-- One operation of task `i`. -/
def HookOp.perform (i : ℕ) : (o : HookOp) → Hook → HookReply o × Hook
  | modify f, hook => ((), { hook with cells := f hook.cells })
  | readActiveJobId, hook => (hook.activeJobId, hook)
  | setActiveJobId none, hook => ((), { hook with activeJobId := none })
  | setActiveJobId (some jobId), hook =>
    ((), { hook with activeJobId := some jobId, stored := (i, jobId) :: hook.stored })
  | startJobHistory _, hook => ((), hook)

/-- A created job has an id of its own.  What is shown depends on this; that the hook comes to rest
(`Mobile/Idle.lean`) does not. -/
def newJob (hook : Hook) : Except Rejection ForecastJob → Option (Except Rejection ForecastJob)
  | .ok job => if job.id ∈ hook.stored.map (·.2) then none else some (.ok job)
  | .error e => some (.error e)

def HookAwait.respond (hook : Hook) : (a : HookAwait) → HookInput → Option (HookAnswer a)
  | createForecastJob .., .job reply | retryForecastJob _, .job reply => newJob hook reply
  | fetchForecastJob _, .job reply => some reply
  | pollForecastJob _, .poll reply => some reply
  | listForecastJobs .., .history reply => some reply
  | delay _, .elapsed | settled .., .elapsed => some ()
  | _, _ => none

/-- Any number of calls of one hook. -/
def useForecast : CoSystem Hook HookCall HookInput Rejection HookOp HookAwait HookReply HookAnswer
    Unit where
  body := HookCall.body
  perform := HookOp.perform
  spawns
    | .startJobHistory filter => [.jobHistory filter]
    | _ => []
  respond := HookAwait.respond

end Mobile

end Earth2Sandbox
