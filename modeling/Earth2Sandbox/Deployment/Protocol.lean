import Earth2Sandbox.Deployment.Server
import Earth2Sandbox.Mobile.Contract
import Earth2Sandbox.Mobile.ShownForecast

/-!
# The hook and the service

The forecast hook of the mobile app with the job service that it asks.  A request of the hook is
received by the service, where a command handles it or a query answers it at once; the response is
delivered to the call that awaits it.  All of this takes its time: the other commands of the service
go on in between, and so do the other calls of the hook.  A request or its response may get lost, or
be refused on the way, and then the call goes on with an error (`fail`).
-/

namespace Earth2Sandbox

namespace Mobile

variable [Runtime]

/-- The command that handles a request. -/
def HookAwait.command : HookAwait → Option Command
  | createForecastJob latitude longitude =>
    if validCreateRequest (.finite latitude) (.finite longitude) then
      some (.submit (.finite latitude) (.finite longitude))
    else none
  | retryForecastJob link =>
    (jobPath link).bind fun path => if path.2 = "/retry" then some (.retry path.1) else none
  | _ => none

variable [FloatRepr] [TimeText] [FloatPolicy]

/-- The response to a request that no command handles. -/
def HookAwait.response (S : ForecastJobStore) (store : S.State) : HookAwait → Option ApiResponse
  | createForecastJob .. => some unprocessableEntity
  | fetchForecastJob link => (jobPath link).bind fun path =>
    if path.2 = "" then some (getResponse S store path.1) else none
  | pollForecastJob link => (jobPath link).bind fun path =>
    if path.2 = "/poll" then some (pollResponse S store path.1) else none
  | listForecastJobs limit status => some (listResponse S store limit status)
  | retryForecastJob _ | delay _ | settled .. => none

omit [Runtime] in
/-- The response to a request whose command has ended. -/
def HookAwait.responseOf (outcome : Except JobError Earth2Sandbox.ForecastJob) :
    HookAwait → ApiResponse
  | retryForecastJob _ => retryResponse outcome
  | _ => createResponse outcome

omit [Runtime] [FloatRepr] [TimeText] [FloatPolicy] in
/-- What the client makes of a response. -/
def HookAwait.read [Numerals] (response : ApiResponse) : HookAwait → Option HookInput
  | createForecastJob .. => some (.job (Mobile.createForecastJob response))
  | retryForecastJob _ => some (.job (Mobile.retryForecastJob response))
  | fetchForecastJob _ => some (.job (Mobile.fetchForecastJob response))
  | pollForecastJob _ => some (.poll (Mobile.pollForecastJob response))
  | listForecastJobs .. => some (.history (Mobile.listForecastJobs response))
  | delay _ | settled .. => none

omit [Runtime] [FloatRepr] [TimeText] [FloatPolicy] in
/-- A request that fails. -/
def HookAwait.failed (e : Rejection) : HookAwait → Option HookInput
  | createForecastJob .. | retryForecastJob _ | fetchForecastJob _ => some (.job (.error e))
  | pollForecastJob _ => some (.poll (.error e))
  | listForecastJobs .. => some (.history (.error e))
  | delay _ | settled .. => none

end Mobile

/-- A request that has been received. -/
inductive RequestState where
  /-- This task of the service handles it. -/
  | handling (task : ℕ)
  /-- Its response is on its way; a task has handled it, or none. -/
  | answered (task : Option ℕ) (response : ApiResponse)

def RequestState.task : RequestState → Option ℕ
  | handling task => some task
  | answered task _ => task

/-- The response that is on its way. -/
def RequestState.response : RequestState → Option ApiResponse
  | handling _ => none
  | answered _ response => some response

section Runtime

variable [Runtime]

/-- The hook, the service, and the requests of its calls. -/
structure Deployment (S : ForecastJobStore) where
  hook : Mobile.useForecast.Configuration
  service : JobServiceConfig S
  requests : ℕ → Option RequestState

inductive Move where
  /-- The user calls the hook. -/
  | start (call : Mobile.HookCall)
  /-- A step of the service. -/
  | serve (choice : Choice Command CallInput)
  /-- The request of call `i` is received. -/
  | receive (i : ℕ)
  /-- The command that handles it has ended. -/
  | respond (i : ℕ)
  | deliver (i : ℕ)
  | fail (i : ℕ) (e : Mobile.Rejection)
  /-- A delay of call `i` is over, or a function that it awaits has ended. -/
  | elapse (i : ℕ)

namespace Deployment

variable {S : ForecastJobStore}

/-- Nothing has happened yet. -/
def initial (store : S.State) : Deployment S :=
  ⟨Mobile.noCalls, JobServiceConfig.initial store, fun _ => none⟩

/-- Call `i` goes on with an input, and has no request any more. -/
def answer (d : Deployment S) (i : ℕ) (input : Mobile.HookInput) : Option (Deployment S) :=
  (Mobile.useForecast.step d.hook (.answer i input)).map fun hook =>
    ⟨hook, d.service, Function.update d.requests i none⟩

variable [FloatRepr] [TimeText] [FloatPolicy] [Mobile.Numerals] (config : ServiceConfig)
  (permitted : Command → Bool)

omit [Mobile.Numerals] in
/-- The request of call `i` is received: a command starts, or a query answers. -/
def receive (d : Deployment S) (i : ℕ) (request : Mobile.HookAwait) : Option (Deployment S) :=
  match request.command with
  | some command =>
    ((jobService S config permitted).step d.service (.start command)).map fun service =>
      ⟨d.hook, service, Function.update d.requests i (some (.handling d.service.tasks.length))⟩
  | none => (request.response S d.service.shared.store).map fun response =>
    { d with requests := Function.update d.requests i (some (.answered none response)) }

/-- One move; `none` when it is not available. -/
def step (d : Deployment S) : Move → Option (Deployment S)
  | .start call => (Mobile.useForecast.step d.hook (.start call)).map ({ d with hook := · })
  | .serve choice =>
    ((jobService S config permitted).step d.service choice).map ({ d with service := · })
  | .receive i =>
    match d.requests i, Mobile.useForecast.awaiting d.hook i with
    | none, some request => d.receive config permitted i request
    | _, _ => none
  | .respond i =>
    match d.requests i, Mobile.useForecast.awaiting d.hook i with
    | some (.handling task), some request => (d.service.outcome task).map fun outcome =>
      { d with requests :=
          Function.update d.requests i (some (.answered (some task) (request.responseOf outcome))) }
    | _, _ => none
  | .deliver i =>
    match d.requests i, Mobile.useForecast.awaiting d.hook i with
    | some (.answered _ response), some request => (request.read response).bind (d.answer i)
    | _, _ => none
  | .fail i e =>
    (Mobile.useForecast.awaiting d.hook i).bind fun request => (request.failed e).bind (d.answer i)
  | .elapse i => d.answer i .elapsed

/-- Everything that a move can do. -/
inductive Moves (d : Deployment S) : Deployment S → Prop
  | started (call : Mobile.HookCall) (hook : Mobile.useForecast.Configuration)
    (hstep : Mobile.useForecast.step d.hook (.start call) = some hook) :
    Moves d { d with hook := hook }
  | served (choice : Choice Command CallInput) (service : JobServiceConfig S)
    (hstep : (jobService S config permitted).step d.service choice = some service) :
    Moves d { d with service := service }
  | handled (i : ℕ) (request : Mobile.HookAwait) (command : Command) (service : JobServiceConfig S)
    (hawaiting : Mobile.useForecast.awaiting d.hook i = some request)
    (hcommand : request.command = some command)
    (hstep : (jobService S config permitted).step d.service (.start command) = some service) :
    Moves d ⟨d.hook, service,
      Function.update d.requests i (some (.handling d.service.tasks.length))⟩
  | queried (i : ℕ) (request : Mobile.HookAwait) (response : ApiResponse)
    (hawaiting : Mobile.useForecast.awaiting d.hook i = some request)
    (hcommand : request.command = none)
    (hresponse : request.response S d.service.shared.store = some response) :
    Moves d { d with requests := Function.update d.requests i (some (.answered none response)) }
  | responded (i t : ℕ) (request : Mobile.HookAwait) (outcome : Except JobError ForecastJob)
    (hrequest : d.requests i = some (.handling t))
    (hawaiting : Mobile.useForecast.awaiting d.hook i = some request)
    (houtcome : d.service.outcome t = some outcome) :
    Moves d { d with requests :=
      Function.update d.requests i (some (.answered (some t) (request.responseOf outcome))) }
  | delivered (i : ℕ) (task : Option ℕ) (request : Mobile.HookAwait) (response : ApiResponse)
    (input : Mobile.HookInput) (hrequest : d.requests i = some (.answered task response))
    (hawaiting : Mobile.useForecast.awaiting d.hook i = some request)
    (hread : request.read response = some input) (d' : Deployment S)
    (hanswer : d.answer i input = some d') : Moves d d'
  | failed (i : ℕ) (request : Mobile.HookAwait) (e : Mobile.Rejection) (input : Mobile.HookInput)
    (hfailed : request.failed e = some input) (d' : Deployment S)
    (hanswer : d.answer i input = some d') : Moves d d'
  | elapsed (i : ℕ) (d' : Deployment S) (hanswer : d.answer i .elapsed = some d') : Moves d d'

lemma moves_of_step {d d' : Deployment S} {move : Move}
    (h : d.step config permitted move = some d') : Moves config permitted d d' := by
  cases move with
  | start call =>
    change (Mobile.useForecast.step d.hook (.start call)).map ({ d with hook := · }) = some d' at h
    obtain ⟨hook, hstep, rfl⟩ := Option.map_eq_some_iff.mp h
    exact .started call hook hstep
  | serve choice =>
    obtain ⟨service, hstep, rfl⟩ := Option.map_eq_some_iff.mp h
    exact .served choice service hstep
  | receive i =>
    simp only [step] at h
    split at h
    · next request _ hawaiting =>
      unfold receive at h
      split at h
      · next command hcommand =>
        obtain ⟨service, hstep, rfl⟩ := Option.map_eq_some_iff.mp h
        exact .handled i request command service hawaiting hcommand hstep
      · next hcommand =>
        obtain ⟨response, hresponse, rfl⟩ := Option.map_eq_some_iff.mp h
        exact .queried i request response hawaiting hcommand hresponse
    · cases h
  | respond i =>
    simp only [step] at h
    split at h
    · next t request hrequest hawaiting =>
      obtain ⟨outcome, houtcome, rfl⟩ := Option.map_eq_some_iff.mp h
      exact .responded i t request outcome hrequest hawaiting houtcome
    · cases h
  | deliver i =>
    simp only [step] at h
    split at h
    · next task response request hrequest hawaiting =>
      obtain ⟨input, hread, hanswer⟩ := Option.bind_eq_some_iff.mp h
      exact .delivered i task request response input hrequest hawaiting hread d' hanswer
    · cases h
  | fail i e =>
    obtain ⟨request, -, hbind⟩ := Option.bind_eq_some_iff.mp h
    obtain ⟨input, hfailed, hanswer⟩ := Option.bind_eq_some_iff.mp hbind
    exact .failed i request e input hfailed d' hanswer
  | elapse i => exact .elapsed i d' h

/-- The state is reached from a store on which nothing has been executed. -/
inductive Reaches (init : S.State) : Deployment S → Prop
  | refl : Reaches init (initial init)
  | step {d d' : Deployment S} (move : Move) :
      Reaches init d → d.step config permitted move = some d' → Reaches init d'

/-- The state after the moves; `none` when one of them is not available. -/
def run (d : Deployment S) : List Move → Option (Deployment S)
  | [] => some d
  | move :: rest => (d.step config permitted move).bind fun d' => run d' rest

variable {config permitted}

lemma Reaches.run {init : S.State} {d d' : Deployment S} (h : Reaches config permitted init d)
    {moves : List Move} (hrun : d.run config permitted moves = some d') :
    Reaches config permitted init d' := by
  induction moves generalizing d with
  | nil =>
    obtain rfl := Option.some.inj hrun
    exact h
  | cons move rest ih =>
    obtain ⟨d₁, hstep, hrest⟩ := Option.bind_eq_some_iff.mp hrun
    exact ih (h.step move hstep) hrest

end Deployment

end Runtime

end Earth2Sandbox
