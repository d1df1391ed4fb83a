import Earth2Sandbox.Deployment.Protocol
import Earth2Sandbox.Lifecycle.Executions

/-!
# The shown forecast is the one that was asked for

Whatever goes on in the service meanwhile, and however the calls of the hook interleave: a forecast
that the hook shows was made for what one of its calls has asked for (`forecast_shown`).  The call
has created a job for it, the service has stored a record of success under that job, and this record
is not changed any more.  On the way, the hook relies on new jobs having ids of their own; the
service sees to that, and so every response can be delivered (`response_delivered`).
-/

namespace Earth2Sandbox

section Runtime

variable [Runtime]

/-- The call asks for a job with these coordinates and this parent. -/
inductive Mobile.HookCall.AsksFor :
    Mobile.HookCall → PyFloat → PyFloat → Option String → Prop
  | refresh (filter : Option ForecastJobStatus) (latitude longitude : ℚ) :
    AsksFor (.refreshForecast filter (.finite latitude) (.finite longitude)) (.finite latitude)
      (.finite longitude) none
  | retry {filter : Option ForecastJobStatus} {job : Mobile.ForecastJobSummary}
    {link jobId k : String} (latitude longitude : PyFloat)
    (hlink : Mobile.getJobLink job.links "retry" = .ok link)
    (hpath : jobPath link = some (jobId, "/retry")) (hk : normalizeJobId jobId = .ok k) :
    AsksFor (.retryJob filter job) latitude longitude (some k)

variable {S : ForecastJobStore}

/-- A call has been given this job: its link leads to it, and the service has created it for what
the call asks for. -/
structure Made (s : Lifecycle S) (call : Mobile.HookCall) (job : Mobile.ForecastJob) : Prop where
  canonical : canonicalUuid job.id = true
  link : Mobile.getJobLink job.links "self" = .ok (jobsPath ++ job.id)
  created : ∃ latitude longitude parent, CreatedWith s job.id latitude longitude parent ∧
    call.AsksFor latitude longitude parent

/-- The id of the job that was created. -/
def Event.createdId (e : Event S) : Option String := e.created.map (·.2.2.2.id)

lemma Trace.createdId_unique {permitted : Command → Bool} {init : S.State} {s : Lifecycle S}
    (h : Trace permitted init s) {e e' : Event S} (he : e ∈ s.history) (he' : e' ∈ s.history)
    {k : String} (hid : e.createdId = some k) (hid' : e'.createdId = some k) :
    e.task = e'.task := by
  obtain ⟨created, hcreated, rfl⟩ := Option.map_eq_some_iff.mp hid
  obtain ⟨created', hcreated', hk⟩ := Option.map_eq_some_iff.mp hid'
  exact h.created_unique he he' hcreated hcreated' hk.symm

/-! ## What a step of the service keeps -/

variable {config : ServiceConfig} {permitted : Command → Bool} {init : S.State}
  {s : Lifecycle S} {service service' : JobServiceConfig S}

lemma ServiceKeeps.made (h : ServiceKeeps service service') {call : Mobile.HookCall}
    {job : Mobile.ForecastJob} (hmade : Made service.shared call job) :
    Made service'.shared call job := by
  obtain ⟨latitude, longitude, parent, hcreated, hasks⟩ := hmade.created
  exact ⟨hmade.canonical, hmade.link, latitude, longitude, parent,
    h.created _ _ _ _ hcreated, hasks⟩

lemma Made.of_path {call : Mobile.HookCall} {job : Mobile.ForecastJob}
    (h : Made s call job) {link jobId k : String}
    (hlink : Mobile.getJobLink job.links "self" = .ok link)
    (hpath : jobPath link = some (jobId, "")) (hk : normalizeJobId jobId = .ok k) : k = job.id := by
  have hself : jobPath (jobsPath ++ job.id) = some (job.id, "") := by
    have hpath := jobPath_link h.canonical (List.mem_cons_self : "" ∈ ["", "/poll", "/retry"])
    rwa [String.append_empty] at hpath
  obtain rfl := Except.ok.inj (hlink.symm.trans h.link)
  rw [hself] at hpath
  obtain ⟨rfl, -⟩ := Prod.mk.inj (Option.some.inj hpath)
  rw [normalizeJobId_canonical (Runtime.parseUuid_of_canonical h.canonical)] at hk
  exact (Except.ok.inj hk).symm

section Documents

variable [FloatRepr] [TimeText] [Mobile.Numerals]

/-- What the response to a request tells that no command handles: it brings no new job, and a
forecast that it brings is that of a record that has succeeded. -/
def Truthful (s : Lifecycle S) (response : ApiResponse) : Mobile.HookAwait → Prop
  | .createForecastJob .. => ∀ job, Mobile.createForecastJob response ≠ .ok job
  | .retryForecastJob _ => False
  | .fetchForecastJob link => ∀ job, Mobile.fetchForecastJob response = .ok job →
    job.status = .succeeded → ∃ jobId record, jobPath link = some (jobId, "") ∧
      normalizeJobId jobId = .ok record.id ∧ Settled s record ∧
        job.forecast = record.forecast.map fun summary => .ofPayload (some summary.document)
  | .pollForecastJob _ | .listForecastJobs .. => True
  | .delay _ | .settled .. => False

/-- The forecast is that of a record, which the service has stored under a job that call `i` has
asked for. -/
def ShownFor (s : Lifecycle S) (hook : Mobile.Hook) (i : ℕ) (call : Mobile.HookCall)
    (forecast : Mobile.ForecastSummary) : Prop :=
  ∃ record summary, (i, record.id) ∈ hook.stored ∧
    call.AsksFor record.latitude record.longitude record.parentJobId ∧ Settled s record ∧
      record.forecast = some summary ∧ forecast = .ofPayload (some summary.document)

lemma ServiceKeeps.truthful (h : ServiceKeeps service service') {response : ApiResponse}
    {request : Mobile.HookAwait} (htruthful : Truthful service.shared response request) :
    Truthful service'.shared response request := by
  cases request with
  | fetchForecastJob link =>
    intro job hjob hstatus
    obtain ⟨jobId, record, hpath, hid, hsettled, hforecast⟩ := htruthful job hjob hstatus
    exact ⟨jobId, record, hpath, hid, h.settled _ hsettled, hforecast⟩
  | _ => exact htruthful

variable [FloatPolicy]

/-- The request is where the service has brought it. -/
def RequestState.Fits (service : JobServiceConfig S) (request : Mobile.HookAwait) :
    RequestState → Prop
  | handling t => ∃ command, request.command = some command ∧
    JobServiceConfig.command service t = some command
  | answered (some t) response => ∃ command outcome, request.command = some command ∧
    JobServiceConfig.command service t = some command ∧
      JobServiceConfig.outcome service t = some outcome ∧ response = request.responseOf outcome
  | answered none response => request.command = none ∧ Truthful service.shared response request

lemma RequestState.Fits.task_lt {request : Mobile.HookAwait} {state : RequestState} {t : ℕ}
    (h : state.Fits service request) (ht : state.task = some t) : t < service.tasks.length := by
  cases state with
  | handling t' =>
    obtain rfl := Option.some.inj ht
    obtain ⟨command, -, hcommand⟩ := h
    exact JobServiceConfig.command_lt hcommand
  | answered task response =>
    obtain rfl : task = some t := ht
    obtain ⟨command, outcome, -, hcommand, -⟩ := h
    exact JobServiceConfig.command_lt hcommand

lemma ServiceKeeps.fits (h : ServiceKeeps service service') {request : Mobile.HookAwait}
    {state : RequestState} (hfits : state.Fits service request) : state.Fits service' request := by
  cases state with
  | handling t =>
    obtain ⟨command, hrequest, hcommand⟩ := hfits
    exact ⟨command, hrequest, h.command t _ hcommand⟩
  | answered task response =>
    cases task with
    | none => exact ⟨hfits.1, h.truthful hfits.2⟩
    | some t =>
      obtain ⟨command, outcome, hrequest, hcommand, houtcome, hresponse⟩ := hfits
      exact ⟨command, outcome, hrequest, h.command t _ hcommand, h.outcome t _ houtcome, hresponse⟩

/-! ## What the responses tell -/

lemma settled_of_fetched {jobId : String} {job : Mobile.ForecastJob}
    (hjob : Mobile.fetchForecastJob (getResponse S s.store jobId) = .ok job)
    (hstatus : job.status = .succeeded) : ∃ record : ForecastJob,
      normalizeJobId jobId = .ok record.id ∧ Settled s record ∧
        job.forecast = record.forecast.map fun summary => .ofPayload (some summary.document) := by
  have hfailed : ¬ (200 ≤ 404 ∧ 404 < 300) := by decide
  cases hget : S.get s.store jobId with
  | error e =>
    rw [getResponse_of_error hget, Mobile.fetchForecastJob, Mobile.parseResponse_of_not_ok hfailed]
      at hjob
    cases hjob
  | ok record =>
    rw [getResponse_of_ok hget] at hjob
    obtain rfl := Mobile.read_of_jobResponse (by decide) hjob
    obtain ⟨-, hstatus', hforecast⟩ := Mobile.ofPayload_document (withJobLinks record)
    rw [S.get_eq, Records.get_eq_ok] at hget
    obtain ⟨k, hk, hrecord⟩ := hget
    obtain ⟨rfl, -⟩ := S.records_id _ _ _ hrecord
    exact ⟨record, hk, ⟨hstatus'.symm.trans hstatus, .inl hrecord⟩, hforecast⟩

lemma truthful_response {request : Mobile.HookAwait} {response : ApiResponse}
    (hresponse : request.response S s.store = some response) : Truthful s response request := by
  cases request with
  | createForecastJob latitude longitude =>
    obtain rfl := Option.some.inj hresponse
    intro job hjob
    cases hjob
  | retryForecastJob link => cases hresponse
  | fetchForecastJob link =>
    obtain ⟨path, hpath, hif⟩ := Option.bind_eq_some_iff.mp hresponse
    split at hif
    · next hsuffix =>
      obtain rfl := Option.some.inj hif
      intro job hjob hstatus
      obtain ⟨record, hk, hsettled, hforecast⟩ := settled_of_fetched hjob hstatus
      exact ⟨path.1, record, by rw [hpath, ← hsuffix], hk, hsettled, hforecast⟩
    · cases hif
  | pollForecastJob link => trivial
  | listForecastJobs limit status => trivial
  | _ => cases hresponse

omit [FloatRepr] [TimeText] [Mobile.Numerals] [FloatPolicy] in
/-- The command that handles the request of a call makes what the call asks for. -/
lemma asksFor_of_command {call : Mobile.HookCall} {request : Mobile.HookAwait} {command : Command}
    (hrequest : call.request = some request) (hcommand : request.command = some command) :
    (∃ latitude longitude, command = .submit latitude longitude ∧
      call.AsksFor latitude longitude none) ∨
    ∃ jobId, command = .retry jobId ∧ ∀ k latitude longitude, normalizeJobId jobId = .ok k →
      call.AsksFor latitude longitude (some k) := by
  cases call with
  | refreshForecast filter latitude longitude =>
    cases latitude <;> cases longitude
    case finite.finite latitude longitude =>
      obtain rfl := Option.some.inj hrequest
      simp only [Mobile.HookAwait.command] at hcommand
      split at hcommand
      · obtain rfl := Option.some.inj hcommand
        exact .inl ⟨_, _, rfl, .refresh filter latitude longitude⟩
      · cases hcommand
    all_goals cases hrequest
  | retryJob filter job =>
    obtain ⟨link, hlink, rfl⟩ := Option.map_eq_some_iff.mp hrequest
    obtain ⟨path, hpath, hif⟩ := Option.bind_eq_some_iff.mp hcommand
    split at hif
    · next hsuffix =>
      obtain rfl := Option.some.inj hif
      refine .inr ⟨path.1, rfl, fun k latitude longitude hk => ?_⟩
      have hlink' : Mobile.getJobLink job.links "retry" = .ok link := by
        cases hget : Mobile.getJobLink job.links "retry" with
        | error e => simp [hget, Except.toOption] at hlink
        | ok link' => simpa [hget, Except.toOption] using hlink
      exact .retry latitude longitude hlink' (by rw [hpath, ← hsuffix]) hk
    · cases hif
  | jobHistory filter => cases hrequest

omit [FloatRepr] [TimeText] [Mobile.Numerals] [FloatPolicy] in
/-- The job that the command returns has been created for the call. -/
lemma created_for_call (h : ServiceReaches config permitted init service) {call : Mobile.HookCall}
    {request : Mobile.HookAwait} {command : Command} {t : ℕ} {job : ForecastJob}
    (hrequest : call.request = some request) (hcommand : request.command = some command)
    (htask : service.tasks[t]? = some ⟨command, .ret (some job)⟩) :
    ∃ created, job = withJobLinks created ∧ canonicalUuid created.id = true ∧
      (∃ e ∈ service.shared.history, e.task = t ∧ e.createdId = some created.id) ∧
      ∃ latitude longitude parent, CreatedWith service.shared created.id latitude longitude parent ∧
        call.AsksFor latitude longitude parent := by
  have htrace := trace_of_service h
  obtain ⟨hsubmit, hretry⟩ := returns_of_service h htask
  rcases asksFor_of_command hrequest hcommand with ⟨latitude, longitude, rfl, hasks⟩ |
    ⟨jobId, rfl, hasks⟩
  · obtain ⟨e, he, created, hcreated, hjob⟩ := hsubmit latitude longitude rfl
    obtain ⟨he, ht⟩ := List.mem_filter.mp he
    obtain ⟨hcanonical, hwith⟩ := htrace.createdWith he hcreated
    exact ⟨created, Option.some.inj hjob, hcanonical,
      ⟨e, he, of_decide_eq_true ht, by simp [Event.createdId, hcreated]⟩, _, _, _, hwith, hasks⟩
  · obtain ⟨k, hk, e, he, latitude, longitude, created, hcreated, hjob⟩ := hretry jobId rfl
    obtain ⟨he, ht⟩ := List.mem_filter.mp he
    obtain ⟨hcanonical, hwith⟩ := htrace.createdWith he hcreated
    have hparent : (some k).bind Runtime.parseUuid = some k :=
      Runtime.parseUuid_of_canonical (Runtime.parseUuid_canonical (normalizeJobId_eq_ok.mp hk))
    rw [hparent] at hwith
    exact ⟨created, Option.some.inj hjob, hcanonical,
      ⟨e, he, of_decide_eq_true ht, by simp [Event.createdId, hcreated]⟩, _, _, _, hwith,
      hasks k latitude longitude hk⟩

omit [Runtime] in
/-- The client reads the job that the command has returned. -/
lemma read_of_returned {request : Mobile.HookAwait} {command : Command} {result : ForecastJob}
    {job : Mobile.ForecastJob} (hcommand : request.command = some command)
    (hread : request.read (request.responseOf (.ok result)) = some (.job (.ok job))) :
    job = .ofPayload (some result.document) := by
  cases request with
  | createForecastJob latitude longitude =>
    injection hread with hread
    injection hread with hread
    exact Mobile.read_of_jobResponse (by decide) hread
  | retryForecastJob link =>
    injection hread with hread
    injection hread with hread
    exact Mobile.read_of_jobResponse (by decide) hread
  | _ => cases hcommand

omit [Runtime] in
lemma not_read_of_raised {request : Mobile.HookAwait} {command : Command} {e : JobError}
    {job : Mobile.ForecastJob} (hcommand : request.command = some command) :
    request.read (request.responseOf (.error e)) ≠ some (.job (.ok job)) := by
  intro hread
  cases request with
  | createForecastJob latitude longitude => cases hread
  | retryForecastJob link => cases e <;> cases hread
  | _ => cases hcommand

lemma made_of_read (h : ServiceReaches config permitted init service) {call : Mobile.HookCall}
    {request : Mobile.HookAwait} {command : Command} {t : ℕ}
    {outcome : Except JobError ForecastJob} {job : Mobile.ForecastJob}
    (hrequest : call.request = some request) (hcommand : request.command = some command)
    (hlabel : JobServiceConfig.command service t = some command)
    (houtcome : JobServiceConfig.outcome service t = some outcome)
    (hread : request.read (request.responseOf outcome) = some (.job (.ok job))) :
    Made service.shared call job ∧
      ∃ e ∈ service.shared.history, e.task = t ∧ e.createdId = some job.id := by
  obtain ⟨command', ⟨result, rfl, htask⟩ | ⟨e, rfl, -⟩⟩ := JobServiceConfig.outcome_cases houtcome
  · obtain rfl : command' = command := by simpa [JobServiceConfig.command, htask] using hlabel
    obtain ⟨created, rfl, hcanonical, hevent, hcreated⟩ :=
      created_for_call h hrequest hcommand htask
    obtain rfl := read_of_returned hcommand hread
    obtain ⟨hid, -, -⟩ := Mobile.ofPayload_document (withJobLinks created)
    have hid' : (Mobile.ForecastJob.ofPayload (some (withJobLinks created).document)).id =
        created.id := hid
    refine ⟨⟨?_, ?_, ?_⟩, ?_⟩
    · rwa [hid']
    · rw [Mobile.getJobLink_self, hid']
    · rwa [hid']
    · rwa [hid']
  · exact absurd hread (not_read_of_raised hcommand)

/-! ## The states of a run -/

namespace Deployment

/-- What holds of the hook, the service and the requests between them. -/
structure Consistent (d : Deployment S) : Prop where
  calls : ∀ i task, d.hook.tasks[i]? = some task →
    Mobile.Phase (Made d.service.shared) d.hook.shared i task.label task.program
  requests : ∀ i state, d.requests i = some state →
    ∃ request, Mobile.useForecast.awaiting d.hook i = some request ∧ state.Fits d.service request
  /-- No task handles two requests. -/
  distinct : ∀ i j state state' t, d.requests i = some state → d.requests j = some state' →
    state.task = some t → state'.task = some t → i = j
  /-- A stored job has been created by a task that handles no request any more. -/
  stored : ∀ i k, (i, k) ∈ d.hook.shared.stored →
    ∃ e ∈ d.service.shared.history, e.createdId = some k ∧
      ∀ j state, d.requests j = some state → state.task ≠ some e.task
  shown : ∀ forecast, d.hook.shared.cells.forecast = some forecast →
    ∃ i task, d.hook.tasks[i]? = some task ∧
      ShownFor d.service.shared d.hook.shared i task.label forecast

variable {d : Deployment S}

lemma consistent_initial (store : S.State) : (initial store : Deployment S).Consistent :=
  ⟨fun i task h => (by cases h), fun i state h => (by cases h),
    fun i j state state' t h => (by cases h), fun i k h => (by cases h),
    fun forecast h => (by cases h)⟩

lemma Consistent.serve (h : d.Consistent) (hkeeps : ServiceKeeps d.service service) :
    Consistent { d with service := service } := by
  refine ⟨fun i task htask => ?_, fun i state hstate => ?_, h.distinct, fun i k hmem => ?_,
    fun forecast hforecast => ?_⟩
  · exact (h.calls i task htask).mono (fun _ _ => hkeeps.made) (List.Subset.refl _)
  · obtain ⟨request, hawaiting, hfits⟩ := h.requests i state hstate
    exact ⟨request, hawaiting, hkeeps.fits hfits⟩
  · obtain ⟨e, he, hid, hother⟩ := h.stored i k hmem
    exact ⟨e, hkeeps.history he, hid, hother⟩
  · obtain ⟨i, task, htask, record, summary, hmem, hasks, hsettled, hrest⟩ :=
      h.shown forecast hforecast
    exact ⟨i, task, htask, record, summary, hmem, hasks, hkeeps.settled _ hsettled, hrest⟩

/-- A request comes into a state, in which a task handles it that has handled it before, or that is
new. -/
lemma Consistent.request (h : d.Consistent) {i : ℕ} {request : Mobile.HookAwait}
    {state : RequestState} (hawaiting : Mobile.useForecast.awaiting d.hook i = some request)
    (hfits : state.Fits d.service request)
    (htask : ∀ t, state.task = some t → (∃ old, d.requests i = some old ∧ old.task = some t) ∨
      (∀ j other, d.requests j = some other → other.task ≠ some t) ∧
        ∀ e ∈ d.service.shared.history, e.task ≠ t) :
    Consistent { d with requests := Function.update d.requests i (some state) } := by
  have hother : ∀ j other t, j ≠ i → d.requests j = some other → state.task = some t →
      other.task ≠ some t := by
    intro j other t hji hj ht hother
    rcases htask t ht with ⟨old, hold, hold'⟩ | ⟨hunused, -⟩
    · exact hji (h.distinct j i other old t hj hold hother hold')
    · exact hunused j other hj hother
  have hcases : ∀ j other, Function.update d.requests i (some state) j = some other →
      j = i ∧ other = state ∨ j ≠ i ∧ d.requests j = some other := by
    intro j other hj
    by_cases hji : j = i
    · rw [hji, Function.update_self] at hj
      exact .inl ⟨hji, (Option.some.inj hj).symm⟩
    · rw [Function.update_of_ne hji] at hj
      exact .inr ⟨hji, hj⟩
  refine ⟨h.calls, fun j other hj => ?_, fun j j' other other' t hj hj' ht ht' => ?_,
    fun j k hmem => ?_, h.shown⟩
  · rcases hcases j other hj with ⟨rfl, rfl⟩ | ⟨-, hj⟩
    · exact ⟨request, hawaiting, hfits⟩
    · exact h.requests j other hj
  · rcases hcases j other hj with ⟨rfl, rfl⟩ | ⟨hji, hold⟩ <;>
      rcases hcases j' other' hj' with ⟨rfl, rfl⟩ | ⟨hji', hold'⟩
    · rfl
    · exact absurd ht' (hother j' other' t hji' hold' ht)
    · exact absurd ht (hother j other t hji hold ht')
    · exact h.distinct j j' other other' t hold hold' ht ht'
  · obtain ⟨e, he, hid, hunused⟩ := h.stored j k hmem
    refine ⟨e, he, hid, fun j' other hj' ht => ?_⟩
    rcases hcases j' other hj' with ⟨rfl, rfl⟩ | ⟨-, hj'⟩
    · rcases htask e.task ht with ⟨old, hold, hold'⟩ | ⟨-, hnew⟩
      · exact hunused _ old hold hold'
      · exact hnew e he rfl
    · exact hunused j' other hj' ht

lemma Consistent.resume (h : d.Consistent) (base : Mobile.useForecast.Configuration) (i : ℕ)
    (call : Mobile.HookCall) {program : Mobile.HookProgram Unit}
    (hshared : base.shared = d.hook.shared) (hi : i < base.tasks.length)
    (hothers : ∀ k task, k ≠ i → (base.tasks[k]? = some task ↔ d.hook.tasks[k]? = some task))
    (hlabel : ∀ task, d.hook.tasks[i]? = some task → task.label = call)
    (hphase : Mobile.Phase (Made d.service.shared) (d.hook.shared.after i program) i call
      (Coroutine.settle (Mobile.useForecast.perform i) Mobile.useForecast.spawns program
        d.hook.shared).1)
    (hstored : (d.hook.shared.after i program).stored = d.hook.shared.stored ∨
      ∃ k, (d.hook.shared.after i program).stored = (i, k) :: d.hook.shared.stored ∧
        ∃ e ∈ d.service.shared.history, e.createdId = some k ∧
          ∃ state, d.requests i = some state ∧ state.task = some e.task)
    (hforecast : (d.hook.shared.after i program).cells.forecast = d.hook.shared.cells.forecast ∨
      ∀ forecast, (d.hook.shared.after i program).cells.forecast = some forecast →
        ShownFor d.service.shared d.hook.shared i call forecast) :
    Consistent ⟨Mobile.useForecast.resume base i call program, d.service,
      Function.update d.requests i none⟩ := by
  have hafter : (Mobile.useForecast.resume base i call program).shared =
      d.hook.shared.after i program := by
    rw [← hshared]
    rfl
  have hself := Mobile.useForecast.getElem?_resume_self hi call program
  rw [hshared] at hself
  have hne : ∀ k task, k ≠ i → d.hook.tasks[k]? = some task →
      (Mobile.useForecast.resume base i call program).tasks[k]? = some task :=
    fun k task hk htask => Mobile.useForecast.getElem?_resume_ne hk
      ((hothers k task hk).mpr htask) call program
  have hsubset : d.hook.shared.stored ⊆ (d.hook.shared.after i program).stored := by
    rcases hstored with heq | ⟨k, heq, -⟩ <;> rw [heq]
    · exact List.Subset.refl _
    · exact List.subset_cons_self _ _
  have hrequest : ∀ j state, Function.update d.requests i none j = some state →
      j ≠ i ∧ d.requests j = some state := by
    intro j state hj
    by_cases hji : j = i
    · rw [hji, Function.update_self] at hj
      cases hj
    · rw [Function.update_of_ne hji] at hj
      exact ⟨hji, hj⟩
  refine ⟨fun k task htask => ?_, fun j state hj => ?_, fun j j' state state' t hj hj' => ?_,
    fun j k hmem => ?_, fun forecast hshown => ?_⟩
  · rw [hafter]
    rcases Mobile.useForecast.getElem?_resume htask with ⟨rfl, rfl⟩ | ⟨hki, htask⟩ | ⟨o, l, hl, rfl⟩
    · rw [hshared]
      exact hphase
    · exact (h.calls k task ((hothers k task hki).mp htask)).mono (fun _ _ hmade => hmade) hsubset
    · -- only a job history is started by a call
      cases o with
      | startJobHistory filter =>
        obtain rfl := List.mem_singleton.mp hl
        exact .aloof (Mobile.awaitJobHistory_watches filter)
      | _ => cases hl
  · obtain ⟨hji, hj⟩ := hrequest j state hj
    obtain ⟨request, hawaiting, hfits⟩ := h.requests j state hj
    obtain ⟨l, next, htask⟩ := Mobile.useForecast.awaiting_eq_some.mp hawaiting
    exact ⟨request, Mobile.useForecast.awaiting_eq_some.mpr ⟨l, next, hne j _ hji htask⟩, hfits⟩
  · exact h.distinct j j' state state' t (hrequest j state hj).2 (hrequest j' state' hj').2
  · rw [hafter] at hmem
    have hold : (j, k) ∈ d.hook.shared.stored → ∃ e ∈ d.service.shared.history,
        e.createdId = some k ∧ ∀ j' state, Function.update d.requests i none j' = some state →
          state.task ≠ some e.task := by
      intro hmem
      obtain ⟨e, he, hid, hunused⟩ := h.stored j k hmem
      exact ⟨e, he, hid, fun j' state hj' => hunused j' state (hrequest j' state hj').2⟩
    rcases hstored with heq | ⟨k', heq, e, he, hid, state, hstate, ht⟩
    · exact hold (heq ▸ hmem)
    · rw [heq] at hmem
      rcases List.mem_cons.mp hmem with hnew | hmem
      · obtain ⟨rfl, rfl⟩ := Prod.mk.inj hnew
        refine ⟨e, he, hid, fun j' state' hj' ht' => ?_⟩
        obtain ⟨hji, hj'⟩ := hrequest j' state' hj'
        exact hji (h.distinct j' j state' state e.task hj' hstate ht' ht)
      · exact hold hmem
  · rw [hafter] at hshown
    rcases hforecast with heq | hnew
    · obtain ⟨k, task, htask, record, summary, hmem, hrest⟩ := h.shown forecast (heq ▸ hshown)
      by_cases hki : k = i
      · subst hki
        rw [hlabel task htask] at hrest
        exact ⟨k, _, hself, record, summary, by rw [hafter]; exact hsubset hmem, hrest⟩
      · exact ⟨k, task, hne k task hki htask, record, summary, by rw [hafter]; exact hsubset hmem,
          hrest⟩
    · obtain ⟨record, summary, hmem, hrest⟩ := hnew forecast hshown
      exact ⟨i, _, hself, record, summary, by rw [hafter]; exact hsubset hmem, hrest⟩

lemma Consistent.answer {d' : Deployment S} (h : d.Consistent) {i : ℕ} {input : Mobile.HookInput}
    (hanswer : d.answer i input = some d')
    (hmade : ∀ call request job, Mobile.useForecast.awaiting d.hook i = some request →
      Mobile.HookCall.request call = some request → input = .job (.ok job) →
        Made d.service.shared call job ∧ ∃ e ∈ d.service.shared.history, e.createdId = some job.id ∧
          ∃ state, d.requests i = some state ∧ state.task = some e.task)
    (hfetched : ∀ link job, Mobile.useForecast.awaiting d.hook i = some (.fetchForecastJob link) →
      input = .job (.ok job) → job.status = .succeeded → ∃ jobId record,
        jobPath link = some (jobId, "") ∧ normalizeJobId jobId = .ok record.id ∧
          Settled d.service.shared record ∧
            job.forecast = record.forecast.map fun summary => .ofPayload (some summary.document)) :
    d'.Consistent := by
  obtain ⟨hook, hstep, rfl⟩ := Option.map_eq_some_iff.mp hanswer
  obtain ⟨call, a, next, r, htask, hawaiting, hr, rfl⟩ := Mobile.useForecast.step_answer hstep
  obtain ⟨hturned, hphase⟩ := (h.calls i _ htask).answer hr fun job hrequest hinput =>
    (hmade call a job hawaiting hrequest hinput).1
  refine h.resume d.hook i call rfl (List.getElem?_eq_some_iff.mp htask).1
    (fun _ _ _ => Iff.rfl) (fun task htask' => ?_) hphase ?_ ?_
  · obtain rfl := Option.some.inj (htask.symm.trans htask')
    rfl
  · refine hturned.stored.imp_right ?_
    rintro ⟨job, hinput, hrequest, hstored⟩
    exact ⟨job.id, hstored, (hmade call a job hawaiting hrequest hinput).2⟩
  · rcases hturned.forecast with heq | hnone |
      ⟨job, link, completed, hjob, hmem, hlink, rfl, hinput, hstatus, hcompleted⟩
    · exact .inl heq
    · refine .inr fun forecast hforecast => ?_
      rw [hnone] at hforecast
      cases hforecast
    · obtain ⟨jobId, record, hpath, hk, hsettled, hforecast⟩ :=
        hfetched link completed hawaiting hinput hstatus
      have hid : record.id = job.id := hjob.of_path hlink hpath hk
      obtain ⟨latitude, longitude, parent, hcreated, hasks⟩ := hjob.created
      rw [← hid] at hcreated hmem
      obtain ⟨rfl, rfl, rfl⟩ := hcreated.settled hsettled
      refine .inr fun forecast hshown => ?_
      rw [← hcompleted, hforecast] at hshown
      obtain ⟨summary, hsummary, rfl⟩ := Option.map_eq_some_iff.mp hshown
      exact ⟨record, summary, hmem, hasks, hsettled, hsummary, rfl⟩

lemma Consistent.start (h : d.Consistent) {call : Mobile.HookCall}
    {hook : Mobile.useForecast.Configuration}
    (hstep : Mobile.useForecast.step d.hook (.start call) = some hook) :
    Consistent { d with hook := hook } := by
  obtain rfl := Option.some.inj hstep
  have hnone : d.requests d.hook.tasks.length = none := by
    cases hrequest : d.requests d.hook.tasks.length with
    | none => rfl
    | some state =>
      obtain ⟨request, hawaiting, -⟩ := h.requests _ state hrequest
      obtain ⟨l, next, htask⟩ := Mobile.useForecast.awaiting_eq_some.mp hawaiting
      exact absurd (List.getElem?_eq_some_iff.mp htask).1 (lt_irrefl _)
  obtain ⟨hstored, hforecast, hphase⟩ :=
    Mobile.phase_start (Made d.service.shared) d.hook.shared d.hook.tasks.length call
  have hresume := h.resume ⟨d.hook.shared, d.hook.tasks ++ [⟨call, call.body⟩]⟩
    d.hook.tasks.length call rfl (by simp) ?_ ?_ hphase (.inl hstored) ?_
  · rwa [← hnone, Function.update_eq_self] at hresume
  · intro k task hk
    rw [List.getElem?_append]
    split
    · exact Iff.rfl
    · next hge =>
      have hlt : d.hook.tasks.length < k := by omega
      rw [List.getElem?_eq_none (by simp only [List.length_singleton]; omega),
        List.getElem?_eq_none hlt.le]
  · intro task htask
    exact absurd (List.getElem?_eq_some_iff.mp htask).1 (lt_irrefl _)
  · refine hforecast.imp_right fun hnone forecast hforecast => ?_
    rw [hnone] at hforecast
    cases hforecast

omit [Runtime] [FloatRepr] [TimeText] [FloatPolicy] [Mobile.Numerals] in
/-- A request that fails brings no job. -/
lemma failed_ne_ok {request : Mobile.HookAwait} {e : Mobile.Rejection} {job : Mobile.ForecastJob} :
    request.failed e ≠ some (.job (.ok job)) := by
  cases request <;> simp [Mobile.HookAwait.failed]

/-- A call that goes on without a job. -/
lemma Consistent.answer_without_job {d' : Deployment S} (h : d.Consistent) {i : ℕ}
    {input : Mobile.HookInput} (hanswer : d.answer i input = some d')
    (hinput : ∀ job, input ≠ .job (.ok job)) : d'.Consistent :=
  h.answer hanswer (fun _ _ job _ _ heq => absurd heq (hinput job))
    fun _ job _ heq => absurd heq (hinput job)

variable (config permitted) in
lemma Consistent.deliver {d' : Deployment S} (h : d.Consistent)
    (hservice : ServiceReaches config permitted init d.service) {i : ℕ} {task : Option ℕ}
    {request : Mobile.HookAwait} {response : ApiResponse} {input : Mobile.HookInput}
    (hrequest : d.requests i = some (.answered task response))
    (hawaiting : Mobile.useForecast.awaiting d.hook i = some request)
    (hread : request.read response = some input) (hanswer : d.answer i input = some d') :
    d'.Consistent := by
  obtain ⟨request', hawaiting', hfits⟩ := h.requests i _ hrequest
  obtain rfl := Option.some.inj (hawaiting.symm.trans hawaiting')
  refine h.answer hanswer (fun call request' job hawaiting' hcall hinput => ?_)
    fun link job hawaiting' hinput hstatus => ?_
  · obtain rfl := Option.some.inj (hawaiting.symm.trans hawaiting')
    subst hinput
    cases task with
    | some t =>
      obtain ⟨command, outcome, hcommand, hlabel, houtcome, rfl⟩ := hfits
      obtain ⟨hmade, e, he, rfl, hid⟩ :=
        made_of_read hservice hcall hcommand hlabel houtcome hread
      exact ⟨hmade, e, he, hid, _, hrequest, rfl⟩
    | none =>
      rcases Mobile.HookCall.request_cases hcall with ⟨latitude, longitude, rfl⟩ | ⟨link, rfl⟩
      · injection hread with hread
        injection hread with hread
        exact absurd hread (hfits.2 job)
      · cases hfits.2
  · obtain rfl := Option.some.inj (hawaiting.symm.trans hawaiting')
    subst hinput
    injection hread with hread
    injection hread with hread
    cases task with
    | some t =>
      obtain ⟨command, outcome, hcommand, -⟩ := hfits
      cases hcommand
    | none => exact hfits.2 job hread hstatus

lemma service_reaches (h : Reaches config permitted init d) :
    ServiceReaches config permitted init d.service := by
  induction h with
  | refl => exact .refl
  | step move _ hstep ih =>
    have hanswer : ∀ {d d' : Deployment S} {i : ℕ} {input : Mobile.HookInput},
        d.answer i input = some d' → d'.service = d.service := by
      intro d d' i input hanswer
      obtain ⟨hook, -, rfl⟩ := Option.map_eq_some_iff.mp hanswer
      rfl
    cases moves_of_step config permitted hstep with
    | served choice service hserved => exact ih.step choice hserved
    | handled i request command service _ _ hserved => exact ih.step _ hserved
    | delivered _ _ _ _ _ _ _ _ _ h | failed _ _ _ _ _ _ h | elapsed _ _ h =>
      rw [hanswer h]
      exact ih
    | _ => exact ih

lemma Consistent.step {d' : Deployment S} (h : d.Consistent)
    (hservice : ServiceReaches config permitted init d.service)
    (hmoves : Moves config permitted d d') : d'.Consistent := by
  cases hmoves with
  | started call hook hstep => exact h.start hstep
  | served choice service hstep => exact h.serve (keeps_of_service hservice hstep)
  | handled i request command service hawaiting hcommand hstep =>
    have hserved := h.serve (keeps_of_service hservice hstep)
    obtain rfl := service_start hstep
    refine hserved.request hawaiting ⟨command, hcommand, ?_⟩ fun t ht => .inr ⟨?_, ?_⟩
    · simp [JobServiceConfig.command]
    all_goals obtain rfl := Option.some.inj ht
    · intro j other hother heq
      obtain ⟨request', -, hfits⟩ := h.requests j other hother
      exact absurd (hfits.task_lt heq) (lt_irrefl _)
    · intro e he heq
      exact absurd ((tracked_of_service hservice).tasks e he) (heq ▸ lt_irrefl _)
  | queried i request response hawaiting hcommand hresponse =>
    refine h.request hawaiting ⟨hcommand, truthful_response hresponse⟩ fun t ht => ?_
    cases ht
  | responded i t request outcome hrequest hawaiting houtcome =>
    obtain ⟨request', hawaiting', command, hcommand, hlabel⟩ := h.requests i _ hrequest
    obtain rfl := Option.some.inj (hawaiting.symm.trans hawaiting')
    exact h.request hawaiting ⟨command, outcome, hcommand, hlabel, houtcome, rfl⟩ fun t' ht =>
      .inl ⟨_, hrequest, ht⟩
  | delivered i task request response input hrequest hawaiting hread _ hanswer =>
    exact h.deliver config permitted hservice hrequest hawaiting hread hanswer
  | failed i request e input hfailed _ hanswer =>
    refine h.answer_without_job hanswer fun job heq => ?_
    exact failed_ne_ok (heq ▸ hfailed)
  | elapsed i _ hanswer => exact h.answer_without_job hanswer fun job heq => by cases heq

lemma consistent_of_reaches (h : Reaches config permitted init d) : d.Consistent := by
  induction h with
  | refl => exact consistent_initial init
  | step move hreaches hstep ih =>
    exact ih.step (service_reaches hreaches) (moves_of_step config permitted hstep)

/-- **The shown forecast is the one that was asked for.**  However the calls of the hook, the
commands of the service, and the requests and responses between them interleave: a forecast that the
hook shows is that of a record of success, which has the coordinates or the parent that one of its
calls has asked for, under the job that this call has stored.  The service stores this record as it
is, or has stored it when one of its calls was made, and deleted it for good. -/
theorem forecast_shown (h : Reaches config permitted init d) {forecast : Mobile.ForecastSummary}
    (hshown : d.hook.shared.cells.forecast = some forecast) :
    ∃ i task record summary, d.hook.tasks[i]? = some task ∧
      (i, record.id) ∈ d.hook.shared.stored ∧
      task.label.AsksFor record.latitude record.longitude record.parentJobId ∧
      record.status = .succeeded ∧ record.forecast = some summary ∧
      forecast = .ofPayload (some summary.document) ∧
      (S.records d.service.shared.store record.id = some record ∨
        S.records d.service.shared.store record.id = none ∧
          d.service.shared.issued record.id = true ∧
            ∃ e ∈ d.service.shared.history, S.records e.before record.id = some record) := by
  obtain ⟨i, task, htask, record, summary, hmem, hasks, hsettled, hsummary, hforecast⟩ :=
    (consistent_of_reaches h).shown forecast hshown
  exact ⟨i, task, record, summary, htask, hmem, hasks, hsettled.status, hsummary, hforecast,
    hsettled.kept⟩

/-- A job that a response brings is new to the hook. -/
lemma new_of_fits (h : d.Consistent) (hservice : ServiceReaches config permitted init d.service)
    {i : ℕ} {task : Option ℕ} {request : Mobile.HookAwait} {response : ApiResponse}
    (hrequest : d.requests i = some (.answered task response))
    (hawaiting : Mobile.useForecast.awaiting d.hook i = some request)
    (hfits : RequestState.Fits d.service request (.answered task response))
    (hreads : ∀ self, ¬ request.Reads self) {reply : Except Mobile.Rejection Mobile.ForecastJob}
    (hread : request.read response = some (.job reply)) :
    Mobile.newJob d.hook.shared reply = some reply := by
  obtain ⟨call, next, htask⟩ := Mobile.useForecast.awaiting_eq_some.mp hawaiting
  have hcall := (h.calls i _ htask).request_eq hreads
  cases reply with
  | error e => rfl
  | ok job =>
    refine if_neg fun hmem => ?_
    obtain ⟨⟨j, k⟩, hstored, rfl⟩ := List.mem_map.mp hmem
    obtain ⟨e', he', hid', hunused⟩ := h.stored j _ hstored
    cases task with
    | some t =>
      obtain ⟨command, outcome, hcommand, hlabel, houtcome, rfl⟩ := hfits
      obtain ⟨-, e, he, rfl, hid⟩ := made_of_read hservice hcall hcommand hlabel houtcome hread
      have hsame := (trace_of_service hservice).createdId_unique he he' hid hid'
      exact hunused i _ hrequest (congrArg some hsame)
    | none =>
      rcases Mobile.HookCall.request_cases hcall with ⟨latitude, longitude, rfl⟩ | ⟨link, rfl⟩
      · injection hread with hread
        injection hread with hread
        exact hfits.2 job hread
      · exact hfits.2

/-- **Every response can be delivered.**  The call still awaits it, and a job that it brings has an
id under which no call has stored one. -/
theorem response_delivered (h : Reaches config permitted init d) {i : ℕ} {task : Option ℕ}
    {response : ApiResponse} (hrequest : d.requests i = some (.answered task response)) :
    ∃ d', d.step config permitted (.deliver i) = some d' ∧ d'.requests i = none := by
  have hconsistent := consistent_of_reaches h
  obtain ⟨request, hawaiting, hfits⟩ := hconsistent.requests i _ hrequest
  obtain ⟨input, r, hread, hr⟩ : ∃ input r, request.read response = some input ∧
      request.respond d.hook.shared input = some r := by
    cases request with
    | createForecastJob latitude longitude =>
      exact ⟨_, _, rfl, new_of_fits hconsistent (service_reaches h) hrequest hawaiting hfits
        (fun _ => id) rfl⟩
    | retryForecastJob link =>
      exact ⟨_, _, rfl, new_of_fits hconsistent (service_reaches h) hrequest hawaiting hfits
        (fun _ => id) rfl⟩
    | fetchForecastJob link => exact ⟨_, _, rfl, rfl⟩
    | pollForecastJob link => exact ⟨_, _, rfl, rfl⟩
    | listForecastJobs limit status => exact ⟨_, _, rfl, rfl⟩
    | _ =>
      cases task with
      | some t =>
        obtain ⟨command, outcome, hcommand, -⟩ := hfits
        cases hcommand
      | none => cases hfits.2
  obtain ⟨call, next, htask⟩ := Mobile.useForecast.awaiting_eq_some.mp hawaiting
  have hstep : Mobile.useForecast.step d.hook (.answer i input) =
      some (Mobile.useForecast.resume d.hook i call (next r)) := by
    simp only [CoSystem.step, htask]
    exact Option.map_eq_some_iff.mpr ⟨r, hr, rfl⟩
  refine ⟨⟨Mobile.useForecast.resume d.hook i call (next r), d.service,
    Function.update d.requests i none⟩, ?_, Function.update_self ..⟩
  simp only [step, hrequest, hawaiting, hread, Option.bind_some, answer, hstep, Option.map_some]

end Deployment

end Documents

end Runtime

namespace Deployment.SampleRun

open StrictRuntime Mobile.SampleContract

scoped instance floatPolicy : FloatPolicy := ⟨true⟩

/-- A job is created, and the response is on its way. -/
def createdMoves : List Move :=
  [.start (.refreshForecast none (.finite 52) (.finite 13)), .receive 0,
    .serve (.act 0 { newId := sampleId }), .serve (.act 0 {}), .respond 0]

/-- The job is run, and the hook polls it and reads it. -/
def shownMoves : List Move :=
  createdMoves ++ [.deliver 0, .serve (.start (.run sampleId)), .serve (.act 1 {}),
    .serve (.act 1 { clock := 5 }), .serve (.act 1 { clock := 6 }), .serve (.act 1 {}),
    .serve (.act 1 answered), .serve (.act 1 { clock := 7 }), .serve (.act 1 {}),
    .serve (.act 1 { clock := 8 }), .receive 0, .deliver 0, .elapse 0, .receive 0, .deliver 0]

/-- The state after the moves. -/
def after (moves : List Move) : Option (Deployment memoryStore) :=
  (initial .empty : Deployment memoryStore).run {} noRecovery moves

theorem forecast_shown_sample : ∃ d forecast, after shownMoves = some d ∧
    d.hook.shared.cells.forecast = some forecast ∧
    ∃ i task record summary, d.hook.tasks[i]? = some task ∧
      (i, record.id) ∈ d.hook.shared.stored ∧
      task.label.AsksFor record.latitude record.longitude record.parentJobId ∧
      record.status = .succeeded ∧ record.forecast = some summary ∧
      forecast = .ofPayload (some summary.document) ∧
      (memoryStore.records d.service.shared.store record.id = some record ∨
        memoryStore.records d.service.shared.store record.id = none ∧
          d.service.shared.issued record.id = true ∧
            ∃ e ∈ d.service.shared.history,
              memoryStore.records e.before record.id = some record) := by
  have h : ((after shownMoves).bind (·.hook.shared.cells.forecast)).isSome = true := by
    decide +kernel
  obtain ⟨forecast, hbind⟩ := Option.isSome_iff_exists.mp h
  obtain ⟨d, hrun, hshown⟩ := Option.bind_eq_some_iff.mp hbind
  exact ⟨d, forecast, hrun, hshown, forecast_shown (Reaches.refl.run hrun) hshown⟩

theorem response_delivered_sample : ∃ d d' task response, after createdMoves = some d ∧
    d.requests 0 = some (.answered task response) ∧
      d.step {} noRecovery (.deliver 0) = some d' ∧ d'.requests 0 = none := by
  have h : (((after createdMoves).bind (·.requests 0)).bind (·.response)).isSome = true := by
    decide +kernel
  obtain ⟨response, hbind⟩ := Option.isSome_iff_exists.mp h
  obtain ⟨state, hbind', hresponse⟩ := Option.bind_eq_some_iff.mp hbind
  obtain ⟨d, hrun, hrequest⟩ := Option.bind_eq_some_iff.mp hbind'
  cases state with
  | handling t => cases hresponse
  | answered task response' =>
    obtain ⟨d', hstep, hnone⟩ := response_delivered (Reaches.refl.run hrun) hrequest
    exact ⟨d, d', task, response', hrun, hrequest, hstep, hnone⟩

end Deployment.SampleRun

end Earth2Sandbox
