import Earth2Sandbox.Mobile.Idle

/-!
# Where the shown forecast comes from

A call of the hook asks for a job, tracks the job that it is given, and shows what it reads of it in
the end.  One turn of a call stores the job of its own request at most, and it shows a forecast only
when it has read it of a job that has succeeded, from the link of the job that it tracks
(`Phase.answer`).
-/

namespace Earth2Sandbox

namespace Mobile

open Coroutine (settle Obeys)

/-- The request for a job that a call makes. -/
def HookCall.request : HookCall → Option HookAwait
  | refreshForecast _ (.finite latitude) (.finite longitude) =>
    some (.createForecastJob latitude longitude)
  | retryJob _ job => (getJobLink job.links "retry").toOption.map .retryForecastJob
  | _ => none

lemma HookCall.request_cases {call : HookCall} {a : HookAwait} (h : call.request = some a) :
    (∃ latitude longitude, a = .createForecastJob latitude longitude) ∨
      ∃ link, a = .retryForecastJob link := by
  cases call with
  | refreshForecast filter latitude longitude =>
    cases latitude <;> cases longitude
    case finite.finite latitude longitude =>
      exact .inl ⟨latitude, longitude, (Option.some.inj h).symm⟩
    all_goals cases h
  | retryJob filter job =>
    obtain ⟨link, -, rfl⟩ := Option.map_eq_some_iff.mp h
    exact .inr ⟨link, rfl⟩
  | jobHistory filter => cases h

/-- The await of a call that has its job, or has none: it reads one at this link only. -/
def HookAwait.Reads (self : Option String) : HookAwait → Prop
  | createForecastJob .. | retryForecastJob _ => False
  | fetchForecastJob link => self = some link
  | _ => True

/-- The answer is a job that has succeeded with this forecast. -/
inductive Brings (forecast : Option ForecastSummary) : (a : HookAwait) → HookAnswer a → Prop
  | fetched (link : String) (job : ForecastJob) (status : job.status = .succeeded)
      (eq : job.forecast = forecast) : Brings forecast (.fetchForecastJob link) (.ok job)

/-- A turn stores no job, and it leaves the forecast alone, clears it or shows the one that has been
answered. -/
structure Shows (a : HookAwait) (r : HookAnswer a) (hook hook' : Hook) : Prop where
  stored : hook'.stored = hook.stored
  forecast : hook'.cells.forecast = hook.cells.forecast ∨ hook'.cells.forecast = none ∨
    Brings hook'.cells.forecast a r

/-- The program reads a job at this link only, and its turns show what they have read. -/
abbrev Watches {α : Type} (i : ℕ) (self : Option String) (program : HookProgram α) : Prop :=
  Obeys (useForecast.perform i) useForecast.spawns (HookAwait.Reads self) Shows program

lemma Shows.refl (a : HookAwait) (r : HookAnswer a) (hook : Hook) : Shows a r hook hook :=
  ⟨rfl, .inl rfl⟩

section Functions

variable {α β : Type} {i : ℕ} {self : Option String} (hook : Hook)

lemma pollUntilTerminal_reads (pollLink : String) (attempts : ℕ)
    (latestPoll : ForecastJobPollResponse) :
    (pollUntilTerminal pollLink attempts latestPoll).Only
      fun c => ∃ a : HookAwait, c = .inr a ∧ a.Reads self := by
  induction attempts generalizing latestPoll with
  | zero => trivial
  | succ attempts ih =>
    unfold pollUntilTerminal
    split
    · trivial
    · exact ⟨⟨_, rfl, trivial⟩, fun _ => ⟨⟨_, rfl, trivial⟩, fun _ =>
        (Program.only_ofExcept ..).bind ih⟩⟩

lemma waitForForecastJob_watches (job : ForecastJob) : Watches i self (waitForForecastJob job) := by
  refine Coroutine.obeys_of_awaits ?_ Shows.refl
  refine (Program.only_ofExcept ..).bind fun pollLink => ⟨⟨_, rfl, trivial⟩, fun reply => ?_⟩
  refine (Program.only_ofExcept ..).bind fun latestPoll => ?_
  refine (pollUntilTerminal_reads ..).bind fun latestPoll => ?_
  split <;> trivial

lemma awaitCall_bind_watches {name : AsyncFunction} {program : HookProgram α}
    {f : Except Rejection α → HookProgram β} (hp : Watches i self program)
    (hf : ∀ outcome, (∀ hook : Hook, Shows (.settled name !outcome.isOk) () hook
      (hook.after i (f outcome))) ∧ Watches i self (f outcome)) :
    Watches i self (awaitCall name program >>= f) := by
  rw [Watches, awaitCall_bind]
  exact hp.attempt.bind fun outcome => ⟨trivial, trivial, fun _ => hf outcome⟩

/-- A guarded turn changes what follows on the guard, or nothing. -/
lemma shows_guarded {jobId : String} {a : HookAwait} {r : HookAnswer a} {next : HookProgram Unit}
    (hnext : Shows a r hook (hook.after i next)) :
    Shows a r hook (hook.after i (readActiveJobId >>= fun activeJobId =>
      if activeJobId ≠ some jobId then .ret () else next)) := by
  rw [after_readActiveJobId_bind]
  split
  · exact .refl ..
  · exact hnext

lemma trackForecastJob_watches (filter : Option ForecastJobStatus) (job : ForecastJob) :
    Watches i (getJobLink job.links "self").toOption (trackForecastJob filter job) := by
  refine fun _ _ _ _ _ _ => awaitCall_bind_watches (waitForForecastJob_watches job) ?_
  rintro (e | finalPoll)
  · exact ⟨fun hook => .refl .., trivial⟩
  refine ⟨fun hook => shows_guarded hook ?_, fun (activeJobId : Option String) => ?_⟩
  · cases getJobLink job.links "self" <;> exact ⟨rfl, .inl rfl⟩
  change Watches i _ (if activeJobId ≠ some job.id then _ else _)
  split
  · trivial
  intro _
  cases hlink : getJobLink job.links "self" with
  | error e => trivial
  | ok link =>
    refine ⟨rfl, ?_⟩
    rintro (e | completedJob)
    · exact ⟨fun hook => .refl .., trivial⟩
    rcases completedJob with ⟨id, status, forecast, events, updatedAt, error, links⟩
    refine ⟨fun hook => shows_guarded hook ?_, Coroutine.obeys_of_operations ?_⟩
    · cases status <;> cases forecast
      case succeeded.some forecast => exact ⟨rfl, .inr (.inr (.fetched link _ rfl rfl))⟩
      all_goals exact ⟨rfl, .inl rfl⟩
    · refine Program.Only.bind (p := readActiveJobId) ⟨rfl, fun _ => trivial⟩ fun activeJobId => ?_
      split
      · trivial
      · refine ⟨rfl, fun _ => ⟨rfl, fun _ => ⟨rfl, fun _ => ⟨rfl, fun _ => ?_⟩⟩⟩⟩
        cases status <;> cases forecast <;>
          first | trivial | exact ⟨rfl, fun _ => ⟨rfl, fun _ => trivial⟩⟩

/-- The turn in which the job is received leaves the forecast alone. -/
lemma forecast_trackForecastJob (filter : Option ForecastJobStatus) (job : ForecastJob) :
    (hook.after i (trackForecastJob filter job)).cells.forecast = hook.cells.forecast := by
  have hwait : ∀ (hook : Hook) (f : Except Rejection ForecastJobPollResponse → HookProgram Unit),
      hook.after i (awaitCall .waitForForecastJob (waitForForecastJob job) >>= f) = hook :=
    fun hook f => (after_awaitCall_bind ..).trans
      (Coroutine.settle_of_awaits (waitForForecastJob_awaits job) hook)
  rw [trackForecastJob, after_setActiveJobId_bind, setForecastJob, after_setState_bind,
    setForecastJobPoll, after_setState_bind, after_refreshJobHistory_bind, hwait]
  rfl

/-- The `catch` and `finally` blocks keep the forecast or clear it. -/
lemma forecast_concludeRequest (fallback : String) (startedJobId : Option String)
    (outcome : Except Rejection Unit) :
    (hook.after i (concludeRequest fallback startedJobId outcome)).stored = hook.stored ∧
      (hook.after i (concludeRequest fallback startedJobId outcome)).cells.forecast =
        if outcome.isOk then hook.cells.forecast else none := by
  cases outcome <;> by_cases h : startedJobId = none ∨ hook.activeJobId = startedJobId <;>
    simp [concludeRequest, h, setForecast, setErrorMessage, setSelectedLeadHour, setIsLoading,
      setIsJobPolling, HookOp.perform, Except.isOk, Except.toBool]

/-- What follows on the answer to a request for a job: the call tracks the job, or it clears the
forecast and reads none. -/
def Replied (i : ℕ) (reply : Except Rejection ForecastJob) (program : HookProgram Unit) : Prop :=
  match reply with
  | .ok job => Watches i (getJobLink job.links "self").toOption program ∧ ∀ hook : Hook,
      (hook.after i program).stored = (i, job.id) :: hook.stored ∧
        (hook.after i program).cells.forecast = hook.cells.forecast
  | .error _ => Watches i none program ∧ ∀ hook : Hook,
      (hook.after i program).stored = hook.stored ∧ (hook.after i program).cells.forecast = none

/-- The program waits for the job that its call asks for. -/
def Asks (i : ℕ) (call : HookCall) : HookProgram Unit → Prop
  | .call (.inr (.createForecastJob latitude longitude)) next =>
    call.request = some (.createForecastJob latitude longitude) ∧
      ∀ reply, Replied i reply (next reply)
  | .call (.inr (.retryForecastJob link)) next =>
    call.request = some (.retryForecastJob link) ∧ ∀ reply, Replied i reply (next reply)
  | _ => False

lemma replied_error (fallback : String) (e e' : Rejection) :
    Replied i (.error e') (concludeRequest fallback none (.error e)) :=
  ⟨Coroutine.obeys_of_operations (concludeRequest_operations ..), fun hook =>
    forecast_concludeRequest hook fallback none (.error e)⟩

lemma replied_ok (fallback : String) (filter : Option ForecastJobStatus) (job : ForecastJob) :
    Replied i (.ok job) (awaitCall .trackForecastJob (trackForecastJob filter job) >>=
      concludeRequest fallback (some job.id)) := by
  refine ⟨awaitCall_bind_watches (trackForecastJob_watches filter job) fun outcome =>
    ⟨fun hook => ?_, Coroutine.obeys_of_operations (concludeRequest_operations ..)⟩,
    fun hook => ?_⟩
  · obtain ⟨hstored, hforecast⟩ :=
      forecast_concludeRequest (i := i) hook fallback (some job.id) outcome
    refine ⟨hstored, ?_⟩
    cases outcome with
    | ok _ => exact .inl hforecast
    | error e => exact .inr (.inl hforecast)
  · rw [after_awaitCall_bind]
    exact ⟨(after_trackForecastJob hook filter job).1, forecast_trackForecastJob hook filter job⟩

lemma Replied.setState {reply : Except Rejection ForecastJob} {program : HookProgram Unit}
    (h : Replied i reply program) {f : HookCells → HookCells}
    (hf : ∀ cells, (f cells).forecast = cells.forecast) :
    Replied i reply (setState f >>= fun _ => program) := by
  cases reply with
  | ok job =>
    refine ⟨fun _ => h.1, fun hook => ?_⟩
    obtain ⟨hstored, hforecast⟩ := h.2 { hook with cells := f hook.cells }
    exact ⟨hstored, hforecast.trans (hf hook.cells)⟩
  | error e => exact ⟨fun _ => h.1, fun hook => h.2 { hook with cells := f hook.cells }⟩

/-- A first turn: no job is stored, the forecast stays or is cleared, and then the call waits for
its job or reads none. -/
structure Embarks (i : ℕ) (hook : Hook) (call : HookCall) (program : HookProgram Unit) : Prop where
  stored : (hook.after i program).stored = hook.stored
  forecast : (hook.after i program).cells.forecast = hook.cells.forecast ∨
    (hook.after i program).cells.forecast = none
  rest : Asks i call (settle (useForecast.perform i) useForecast.spawns program hook).1 ∨
    Watches i none (settle (useForecast.perform i) useForecast.spawns program hook).1

lemma Embarks.setState {call : HookCall} {program : HookProgram Unit} (f : HookCells → HookCells)
    (hf : ∀ cells, (f cells).forecast = cells.forecast)
    (h : ∀ hook : Hook, Embarks i hook call program) :
    Embarks i hook call (Mobile.setState f >>= fun _ => program) := by
  have hnext := h { hook with cells := f hook.cells }
  exact ⟨hnext.stored, hnext.forecast.imp_left fun heq => heq.trans (hf hook.cells), hnext.rest⟩

lemma refreshForecast_embarks (filter : Option ForecastJobStatus) (latitude longitude : JsNumber) :
    Embarks i hook (.refreshForecast filter latitude longitude)
      (refreshForecast filter latitude longitude) := by
  cases latitude <;> cases longitude
  case finite.finite latitude longitude =>
    refine ⟨rfl, .inl rfl, .inl ⟨rfl, fun reply => ?_⟩⟩
    cases reply with
    | error e => exact replied_error ..
    | ok job => exact replied_ok ..
  all_goals exact ⟨rfl, .inl rfl, .inr trivial⟩

lemma retryJob_embarks (filter : Option ForecastJobStatus) (job : ForecastJobSummary) :
    Embarks i hook (.retryJob filter job) (retryJob filter job) := by
  refine .setState _ _ (fun _ => rfl) fun _ => .setState _ _ (fun _ => rfl) fun _ =>
    .setState _ _ (fun _ => rfl) fun _ => .setState _ _ (fun _ => rfl) fun _ =>
      .setState _ _ (fun _ => rfl) fun hook => ?_
  cases hlink : getJobLink job.links "retry" with
  | error e =>
    obtain ⟨hwatches, hafter⟩ := replied_error (i := i) "Forecast job retry failed." e e
    exact ⟨(hafter hook).1, .inr (hafter hook).2, .inr (hwatches.settle hook)⟩
  | ok link =>
    have hrequest : (HookCall.retryJob filter job).request = some (.retryForecastJob link) := by
      simp [HookCall.request, hlink, Except.toOption]
    refine ⟨rfl, .inl rfl, .inl ⟨hrequest, fun reply => ?_⟩⟩
    cases reply with
    | error e => exact replied_error ..
    | ok retry => exact (replied_ok ..).setState fun _ => rfl

lemma awaitJobHistory_watches (filter : Option ForecastJobStatus) :
    Watches i none (awaitJobHistory filter) := by
  refine ⟨trivial, ?_⟩
  rintro (e | jobs) <;> exact ⟨fun hook => ⟨rfl, .inl rfl⟩, fun _ _ => trivial⟩

lemma body_embarks (call : HookCall) : Embarks i hook call call.body := by
  cases call with
  | refreshForecast filter latitude longitude => exact refreshForecast_embarks ..
  | retryJob filter job => exact retryJob_embarks ..
  | jobHistory filter => exact ⟨rfl, .inl rfl, .inr (awaitJobHistory_watches filter)⟩

end Functions

/-! ## The calls of a run -/

/-- How far a call has come with its job: it asks for it, tracks it, or has none. -/
inductive Phase (origin : HookCall → ForecastJob → Prop) (hook : Hook) (i : ℕ) (call : HookCall)
    (program : HookProgram Unit) : Prop
  | asking (asks : Asks i call program)
  | tracking (job : ForecastJob) (origin : origin call job) (stored : (i, job.id) ∈ hook.stored)
      (watches : Watches i (getJobLink job.links "self").toOption program)
  | aloof (watches : Watches i none program)

/-- What a turn of call `i` may do, in which `input` has answered `a`. -/
structure Turned (origin : HookCall → ForecastJob → Prop) (hook hook' : Hook) (i : ℕ)
    (call : HookCall) (a : HookAwait) (input : HookInput) : Prop where
  stored : hook'.stored = hook.stored ∨ ∃ job, input = .job (.ok job) ∧ call.request = some a ∧
    hook'.stored = (i, job.id) :: hook.stored
  forecast : hook'.cells.forecast = hook.cells.forecast ∨ hook'.cells.forecast = none ∨
    ∃ job link completed, origin call job ∧ (i, job.id) ∈ hook.stored ∧
      getJobLink job.links "self" = .ok link ∧ a = .fetchForecastJob link ∧
        input = .job (.ok completed) ∧ completed.status = .succeeded ∧
          completed.forecast = hook'.cells.forecast

section Phase

variable {origin origin' : HookCall → ForecastJob → Prop} {hook hook' : Hook} {i : ℕ}
  {call : HookCall} {program : HookProgram Unit} {a : HookAwait}
  {next : HookAnswer a → HookProgram Unit} {input : HookInput} {r : HookAnswer a}

lemma Phase.mono (h : Phase origin hook i call program)
    (horigin : ∀ call job, origin call job → origin' call job)
    (hstored : hook.stored ⊆ hook'.stored) : Phase origin' hook' i call program := by
  cases h with
  | asking asks => exact .asking asks
  | tracking job origin stored watches =>
    exact .tracking job (horigin call job origin) (hstored stored) watches
  | aloof watches => exact .aloof watches

/-- A call that awaits a new job has asked for it. -/
lemma Phase.request_eq (h : Phase origin hook i call (.call (.inr a) next))
    (ha : ∀ self, ¬ a.Reads self) : call.request = some a := by
  cases h with
  | asking asks =>
    cases a with
    | createForecastJob latitude longitude => exact asks.1
    | retryForecastJob link => exact asks.1
    | _ => cases asks
  | tracking job _ _ watches => exact absurd watches.1 (ha _)
  | aloof watches => exact absurd watches.1 (ha _)

lemma Replied.phase {reply reply' : Except Rejection ForecastJob} (h : Replied i reply program)
    (hreply : newJob hook reply' = some reply) (hrequest : call.request = some a)
    (hmade : ∀ job, HookInput.job reply' = .job (.ok job) → origin call job) :
    Turned origin hook (hook.after i program) i call a (.job reply') ∧
      Phase origin (hook.after i program) i call
        (settle (useForecast.perform i) useForecast.spawns program hook).1 := by
  cases reply' with
  | error e =>
    obtain rfl := Option.some.inj hreply
    obtain ⟨hwatches, hafter⟩ := h
    exact ⟨⟨.inl (hafter hook).1, .inr (.inl (hafter hook).2)⟩, .aloof (hwatches.settle hook)⟩
  | ok job =>
    simp only [newJob] at hreply
    split at hreply
    · cases hreply
    obtain rfl := Option.some.inj hreply
    obtain ⟨hwatches, hafter⟩ := h
    obtain ⟨hstored, hforecast⟩ := hafter hook
    refine ⟨⟨.inr ⟨job, rfl, hrequest, hstored⟩, .inl hforecast⟩, ?_⟩
    exact .tracking job (hmade job rfl) (by simp [hstored]) (hwatches.settle hook)

lemma Phase.answer (h : Phase origin hook i call (.call (.inr a) next))
    (hr : a.respond hook input = some r)
    (hmade : ∀ job, call.request = some a → input = .job (.ok job) → origin call job) :
    Turned origin hook (hook.after i (next r)) i call a input ∧
      Phase origin (hook.after i (next r)) i call
        (settle (useForecast.perform i) useForecast.spawns (next r) hook).1 := by
  cases h with
  | asking asks =>
    cases a with
    | createForecastJob latitude longitude =>
      cases input with
      | job reply => exact (asks.2 r).phase hr asks.1 (hmade · asks.1)
      | _ => cases hr
    | retryForecastJob link =>
      cases input with
      | job reply => exact (asks.2 r).phase hr asks.1 (hmade · asks.1)
      | _ => cases hr
    | _ => cases asks
  | tracking job horigin hstored watches =>
    have hshows : Shows a r hook (hook.after i (next r)) := (watches.2 r).1 hook
    refine ⟨⟨.inl hshows.stored, ?_⟩, .tracking job horigin (hshows.stored ▸ hstored)
      ((watches.2 r).2.settle hook)⟩
    refine hshows.forecast.imp_right (Or.imp_right fun hbrings => ?_)
    obtain ⟨hreads, -⟩ := watches
    generalize hforecast : (hook.after i (next r)).cells.forecast = forecast at hbrings
    cases hbrings with
    | fetched link completed hstatus hcompleted =>
      cases input with
      | job reply =>
        obtain rfl := Option.some.inj hr
        refine ⟨job, link, completed, horigin, hstored, ?_, rfl, rfl, hstatus, hcompleted⟩
        cases hlink : getJobLink job.links "self" with
        | error e => simp [HookAwait.Reads, hlink, Except.toOption] at hreads
        | ok link' => simpa [HookAwait.Reads, hlink, Except.toOption] using hreads
      | _ => cases hr
  | aloof watches =>
    have hshows : Shows a r hook (hook.after i (next r)) := (watches.2 r).1 hook
    refine ⟨⟨.inl hshows.stored, ?_⟩, .aloof ((watches.2 r).2.settle hook)⟩
    refine hshows.forecast.imp_right (Or.imp_right fun hbrings => ?_)
    obtain ⟨hreads, -⟩ := watches
    generalize (hook.after i (next r)).cells.forecast = forecast at hbrings
    cases hbrings with
    | fetched link completed hstatus hcompleted => cases hreads

variable (origin) in
lemma phase_start (hook : Hook) (i : ℕ) (call : HookCall) :
    (hook.after i call.body).stored = hook.stored ∧
      ((hook.after i call.body).cells.forecast = hook.cells.forecast ∨
        (hook.after i call.body).cells.forecast = none) ∧
      Phase origin (hook.after i call.body) i call
        (settle (useForecast.perform i) useForecast.spawns call.body hook).1 := by
  have hembarks := body_embarks (i := i) hook call
  exact ⟨hembarks.stored, hembarks.forecast, hembarks.rest.elim .asking .aloof⟩

end Phase

end Mobile

end Earth2Sandbox
