import Earth2Sandbox.Mobile.UseForecast

/-!
# Superseded requests

A call of the hook is superseded when a later one has stored its job.  What it still does is guarded
by `activeJobId` in most places, and then leaves the screen alone (`superseded_undisturbed`).  Two
places are not guarded: a call that is superseded before its own job exists, and the `catch` blocks
(`late_failure_shown`).
-/

namespace Earth2Sandbox

namespace Mobile

open Coroutine (settle Follows)

/-- A later call has stored its job. -/
def Hook.Superseded (hook : Hook) (i : ℕ) : Prop := ∃ stored ∈ hook.stored, i < stored.1

instance (hook : Hook) (i : ℕ) : Decidable (hook.Superseded i) :=
  inferInstanceAs (Decidable (∃ stored ∈ hook.stored, i < stored.1))

/-- The screen still shows the same. -/
structure Hook.Undisturbed (hook hook' : Hook) : Prop where
  forecast : hook'.cells.forecast = hook.cells.forecast
  forecastJob : hook'.cells.forecastJob = hook.cells.forecastJob
  errorMessage : hook'.cells.errorMessage = hook.cells.errorMessage
  selectedLeadHour : hook'.cells.selectedLeadHour = hook.cells.selectedLeadHour
  isLoading : hook'.cells.isLoading = hook.cells.isLoading
  isJobPolling : hook'.cells.isJobPolling = hook.cells.isJobPolling
  activeJobId : hook'.activeJobId = hook.activeJobId

lemma Hook.Undisturbed.refl (hook : Hook) : hook.Undisturbed hook :=
  ⟨rfl, rfl, rfl, rfl, rfl, rfl, rfl⟩

/-- An await whose continuation does not ask whether the call is still the current one: that of the
request for a job, and that of a `trackForecastJob` that has failed. -/
def HookAwait.unguarded : HookAwait → Bool
  | createForecastJob .. | retryForecastJob _ | settled .trackForecastJob true => true
  | _ => false

/-- No superseded call goes on from such an await. -/
def InTime (cfg : useForecast.Configuration) : Turn HookCall HookInput → Prop
  | .start _ => True
  | .answer i _ => cfg.shared.Superseded i → ∀ a ∈ useForecast.awaiting cfg i, a.unguarded = false

instance (cfg : useForecast.Configuration) : (turn : Turn HookCall HookInput) →
    Decidable (InTime cfg turn)
  | .start _ => isTrue trivial
  | .answer i _ => inferInstanceAs (Decidable (cfg.shared.Superseded i →
      ∀ a ∈ useForecast.awaiting cfg i, a.unguarded = false))

/-- The hook before any call. -/
def noCalls : useForecast.Configuration := ⟨{}, []⟩

/-! ## What a turn may do -/

/-- A turn of a call that tracks this job. -/
structure Gentle (jobId : String) (a : HookAwait) (hook hook' : Hook) : Prop where
  stored : hook'.stored = hook.stored
  active : hook'.activeJobId = hook.activeJobId ∨ hook'.activeJobId = none
  undisturbed : a.unguarded = false → hook.activeJobId ≠ some jobId → hook.Undisturbed hook'

/-- A turn that has nothing to do with a job. -/
structure Aloof (_ : HookAwait) (hook hook' : Hook) : Prop where
  stored : hook'.stored = hook.stored
  undisturbed : hook.Undisturbed hook'

lemma Gentle.refl (jobId : String) (a : HookAwait) (hook : Hook) : Gentle jobId a hook hook :=
  ⟨rfl, .inl rfl, fun _ _ => .refl hook⟩

/-! ## The functions -/

/-- The hook after a turn of task `i` that goes on with `program`. -/
def Hook.after {α : Type} (hook : Hook) (i : ℕ) (program : HookProgram α) : Hook :=
  (settle (useForecast.perform i) useForecast.spawns program hook).2.1

/-- In every turn of the program, the hook changes as `K` says. -/
abbrev Turns {α : Type} (i : ℕ) (K : HookAwait → Hook → Hook → Prop) (program : HookProgram α) :
    Prop :=
  Follows (useForecast.perform i) useForecast.spawns K program

section Functions

variable {α β : Type} {K : HookAwait → Hook → Hook → Prop} {i : ℕ} (hook : Hook)

@[simp] lemma after_ret (a : α) : hook.after i (.ret a) = hook := rfl

@[simp] lemma after_raise (e : Rejection) : hook.after i (.raise e : HookProgram α) = hook := rfl

@[simp] lemma after_await (a : HookAwait) (next : HookAnswer a → HookProgram α) :
    hook.after i (.call (.inr a) next) = hook := rfl

@[simp] lemma after_setState (f : HookCells → HookCells) :
    hook.after i (setState f) = { hook with cells := f hook.cells } := rfl

@[simp] lemma after_setState_bind (f : HookCells → HookCells) (next : Unit → HookProgram α) :
    hook.after i (setState f >>= next) =
      Hook.after { hook with cells := f hook.cells } i (next ()) := rfl

@[simp] lemma after_readActiveJobId_bind (next : Option String → HookProgram α) :
    hook.after i (readActiveJobId >>= next) = hook.after i (next hook.activeJobId) := rfl

@[simp] lemma after_setActiveJobId_bind (jobId : Option String) (next : Unit → HookProgram α) :
    hook.after i (setActiveJobId jobId >>= next) =
      Hook.after (HookOp.perform i (.setActiveJobId jobId) hook).2 i (next ()) := rfl

lemma pollUntilTerminal_awaits (pollLink : String) (attempts : ℕ)
    (latestPoll : ForecastJobPollResponse) :
    (pollUntilTerminal pollLink attempts latestPoll).Only fun c => c.isRight := by
  induction attempts generalizing latestPoll with
  | zero => trivial
  | succ attempts ih =>
    unfold pollUntilTerminal
    split
    · trivial
    · exact ⟨rfl, fun _ => ⟨rfl, fun _ => (Program.only_ofExcept ..).bind ih⟩⟩

lemma waitForForecastJob_awaits (job : ForecastJob) :
    (waitForForecastJob job).Only fun c => c.isRight := by
  refine (Program.only_ofExcept ..).bind fun pollLink => ⟨rfl, fun reply => ?_⟩
  refine (Program.only_ofExcept ..).bind fun latestPoll => ?_
  refine (pollUntilTerminal_awaits ..).bind fun latestPoll => ?_
  split <;> trivial

lemma concludeRequest_operations (fallback : String) (startedJobId : Option String)
    (outcome : Except Rejection Unit) :
    (concludeRequest fallback startedJobId outcome).Only fun c => c.isLeft := by
  have hend : (do
      let activeJobId ← readActiveJobId
      if startedJobId = none ∨ activeJobId = startedJobId then
        setActiveJobId none
        setIsLoading false
        setIsJobPolling false : HookProgram Unit).Only fun c => c.isLeft := by
    refine Program.Only.bind ⟨rfl, fun _ => trivial⟩ fun activeJobId => ?_
    split
    · exact ⟨rfl, fun _ => ⟨rfl, fun _ => ⟨rfl, fun _ => trivial⟩⟩⟩
    · trivial
  cases outcome with
  | ok _ => exact hend
  | error e => exact ⟨rfl, fun _ => ⟨rfl, fun _ => ⟨rfl, fun _ => hend⟩⟩⟩

/-- Awaiting a function splits the turns of the caller. -/
lemma after_refreshJobHistory_bind (filter : Option ForecastJobStatus)
    (next : Unit → HookProgram α) :
    hook.after i (refreshJobHistory filter >>= next) =
      Hook.after { hook with cells := { hook.cells with
        isJobHistoryLoading := true, jobHistoryErrorMessage := none } } i (next ()) := rfl

lemma awaitCall_bind (name : AsyncFunction) (program : HookProgram α)
    (f : Except Rejection α → HookProgram β) :
    awaitCall name program >>= f = program.attempt >>= fun outcome =>
      .call (.inr (.settled name !outcome.isOk)) fun _ => f outcome :=
  Program.bind_assoc ..

lemma after_awaitCall_bind (name : AsyncFunction) (program : HookProgram α)
    (f : Except Rejection α → HookProgram β) :
    hook.after i (awaitCall name program >>= f) = hook.after i program := by
  rw [Hook.after, awaitCall_bind, Coroutine.settle_bind, Coroutine.settle_attempt]
  · rfl
  · exact fun _ => trivial

lemma turns_awaitCall_bind {name : AsyncFunction} {program : HookProgram α}
    {f : Except Rejection α → HookProgram β} (hp : Turns i K program)
    (hf : ∀ outcome, (∀ hook, K (.settled name !outcome.isOk) hook (hook.after i (f outcome))) ∧
      Turns i K (f outcome)) :
    Turns i K (awaitCall name program >>= f) := by
  rw [Turns, awaitCall_bind]
  exact hp.attempt.bind fun outcome => ⟨trivial, fun _ => hf outcome⟩

lemma after_concludeRequest (fallback : String) (startedJobId : Option String)
    (outcome : Except Rejection Unit) :
    ∃ cells : HookCells, (outcome.isOk = true → cells = hook.cells) ∧
      hook.after i (concludeRequest fallback startedJobId outcome) =
        if startedJobId = none ∨ hook.activeJobId = startedJobId then
          { hook with
            cells := { cells with isLoading := false, isJobPolling := false }
            activeJobId := none }
        else { hook with cells := cells } := by
  cases outcome with
  | ok _ =>
    refine ⟨hook.cells, fun _ => rfl, ?_⟩
    split
    · next h => simp [concludeRequest, h, setIsLoading, setIsJobPolling, HookOp.perform]
    · next h => simp [concludeRequest, h]
  | error e =>
    refine ⟨{ hook.cells with
      forecast := none, errorMessage := some (e.message fallback), selectedLeadHour := none },
      fun h => (by cases h), ?_⟩
    split
    · next h =>
      simp [concludeRequest, h, setForecast, setErrorMessage, setSelectedLeadHour, setIsLoading,
        setIsJobPolling, HookOp.perform]
    · next h => simp [concludeRequest, h, setForecast, setErrorMessage, setSelectedLeadHour]

/-- A guarded turn leaves the screen alone when the call is not the current one. -/
lemma gentle_guarded {jobId : String} {a : HookAwait} {next : HookProgram Unit}
    (hnext : (hook.after i next).stored = hook.stored ∧
      (hook.after i next).activeJobId = hook.activeJobId) :
    Gentle jobId a hook (hook.after i (readActiveJobId >>= fun activeJobId =>
      if activeJobId ≠ some jobId then .ret () else next)) := by
  rw [after_readActiveJobId_bind]
  by_cases hactive : hook.activeJobId = some jobId
  · rw [if_neg (not_not.mpr hactive)]
    exact ⟨hnext.1, .inl hnext.2, fun _ h => absurd hactive h⟩
  · rw [if_pos hactive]
    exact .refl ..

lemma trackForecastJob_turns (filter : Option ForecastJobStatus) (job : ForecastJob) :
    Turns i (Gentle job.id) (trackForecastJob filter job) := by
  refine fun _ _ _ _ _ _ => turns_awaitCall_bind
    (Coroutine.follows_of_awaits (waitForForecastJob_awaits job) fun a hook => .refl ..) ?_
  rintro (e | finalPoll)
  · exact ⟨fun hook => .refl .., trivial⟩
  · refine ⟨fun hook => gentle_guarded hook ?_, ?_⟩
    · cases getJobLink job.links "self" <;> exact ⟨rfl, rfl⟩
    refine Follows.after_operations (p := readActiveJobId) ⟨rfl, fun _ => trivial⟩
      fun activeJobId => ?_
    split
    · trivial
    · refine Follows.after_operations (p := setForecastJobPoll _) ⟨rfl, fun _ => trivial⟩
        fun _ => ?_
      cases getJobLink job.links "self" with
      | error e => trivial
      | ok link =>
        -- the answer to `fetchForecastJob`
        rintro (e | completedJob)
        · exact ⟨fun hook => .refl .., trivial⟩
        · refine ⟨fun hook => gentle_guarded hook ?_, Coroutine.follows_of_operations ?_⟩
          · rcases completedJob with ⟨_, status, forecast, _⟩
            cases status <;> cases forecast <;> exact ⟨rfl, rfl⟩
          · refine Program.Only.bind (p := readActiveJobId) ⟨rfl, fun _ => trivial⟩
              fun activeJobId => ?_
            split
            · trivial
            · refine ⟨rfl, fun _ => ⟨rfl, fun _ => ⟨rfl, fun _ => ⟨rfl, fun _ => ?_⟩⟩⟩⟩
              rcases completedJob with ⟨_, status, forecast, _⟩
              cases status <;> cases forecast <;>
                first | trivial | exact ⟨rfl, fun _ => ⟨rfl, fun _ => trivial⟩⟩

/-- The job is stored in the turn in which it is received. -/
lemma after_trackForecastJob (filter : Option ForecastJobStatus) (job : ForecastJob) :
    (hook.after i (trackForecastJob filter job)).stored = (i, job.id) :: hook.stored ∧
      (hook.after i (trackForecastJob filter job)).activeJobId = some job.id := by
  have hwait : ∀ (hook : Hook) (f : Except Rejection ForecastJobPollResponse → HookProgram Unit),
      hook.after i (awaitCall .waitForForecastJob (waitForForecastJob job) >>= f) = hook :=
    fun hook f => (after_awaitCall_bind ..).trans
      (Coroutine.settle_of_awaits (waitForForecastJob_awaits job) hook)
  rw [trackForecastJob, after_setActiveJobId_bind, setForecastJob, after_setState_bind,
    setForecastJobPoll, after_setState_bind, after_refreshJobHistory_bind, hwait]
  exact ⟨rfl, rfl⟩

/-- What follows on the answer to a request for a job. -/
def Answered (i : ℕ) (reply : Except Rejection ForecastJob) (program : HookProgram Unit) : Prop :=
  match reply with
  | .ok job => Turns i (Gentle job.id) program ∧ ∀ hook : Hook,
      (hook.after i program).stored = (i, job.id) :: hook.stored ∧
        (hook.after i program).activeJobId = some job.id
  | .error _ => Turns i Aloof program ∧ ∀ hook : Hook,
      (hook.after i program).stored = hook.stored ∧ (hook.after i program).activeJobId = none

/-- The program waits for its job. -/
def Begins (i : ℕ) : HookProgram Unit → Prop
  | .call (.inr (.createForecastJob ..)) next => ∀ reply, Answered i reply (next reply)
  | .call (.inr (.retryForecastJob _)) next => ∀ reply, Answered i reply (next reply)
  | _ => False

lemma Begins.unguarded {a : HookAwait} {next : HookAnswer a → HookProgram Unit}
    (h : Begins i (.call (.inr a) next)) : a.unguarded = true := by
  cases a <;> first | rfl | exact h.elim

/-- A call that could not get a job counts as the current one. -/
lemma answered_error (fallback : String) (e e' : Rejection) :
    Answered i (.error e') (concludeRequest fallback none (.error e)) := by
  refine ⟨Coroutine.follows_of_operations (concludeRequest_operations ..), fun hook => ?_⟩
  obtain ⟨cells, -, hafter⟩ := after_concludeRequest (i := i) hook fallback none (.error e)
  rw [hafter, if_pos (.inl rfl)]
  exact ⟨rfl, rfl⟩

/-- From the answer on, a call tracks its job. -/
lemma answered_ok (fallback : String) (filter : Option ForecastJobStatus) (job : ForecastJob) :
    Answered i (.ok job) (awaitCall .trackForecastJob (trackForecastJob filter job) >>=
      concludeRequest fallback (some job.id)) := by
  refine ⟨turns_awaitCall_bind (trackForecastJob_turns filter job) fun outcome => ⟨fun hook => ?_,
    Coroutine.follows_of_operations (concludeRequest_operations ..)⟩, fun hook => ?_⟩
  · obtain ⟨cells, hcells, hafter⟩ :=
      after_concludeRequest (i := i) hook fallback (some job.id) outcome
    rw [hafter]
    by_cases hactive : hook.activeJobId = some job.id
    · rw [if_pos (.inr hactive)]
      exact ⟨rfl, .inr rfl, fun _ h => absurd hactive h⟩
    · rw [if_neg (by simp [hactive])]
      refine ⟨rfl, .inl rfl, fun hguarded _ => ?_⟩
      cases outcome with
      | ok _ =>
        rw [hcells rfl]
        exact .refl hook
      | error e => cases hguarded
  · rw [after_awaitCall_bind]
    exact after_trackForecastJob hook filter job

lemma Answered.setState {reply : Except Rejection ForecastJob} {program : HookProgram Unit}
    (h : Answered i reply program) (f : HookCells → HookCells) :
    Answered i reply (setState f >>= fun _ => program) := by
  cases reply with
  | ok job => exact ⟨fun _ => h.1, fun hook => h.2 { hook with cells := f hook.cells }⟩
  | error e => exact ⟨fun _ => h.1, fun hook => h.2 { hook with cells := f hook.cells }⟩

lemma awaitJobHistory_turns (filter : Option ForecastJobStatus) :
    Turns i Aloof (awaitJobHistory filter) := by
  rintro (e | jobs)
  · exact ⟨fun hook => ⟨rfl, rfl, rfl, rfl, rfl, rfl, rfl, rfl⟩, fun _ _ => trivial⟩
  · exact ⟨fun hook => ⟨rfl, rfl, rfl, rfl, rfl, rfl, rfl, rfl⟩, fun _ _ => trivial⟩

/-- A first turn: it stores no job, and then the call waits for one or has nothing to do with jobs
any more. -/
structure Opens (i : ℕ) (hook : Hook) (program : HookProgram Unit) : Prop where
  stored : (hook.after i program).stored = hook.stored
  active : (hook.after i program).activeJobId = hook.activeJobId ∨
    (hook.after i program).activeJobId = none
  rest : Begins i (settle (useForecast.perform i) useForecast.spawns program hook).1 ∨
    Turns i Aloof (settle (useForecast.perform i) useForecast.spawns program hook).1

lemma Opens.setState {program : HookProgram Unit} (f : HookCells → HookCells)
    (h : ∀ hook, Opens i hook program) :
    Opens i hook (Mobile.setState f >>= fun _ => program) :=
  have hnext := h { hook with cells := f hook.cells }
  ⟨hnext.stored, hnext.active, hnext.rest⟩

lemma concludeRequest_opens (fallback : String) (e : Rejection) :
    Opens i hook (concludeRequest fallback none (.error e)) := by
  obtain ⟨cells, -, hafter⟩ := after_concludeRequest (i := i) hook fallback none (.error e)
  rw [if_pos (.inl rfl)] at hafter
  refine ⟨by rw [hafter], .inr (by rw [hafter]), .inr ?_⟩
  exact Follows.settle (Coroutine.follows_of_operations (concludeRequest_operations ..)) hook

lemma refreshForecast_opens (filter : Option ForecastJobStatus) (latitude longitude : JsNumber) :
    Opens i hook (refreshForecast filter latitude longitude) := by
  cases latitude <;> cases longitude
  case finite.finite latitude longitude =>
    refine .setState _ _ fun _ => .setState _ _ fun _ => .setState _ _ fun _ => .setState _ _
      fun _ => ⟨rfl, .inl rfl, .inl fun reply => ?_⟩
    cases reply with
    | error e => exact answered_error ..
    | ok job => exact answered_ok ..
  all_goals exact ⟨rfl, .inl rfl, .inr trivial⟩

lemma retryJob_opens (filter : Option ForecastJobStatus) (job : ForecastJobSummary) :
    Opens i hook (retryJob filter job) := by
  refine .setState _ _ fun _ => .setState _ _ fun _ => .setState _ _ fun _ => .setState _ _
    fun _ => .setState _ _ fun hook => ?_
  cases getJobLink job.links "retry" with
  | error e => exact concludeRequest_opens ..
  | ok link =>
    refine ⟨rfl, .inl rfl, .inl fun reply => ?_⟩
    cases reply with
    | error e => exact answered_error ..
    | ok retry => exact (answered_ok ..).setState _

lemma body_opens (call : HookCall) : Opens i hook call.body := by
  cases call with
  | refreshForecast filter latitude longitude => exact refreshForecast_opens ..
  | retryJob filter job => exact retryJob_opens ..
  | jobHistory filter => exact ⟨rfl, .inl rfl, .inr (awaitJobHistory_turns filter)⟩

end Functions

/-! ## The calls of a run -/

/-- Whether a call asks for a job. -/
def HookCall.RequestsJob : HookCall → Prop
  | jobHistory _ => False
  | _ => True

/-- Where a call stands with its job: it waits for it, tracks it, or has nothing to do with it.  The
job of a superseded call is not the active one. -/
inductive Standing (hook : Hook) (i : ℕ) (call : HookCall) (program : HookProgram Unit) : Prop
  | waiting (requests : call.RequestsJob) (begins : Begins i program)
  | tracking (requests : call.RequestsJob) (jobId : String) (stored : (i, jobId) ∈ hook.stored)
      (turns : Turns i (Gentle jobId) program)
      (superseded : hook.Superseded i → hook.activeJobId ≠ some jobId)
  | aloof (turns : Turns i Aloof program)

/-- What a turn of call `i` does to `activeJobId`. -/
inductive Moves (i : ℕ) (hook hook' : Hook) : Prop
  | keeps (stored : hook'.stored = hook.stored)
      (active : hook'.activeJobId = hook.activeJobId ∨ hook'.activeJobId = none)
  | stores (jobId : String) (fresh : jobId ∉ hook.stored.map (·.2))
      (stored : hook'.stored = (i, jobId) :: hook.stored) (active : hook'.activeJobId = some jobId)

variable {hook hook' : Hook} {i k : ℕ} {call : HookCall} {program : HookProgram Unit}
  {cfg cfg' : useForecast.Configuration}

/-- A job that call `i` stores is not one that call `k` tracks. -/
lemma Moves.tracked {jobId : String} (hmoves : Moves i hook hook') (hmem : (k, jobId) ∈ hook.stored)
    (hsuperseded : hook.Superseded k → hook.activeJobId ≠ some jobId) :
    (k, jobId) ∈ hook'.stored ∧ (hook'.Superseded k → hook'.activeJobId ≠ some jobId) := by
  cases hmoves with
  | keeps stored active =>
    refine ⟨stored ▸ hmem, fun h => ?_⟩
    have hne := hsuperseded (by simpa only [Hook.Superseded, stored] using h)
    rcases active with active | active <;> simp [active, hne]
  | stores newId fresh stored active =>
    refine ⟨by simp [stored, hmem], fun _ hactive => fresh ?_⟩
    obtain rfl := Option.some.inj (active.symm.trans hactive)
    exact List.mem_map_of_mem hmem

lemma Standing.kept (h : Standing hook k call program) (hmoves : Moves i hook hook') :
    Standing hook' k call program := by
  cases h with
  | waiting requests begins => exact .waiting requests begins
  | tracking requests jobId hmem turns hsuperseded =>
    obtain ⟨hmem', hsuperseded'⟩ := hmoves.tracked hmem hsuperseded
    exact .tracking requests jobId hmem' turns hsuperseded'
  | aloof turns => exact .aloof turns

/-- A call that has been answered in time stores its job while it is not superseded. -/
lemma Answered.standing {reply reply' : Except Rejection ForecastJob}
    (h : Answered i reply program) (hreply : newJob hook reply' = some reply)
    (hsuperseded : ¬ hook.Superseded i) (requests : call.RequestsJob) :
    Moves i hook (hook.after i program) ∧ Standing (hook.after i program) i call
      (settle (useForecast.perform i) useForecast.spawns program hook).1 := by
  cases reply with
  | error e =>
    exact ⟨.keeps (h.2 hook).1 (.inr (h.2 hook).2), .aloof (h.1.settle hook)⟩
  | ok job =>
    obtain ⟨hstored, hactive⟩ := h.2 hook
    have hfresh : job.id ∉ hook.stored.map (·.2) := by
      cases reply' with
      | error e => cases hreply
      | ok job' =>
        simp only [newJob] at hreply
        split at hreply
        · cases hreply
        · next hfresh =>
          cases hreply
          exact hfresh
    refine ⟨.stores job.id hfresh hstored hactive,
      .tracking requests job.id (by simp [hstored]) (h.1.settle hook) ?_⟩
    rintro ⟨later, hmem, hlater⟩
    rw [hstored] at hmem
    rcases List.mem_cons.mp hmem with rfl | hmem
    · exact absurd hlater (lt_irrefl _)
    · exact absurd ⟨later, hmem, hlater⟩ hsuperseded

lemma Standing.answer {a : HookAwait} {next : HookAnswer a → HookProgram Unit} {input : HookInput}
    {r : HookAnswer a} (h : Standing hook i call (.call (.inr a) next))
    (hr : a.respond hook input = some r) (htime : hook.Superseded i → a.unguarded = false) :
    Moves i hook (hook.after i (next r)) ∧ Standing (hook.after i (next r)) i call
      (settle (useForecast.perform i) useForecast.spawns (next r) hook).1 := by
  cases h with
  | waiting requests begins =>
    cases a with
    | createForecastJob latitude longitude =>
      cases input with
      | job reply =>
        exact (begins r).standing hr (fun h => by cases htime h) requests
      | _ => cases hr
    | retryForecastJob link =>
      cases input with
      | job reply =>
        exact (begins r).standing hr (fun h => by cases htime h) requests
      | _ => cases hr
    | _ => cases begins
  | tracking requests jobId hmem turns hsuperseded =>
    have hgentle : Gentle jobId a hook (hook.after i (next r)) := (turns r).1 hook
    have hmoves : Moves i hook (hook.after i (next r)) := .keeps hgentle.stored hgentle.active
    obtain ⟨hmem', hsuperseded'⟩ := hmoves.tracked hmem hsuperseded
    exact ⟨hmoves, .tracking requests jobId hmem' ((turns r).2.settle hook) hsuperseded'⟩
  | aloof turns =>
    have haloof : Aloof a hook (hook.after i (next r)) := (turns r).1 hook
    exact ⟨.keeps haloof.stored (.inl haloof.undisturbed.activeJobId),
      .aloof ((turns r).2.settle hook)⟩

lemma standing_start (hook : Hook) (i : ℕ) (call : HookCall) :
    Moves i hook (hook.after i call.body) ∧ Standing (hook.after i call.body) i call
      (settle (useForecast.perform i) useForecast.spawns call.body hook).1 := by
  have hopens := body_opens (i := i) hook call
  refine ⟨.keeps hopens.stored hopens.active, ?_⟩
  cases call with
  | jobHistory filter => exact .aloof (Follows.settle (awaitJobHistory_turns filter) hook)
  | refreshForecast filter latitude longitude =>
    exact hopens.rest.elim (.waiting trivial) .aloof
  | retryJob filter job => exact hopens.rest.elim (.waiting trivial) .aloof

/-- Every call stands somewhere. -/
def Accounted (cfg : useForecast.Configuration) : Prop :=
  ∀ i task, cfg.tasks[i]? = some task → Standing cfg.shared i task.label task.program

lemma Accounted.resume
    (hothers : ∀ k task, k ≠ i → cfg.tasks[k]? = some task →
      Standing cfg.shared k task.label task.program)
    (h : Moves i cfg.shared (cfg.shared.after i program) ∧
      Standing (cfg.shared.after i program) i call
        (settle (useForecast.perform i) useForecast.spawns program cfg.shared).1) :
    Accounted (useForecast.resume cfg i call program) := by
  intro k task htask
  rcases useForecast.getElem?_resume htask with ⟨rfl, rfl⟩ | ⟨hki, htask⟩ | ⟨o, l, hl, rfl⟩
  · exact h.2
  · exact (hothers k task hki htask).kept h.1
  · -- only a job history is started by a call
    cases o with
    | startJobHistory filter =>
      obtain rfl := List.mem_singleton.mp hl
      exact .aloof (awaitJobHistory_turns filter)
    | _ => cases hl

lemma Accounted.step {turn : Turn HookCall HookInput} (h : Accounted cfg) (hturn : InTime cfg turn)
    (hstep : useForecast.step cfg turn = some cfg') : Accounted cfg' := by
  cases turn with
  | start call =>
    obtain rfl := Option.some.inj hstep
    refine Accounted.resume (fun k task hk htask => h k task ?_) (standing_start cfg.shared _ call)
    rw [List.getElem?_append] at htask
    split at htask
    · exact htask
    · obtain ⟨hlast, -⟩ := List.getElem?_eq_some_iff.mp htask
      rw [List.length_singleton] at hlast
      omega
  | answer i input =>
    obtain ⟨call, a, next, r, htask, hawaiting, hr, rfl⟩ := useForecast.step_answer hstep
    exact .resume (fun k task _ => h k task)
      ((h i _ htask).answer hr fun hsuperseded => hturn hsuperseded a hawaiting)

lemma accounted_of_reaches (h : useForecast.Reaches InTime noCalls cfg) : Accounted cfg := by
  induction h with
  | refl => exact fun i task htask => by cases htask
  | step turn _ hturn hstep ih => exact ih.step hturn hstep

/-- Call `i` is superseded, or is the job history that some call has asked for. -/
def Outdated (cfg : useForecast.Configuration) (i : ℕ) : Prop :=
  cfg.shared.Superseded i ∨ ∃ task, cfg.tasks[i]? = some task ∧ ¬ task.label.RequestsJob

/-- While no superseded call goes on from an unguarded await, none disturbs the screen. -/
theorem superseded_undisturbed (h : useForecast.Reaches InTime noCalls cfg) {input : HookInput}
    (hturn : InTime cfg (.answer i input)) (houtdated : Outdated cfg i)
    (hstep : useForecast.step cfg (.answer i input) = some cfg') :
    cfg.shared.Undisturbed cfg'.shared := by
  obtain ⟨call, a, next, r, htask, hawaiting, hr, rfl⟩ := useForecast.step_answer hstep
  have hguarded : cfg.shared.Superseded i → a.unguarded = false := fun h => hturn h a hawaiting
  have hsuperseded (requests : call.RequestsJob) : cfg.shared.Superseded i := by
    refine houtdated.resolve_right ?_
    rintro ⟨task, htask', hrequests⟩
    obtain rfl := Option.some.inj (htask.symm.trans htask')
    exact hrequests requests
  cases accounted_of_reaches h i _ htask with
  | waiting requests begins =>
    have hunguarded := begins.unguarded
    rw [hguarded (hsuperseded requests)] at hunguarded
    cases hunguarded
  | tracking requests jobId hmem turns hne =>
    have hgentle : Gentle jobId a cfg.shared (cfg.shared.after i (next r)) :=
      (turns r).1 cfg.shared
    exact hgentle.undisturbed (hguarded (hsuperseded requests)) (hne (hsuperseded requests))
  | aloof turns => exact ((turns r).1 cfg.shared).undisturbed

/-- What the server answers to the request of a job. -/
def queuedJob (jobId : String) : ForecastJob where
  id := jobId
  status := .queued
  forecast := none
  events := []
  updatedAt := "2026-01-01T00:00:00Z"
  error := none
  links := [("self", "/self"), ("poll", "/poll"), ("retry", "/retry")]

/-- Two requests, whose jobs are stored in the order of the requests, and what follows. -/
def twoRequests (turns : List (Turn HookCall HookInput)) : List (Turn HookCall HookInput) :=
  [.start (.refreshForecast none (.finite 40) (.finite 10)), .answer 0 (.job (.ok (queuedJob "a"))),
    .start (.refreshForecast none (.finite 50) (.finite 20)),
    .answer 2 (.job (.ok (queuedJob "b")))] ++ turns

/-- The first of two requests has been polled to the end. -/
def polledTooLate : useForecast.Configuration :=
  useForecast.after InTime noCalls (twoRequests [.answer 0 (.poll (.ok
    { jobToPollResponse (queuedJob "a") with status := .succeeded, terminal := true }))])

theorem superseded_undisturbed_polled : ∃ cfg',
    useForecast.step polledTooLate (.answer 0 .elapsed) = some cfg' ∧
      polledTooLate.shared.Undisturbed cfg'.shared :=
  have h : (useForecast.step polledTooLate (.answer 0 .elapsed)).isSome = true := by decide
  ⟨_, (Option.some_get h).symm, superseded_undisturbed (.after _ .refl _) (by decide)
    (.inl (by decide)) (Option.some_get h).symm⟩

/-- The poll of the first of two requests has failed. -/
def failedTooLate : useForecast.Configuration :=
  useForecast.after (fun _ _ => True) noCalls (twoRequests
    [.answer 0 (.poll (.error (.error "Network request failed"))), .answer 0 .elapsed])

/-- A failure of the first request is shown while the second is current. -/
theorem late_failure_shown : ∃ cfg cfg', useForecast.Reaches (fun _ _ => True) noCalls cfg ∧
    cfg.shared.Superseded 0 ∧ useForecast.step cfg (.answer 0 .elapsed) = some cfg' ∧
      cfg.shared.activeJobId = some "b" ∧ cfg.shared.cells.errorMessage = none ∧
        cfg'.shared.cells.errorMessage = some "Network request failed" := by
  have herror : (useForecast.step failedTooLate (.answer 0 .elapsed)).map
      (·.shared.cells.errorMessage) = some (some "Network request failed") := by decide
  obtain ⟨cfg', hstep, herror⟩ := Option.map_eq_some_iff.mp herror
  exact ⟨failedTooLate, cfg', .after _ .refl _, by decide, hstep, by decide, by decide, herror⟩

end Mobile

end Earth2Sandbox
