import Earth2Sandbox.Mobile.SupersededRequests

/-!
# The hook comes to rest

However the calls of the hook interleave, and whatever is answered: when no call for a job is under
way, the hook shows no spinner and has no active job (`idle_of_ended`).  A call that is superseded
leaves this to the one that has superseded it; so while the hook is busy, some call waits for its
job, or tracks the active one.  And it comes to rest after finitely many answers, since the requests
of each call are bounded (`requests_bounded`).
-/

namespace Earth2Sandbox

namespace Mobile

open Coroutine (settle Follows Proceeds Suspended)
open CoSystem (eventsOf)

/-- The two spinners and the active job. -/
def Hook.flags (hook : Hook) : Bool × Bool × Option String :=
  (hook.cells.isLoading, hook.cells.isJobPolling, hook.activeJobId)

/-- No spinner is shown, and no job is active. -/
def Hook.Idle (hook : Hook) : Prop := hook.flags = (false, false, none)

/-- A turn of a call that tracks this job leaves the flags alone, or clears them; after its last
turn the job is not active. -/
structure Tracks (jobId : String) (suspended : Prop) (hook hook' : Hook) : Prop where
  flags : hook'.flags = hook.flags ∨ hook'.Idle
  last : suspended ∨ hook'.activeJobId ≠ some jobId

/-- A turn that leaves the flags alone. -/
def Steady (_ : Prop) (hook hook' : Hook) : Prop := hook'.flags = hook.flags

/-- In every turn of the program, the hook changes as `K` says. -/
abbrev Runs {α : Type} (i : ℕ) (K : Prop → Hook → Hook → Prop) (program : HookProgram α) : Prop :=
  Proceeds (useForecast.perform i) useForecast.spawns K program

section Functions

variable {i : ℕ} (hook : Hook)

lemma flags_concludeRequest (fallback : String) (startedJobId : Option String)
    (outcome : Except Rejection Unit) :
    (hook.after i (concludeRequest fallback startedJobId outcome)).flags =
      if startedJobId = none ∨ hook.activeJobId = startedJobId then (false, false, none)
      else hook.flags := by
  cases outcome <;> by_cases h : startedJobId = none ∨ hook.activeJobId = startedJobId <;>
    simp [concludeRequest, h, setForecast, setErrorMessage, setSelectedLeadHour, setIsLoading,
      setIsJobPolling, HookOp.perform, Hook.flags]

/-- The call is an await, or an operation that leaves the flags alone. -/
def IsSteady (i : ℕ) (c : HookOp ⊕ HookAwait) : Prop :=
  ∀ o, c = .inl o → ∀ hook, Steady True hook (useForecast.perform i o hook).2

lemma isSteady_await (a : HookAwait) : IsSteady i (.inr a) := fun _ h => by cases h

lemma setState_steady {f : HookCells → HookCells}
    (hf : ∀ cells, (f cells).isLoading = cells.isLoading ∧
      (f cells).isJobPolling = cells.isJobPolling) : (setState f).Only (IsSteady i) := by
  refine ⟨fun o ho hook => ?_, fun _ => trivial⟩
  cases ho
  simp [Steady, Hook.flags, useForecast, HookOp.perform, hf]

lemma readActiveJobId_steady : readActiveJobId.Only (IsSteady i) :=
  ⟨fun o ho hook => by cases ho; rfl, fun _ => trivial⟩

lemma refreshJobHistory_steady (filter : Option ForecastJobStatus) :
    (refreshJobHistory filter).Only (IsSteady i) := by
  refine Program.Only.bind (p := setIsJobHistoryLoading true) (setState_steady fun _ => ⟨rfl, rfl⟩)
    fun _ => ?_
  refine Program.Only.bind (p := setJobHistoryErrorMessage none)
    (setState_steady fun _ => ⟨rfl, rfl⟩) fun _ => ⟨fun o ho hook => ?_, fun _ => trivial⟩
  cases ho
  rfl

/-- What follows on the storing of the job leaves the flags alone. -/
lemma trackForecastJob_steady (filter : Option ForecastJobStatus) (job : ForecastJob) :
    Follows (useForecast.perform i) useForecast.spawns (fun _ => Steady True)
      (trackForecastJob filter job) := by
  refine fun _ => (Coroutine.follows_of_only (P := Steady True) (fun _ => rfl)
    (fun _ _ _ h h' => h'.trans h) ?_).1
  refine Program.Only.bind (p := setForecastJob _) (setState_steady fun _ => ⟨rfl, rfl⟩) fun _ => ?_
  refine Program.Only.bind (p := setForecastJobPoll _) (setState_steady fun _ => ⟨rfl, rfl⟩)
    fun _ => ?_
  refine (refreshJobHistory_steady filter).bind fun _ => ?_
  have hwait : (awaitCall .waitForForecastJob (waitForForecastJob job)).Only (IsSteady i) := by
    refine Program.Only.bind (Program.Only.attempt ?_) fun _ => ⟨isSteady_await _, fun _ => trivial⟩
    refine (waitForForecastJob_awaits job).mono fun c hc o ho => ?_
    rw [ho] at hc
    cases hc
  refine hwait.bind fun outcome => (Program.only_ofExcept ..).bind fun finalPoll => ?_
  refine readActiveJobId_steady.bind fun activeJobId => ?_
  split
  · trivial
  refine Program.Only.bind (p := setForecastJobPoll _) (setState_steady fun _ => ⟨rfl, rfl⟩)
    fun _ => ?_
  refine (Program.only_ofExcept ..).bind fun link => ⟨isSteady_await _, fun reply => ?_⟩
  refine (Program.only_ofExcept ..).bind fun completedJob => ?_
  refine readActiveJobId_steady.bind fun activeJobId => ?_
  split
  · trivial
  refine Program.Only.bind (p := setForecastJob _) (setState_steady fun _ => ⟨rfl, rfl⟩) fun _ => ?_
  refine (refreshJobHistory_steady filter).bind fun _ => ?_
  split
  · exact Program.Only.bind (p := setForecast _) (setState_steady fun _ => ⟨rfl, rfl⟩)
      fun _ => setState_steady fun _ => ⟨rfl, rfl⟩
  · trivial

/-- The caller of an asynchronous function goes on later. -/
lemma suspended_awaitCall_bind {α β : Type} (name : AsyncFunction) (program : HookProgram α)
    (f : Except Rejection α → HookProgram β) :
    Suspended (settle (useForecast.perform i) useForecast.spawns
      (awaitCall name program >>= f) hook).1 := by
  rw [awaitCall_bind]
  refine Coroutine.suspended_attempt_bind ?_ hook
  exact fun _ => trivial

/-- A call that tracks its job, and concludes. -/
lemma tracked_runs (fallback : String) (filter : Option ForecastJobStatus) (job : ForecastJob) :
    Runs i (Tracks job.id) (awaitCall .trackForecastJob (trackForecastJob filter job) >>=
      concludeRequest fallback (some job.id)) := by
  rw [Runs, awaitCall_bind]
  refine Coroutine.Follows.proceeds ?_ fun outcome => ⟨trivial, fun _ => ⟨fun hook => ?_, ?_⟩⟩
  · exact (trackForecastJob_steady filter job).mono fun _ _ _ h => ⟨.inl h, .inl trivial⟩
  · have hflags := flags_concludeRequest (i := i) hook fallback (some job.id) outcome
    change Tracks job.id _ hook (hook.after i (concludeRequest fallback (some job.id) outcome))
    by_cases hactive : hook.activeJobId = some job.id
    · rw [if_pos (.inr hactive)] at hflags
      have hnone := congrArg (·.2.2) hflags
      exact ⟨.inr hflags, .inr (by simp [Hook.flags] at hnone; simp [hnone])⟩
    · rw [if_neg (by simp [hactive])] at hflags
      have hsame := congrArg (·.2.2) hflags
      exact ⟨.inl hflags, .inr (by simp [Hook.flags] at hsame; rwa [hsame])⟩
  · exact Coroutine.proceeds_of_operations (concludeRequest_operations ..)

/-- What follows on the answer to a request for a job: the call tracks it, or clears the flags. -/
def Goes (i : ℕ) (reply : Except Rejection ForecastJob) (program : HookProgram Unit) : Prop :=
  match reply with
  | .ok job => Runs i (Tracks job.id) program ∧ ∀ hook : Hook,
      (hook.after i program).activeJobId = some job.id ∧
        Suspended (settle (useForecast.perform i) useForecast.spawns program hook).1
  | .error _ => Runs i Steady program ∧ ∀ hook : Hook, (hook.after i program).Idle

/-- The program waits for its job. -/
def Waits (i : ℕ) : HookProgram Unit → Prop
  | .call (.inr (.createForecastJob ..)) next => ∀ reply, Goes i reply (next reply)
  | .call (.inr (.retryForecastJob _)) next => ∀ reply, Goes i reply (next reply)
  | _ => False

lemma Waits.suspended {program : HookProgram Unit} (h : Waits i program) : Suspended program := by
  cases program with
  | call c next =>
    cases c with
    | inl o => cases h
    | inr a => trivial
  | _ => cases h

lemma goes_error (fallback : String) (e e' : Rejection) :
    Goes i (.error e') (concludeRequest fallback none (.error e)) := by
  refine ⟨Coroutine.proceeds_of_operations (concludeRequest_operations ..), fun hook => ?_⟩
  rw [Hook.Idle, flags_concludeRequest, if_pos (.inl rfl)]

lemma goes_ok (fallback : String) (filter : Option ForecastJobStatus) (job : ForecastJob) :
    Goes i (.ok job) (awaitCall .trackForecastJob (trackForecastJob filter job) >>=
      concludeRequest fallback (some job.id)) := by
  refine ⟨tracked_runs fallback filter job, fun hook => ⟨?_, ?_⟩⟩
  · rw [after_awaitCall_bind]
    exact (after_trackForecastJob hook filter job).2
  · exact suspended_awaitCall_bind ..

lemma Goes.setState {reply : Except Rejection ForecastJob} {program : HookProgram Unit}
    (h : Goes i reply program) (f : HookCells → HookCells) :
    Goes i reply (setState f >>= fun _ => program) := by
  cases reply with
  | ok job => exact ⟨fun _ => h.1, fun hook => h.2 { hook with cells := f hook.cells }⟩
  | error e => exact ⟨fun _ => h.1, fun hook => h.2 { hook with cells := f hook.cells }⟩

/-- A first turn leaves the flags alone or clears them, and then the call has nothing to do with
them any more; or it waits for its job. -/
def Starts (i : ℕ) (hook : Hook) (program : HookProgram Unit) : Prop :=
  Waits i (settle (useForecast.perform i) useForecast.spawns program hook).1 ∨
    Runs i Steady (settle (useForecast.perform i) useForecast.spawns program hook).1 ∧
      ((hook.after i program).flags = hook.flags ∨ (hook.after i program).Idle)

lemma refreshForecast_starts (filter : Option ForecastJobStatus) (latitude longitude : JsNumber) :
    Starts i hook (refreshForecast filter latitude longitude) := by
  cases latitude <;> cases longitude
  case finite.finite latitude longitude =>
    refine .inl fun reply => ?_
    cases reply with
    | error e => exact goes_error ..
    | ok job => exact goes_ok ..
  all_goals exact .inr ⟨trivial, .inl rfl⟩

lemma settle_setState_bind (f : HookCells → HookCells) (next : Unit → HookProgram Unit) :
    settle (useForecast.perform i) useForecast.spawns (setState f >>= next) hook =
      settle (useForecast.perform i) useForecast.spawns (next ())
        { hook with cells := f hook.cells } := rfl

lemma retryJob_starts (filter : Option ForecastJobStatus) (job : ForecastJobSummary) :
    Starts i hook (retryJob filter job) := by
  unfold Starts Hook.after retryJob setIsLoading setIsJobPolling setErrorMessage
    setJobActionMessage setJobHistoryErrorMessage
  simp only [settle_setState_bind]
  cases getJobLink job.links "retry" with
  | error e =>
    have hgoes := goes_error (i := i) "Forecast job retry failed." e e
    exact .inr ⟨hgoes.1.settle _, .inr (hgoes.2 _)⟩
  | ok link =>
    refine .inl fun reply => ?_
    cases reply with
    | error e => exact goes_error ..
    | ok retry => exact (goes_ok ..).setState _

lemma awaitJobHistory_steady (filter : Option ForecastJobStatus) :
    Runs i Steady (awaitJobHistory filter) := by
  rintro (e | jobs) <;> exact ⟨fun hook => rfl, fun _ _ => trivial⟩

end Functions

/-! ## The calls of a run -/

instance : DecidablePred HookCall.RequestsJob
  | .jobHistory _ => isFalse id
  | .refreshForecast .. => isTrue trivial
  | .retryJob .. => isTrue trivial

/-- What a call is doing: it waits for its job, tracks it, or leaves the flags alone. -/
inductive Course (i : ℕ) (call : HookCall) (program : HookProgram Unit) : Prop
  | waiting (requests : call.RequestsJob) (waits : Waits i program)
  | tracking (requests : call.RequestsJob) (jobId : String) (runs : Runs i (Tracks jobId) program)
  | steady (runs : Runs i Steady program)

/-- The call keeps the hook busy: it waits for its job, or tracks the active one. -/
structure Busies (hook : Hook) (i : ℕ) (call : HookCall) (program : HookProgram Unit) : Prop where
  requests : call.RequestsJob
  busy : Waits i program ∨ ∃ jobId, hook.activeJobId = some jobId ∧ Suspended program ∧
    Runs i (Tracks jobId) program

variable {i : ℕ} {hook : Hook} {a : HookAwait} {next : HookAnswer a → HookProgram Unit}
  {call : HookCall} {program : HookProgram Unit}

lemma Waits.answer (h : Waits i (.call (.inr a) next)) (requests : call.RequestsJob)
    (r : HookAnswer a) :
    Course i call (settle (useForecast.perform i) useForecast.spawns (next r) hook).1 ∧
      ((hook.after i (next r)).Idle ∨ Busies (hook.after i (next r)) i call
        (settle (useForecast.perform i) useForecast.spawns (next r) hook).1) := by
  have hgoes {reply : Except Rejection ForecastJob} {program : HookProgram Unit}
      (h : Goes i reply program) :
      Course i call (settle (useForecast.perform i) useForecast.spawns program hook).1 ∧
        ((hook.after i program).Idle ∨ Busies (hook.after i program) i call
          (settle (useForecast.perform i) useForecast.spawns program hook).1) := by
    cases reply with
    | error e => exact ⟨.steady (h.1.settle hook), .inl (h.2 hook)⟩
    | ok job =>
      obtain ⟨hactive, hsuspended⟩ := h.2 hook
      exact ⟨.tracking requests job.id (h.1.settle hook),
        .inr ⟨requests, .inr ⟨job.id, hactive, hsuspended, h.1.settle hook⟩⟩⟩
  cases a with
  | createForecastJob latitude longitude => exact hgoes (h r)
  | retryForecastJob link => exact hgoes (h r)
  | _ => exact h.elim

/-- One turn of a call: it leaves the flags alone, clears them, or keeps the hook busy itself. -/
lemma Course.answer (h : Course i call (.call (.inr a) next)) (hook : Hook) (r : HookAnswer a) :
    Course i call (settle (useForecast.perform i) useForecast.spawns (next r) hook).1 ∧
      ((hook.after i (next r)).flags = hook.flags ∨ (hook.after i (next r)).Idle ∨
        Busies (hook.after i (next r)) i call
          (settle (useForecast.perform i) useForecast.spawns (next r) hook).1) := by
  cases h with
  | waiting requests waits => exact ⟨(waits.answer requests r).1, .inr (waits.answer requests r).2⟩
  | tracking requests jobId runs =>
    exact ⟨.tracking requests jobId ((runs r).2.settle hook),
      ((runs r).1 hook).flags.imp_right .inl⟩
  | steady runs => exact ⟨.steady ((runs r).2.settle hook), .inl ((runs r).1 hook)⟩

/-- A call that keeps the hook busy goes on to do so, until the hook is idle. -/
lemma Busies.answer (h : Busies hook i call (.call (.inr a) next)) (r : HookAnswer a) :
    (hook.after i (next r)).Idle ∨ Busies (hook.after i (next r)) i call
      (settle (useForecast.perform i) useForecast.spawns (next r) hook).1 := by
  rcases h.busy with waits | ⟨jobId, hactive, -, runs⟩
  · exact (waits.answer h.requests r).2
  have htracks : Tracks jobId _ hook (hook.after i (next r)) := (runs r).1 hook
  refine htracks.flags.symm.imp_right fun hflags =>
    ⟨h.requests, .inr ⟨jobId, ?_, ?_, (runs r).2.settle hook⟩⟩
  · exact (congrArg (·.2.2) hflags).trans hactive
  · refine htracks.last.resolve_right fun hne => hne ?_
    exact (congrArg (·.2.2) hflags).trans hactive

/-- The active job tells whether a call keeps the hook busy. -/
lemma Busies.of_flags {hook' : Hook} (h : Busies hook i call program)
    (hflags : hook'.flags = hook.flags) : Busies hook' i call program :=
  ⟨h.requests, h.busy.imp_right fun ⟨jobId, hactive, hrest⟩ =>
    ⟨jobId, (congrArg (·.2.2) hflags).trans hactive, hrest⟩⟩

/-- While the hook is not idle, some call keeps it busy. -/
structure Attentive (cfg : useForecast.Configuration) : Prop where
  course : ∀ i task, cfg.tasks[i]? = some task → Course i task.label task.program
  busy : ¬ cfg.shared.Idle → ∃ i task, cfg.tasks[i]? = some task ∧
    Busies cfg.shared i task.label task.program

variable {cfg cfg' : useForecast.Configuration}

lemma attentive_resume (hi : i < cfg.tasks.length)
    (hothers : ∀ k task, k ≠ i → cfg.tasks[k]? = some task → Course k task.label task.program)
    (hcourse : Course i call
      (settle (useForecast.perform i) useForecast.spawns program cfg.shared).1)
    (hturn : (cfg.shared.after i program).Idle ∨
      Busies (cfg.shared.after i program) i call
        (settle (useForecast.perform i) useForecast.spawns program cfg.shared).1 ∨
      (cfg.shared.after i program).flags = cfg.shared.flags ∧ (¬ cfg.shared.Idle →
        ∃ k task, k ≠ i ∧ cfg.tasks[k]? = some task ∧
          Busies cfg.shared k task.label task.program)) :
    Attentive (useForecast.resume cfg i call program) := by
  refine ⟨fun k task htask => ?_, fun hbusy => ?_⟩
  · rcases useForecast.getElem?_resume htask with ⟨rfl, rfl⟩ | ⟨hki, htask⟩ | ⟨o, l, hl, rfl⟩
    · exact hcourse
    · exact hothers k task hki htask
    · -- only a job history is started by a call
      cases o with
      | startJobHistory filter =>
        obtain rfl := List.mem_singleton.mp hl
        exact .steady (awaitJobHistory_steady filter)
      | _ => cases hl
  · rcases hturn with hidle | hself | ⟨hflags, hother⟩
    · exact absurd hidle hbusy
    · exact ⟨i, ⟨call, _⟩, useForecast.getElem?_resume_self hi call program, hself⟩
    · have hnotIdle : ¬ cfg.shared.Idle := fun hidle => hbusy (hflags.trans hidle)
      obtain ⟨k, task, hki, htask, hk⟩ := hother hnotIdle
      exact ⟨k, task, useForecast.getElem?_resume_ne hki htask call program, hk.of_flags hflags⟩

lemma course_start (hook : Hook) (i : ℕ) (call : HookCall) :
    Course i call (settle (useForecast.perform i) useForecast.spawns call.body hook).1 ∧
      ((hook.after i call.body).Idle ∨ (hook.after i call.body).flags = hook.flags ∨
        Busies (hook.after i call.body) i call
          (settle (useForecast.perform i) useForecast.spawns call.body hook).1) := by
  have hstarts (requests : call.RequestsJob) (h : Starts i hook call.body) :
      Course i call (settle (useForecast.perform i) useForecast.spawns call.body hook).1 ∧
        ((hook.after i call.body).Idle ∨ (hook.after i call.body).flags = hook.flags ∨
          Busies (hook.after i call.body) i call
            (settle (useForecast.perform i) useForecast.spawns call.body hook).1) := by
    rcases h with waits | ⟨runs, hflags⟩
    · exact ⟨.waiting requests waits, .inr (.inr ⟨requests, .inl waits⟩)⟩
    · exact ⟨.steady runs, hflags.elim (fun h => .inr (.inl h)) .inl⟩
  cases call with
  | refreshForecast filter latitude longitude =>
    exact hstarts trivial (refreshForecast_starts hook filter latitude longitude)
  | retryJob filter job => exact hstarts trivial (retryJob_starts hook filter job)
  | jobHistory filter =>
    exact ⟨.steady ((awaitJobHistory_steady filter).settle hook), .inr (.inl rfl)⟩

lemma Attentive.step {turn : Turn HookCall HookInput} (h : Attentive cfg)
    (hstep : useForecast.step cfg turn = some cfg') : Attentive cfg' := by
  cases turn with
  | start call =>
    obtain rfl := Option.some.inj hstep
    obtain ⟨hcourse, hturn⟩ := course_start cfg.shared cfg.tasks.length call
    refine attentive_resume (by simp) (fun k task hk htask => h.course k task ?_) hcourse ?_
    · rw [List.getElem?_append] at htask
      split at htask
      · exact htask
      · obtain ⟨hlast, -⟩ := List.getElem?_eq_some_iff.mp htask
        rw [List.length_singleton] at hlast
        omega
    · rcases hturn with hidle | hflags | hself
      · exact .inl hidle
      · refine .inr (.inr ⟨hflags, fun hnotIdle => ?_⟩)
        obtain ⟨k, task, htask, hk⟩ := h.busy hnotIdle
        have hlt := (List.getElem?_eq_some_iff.mp htask).1
        exact ⟨k, task, hlt.ne, by rw [List.getElem?_append_left hlt, htask], hk⟩
      · exact .inr (.inl hself)
  | answer i input =>
    obtain ⟨call, a, next, r, htask, -, -, rfl⟩ := useForecast.step_answer hstep
    have hi := (List.getElem?_eq_some_iff.mp htask).1
    obtain ⟨hcourse, hturn⟩ := (h.course i _ htask).answer cfg.shared r
    refine attentive_resume hi (fun k task _ => h.course k task) hcourse ?_
    rcases hturn with hflags | hidle | hself
    · by_cases hbusy : Busies cfg.shared i call (.call (.inr a) next)
      · exact (hbusy.answer r).imp_right .inl
      · refine .inr (.inr ⟨hflags, fun hnotIdle => ?_⟩)
        obtain ⟨k, task, htask', hk⟩ := h.busy hnotIdle
        refine ⟨k, task, ?_, htask', hk⟩
        rintro rfl
        rw [htask] at htask'
        cases htask'
        exact hbusy hk
    · exact .inl hidle
    · exact .inr (.inl hself)

lemma attentive_of_reaches (h : useForecast.Reaches (fun _ _ => True) noCalls cfg) :
    Attentive cfg := by
  induction h with
  | refl => exact ⟨fun i task htask => (by cases htask), fun hbusy => absurd rfl hbusy⟩
  | step turn _ _ hstep ih => exact ih.step hstep

/-- **The hook comes to rest.**  However the calls interleave and whatever is answered: when none of
them is suspended any more, no spinner is shown, and no job is active. -/
theorem idle_of_ended (h : useForecast.Reaches (fun _ _ => True) noCalls cfg)
    (hended : ∀ task ∈ cfg.tasks, task.label.RequestsJob → ¬ Suspended task.program) :
    cfg.shared.cells.isLoading = false ∧ cfg.shared.cells.isJobPolling = false ∧
      cfg.shared.activeJobId = none := by
  have hidle : cfg.shared.Idle := by
    by_contra hnotIdle
    obtain ⟨i, task, htask, hbusies⟩ := (attentive_of_reaches h).busy hnotIdle
    refine hended task (List.mem_of_getElem? htask) hbusies.requests ?_
    rcases hbusies.busy with waits | ⟨-, -, hsuspended, -⟩
    · exact waits.suspended
    · exact hsuspended
  simpa [Hook.Idle, Hook.flags] using hidle

/-- Two requests come to their ends: the first is superseded, and the poll of the second fails. -/
def bothEnd : List (Turn HookCall HookInput) :=
  twoRequests [.answer 0 (.poll (.ok { jobToPollResponse (queuedJob "a") with terminal := true })),
    .answer 0 .elapsed, .answer 0 .elapsed,
    .answer 2 (.poll (.error (.error "Network request failed"))), .answer 2 .elapsed,
    .answer 2 .elapsed]

def bothEnded : useForecast.Configuration := useForecast.after (fun _ _ => True) noCalls bothEnd

theorem idle_of_ended_failed : bothEnded.shared.cells.errorMessage = some "Network request failed" ∧
    bothEnded.shared.cells.isLoading = false ∧ bothEnded.shared.cells.isJobPolling = false ∧
      bothEnded.shared.activeJobId = none :=
  ⟨by decide, idle_of_ended (.after _ .refl _) (by decide)⟩

/-! ## The requests of a run -/

/-- What an await counts. -/
structure AwaitWeights where
  job : ℕ
  poll : ℕ
  fetch : ℕ
  list : ℕ
  delay : ℕ
  settled : ℕ

def AwaitWeights.of (w : AwaitWeights) : HookAwait → ℕ
  | .createForecastJob .. | .retryForecastJob _ => w.job
  | .pollForecastJob _ => w.poll
  | .fetchForecastJob _ => w.fetch
  | .listForecastJobs .. => w.list
  | .delay _ => w.delay
  | .settled .. => w.settled

/-- What the polls of a job come to: a first one, and the others after a delay each. -/
def AwaitWeights.polls (w : AwaitWeights) (attempts : ℕ) : ℕ :=
  w.poll + attempts * (w.delay + w.poll)

/-- What tracking a job comes to. -/
def AwaitWeights.track (w : AwaitWeights) : ℕ :=
  w.list + (w.polls maxJobPollAttempts + w.settled) + w.fetch + w.list

def AwaitWeights.cost (w : AwaitWeights) : HookCall → ℕ
  | .jobHistory _ => w.list
  | _ => w.job + (w.track + w.settled)

/-- The program comes to awaits of weight `n` at most. -/
abbrev Affords {α : Type} (w : AwaitWeights) (n : ℕ) (program : HookProgram α) : Prop :=
  Coroutine.Within useForecast.spawns w.of w.cost n program

section Affords

variable {α β : Type} (w : AwaitWeights) {n : ℕ}

/-- Only the job history is started by an operation. -/
lemma affords_operation {o : HookOp} {next : HookReply o → HookProgram α}
    (ho : useForecast.spawns o = []) (h : ∀ r, Affords w n (next r)) :
    Affords w n (.call (.inl o) next) := by
  refine ⟨by simp [ho], fun r => ?_⟩
  rw [ho]
  exact h r

lemma affords_await {a : HookAwait} {next : HookAnswer a → HookProgram α}
    (h : ∀ r, Affords w n (next r)) : Affords w (w.of a + n) (.call (.inr a) next) :=
  ⟨Nat.le_add_right .., fun r => by rw [Nat.add_sub_cancel_left]; exact h r⟩

lemma awaitCall_bind_affords {name : AsyncFunction} {program : HookProgram α} {m : ℕ}
    {next : Except Rejection α → HookProgram β} (hp : Affords w m program)
    (hnext : ∀ outcome, Affords w n (next outcome)) :
    Affords w (m + w.settled + n) (awaitCall name program >>= next) := by
  rw [awaitCall_bind, Nat.add_assoc]
  exact hp.attempt.bind fun outcome => affords_await w fun _ => hnext outcome

lemma refreshJobHistory_bind_affords {filter : Option ForecastJobStatus}
    {next : Unit → HookProgram α} (h : Affords w n (next ())) :
    Affords w (w.list + n) (refreshJobHistory filter >>= next) := by
  refine ⟨Nat.zero_le _, fun _ => ⟨Nat.zero_le _, fun _ => ⟨Nat.le_add_right .., fun _ => ?_⟩⟩⟩
  refine Coroutine.Within.mono (show Affords w n (next ()) from h) ?_
  simp [useForecast, AwaitWeights.cost]

lemma concludeRequest_affords (fallback : String) (startedJobId : Option String)
    (outcome : Except Rejection Unit) :
    Affords w 0 (concludeRequest fallback startedJobId outcome) := by
  have hend : Affords w 0 (do
      let activeJobId ← readActiveJobId
      if startedJobId = none ∨ activeJobId = startedJobId then
        setActiveJobId none
        setIsLoading false
        setIsJobPolling false) := by
    refine affords_operation w rfl fun (activeJobId : Option String) => ?_
    change Affords w 0 (if startedJobId = none ∨ activeJobId = startedJobId then _ else _)
    split
    · exact ⟨le_rfl, fun _ => ⟨le_rfl, fun _ => ⟨le_rfl, fun _ => trivial⟩⟩⟩
    · trivial
  cases outcome with
  | ok _ => exact hend
  | error e => exact ⟨le_rfl, fun _ => ⟨le_rfl, fun _ => ⟨le_rfl, fun _ => hend⟩⟩⟩

lemma awaitJobHistory_affords (filter : Option ForecastJobStatus) :
    Affords w w.list (awaitJobHistory filter) := by
  refine ⟨le_rfl, ?_⟩
  rintro (e | jobs) <;> exact ⟨Nat.zero_le _, fun _ => ⟨Nat.zero_le _, fun _ => trivial⟩⟩

lemma pollUntilTerminal_affords (pollLink : String) (attempts : ℕ)
    (latestPoll : ForecastJobPollResponse) :
    Affords w (attempts * (w.delay + w.poll)) (pollUntilTerminal pollLink attempts latestPoll) := by
  induction attempts generalizing latestPoll with
  | zero => trivial
  | succ attempts ih =>
    unfold pollUntilTerminal
    split
    · trivial
    · rw [Nat.succ_mul]
      refine Coroutine.Within.mono (affords_await w fun _ => affords_await w fun reply =>
        (Coroutine.within_ofExcept 0 reply).bind ih) ?_
      simp only [AwaitWeights.of]
      omega

lemma waitForForecastJob_affords (job : ForecastJob) :
    Affords w (w.polls maxJobPollAttempts) (waitForForecastJob job) := by
  refine (Coroutine.within_ofExcept 0 _).bind_sub (Nat.zero_le _) fun pollLink => ?_
  refine affords_await w fun reply => ?_
  refine (Coroutine.within_ofExcept 0 reply).bind_sub (Nat.zero_le _) fun latestPoll => ?_
  refine (pollUntilTerminal_affords w pollLink _ latestPoll).bind (n := 0) fun latestPoll => ?_
  split <;> trivial

lemma trackForecastJob_affords (filter : Option ForecastJobStatus) (job : ForecastJob) :
    Affords w w.track (trackForecastJob filter job) := by
  refine affords_operation w rfl fun _ => affords_operation w rfl fun _ =>
    affords_operation w rfl fun _ => ?_
  refine Coroutine.Within.mono (refreshJobHistory_bind_affords w (awaitCall_bind_affords w
    (waitForForecastJob_affords w job) (n := w.fetch + w.list) fun outcome => ?_))
    (by simp only [AwaitWeights.track]; omega)
  refine (Coroutine.within_ofExcept 0 outcome).bind_sub (Nat.zero_le _) fun finalPoll => ?_
  refine affords_operation w rfl fun (activeJobId : Option String) => ?_
  change Affords w (w.fetch + w.list) (if activeJobId ≠ some job.id then _ else _)
  split
  · trivial
  refine affords_operation w rfl fun _ => ?_
  refine (Coroutine.within_ofExcept 0 _).bind_sub (Nat.zero_le _) fun link => ?_
  refine affords_await w fun reply => ?_
  refine (Coroutine.within_ofExcept 0 reply).bind_sub (Nat.zero_le _) fun completedJob => ?_
  refine affords_operation w rfl fun (activeJobId : Option String) => ?_
  change Affords w w.list (if activeJobId ≠ some job.id then _ else _)
  split
  · trivial
  refine affords_operation w rfl fun _ => refreshJobHistory_bind_affords w (n := 0) ?_
  rcases completedJob with ⟨_, status, forecast, _⟩
  cases status <;> cases forecast <;>
    first | trivial | exact ⟨le_rfl, fun _ => ⟨le_rfl, fun _ => trivial⟩⟩

lemma body_affords (call : HookCall) : Affords w (w.cost call) call.body := by
  have htrack (fallback : String) (filter : Option ForecastJobStatus) (job : ForecastJob) :
      Affords w (w.track + w.settled) (awaitCall .trackForecastJob (trackForecastJob filter job) >>=
        concludeRequest fallback (some job.id)) :=
    awaitCall_bind_affords w (trackForecastJob_affords w filter job)
      fun outcome => concludeRequest_affords w ..
  have hfailed (fallback : String) (e : Rejection) :
      Affords w (w.track + w.settled) (concludeRequest fallback none (.error e)) :=
    (concludeRequest_affords w ..).mono (Nat.zero_le _)
  cases call with
  | jobHistory filter => exact awaitJobHistory_affords w filter
  | refreshForecast filter latitude longitude =>
    cases latitude <;> cases longitude
    case finite.finite latitude longitude =>
      refine affords_operation w rfl fun _ => affords_operation w rfl fun _ =>
        affords_operation w rfl fun _ => affords_operation w rfl fun _ => affords_await w ?_
      rintro (e | job)
      · exact hfailed "Forecast request failed." e
      · exact htrack "Forecast request failed." filter job
    all_goals exact ⟨Nat.zero_le _, fun _ => trivial⟩
  | retryJob filter job =>
    refine affords_operation w rfl fun _ => affords_operation w rfl fun _ =>
      affords_operation w rfl fun _ => affords_operation w rfl fun _ =>
        affords_operation w rfl fun _ => ?_
    cases hlink : getJobLink job.links "retry" with
    | error e =>
      dsimp only [hlink]
      show Affords w _ (concludeRequest "Forecast job retry failed." none (.error e))
      exact (concludeRequest_affords w ..).mono (Nat.zero_le _)
    | ok link =>
      dsimp only [hlink]
      refine affords_await w ?_
      rintro (e | retry)
      · exact hfailed "Forecast job retry failed." e
      · exact affords_operation w rfl fun _ => htrack "Forecast job retry failed." filter retry

end Affords

/-- The await is a request to the server. -/
def HookAwait.isRequest : HookAwait → Bool
  | delay _ | settled .. => false
  | _ => true

def HookAwait.isPoll : HookAwait → Bool
  | pollForecastJob _ => true
  | _ => false

/-- Every await counts. -/
def allWeights : AwaitWeights := ⟨1, 1, 1, 1, 1, 1⟩

def requestWeights : AwaitWeights := ⟨1, 1, 1, 1, 0, 0⟩

def pollWeights : AwaitWeights := ⟨0, 1, 0, 0, 0, 0⟩

lemma cost_of_requestsJob (w : AwaitWeights) (h : call.RequestsJob) :
    w.cost call = w.job + (w.track + w.settled) := by
  cases call with
  | jobHistory filter => exact h.elim
  | _ => rfl

lemma one_le_cost {w : AwaitWeights} (hjob : 1 ≤ w.job) (hlist : 1 ≤ w.list) (call : HookCall) :
    1 ≤ w.cost call := by
  cases call with
  | jobHistory filter => exact hlist
  | _ => exact Nat.le_add_right_of_le hjob

lemma one_le_allWeights (e : HookAwait ⊕ HookCall) :
    1 ≤ Sum.elim allWeights.of allWeights.cost e := by
  rcases e with a | call
  · cases a <;> exact le_rfl
  · exact one_le_cost le_rfl le_rfl call

lemma one_le_requestWeights {e : HookAwait ⊕ HookCall}
    (he : Sum.elim HookAwait.isRequest (fun _ => true) e = true) :
    1 ≤ Sum.elim requestWeights.of requestWeights.cost e := by
  rcases e with a | call
  · cases a with
    | delay milliseconds => cases he
    | settled => cases he
    | _ => exact le_rfl
  · exact one_le_cost le_rfl le_rfl call

lemma one_le_pollWeights {e : HookAwait ⊕ HookCall}
    (he : Sum.elim HookAwait.isPoll (fun _ => false) e = true) :
    1 ≤ Sum.elim pollWeights.of pollWeights.cost e := by
  rcases e with a | call
  · cases a with
    | pollForecastJob link => exact le_rfl
    | _ => cases he
  · cases he

lemma awaiting_of_suspended {i : ℕ} (htask : cfg.tasks[i]? = some ⟨call, program⟩)
    (hsuspended : Suspended program) : ∃ a, useForecast.awaiting cfg i = some a := by
  cases program with
  | ret a => cases hsuspended
  | raise e => cases hsuspended
  | call c next =>
    cases c with
    | inl o => cases hsuspended
    | inr a => exact ⟨a, useForecast.awaiting_eq_some.mpr ⟨call, next, htask⟩⟩

/-- **The requests of a call are bounded.**  However the calls interleave and whatever is answered,
a call for a job makes 61 polls at most, and 65 requests with the job histories that it starts, of
which one may not be answered yet; when 127 answers and starts are counted it has ended.  A job
history is one request. -/
theorem requests_bounded {turns : List (Turn HookCall HookInput)}
    {events : List (ℕ × (HookAwait ⊕ HookCall))}
    (hrun : useForecast.run noCalls turns = some (cfg, events)) {i : ℕ}
    (htask : cfg.tasks[i]? = some ⟨call, program⟩) :
    (call.RequestsJob →
      (useForecast.begun cfg events i).countP (Sum.elim HookAwait.isPoll fun _ => false) ≤ 61 ∧
      (useForecast.begun cfg events i).countP (Sum.elim HookAwait.isRequest fun _ => true) ≤ 65 ∧
      (eventsOf events i).length ≤ 127 ∧
      (Suspended program → (eventsOf events i).length < 127)) ∧
    (¬ call.RequestsJob → (useForecast.begun cfg events i).length ≤ 1) := by
  have hbound (w : AwaitWeights) (p : HookAwait ⊕ HookCall → Bool)
      (hp : ∀ e, p e = true → 1 ≤ Sum.elim w.of w.cost e) :
      (useForecast.begun cfg events i).countP p ≤ w.cost call :=
    (countP_le_tally hp _).trans (CoSystem.tally_begun_le (body_affords w) hrun htask)
  have hall := hbound allWeights (fun _ => true) fun e _ => one_le_allWeights e
  rw [List.countP_true] at hall
  refine ⟨fun hjob => ?_, fun hhistory => ?_⟩
  · have hpolls := hbound pollWeights (Sum.elim HookAwait.isPoll fun _ => false)
      fun _ => one_le_pollWeights
    have hrequests := hbound requestWeights (Sum.elim HookAwait.isRequest fun _ => true)
      fun _ => one_le_requestWeights
    rw [cost_of_requestsJob _ hjob] at hpolls hrequests hall
    rw [CoSystem.begun, List.length_append] at hall
    refine ⟨hpolls, hrequests, (Nat.le_add_right _ _).trans hall, fun hsuspended => ?_⟩
    obtain ⟨a, hawaiting⟩ := awaiting_of_suspended htask hsuspended
    rw [hawaiting] at hall
    exact hall
  · cases call with
    | jobHistory filter => exact hall
    | _ => exact absurd trivial hhistory

/-- The second of the two requests: it is created and polled once, starts a job history, and goes on
twice. -/
theorem requests_bounded_failed : ∃ cfg events call program,
    useForecast.run noCalls bothEnd = some (cfg, events) ∧
      cfg.tasks[2]? = some ⟨call, program⟩ ∧ call.RequestsJob ∧
      (eventsOf events 2).length = 5 ∧
      (useForecast.begun cfg events 2).countP (Sum.elim HookAwait.isPoll fun _ => false) ≤ 61 ∧
      (useForecast.begun cfg events 2).countP (Sum.elim HookAwait.isRequest fun _ => true) ≤
        65 := by
  have h : ((useForecast.run noCalls bothEnd).bind fun last => last.1.tasks[2]?.map fun task =>
      (decide task.label.RequestsJob, (eventsOf last.2 2).length)) = some (true, 5) := by decide
  obtain ⟨⟨cfg, events⟩, hrun, h⟩ := Option.bind_eq_some_iff.mp h
  obtain ⟨⟨call, program⟩, htask, h⟩ := Option.map_eq_some_iff.mp h
  obtain ⟨hjob, hlength⟩ := Prod.mk.inj h
  have hrequests : call.RequestsJob := of_decide_eq_true hjob
  obtain ⟨hpolls, hrequested, -⟩ := (requests_bounded hrun htask).1 hrequests
  exact ⟨cfg, events, call, program, hrun, htask, hrequests, hlength, hpolls, hrequested⟩

end Mobile

end Earth2Sandbox
