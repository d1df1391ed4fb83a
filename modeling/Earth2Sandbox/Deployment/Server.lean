import Earth2Sandbox.Lifecycle.Lineage

/-!
# The job service and what it returns

`jobService` are the interleaved commands of `Lifecycle/History.lean`, whose tasks return the job
that the command returns to its caller.  A run of it is a run of `lifecycle` (`lifecycle_reaches`).

What a client is told of a job stays true of it: a created job keeps its id, its coordinates and its
parent (`CreatedWith`), a succeeded record is not changed any more (`Settled`), and no id is created
twice (`Trace.created_unique`).
-/

namespace Earth2Sandbox

section Runtime

variable [Runtime]

/-- A command, with the job that it returns to its caller. -/
def Command.result (config : ServiceConfig) : Command → JobProgram (Option ForecastJob)
  | submit latitude longitude => do return some (← submitForecastJob latitude longitude)
  | cancel jobId => do return some (← cancelForecastJob jobId)
  | retry jobId => do return some (← retryForecastJob jobId)
  | command => do
    command.program config
    return none

lemma Command.result_bind (config : ServiceConfig) (command : Command) :
    (command.result config >>= fun _ => .ret ()) = command.program config := by
  cases command with
  | submit _ _ | cancel _ | retry _ => exact Program.bind_assoc ..
  | run _ | cleanup _ _ | recover _ =>
    exact (Program.bind_assoc ..).trans (Program.bind_ret _)

variable (S : ForecastJobStore)

/-- All interleavings of the permitted commands, which return jobs. -/
def jobService (config : ServiceConfig) (permitted : Command → Bool) :
    System (Lifecycle S) Command CallInput JobError JobCall JobReply (Option ForecastJob) where
  body := Command.result config
  perform := Lifecycle.perform
  spawns _ _ := []
  admits _ command := permitted command = true
  admitsDecidable _ _ := inferInstance
  resumes _ := none

abbrev JobServiceConfig :=
  Config (Lifecycle S) Command JobError JobCall JobReply (Option ForecastJob)

variable {S} {config : ServiceConfig} {permitted : Command → Bool}

lemma jobService_forget :
    (jobService S config permitted).forget = lifecycle S config permitted := by
  have hbody : (fun command => Command.result config command >>= fun _ => .ret ()) =
      Command.program config := funext (Command.result_bind config)
  simp only [System.forget, jobService, lifecycle, hbody]

/-! ## Runs -/

/-- Nothing has been executed yet. -/
def JobServiceConfig.initial (store : S.State) : JobServiceConfig S :=
  ⟨⟨store, fun k => (S.records store k).isSome, []⟩, []⟩

variable (config permitted) in
/-- The state is reached from a store on which nothing has been executed. -/
abbrev ServiceReaches (init : S.State) (cfg : JobServiceConfig S) : Prop :=
  (jobService S config permitted).Reaches (JobServiceConfig.initial init) cfg

variable {init : S.State} {cfg cfg' : JobServiceConfig S} {s s' : Lifecycle S}

/-- A run of the service is a run of the interleaved commands. -/
lemma lifecycle_reaches (h : ServiceReaches config permitted init cfg) :
    (lifecycle S config permitted).Reaches (Lifecycle.initial init)
      (System.forgetResults cfg) :=
  jobService_forget ▸ h.forget fun _ => rfl

lemma trace_of_service (h : ServiceReaches config permitted init cfg) :
    Trace permitted init cfg.shared :=
  trace_of_reaches (lifecycle_reaches h)

/-- A step leaves the shared state alone or has the effect of its event. -/
lemma effect_of_service (h : ServiceReaches config permitted init cfg)
    {ch : Choice Command CallInput}
    (hstep : (jobService S config permitted).step cfg ch = some cfg') :
    cfg'.shared = cfg.shared ∨ ∃ e : Event S, e.before = cfg.shared.store ∧
      cfg'.shared.history = e :: cfg.shared.history ∧ Effect cfg.shared cfg'.shared e := by
  have hstep' := System.step_forget (fun _ => rfl) hstep
  rw [jobService_forget] at hstep'
  rcases effect_of_step (lifecycle_reaches h) hstep' with heq |
    ⟨i, input, command, c, next, r, -, -, hhistory, heffect⟩
  · exact .inl heq
  · exact .inr ⟨_, rfl, hhistory, heffect⟩

/-! ## What stays true of a job -/

/-- The record has succeeded, and is stored as it is or deleted for good. -/
structure Settled (s : Lifecycle S) (job : ForecastJob) : Prop where
  status : job.status = .succeeded
  kept : S.records s.store job.id = some job ∨
    S.records s.store job.id = none ∧ s.issued job.id = true ∧
      ∃ e ∈ s.history, S.records e.before job.id = some job

lemma Settled.effect {job : ForecastJob} (h : Settled s job) {e : Event S}
    (heffect : Effect s s' e) (hstored : StoredIssued s) (hhistory : s'.history = e :: s.history)
    (hbefore : e.before = s.store) : Settled s' job := by
  refine ⟨h.status, ?_⟩
  rw [hhistory]
  rcases h.kept with hkept | ⟨hnone, hissued, e', he', hjob⟩
  · have hterminal : job.status ∈ terminalJobStatuses := by simp [h.status]
    rcases heffect.terminal_cases hstored hkept hterminal with hkept' | ⟨hnone, -⟩
    · exact .inl hkept'
    · exact .inr ⟨hnone, heffect.issued_mono (hstored job.id (by simp [hkept])), e,
        List.mem_cons_self, hbefore ▸ hkept⟩
  · exact .inr ⟨heffect.not_revived hissued hnone, heffect.issued_mono hissued, e',
      List.mem_cons_of_mem _ he', hjob⟩

/-- The arguments of a creation, and the job. -/
def Event.created (e : Event S) : Option (PyFloat × PyFloat × Option String × ForecastJob) :=
  match e with
  | ⟨_, _, .create latitude longitude parent _, .ok job, _⟩ =>
    some (latitude, longitude, parent, job)
  | _ => none

/-- A record has these coordinates and this parent. -/
def ForecastJob.CreatedAs (job : ForecastJob) (latitude longitude : PyFloat)
    (parent : Option String) : Prop :=
  job.latitude = latitude ∧ job.longitude = longitude ∧ job.parentJobId = parent

/-- Job `k` has been created, and its record has these coordinates and this parent whenever it is
stored. -/
structure CreatedWith (s : Lifecycle S) (k : String) (latitude longitude : PyFloat)
    (parent : Option String) : Prop where
  issued : s.issued k = true
  stored : ∀ job, S.records s.store k = some job → job.CreatedAs latitude longitude parent
  recorded : ∀ e ∈ s.history, ∀ job, S.records e.before k = some job →
    job.CreatedAs latitude longitude parent

section CreatedWith

variable {k : String} {latitude longitude : PyFloat} {parent : Option String}

lemma CreatedWith.settled {job : ForecastJob}
    (h : CreatedWith s job.id latitude longitude parent) (hjob : Settled s job) :
    job.CreatedAs latitude longitude parent := by
  rcases hjob.kept with hkept | ⟨-, -, e, he, hkept⟩
  · exact h.stored job hkept
  · exact h.recorded e he job hkept

lemma CreatedWith.effect (h : CreatedWith s k latitude longitude parent) {e : Event S}
    (htrace : Trace permitted init s) (heffect : Effect s s' e)
    (hhistory : s'.history = e :: s.history) (hbefore : e.before = s.store) :
    CreatedWith s' k latitude longitude parent := by
  refine ⟨heffect.issued_mono h.issued, fun job hjob => ?_, fun e' he' job hjob => ?_⟩
  · cases heffect with
    | kept hrecords _ _ => exact h.stored job (hrecords ▸ hjob)
    | created _ _ _ _ _ _ new _ hfresh hrecords _ _ =>
      have hk : k ≠ new.id := by
        rintro rfl
        cases hfresh.symm.trans h.issued
      rw [hrecords, Function.update_of_ne hk] at hjob
      exact h.stored job hjob
    | written snapshot new current _ now hread hwrite _ _ _ _ hrecords _ =>
      by_cases hk : k = snapshot.id
      · subst hk
        rw [hrecords, Function.update_self] at hjob
        obtain rfl := Option.some.inj hjob
        -- the write keeps what its task has read
        obtain ⟨e', he', -, hsnapshot⟩ := htrace.exists_of_lastRead hread
        obtain ⟨hlatitude, hlongitude, hparent⟩ := h.recorded e' he' snapshot hsnapshot
        obtain ⟨hlatitude', hlongitude', -, hparent'⟩ := hwrite.lineage
        exact ⟨hlatitude'.trans hlatitude, hlongitude'.trans hlongitude, hparent'.trans hparent⟩
      · rw [hrecords, Function.update_of_ne hk] at hjob
        exact h.stored job hjob
    | deleted _ _ _ _ _ _ hrecords _ _ =>
      rw [hrecords, Records.deleteOlderThan_eq_some] at hjob
      exact h.stored job hjob.1
  · rw [hhistory] at he'
    rcases List.mem_cons.mp he' with rfl | he'
    · exact h.stored job (hbefore ▸ hjob)
    · exact h.recorded e' he' job hjob

/-- A creation under an unused id. -/
lemma createdWith_of_perform {t : ℕ} {command : Command} {c : JobCall} {r : JobReply c}
    {input : CallInput} {job : ForecastJob} (htrace : Trace permitted init s)
    (hperform : s.perform t command c input = some (r, s'))
    (hcreated : (⟨t, command, c, r, s.store⟩ : Event S).created =
      some (latitude, longitude, parent, job)) :
    s.issued job.id = false ∧ canonicalUuid job.id = true ∧
      CreatedWith s' job.id latitude longitude (parent.bind Runtime.parseUuid) := by
  obtain ⟨hr, hfresh, rfl⟩ := perform_eq_some.mp hperform
  cases c with
  | create latitude' longitude' parent' attempt =>
    cases r with
    | error e => cases hcreated
    | ok job' =>
      obtain ⟨rfl, rfl, rfl, rfl⟩ : latitude' = latitude ∧ longitude' = longitude ∧
          parent' = parent ∧ job' = job := by simpa [Event.created] using hcreated
      have hreply := S.create_reply s.store latitude' longitude' parent' attempt input.clock
        input.newId
      have hrecords := S.create_records s.store latitude' longitude' parent' attempt input.clock
        input.newId
      have hunused : s.issued job'.id = false := by simpa [freshReply] using hfresh
      have hstored := storedIssued_of_trace htrace
      rcases (S.records s.store).create_cases latitude' longitude' parent' attempt input.clock
        input.newId with ⟨e, -, hcreate⟩ | ⟨new, hnew, hcreate⟩
      · rw [hcreate] at hreply
        cases hr.trans hreply
      · rw [hcreate] at hreply hrecords
        obtain rfl : job' = new := Except.ok.inj (hr.trans hreply)
        obtain ⟨hlatitude, hlongitude, -, hparent⟩ := buildNewJob_lineage hnew
        obtain ⟨_, _, identity, _, hid, -, -, -, -, hjob⟩ := buildNewJob_ok hnew
        refine ⟨hunused, ?_, by simp [markIssued], fun job hjob => ?_, fun e he job hjob => ?_⟩
        · rw [hjob]
          exact Runtime.parseUuid_canonical hid
        · change S.records (S.create s.store latitude' longitude' parent' attempt input.clock
            input.newId).2 job'.id = some job at hjob
          rw [hrecords] at hjob
          dsimp only at hjob
          rw [Function.update_self] at hjob
          obtain rfl := Option.some.inj hjob
          exact ⟨hlatitude, hlongitude, hparent⟩
        · exfalso
          rcases List.mem_cons.mp he with rfl | he
          · have hissued := hstored job'.id (by simp [hjob])
            cases hunused.symm.trans hissued
          · have hissued := issued_of_mem htrace he (k := job'.id) (by simp [hjob])
            cases hunused.symm.trans hissued
  | _ => cases hcreated

lemma Trace.createdWith (h : Trace permitted init s) {e : Event S} (he : e ∈ s.history)
    {job : ForecastJob} (hcreated : e.created = some (latitude, longitude, parent, job)) :
    canonicalUuid job.id = true ∧
      CreatedWith s job.id latitude longitude (parent.bind Runtime.parseUuid) := by
  induction h with
  | nil => cases he
  | cons htrace _ hjust hperform ih =>
    have hhistory := history_of_perform hperform
    rw [hhistory] at he
    rcases List.mem_cons.mp he with rfl | he
    · exact (createdWith_of_perform htrace hperform hcreated).2
    · obtain ⟨hcanonical, hwith⟩ := ih he
      exact ⟨hcanonical, hwith.effect htrace (effect_of_perform htrace hjust hperform) hhistory rfl⟩

lemma Trace.created_unique (h : Trace permitted init s) {e e' : Event S} (he : e ∈ s.history)
    (he' : e' ∈ s.history) {latitude' longitude' : PyFloat} {parent' : Option String}
    {job job' : ForecastJob} (hcreated : e.created = some (latitude, longitude, parent, job))
    (hcreated' : e'.created = some (latitude', longitude', parent', job'))
    (hid : job.id = job'.id) : e.task = e'.task := by
  induction h with
  | nil => cases he
  | cons htrace _ _ hperform ih =>
    rw [history_of_perform hperform] at he he'
    rcases List.mem_cons.mp he with rfl | he <;> rcases List.mem_cons.mp he' with rfl | he'
    · rfl
    · have hunused := (createdWith_of_perform htrace hperform hcreated).1
      rw [hid, (htrace.createdWith he' hcreated').2.issued] at hunused
      cases hunused
    · have hunused := (createdWith_of_perform htrace hperform hcreated').1
      rw [← hid, (htrace.createdWith he hcreated).2.issued] at hunused
      cases hunused
    · exact ih he he'

end CreatedWith

/-! ## What a command returns -/

/-- A submission and a retry return the job that their task has created. -/
def Returns (command : Command) (mine : List (Event S)) (result : Option ForecastJob) : Prop :=
  (∀ latitude longitude, command = .submit latitude longitude →
    ∃ e ∈ mine, ∃ job, e.created = some (latitude, longitude, none, job) ∧
      result = some (withJobLinks job)) ∧
  ∀ jobId, command = .retry jobId → ∃ k, normalizeJobId jobId = .ok k ∧
    ∃ e ∈ mine, ∃ latitude longitude job, e.created = some (latitude, longitude, some k, job) ∧
      result = some (withJobLinks job)

section Returns

variable {t : ℕ} {command : Command} {mine : List (Event S)}

/-- A program with the calls of its own task behind it, and what it returns after them. -/
abbrev ReturnsBy (t : ℕ) (command : Command) (mine : List (Event S))
    (p : JobProgram (Option ForecastJob)) : Prop :=
  FollowsBy (fun _ _ _ => True) t command mine p (Returns command)

lemma returnsBy_other (hsubmit : ∀ latitude longitude, command ≠ .submit latitude longitude)
    (hretry : ∀ jobId, command ≠ .retry jobId) (p : JobProgram (Option ForecastJob)) :
    ReturnsBy t command mine p := by
  induction p generalizing mine with
  | ret a =>
    exact ⟨fun latitude longitude h => absurd h (hsubmit latitude longitude),
      fun jobId h => absurd h (hretry jobId)⟩
  | raise e => trivial
  | call c next ih => exact ⟨trivial, fun before r _ => ih r⟩

lemma submitForecastJob_returns (latitude longitude : PyFloat) :
    FollowsBy (fun _ _ _ => True) t command mine (submitForecastJob latitude longitude)
      fun mine result => ∃ e ∈ mine, ∃ job, e.created = some (latitude, longitude, none, job) ∧
        result = withJobLinks job := by
  refine ⟨trivial, fun before r _ => ?_⟩
  cases r with
  | error e => trivial
  | ok job =>
    refine ⟨trivial, fun before' r' _ => ?_⟩
    exact ⟨_, List.mem_cons_of_mem _ List.mem_cons_self, job, rfl, rfl⟩

lemma retryForecastJob_returns (jobId : String) :
    FollowsBy (fun _ _ _ => True) t command mine (retryForecastJob jobId)
      fun mine result => ∃ k, normalizeJobId jobId = .ok k ∧ ∃ e ∈ mine, ∃ latitude longitude job,
        e.created = some (latitude, longitude, some k, job) ∧ result = withJobLinks job := by
  refine ⟨trivial, fun before r hanswers => ?_⟩
  cases r with
  | error e => trivial
  | ok source =>
    obtain ⟨k, hk, -, rfl⟩ := answers_get hanswers
    change FollowsBy _ _ _ _ (if source.status ∉ terminalJobStatuses then _ else _) _
    split
    · trivial
    · refine ⟨trivial, fun before r _ => ?_⟩
      cases r with
      | error e => trivial
      | ok job =>
        refine ⟨trivial, fun before' r' _ => ?_⟩
        exact ⟨_, hk, _, List.mem_cons_of_mem _ List.mem_cons_self, _, _, job, rfl, rfl⟩

lemma result_returns (config : ServiceConfig) (command : Command) :
    ReturnsBy t command ([] : List (Event S)) (command.result config) := by
  cases command with
  | submit latitude longitude =>
    refine (submitForecastJob_returns latitude longitude).bind fun mine result h => ?_
    obtain ⟨e, he, job, hcreated, rfl⟩ := h
    refine ⟨fun latitude' longitude' h => ?_, fun jobId h => by cases h⟩
    cases h
    exact ⟨e, he, job, hcreated, rfl⟩
  | retry jobId =>
    refine (retryForecastJob_returns jobId).bind fun mine result h => ?_
    obtain ⟨k, hk, e, he, latitude, longitude, job, hcreated, rfl⟩ := h
    refine ⟨fun latitude' longitude' h => (by cases h), fun jobId' h => ?_⟩
    cases h
    exact ⟨k, hk, e, he, latitude, longitude, job, hcreated, rfl⟩
  | _ => exact returnsBy_other (by simp) (by simp) _

end Returns

/-- Every task has returned, or will return, what its command returns. -/
structure Tracked (cfg : JobServiceConfig S) : Prop where
  tasks : ∀ e ∈ cfg.shared.history, e.task < cfg.tasks.length
  returns : ∀ t task, cfg.tasks[t]? = some task →
    ReturnsBy t task.label (own t cfg.shared.history) task.program

lemma Tracked.step (h : Tracked cfg) {ch : Choice Command CallInput}
    (hstep : (jobService S config permitted).step cfg ch = some cfg') : Tracked cfg' := by
  rcases System.step_cases _ hstep with ⟨command, -, -, rfl⟩ |
    ⟨i, input, command, c, next, r, s, -, htask, hperform, rfl⟩ | ⟨_, _, _, _, -, -, hresume, -⟩
  · refine ⟨fun e he => ?_, fun t task htask => ?_⟩
    · have hlt := h.tasks e he
      simp only [List.length_append, List.length_singleton]
      omega
    · rw [List.getElem?_append] at htask
      split at htask
      · exact h.returns t task htask
      · next hge =>
        obtain ⟨hlast, rfl⟩ := List.getElem?_eq_some_iff.mp htask
        rw [List.length_singleton] at hlast
        have hnil : own t cfg.shared.history = [] :=
          own_eq_nil fun e he => by have hlt := h.tasks e he; omega
        simp only [List.getElem_singleton, hnil]
        exact result_returns config command
  · have hi := (List.getElem?_eq_some_iff.mp htask).1
    have hhistory := history_of_perform hperform
    refine ⟨fun e he => ?_, fun t task ht => ?_⟩
    · simp only [List.length_append, List.length_set]
      rw [hhistory] at he
      rcases List.mem_cons.mp he with rfl | he
      · exact Nat.lt_add_right _ hi
      · exact Nat.lt_add_right _ (h.tasks e he)
    · simp only [jobService, List.map_nil, List.append_nil, List.getElem?_set] at ht
      split at ht
      · next hit =>
        subst hit
        obtain rfl := Option.some.inj ht
        have hown := own_cons_self ⟨i, command, c, r, cfg.shared.store⟩ cfg.shared.history
        rw [hhistory, hown]
        exact (h.returns i _ htask).2 cfg.shared.store r (answers_of_perform hperform)
      · next hit =>
        rw [hhistory, own_cons_ne hit]
        exact h.returns t task ht
  · cases hresume

lemma tracked_of_service (h : ServiceReaches config permitted init cfg) : Tracked cfg := by
  induction h with
  | refl => exact ⟨fun e he => (by cases he), fun t task ht => (by cases ht)⟩
  | step ch _ hstep ih => exact ih.step hstep

lemma returns_of_service (h : ServiceReaches config permitted init cfg) {t : ℕ} {command : Command}
    {result : Option ForecastJob} (htask : cfg.tasks[t]? = some ⟨command, .ret result⟩) :
    Returns command (own t cfg.shared.history) result :=
  (tracked_of_service h).returns t _ htask

/-! ## What a step keeps -/

/-- The command of a task. -/
def JobServiceConfig.command (cfg : JobServiceConfig S) (t : ℕ) : Option Command :=
  cfg.tasks[t]?.map (·.label)

/-- What a task has ended with. -/
def JobServiceConfig.outcome (cfg : JobServiceConfig S) (t : ℕ) :
    Option (Except JobError ForecastJob) :=
  match cfg.tasks[t]? with
  | some ⟨_, .ret (some job)⟩ => some (.ok job)
  | some ⟨_, .raise e⟩ => some (.error e)
  | _ => none

lemma JobServiceConfig.command_lt {t : ℕ} {command : Command}
    (h : JobServiceConfig.command cfg t = some command) : t < cfg.tasks.length := by
  obtain ⟨task, htask, -⟩ := Option.map_eq_some_iff.mp h
  exact (List.getElem?_eq_some_iff.mp htask).1

lemma JobServiceConfig.outcome_cases {t : ℕ} {outcome : Except JobError ForecastJob}
    (h : JobServiceConfig.outcome cfg t = some outcome) :
    ∃ command, (∃ job, outcome = .ok job ∧ cfg.tasks[t]? = some ⟨command, .ret (some job)⟩) ∨
      ∃ e, outcome = .error e ∧ cfg.tasks[t]? = some ⟨command, .raise e⟩ := by
  unfold JobServiceConfig.outcome at h
  split at h
  · next command job htask => exact ⟨command, .inl ⟨job, (Option.some.inj h).symm, htask⟩⟩
  · next command e htask => exact ⟨command, .inr ⟨e, (Option.some.inj h).symm, htask⟩⟩
  · cases h

lemma service_start {command : Command}
    (hstep : (jobService S config permitted).step cfg (.start command) = some cfg') :
    cfg' = ⟨cfg.shared, cfg.tasks ++ [⟨command, command.result config⟩]⟩ := by
  simp only [System.step] at hstep
  split at hstep
  · exact (Option.some.inj hstep).symm
  · cases hstep

/-- What a client has been told of stays so. -/
structure ServiceKeeps (cfg cfg' : JobServiceConfig S) : Prop where
  created : ∀ k latitude longitude parent, CreatedWith cfg.shared k latitude longitude parent →
    CreatedWith cfg'.shared k latitude longitude parent
  settled : ∀ job, Settled cfg.shared job → Settled cfg'.shared job
  history : cfg.shared.history ⊆ cfg'.shared.history
  command : ∀ t command, JobServiceConfig.command cfg t = some command →
    JobServiceConfig.command cfg' t = some command
  outcome : ∀ t outcome, JobServiceConfig.outcome cfg t = some outcome →
    JobServiceConfig.outcome cfg' t = some outcome

lemma keeps_of_service (h : ServiceReaches config permitted init cfg)
    {ch : Choice Command CallInput}
    (hstep : (jobService S config permitted).step cfg ch = some cfg') : ServiceKeeps cfg cfg' := by
  have hcommand : ∀ t command, JobServiceConfig.command cfg t = some command →
      JobServiceConfig.command cfg' t = some command := by
    intro t command hcommand
    obtain ⟨task, htask, rfl⟩ := Option.map_eq_some_iff.mp hcommand
    obtain ⟨program, htask', -⟩ := System.step_task (fun _ => rfl) hstep htask
    exact Option.map_eq_some_iff.mpr ⟨_, htask', rfl⟩
  have houtcome : ∀ t outcome, JobServiceConfig.outcome cfg t = some outcome →
      JobServiceConfig.outcome cfg' t = some outcome := by
    intro t outcome houtcome
    obtain ⟨command, ⟨job, rfl, htask⟩ | ⟨e, rfl, htask⟩⟩ := JobServiceConfig.outcome_cases houtcome
    all_goals
      obtain ⟨program, htask', hended⟩ := System.step_task (fun _ => rfl) hstep htask
      obtain rfl := hended (by simp)
      simp [JobServiceConfig.outcome, htask']
  rcases effect_of_service h hstep with heq | ⟨e, hbefore, hhistory, heffect⟩
  · refine ⟨?_, ?_, ?_, hcommand, houtcome⟩ <;> rw [heq]
    · exact fun _ _ _ _ hcreated => hcreated
    · exact fun _ hsettled => hsettled
    · exact List.Subset.refl _
  · have htrace := trace_of_service h
    refine ⟨fun k latitude longitude parent hcreated => ?_, fun job hsettled => ?_, ?_, hcommand,
      houtcome⟩
    · exact hcreated.effect htrace heffect hhistory hbefore
    · exact hsettled.effect heffect (storedIssued_of_trace htrace) hhistory hbefore
    · rw [hhistory]
      exact List.subset_cons_self _ _

end Runtime

end Earth2Sandbox
