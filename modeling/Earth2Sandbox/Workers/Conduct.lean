import Earth2Sandbox.Workers.Dispatch
import Earth2Sandbox.Workers.Process

/-!
# Every task keeps to the protocol

The tasks of the process (`Workers/Process.lean`) perform the actions of the dispatch protocol
(`Workers/Dispatch.lean`), whatever the others do in between: `process_verified` is the simulation
that connects the two.
-/

namespace Earth2Sandbox

section Runtime

variable [Runtime] {S : ForecastJobStore} {Q : ForecastQueue} {config : ServiceConfig}
  {answers : ProviderAnswers}

/-- An id in canonical form. -/
def Canonical (id : String) : Prop := Runtime.parseUuid id = some id

/-- An item as the workers enqueue it. -/
def Regular (item : ForecastQueueItem) : Prop :=
  itemKey item = item.jobId ∧ Canonical item.jobId

/-- Every item is as the workers enqueue it. -/
def AllRegular (items : String → Option ForecastQueueItem) : Prop :=
  ∀ key item, items key = some item → Regular item

omit [Runtime] in
lemma item_of_update {items : String → Option ForecastQueueItem} {key k : String}
    {new : Option ForecastQueueItem} {item : ForecastQueueItem}
    (h : Function.update items key new k = some item) : new = some item ∨ items k = some item := by
  by_cases hk : k = key
  · subst hk
    exact .inl (by simpa using h)
  · exact .inr (by simpa [Function.update_of_ne hk] using h)

/-- What the protocol sees of the process. -/
def ProcessState.view (s : ProcessState S Q) : View where
  status id := (S.records s.store id).map (·.status)
  issued := s.issued
  serving := s.serving
  pending := (Q.view s.queue).pending
  inFlight := (Q.view s.queue).inFlight
  regular := AllRegular (Q.view s.queue).items

/-- The role in which a task starts. -/
def ProcessTask.role : ProcessTask → Role
  | startup => .startup
  | request (.cleanup ..) => .cleaning
  | request _ => .requesting
  | enqueueAndDrain jobId => .enqueuing jobId
  | drainQueue => .draining

/-! ## Commands -/

/-- The effect of a call of a command. -/
def jobExec (answers : ProviderAnswers) (s : ProcessState S Q) (c : JobCall) (r : JobReply c)
    (s' : ProcessState S Q) : Prop :=
  ∃ input, s.performJob answers c input = some (r, s')

/-- A command performs the actions of its role. -/
def jobContract {α : Type} (post : Role → Except JobError α → Prop) :
    Contract (ProcessState S Q) Role JobError JobCall JobReply α where
  rely _ _ _ := True
  guar g s c _ s' g' := Act Canonical g s.view s'.view g' ((workersOf c).map ProcessTask.role)
  post g _ outcome := post g outcome

variable (S Q answers) in
/-- A part of a command keeps to the protocol, from a role on. -/
def Conducts {α : Type} (post : Role → Except JobError α → Prop) (g : Role) (p : JobProgram α) :
    Prop :=
  ∀ s : ProcessState S Q, p.Safe (jobContract post) (jobExec answers) g s

section Parts

variable {α β : Type} {post : Role → Except JobError α → Prop} {g : Role}

lemma conducts_ret {a : α} (h : post g (.ok a)) : Conducts S Q answers post g (.ret a) := fun _ => h

lemma conducts_raise {e : JobError} (h : post g (.error e)) :
    Conducts S Q answers post g (.raise e) := fun _ => h

lemma Conducts.bind {post' : Role → Except JobError β → Prop} {p : JobProgram β}
    {f : β → JobProgram α} (hp : Conducts S Q answers post' g p)
    (hret : ∀ a g', post' g' (.ok a) → Conducts S Q answers post g' (f a))
    (hraise : ∀ e g', post' g' (.error e) → post g' (.error e)) :
    Conducts S Q answers post g (p >>= f) := by
  intro s
  refine Program.Safe.bind (Q := fun g _ outcome => post' g outcome) (hp s)
    (fun a g' s' h => hret a g' h s') fun e g' _ h => hraise e g' h

/-- A call, by what it does. -/
lemma conducts_call {c : JobCall} {next : JobReply c → JobProgram α}
    (h : ∀ (s s' : ProcessState S Q) (r : JobReply c), jobExec answers s c r s' → ∃ g',
      Act Canonical g s.view s'.view g' ((workersOf c).map ProcessTask.role) ∧
        Conducts S Q answers post g' (next r)) :
    Conducts S Q answers post g (.call c next) := by
  intro s s₁ _ r s₂ hexec
  obtain ⟨g', hact, hnext⟩ := h s₁ s₂ r hexec
  exact ⟨g', hact, hnext s₂⟩

/-- The effect of a call, once the guards have been passed. -/
lemma jobExec_cases {s s' : ProcessState S Q} {c : JobCall} {r : JobReply c}
    (h : jobExec answers s c r s') : ∃ input : CallInput,
      performStoreCall S s.store input c = (r, s'.store) ∧ freshReply s.issued c r = true ∧
      (c.callsProvider = true → answers input.outcome = true) ∧
      s' = { s with store := s'.store, issued := markIssued s.issued c r } := by
  obtain ⟨input, heq⟩ := h
  unfold ProcessState.performJob at heq
  dsimp only at heq
  split at heq
  · next hguard =>
    cases heq
    exact ⟨input, rfl, hguard.1, hguard.2, rfl⟩
  · cases heq

/-- A call that leaves the store alone. -/
lemma conducts_idle {c : JobCall} {next : JobReply c → JobProgram α}
    (hc : ∀ store input, (performStoreCall S store input c).2 = store)
    (hissued : ∀ issued r, markIssued issued c r = issued) (hworkers : workersOf c = [])
    (h : ∀ r store input, performStoreCall S store input c = (r, store) →
      (c.callsProvider = true → answers input.outcome = true) →
      Conducts S Q answers post g (next r)) :
    Conducts S Q answers post g (.call c next) := by
  refine conducts_call fun s s' r hexec => ?_
  obtain ⟨input, hperform, -, hfit, heq⟩ := jobExec_cases hexec
  have hstore : s'.store = s.store := by
    have := congrArg Prod.snd hperform
    rw [hc] at this
    exact this.symm
  rw [hstore] at hperform heq
  rw [heq, hissued, hworkers]
  exact ⟨g, .stay g s.view, h r s.store input hperform hfit⟩

lemma conducts_clockNow {f : Time → JobProgram α} (h : ∀ now, Conducts S Q answers post g (f now)) :
    Conducts S Q answers post g (clockNow >>= f) :=
  conducts_idle (fun _ _ => rfl) (fun _ _ => rfl) rfl fun now _ _ _ _ => h now

lemma conducts_increment {event : String} {f : Unit → JobProgram α}
    (h : Conducts S Q answers post g (f ())) :
    Conducts S Q answers post g (incrementForecastJobEvent event >>= f) :=
  conducts_idle (fun _ _ => rfl) (fun _ _ => rfl) rfl fun _ _ _ _ _ => h

lemma view_status {s : ProcessState S Q} {id : String} {job : ForecastJob}
    (h : S.records s.store id = some job) : s.view.status id = some job.status := by
  simp [ProcessState.view, h]

lemma exists_record {s : ProcessState S Q} {id : String} {status : ForecastJobStatus}
    (h : s.view.status id = some status) :
    ∃ job, S.records s.store id = some job ∧ job.status = status :=
  Option.map_eq_some_iff.mp h

lemma status_write {s s' : ProcessState S Q} {id : String} {job : ForecastJob}
    (hrecords : S.records s'.store = Function.update (S.records s.store) id (some job)) :
    s'.view.status = Function.update s.view.status id (some job.status) := by
  funext k
  simp only [ProcessState.view, hrecords]
  by_cases hk : k = id
  · subst hk
    simp
  · simp [Function.update_of_ne hk]

lemma conducts_getJob {jobId : String} {f : ForecastJob → JobProgram α}
    (herror : ∀ e, post g (.error e))
    (hok : ∀ job, Canonical job.id → Conducts S Q answers post g (f job)) :
    Conducts S Q answers post g (getJob jobId >>= f) := by
  refine conducts_idle (fun _ _ => rfl) (fun _ _ => rfl) rfl fun r store input hperform _ => ?_
  cases r with
  | ok job =>
    have hget : S.get store jobId = .ok job := congrArg Prod.fst hperform
    rw [S.get_eq, Records.get_eq_ok] at hget
    obtain ⟨k, -, hrecord⟩ := hget
    obtain ⟨hid, hcanonical⟩ := S.records_id _ _ _ hrecord
    exact hok job (hid ▸ hcanonical)
  | error e => exact conducts_raise (herror e)

lemma get_canonical {store : S.State} {id : String} (hid : Canonical id) :
    S.get store id = match S.records store id with
      | none => .error (.notFound id)
      | some job => .ok job := by
  rw [S.get_eq, Records.get, normalizeJobId_canonical hid]
  rfl

lemma conducts_getJob_canonical {id : String} (hid : Canonical id) {f : ForecastJob → JobProgram α}
    (herror : ∀ v : View, v.status id = none →
      ∃ g', Act Canonical g v v g' [] ∧ post g' (.error (.notFound id)))
    (hok : ∀ (v : View) (job : ForecastJob), v.status id = some job.status → job.id = id →
      ∃ g', Act Canonical g v v g' [] ∧ Conducts S Q answers post g' (f job)) :
    Conducts S Q answers post g (getJob id >>= f) := by
  refine conducts_call fun s s' r hexec => ?_
  obtain ⟨input, hperform, -, -, heq⟩ := jobExec_cases hexec
  obtain ⟨hr, hstore⟩ := Prod.mk.inj hperform
  have hview : s'.view = s.view := by
    rw [heq, ← hstore]
    rfl
  rw [hview]
  rw [get_canonical hid] at hr
  cases hrecord : S.records s.store id with
  | none =>
    rw [hrecord] at hr
    subst hr
    obtain ⟨g', hact, hpost⟩ := herror s.view (by simp [ProcessState.view, hrecord])
    exact ⟨g', hact, conducts_raise hpost⟩
  | some job =>
    rw [hrecord] at hr
    subst hr
    obtain ⟨g', hact, hnext⟩ := hok s.view job (view_status hrecord) (S.records_id _ _ _ hrecord).1
    exact ⟨g', hact, hnext⟩

lemma conducts_tryUpdateIfStatus {id : String} (hid : Canonical id) {job : ForecastJob}
    {expected : Finset ForecastJobStatus}
    {f : Except ForecastJobStatus ForecastJob → JobProgram α} (hjob : job.id = id)
    (hok : ∀ (v : View) (updated : ForecastJob) (current : ForecastJobStatus),
      v.status id = some current → current ∈ expected → updated.id = id →
      ∃ g', Act Canonical g v (v.write id job.status) g' [] ∧
        Conducts S Q answers post g' (f (.ok updated)))
    (htransition : ∀ (v : View) (current : ForecastJobStatus),
      v.status id = some current → current ∉ expected →
      ∃ g', Act Canonical g v v g' [] ∧ Conducts S Q answers post g' (f (.error current)))
    (hmissing : ∀ v : View, v.status id = none →
      ∃ g', Act Canonical g v v g' [] ∧ post g' (.error (.notFound id))) :
    Conducts S Q answers post g (tryUpdateIfStatus job expected >>= f) := by
  subst hjob
  refine conducts_call fun s s' r hexec => ?_
  obtain ⟨input, hperform, -, -, heq⟩ := jobExec_cases hexec
  have hreply : ((S.records s.store).updateIfStatus job expected input.clock).1 = r := by
    rw [← S.updateIfStatus_reply]
    exact congrArg Prod.fst hperform
  have hrecords : S.records s'.store =
      ((S.records s.store).updateIfStatus job expected input.clock).2 := by
    rw [← S.updateIfStatus_records]
    exact congrArg S.records (congrArg Prod.snd hperform).symm
  have hstate : s' = { s with store := s'.store } := by
    rw [heq]
    rfl
  rcases (S.records s.store).updateIfStatus_cases job expected input.clock with
    ⟨e, herror⟩ | ⟨k, current, hk, hcurrent, hexpected, hwrite⟩
  · -- nothing is written
    have hview : s'.view = s.view := by
      rw [herror] at hrecords
      rw [hstate]
      simp only [ProcessState.view, hrecords]
    obtain rfl : Except.error e = r := (congrArg Prod.fst herror).symm.trans hreply
    rw [hview]
    rcases Records.updateIfStatus_error hid (congrArg Prod.fst herror) with
      ⟨hnone, rfl⟩ | ⟨current, hcurrent, hexpected, rfl⟩
    · obtain ⟨g', hact, hpost⟩ := hmissing s.view (by simp [ProcessState.view, hnone])
      exact ⟨g', hact, conducts_raise hpost⟩
    · exact htransition s.view current.status (view_status hcurrent) hexpected
  · obtain rfl : job.id = k :=
      Except.ok.inj ((normalizeJobId_canonical hid).symm.trans hk)
    rw [hwrite] at hreply hrecords
    obtain rfl : Except.ok _ = r := hreply
    have hview : s'.view = s.view.write job.id job.status := by
      rw [View.write, ← status_write hrecords]
      conv_lhs => rw [hstate]
      conv_rhs => rw [hstate]
      rfl
    rw [hview]
    exact hok s.view _ current.status (view_status hcurrent) hexpected rfl

lemma conducts_validateDiagnostics {d : PyDict} (hd : (ForecastJobDiagnostics.ofDict d).isSome)
    {f : ForecastJobDiagnostics → JobProgram α}
    (h : ∀ diagnostics, Conducts S Q answers post g (f diagnostics)) :
    Conducts S Q answers post g (validateDiagnostics d >>= f) := by
  obtain ⟨diagnostics, heq⟩ := Option.isSome_iff_exists.mp hd
  rw [validateDiagnostics, heq]
  exact h diagnostics

end Parts

/-! ## Runs -/

/-- How a run of job `id` ends: nothing is left to do for the job, and an exception says that the
record is gone. -/
def Ran (id : String) (g : Role) : Except JobError Unit → Prop
  | .ok _ => g = .handled id
  | .error e => g = .raised id ∧ e ≠ .interrupted

section Runs

variable {id : String}

/-- The end of a run: the job is completed, unless another task was faster. -/
lemma conducts_complete {job : ForecastJob} (hid : Canonical id) (hjob : job.id = id)
    (hdone : ¬ Active (some job.status)) (event : String) :
    Conducts S Q answers (Ran id) (.claimed id)
      (tryUpdateIfStatus job {.running} >>= fun
        | .error _ => .ret ()
        | .ok _ => incrementForecastJobEvent event) := by
  refine conducts_tryUpdateIfStatus hid hjob (fun v updated current hcurrent hexpected _ => ?_)
    (fun v current hcurrent hexpected => ?_) fun v hnone => ?_
  · obtain rfl := Finset.mem_singleton.mp hexpected
    exact ⟨_, .finish v id job.status hcurrent hdone, conducts_increment (conducts_ret rfl)⟩
  · refine ⟨_, .superseded v id ?_, conducts_ret rfl⟩
    rw [hcurrent]
    exact fun h => hexpected (Finset.mem_singleton.mpr (Option.some.inj h))
  · exact ⟨_, .supersededMissing v id hnone, rfl, by simp⟩

lemma conducts_markJobFailed (hid : Canonical id) (error : String) (diagnostics : Option PyDict)
    (hfit : (ForecastJobDiagnostics.ofDict ((diagnostics.getD []).override "message"
      (diagnosticMessage (diagnostics.getD [])))).isSome) :
    Conducts S Q answers (Ran id) (.claimed id) (markJobFailed id error diagnostics) := by
  unfold markJobFailed
  refine conducts_getJob_canonical hid
    (fun v hnone => ⟨_, .supersededMissing v id hnone, rfl, by simp⟩) fun v job hstatus hjob => ?_
  by_cases hrunning : job.status = .running
  · refine ⟨_, .stay _ v, ?_⟩
    rw [if_neg (not_not.mpr hrunning)]
    refine conducts_clockNow fun failedAt => ?_
    refine conducts_validateDiagnostics hfit fun validated => ?_
    refine conducts_complete hid ?_ ?_ "failed"
    · exact hjob
    · simp [Active, failedJob]
  · refine ⟨_, .superseded v id ?_, ?_⟩
    · rw [hstatus]
      exact fun h => hrunning (Option.some.inj h)
    · rw [if_pos hrunning]
      exact conducts_ret rfl

lemma conducts_markJobSucceeded (hid : Canonical id) (providerResult : ForecastProviderResult)
    (hfit : (ForecastJobDiagnostics.ofDict (providerResult.diagnostics.override "message"
      (.str "Forecast summary is ready."))).isSome) :
    Conducts S Q answers (Ran id) (.claimed id) (markJobSucceeded id providerResult) := by
  unfold markJobSucceeded
  refine conducts_clockNow fun completed => ?_
  refine conducts_getJob_canonical hid
    (fun v hnone => ⟨_, .supersededMissing v id hnone, rfl, by simp⟩) fun v job hstatus hjob => ?_
  by_cases hrunning : job.status = .running
  · refine ⟨_, .stay _ v, ?_⟩
    rw [if_neg (not_not.mpr hrunning)]
    refine conducts_validateDiagnostics hfit fun validated => ?_
    refine conducts_complete hid ?_ ?_ "succeeded"
    · exact hjob
    · simp [Active, succeededJob]
  · refine ⟨_, .superseded v id ?_, ?_⟩
    · rw [hstatus]
      exact fun h => hrunning (Option.some.inj h)
    · rw [if_pos hrunning]
      exact conducts_ret rfl

lemma conducts_finishJob (hid : Canonical id) {outcome : ProviderOutcome ForecastProviderResult}
    (hfit : DiagnosticsFit true outcome) :
    Conducts S Q answers (Ran id) (.claimed id) (finishJob id outcome) := by
  cases outcome with
  | returned providerResult => exact conducts_markJobSucceeded hid providerResult (hfit rfl)
  | unavailable message diagnostics => exact conducts_markJobFailed hid _ _ hfit
  | failed message => exact conducts_markJobFailed hid _ _ isSome_ofDict_failed
  | interrupted => cases hfit

lemma conducts_getProviderResult (hfit : AnswersFit config answers) (hid : Canonical id)
    (job : ForecastJob) :
    Conducts S Q answers (Ran id) (.claimed id)
      (getProviderResult config.diagnosticMethod job >>= fun outcome => finishJob id outcome) := by
  have hanswer {outcome : ProviderOutcome ForecastProviderResult}
      (houtcome : answers outcome = true) :
      Conducts S Q answers (Ran id) (.claimed id)
        (finishJob id (answerOf config.diagnosticMethod outcome)) :=
    conducts_finishJob hid
      ((diagnosticsFit_answerOf config.diagnosticMethod outcome).mpr (hfit outcome houtcome))
  unfold getProviderResult
  cases hmethod : config.diagnosticMethod with
  | true =>
    refine conducts_idle (fun _ _ => rfl) (fun _ _ => rfl) rfl
      fun r store input hperform hanswered => ?_
    obtain rfl : input.outcome = r := congrArg Prod.fst hperform
    have hfinish := hanswer (hanswered rfl)
    rw [hmethod] at hfinish
    exact hfinish
  | false =>
    refine conducts_idle (fun _ _ => rfl) (fun _ _ => rfl) rfl
      fun r store input hperform hanswered => ?_
    obtain rfl : input.outcome.map (·.summary) = r := congrArg Prod.fst hperform
    have hfinish := hanswer (hanswered rfl)
    rw [hmethod] at hfinish
    exact hfinish

lemma conducts_runForecastJob (hfit : AnswersFit config answers) (hid : Canonical id) :
    Conducts S Q answers (Ran id) (.taken id) (runForecastJob config.diagnosticMethod id) := by
  unfold runForecastJob
  refine conducts_getJob_canonical hid
    (fun v hnone => ⟨_, .skipMissing v id hnone, rfl, by simp⟩) fun v job hstatus hjob => ?_
  by_cases hqueued : job.status = .queued
  · refine ⟨_, .stay _ v, ?_⟩
    rw [if_neg (not_not.mpr hqueued)]
    refine conducts_clockNow fun now => ?_
    refine conducts_tryUpdateIfStatus hid ?_ (fun v updated current hcurrent hexpected _ => ?_)
      (fun v current hcurrent hexpected => ?_) fun v hnone => ?_
    · exact hjob
    · obtain rfl := Finset.mem_singleton.mp hexpected
      exact ⟨_, .claim v id hcurrent, conducts_increment (conducts_getProviderResult hfit hid job)⟩
    · refine ⟨_, .skip v id ?_, conducts_ret rfl⟩
      rw [hcurrent]
      exact fun h => hexpected (Finset.mem_singleton.mpr (Option.some.inj h))
    · exact ⟨_, .skipMissing v id hnone, rfl, by simp⟩
  · refine ⟨_, .skip v id ?_, ?_⟩
    · rw [hstatus]
      exact fun h => hqueued (Option.some.inj h)
    · rw [if_pos hqueued]
      exact conducts_ret rfl

end Runs

/-! ## Recovery -/

lemma conducts_astray {α : Type} {post : Role → Except JobError α → Prop}
    (hpost : ∀ outcome, post .astray outcome) (p : JobProgram α) :
    Conducts S Q answers post .astray p := by
  induction p with
  | ret a => exact conducts_ret (hpost _)
  | raise e => exact conducts_raise (hpost _)
  | call c next ih => exact conducts_call fun s s' r _ => ⟨.astray, .astray .., ih r⟩

/-- What recovery is going to do with a job that it has listed. -/
def dutyOf (now : Time) (timeout : ℤ) (job : ForecastJob) : Duty :=
  if shouldMarkJobStale job.updatedAt now timeout then .timeOut
  else if job.status = .running then .requeue
  else .handOver

/-- What recovery is going to do with the jobs that it has listed. -/
def dutiesOf (now : Time) (timeout : ℤ) (jobs : List ForecastJob) : List (String × Duty) :=
  jobs.map fun job => (job.id, dutyOf now timeout job)

/-- Recovery has come so far, and does not fail. -/
def Recovered {α : Type} (rest : List (String × Duty)) (g : Role) (outcome : Except JobError α) :
    Prop :=
  g = .astray ∨ g = .recovering rest ∧ ∃ a, outcome = .ok a

section Recovery

variable {rest : List (String × Duty)} {job : ForecastJob} {now : Time} {timeout : ℤ}

lemma conducts_markTimedOut (hid : Canonical job.id) :
    Conducts S Q answers (Recovered rest) (.recovering ((job.id, .timeOut) :: rest))
      (markTimedOut job now timeout) := by
  unfold markTimedOut
  refine conducts_tryUpdateIfStatus hid ?_ (fun v updated current _ _ _ => ?_)
    (fun v current hcurrent hexpected => ?_) fun v hnone => ?_
  · rfl
  · exact ⟨_, .timeOut v job.id rest .failed (by simp [Active]), conducts_ret (.inr ⟨rfl, _, rfl⟩)⟩
  · refine ⟨_, .timeOutMissed v job.id rest ?_, conducts_ret (.inr ⟨rfl, _, rfl⟩)⟩
    rw [hcurrent]
    simpa [Active] using hexpected
  · exact ⟨_, .recordMissed v job.id .timeOut rest (by simp) hnone, .inl rfl⟩

lemma conducts_workerEnqueue {α : Type} {id : String} {a : α} :
    Conducts S Q answers (Recovered rest) (.recovering ((id, .handOver) :: rest))
      (workerEnqueue id >>= fun _ => .ret a) := by
  refine conducts_call fun s s' r hexec => ?_
  obtain ⟨input, hperform, -, -, heq⟩ := jobExec_cases hexec
  have hstore : s.store = s'.store := congrArg Prod.snd hperform
  have hview : s'.view = s.view := by
    rw [heq, ← hstore]
    rfl
  rw [hview]
  exact ⟨_, .recoveryHandOver s.view id rest, conducts_ret (.inr ⟨rfl, _, rfl⟩)⟩

lemma conducts_recoverJob (hid : Canonical job.id) (report : ForecastJobRecoveryReport) :
    Conducts S Q answers (Recovered rest) (.recovering ((job.id, dutyOf now timeout job) :: rest))
      (recoverJob now timeout report job) := by
  rw [recoverJob_of_representable rfl]
  unfold treatJob dutyOf
  by_cases hstale : shouldMarkJobStale job.updatedAt now timeout
  · rw [if_pos hstale, if_pos hstale]
    refine (conducts_markTimedOut hid).bind (fun b g hg => ?_) fun e g hg => ?_
    · rcases hg with rfl | ⟨rfl, -⟩
      · exact conducts_astray (fun _ => .inl rfl) _
      · cases b <;> exact conducts_ret (.inr ⟨rfl, _, rfl⟩)
    · rcases hg with rfl | ⟨-, a, ha⟩
      · exact .inl rfl
      · cases ha
  · rw [if_neg hstale, if_neg hstale]
    by_cases hrunning : job.status = .running
    · rw [if_pos hrunning, if_pos hrunning]
      refine conducts_tryUpdateIfStatus hid ?_
        (fun v updated current hcurrent hexpected hupdated => ?_)
        (fun v current hcurrent hexpected => ?_) fun v hnone => ?_
      · rfl
      · obtain rfl := Finset.mem_singleton.mp hexpected
        refine ⟨_, .requeue v job.id rest hcurrent, ?_⟩
        dsimp only
        rw [hupdated]
        exact conducts_workerEnqueue
      · refine ⟨_, .requeueMissed v job.id rest ?_, conducts_astray (fun _ => .inl rfl) _⟩
        rw [hcurrent]
        exact fun h => hexpected (Finset.mem_singleton.mpr (Option.some.inj h))
      · exact ⟨_, .recordMissed v job.id .requeue rest (by simp) hnone, .inl rfl⟩
    · rw [if_neg hrunning, if_neg hrunning]
      exact conducts_workerEnqueue

lemma conducts_recoverJobs {jobs : List ForecastJob} (hjobs : ∀ job ∈ jobs, Canonical job.id)
    (report : ForecastJobRecoveryReport) :
    Conducts S Q answers (Recovered []) (.recovering (dutiesOf now timeout jobs))
      (recoverJobs now timeout report jobs) := by
  induction jobs generalizing report with
  | nil => exact conducts_ret (.inr ⟨rfl, _, rfl⟩)
  | cons job jobs ih =>
    obtain ⟨hjob, hrest⟩ := List.forall_mem_cons.mp hjobs
    refine (conducts_recoverJob hjob report).bind (fun report' g hg => ?_) fun e g hg => ?_
    · rcases hg with rfl | ⟨rfl, -⟩
      · exact conducts_astray (fun _ => .inl rfl) _
      · exact ih hrest report'
    · rcases hg with rfl | ⟨-, a, ha⟩
      · exact .inl rfl
      · cases ha

/-- What recovery has listed is what is there. -/
lemma dutiesFit_listActive (s : ProcessState S Q) :
    DutiesFit Canonical s.view (dutiesOf now timeout (S.listActive s.store)) := by
  rintro entry hentry
  obtain ⟨job, hjob, rfl⟩ := List.mem_map.mp hentry
  obtain ⟨hrecord, hactive⟩ := S.mem_listActive.mp hjob
  refine ⟨(S.records_id _ _ _ hrecord).2, ?_⟩
  have hstatus := view_status hrecord
  rw [mem_activeJobStatuses] at hactive
  unfold dutyOf
  dsimp only
  by_cases hstale : shouldMarkJobStale job.updatedAt now timeout
  · rw [if_pos hstale]
    simpa [Active, hstatus] using hactive
  · rw [if_neg hstale]
    by_cases hrunning : job.status = .running
    · rw [if_pos hrunning]
      simpa [hstatus] using hrunning
    · rw [if_neg hrunning]
      simpa [hstatus, hrunning] using hactive

lemma conducts_recoverInterruptedJobs (default : ℤ) (stale : Option ℤ) :
    Conducts S Q answers (Recovered []) .startup (recoverInterruptedJobs default stale) := by
  unfold recoverInterruptedJobs
  refine conducts_clockNow fun now => ?_
  refine conducts_call fun s s' jobs hexec => ?_
  obtain ⟨input, hperform, -, -, heq⟩ := jobExec_cases hexec
  obtain rfl : S.listActive s.store = jobs := congrArg Prod.fst hperform
  have hstore : s.store = s'.store := congrArg Prod.snd hperform
  have hview : s'.view = s.view := by
    rw [heq, ← hstore]
    rfl
  rw [hview]
  refine ⟨_, .listed s.view (dutiesOf now _ (S.listActive s.store)) ?_ (fun id hid => ?_)
    (dutiesFit_listActive s), conducts_recoverJobs (fun job hjob => ?_) _⟩
  · rw [dutiesOf, List.map_map]
    exact S.listActive_nodup_ids s.store
  · have hsome : ∃ status, s.view.status id = some status ∧ status ∈ activeJobStatuses := by
      rcases hid with hqueued | hrunning
      · exact ⟨_, hqueued, by simp⟩
      · exact ⟨_, hrunning, by simp⟩
    obtain ⟨status, hstatus, hactive⟩ := hsome
    obtain ⟨job, hrecord, rfl⟩ := exists_record hstatus
    obtain ⟨hjobId, -⟩ := S.records_id _ _ _ hrecord
    have hlisted : job ∈ S.listActive s.store :=
      S.mem_listActive.mpr ⟨by rw [hjobId]; exact hrecord, hactive⟩
    exact ⟨_, List.mem_map.mpr ⟨job, hlisted, by rw [hjobId]⟩⟩
  · obtain ⟨hrecord, -⟩ := S.mem_listActive.mp hjob
    exact (S.records_id _ _ _ hrecord).2

end Recovery

/-! ## Requests -/

/-- A request has ended, in whatever way. -/
def Answered {α : Type} (g : Role) (_ : Except JobError α) : Prop := g.Idle

/-- A request has created the job that it returns, or none. -/
def Created (g : Role) : Except JobError ForecastJob → Prop
  | .ok job => g = .accepted job.id
  | .error _ => g.Idle

section Requests

variable {α : Type}

lemma conducts_createJob {latitude longitude : PyFloat} {parentJobId : Option String} {attempt : ℤ}
    {f : ForecastJob → JobProgram α} {post : Role → Except JobError α → Prop}
    (herror : ∀ e, post .requesting (.error e))
    (hok : ∀ job, Conducts S Q answers post (.accepted job.id) (f job)) :
    Conducts S Q answers post .requesting
      (createJob latitude longitude parentJobId attempt >>= f) := by
  refine conducts_call fun s s' r hexec => ?_
  obtain ⟨input, hperform, hfresh, -, heq⟩ := jobExec_cases hexec
  have hreply := (S.create_reply s.store latitude longitude parentJobId attempt input.clock
    input.newId).symm.trans (congrArg Prod.fst hperform)
  have hrecords := (congrArg S.records (congrArg Prod.snd hperform)).symm.trans
    (S.create_records s.store latitude longitude parentJobId attempt input.clock input.newId)
  rcases (S.records s.store).create_cases latitude longitude parentJobId attempt input.clock
    input.newId with ⟨e, -, hcreate⟩ | ⟨job, hbuild, hcreate⟩
  · rw [hcreate] at hreply hrecords
    obtain rfl : Except.error e = r := hreply
    have hview : s'.view = s.view := by
      rw [heq]
      simp only [ProcessState.view, hrecords]
      rfl
    rw [hview]
    exact ⟨_, .stay _ s.view, conducts_raise (herror e)⟩
  · rw [hcreate] at hreply hrecords
    obtain rfl : Except.ok job = r := hreply
    obtain ⟨-, -, identity, message, -, -, -, -, -, hjob⟩ := buildNewJob_ok hbuild
    have hcanonical : Canonical job.id := by
      rw [hjob]
      exact identity.canonical
    have hnew : s.issued job.id = false := by
      have hfresh' : (!s.issued job.id) = true := hfresh
      simpa using hfresh'
    have hqueued : job.status = .queued := by rw [hjob]
    have hview : s'.view = { s.view.write job.id .queued with
        issued := fun k => k == job.id || s.view.issued k } := by
      rw [View.write, ← hqueued, ← status_write hrecords]
      conv_lhs => rw [heq]
      conv_rhs => rw [heq]
      rfl
    rw [hview]
    exact ⟨_, .create s.view job.id hcanonical hnew, hok job⟩

lemma conducts_submitForecastJob (latitude longitude : PyFloat) :
    Conducts S Q answers Created .requesting (submitForecastJob latitude longitude) := by
  unfold submitForecastJob
  refine conducts_createJob (fun _ => trivial) fun job => ?_
  exact conducts_increment (conducts_ret rfl)

lemma conducts_retryForecastJob (jobId : String) :
    Conducts S Q answers Created .requesting (retryForecastJob jobId) := by
  unfold retryForecastJob
  refine conducts_getJob (fun _ => trivial) fun source _ => ?_
  split
  · exact conducts_raise trivial
  · refine conducts_createJob (fun _ => trivial) fun job => ?_
    exact conducts_increment (conducts_ret rfl)

lemma conducts_handOver {p : JobProgram ForecastJob}
    (hp : Conducts S Q answers Created .requesting p) :
    Conducts S Q answers Answered .requesting (p >>= fun job => workerEnqueue job.id >>= fun _ =>
      (.ret job : JobProgram ForecastJob)) := by
  refine hp.bind (fun job g hg => ?_) fun e g hg => hg
  obtain rfl : g = .accepted job.id := hg
  refine conducts_call fun s s' r hexec => ?_
  obtain ⟨input, hperform, -, -, heq⟩ := jobExec_cases hexec
  have hstore : s.store = s'.store := congrArg Prod.snd hperform
  have hview : s'.view = s.view := by
    rw [heq, ← hstore]
    rfl
  rw [hview]
  exact ⟨_, .handOver s.view job.id, conducts_ret trivial⟩

lemma conducts_cancelForecastJob (jobId : String) :
    Conducts S Q answers Answered .requesting (cancelForecastJob jobId) := by
  unfold cancelForecastJob
  refine conducts_getJob (fun _ => trivial) fun job hjob => ?_
  split
  · exact conducts_raise trivial
  · refine conducts_clockNow fun now => ?_
    refine conducts_tryUpdateIfStatus hjob ?_ (fun v updated current hcurrent hexpected _ => ?_)
      (fun v current hcurrent hexpected => ?_) fun v hnone => ?_
    · rfl
    · refine ⟨_, .cancel v job.id .cancelled ?_ (by simp [Active]),
        conducts_increment (conducts_ret trivial)⟩
      rw [hcurrent]
      simpa [Active] using hexpected
    · exact ⟨_, .stay _ v, conducts_raise trivial⟩
    · exact ⟨_, .stay _ v, trivial⟩

lemma conducts_cleanupForecastJobs (default : ℤ) (hours : Option ℤ)
    (statuses : Option (List ForecastJobTerminalStatus)) :
    Conducts S Q answers Answered .cleaning (cleanupForecastJobs default hours statuses) := by
  unfold cleanupForecastJobs
  refine conducts_clockNow fun now => ?_
  refine conducts_call fun s s' r hexec => ?_
  obtain ⟨input, hperform, -, -, heq⟩ := jobExec_cases hexec
  have hstore : (S.deleteOlderThan s.store _ _).2 = s'.store := congrArg Prod.snd hperform
  have hview : s'.view = { s.view with status := s'.view.status } := by
    conv_lhs => rw [heq]
    conv_rhs => rw [heq]
    rfl
  rw [hview]
  refine ⟨_, .delete s.view s'.view.status fun id => ?_, conducts_ret trivial⟩
  have hrecords := S.deleteOlderThan_records s.store (now - timedeltaHours (intOr hours default))
    (cleanupStatuses statuses)
  rw [hstore] at hrecords
  rcases (S.records s.store).deleteOlderThan_cases (now - timedeltaHours (intOr hours default))
    (cleanupStatuses statuses) id with hsame | ⟨hnone, job, hjob, hterminal⟩
  · refine .inl ?_
    simp only [ProcessState.view, hrecords, hsame]
  · refine .inr ⟨?_, ?_⟩
    · simp only [ProcessState.view, hrecords, hnone, Option.map_none]
    · rw [view_status hjob]
      rw [mem_terminalJobStatuses] at hterminal
      rcases hterminal with h | h | h <;> simp [Active, h]

/-- Every request keeps to the protocol. -/
lemma conducts_request (r : Request) :
    Conducts S Q answers Answered (ProcessTask.request r).role (r.program config) := by
  cases r with
  | submit latitude longitude =>
    exact (conducts_handOver (conducts_submitForecastJob latitude longitude)).bind
      (fun _ _ hg => conducts_ret hg) fun _ _ hg => hg
  | retry jobId =>
    exact (conducts_handOver (conducts_retryForecastJob jobId)).bind
      (fun _ _ hg => conducts_ret hg) fun _ _ hg => hg
  | cancel jobId =>
    exact (conducts_cancelForecastJob jobId).bind (fun _ _ hg => conducts_ret hg) fun _ _ hg => hg
  | cleanup hours statuses =>
    exact (conducts_cleanupForecastJobs _ hours statuses).bind (fun _ _ hg => conducts_ret hg)
      fun _ _ hg => hg

end Requests

/-! ## Tasks of the process -/

/-- How a task ends: with nothing left to do, or as a drainer that goes on. -/
def Ends (g : Role) : Except JobError DrainNext → Prop
  | .ok .again => g = .draining ∨ g = .astray
  | .ok .done | .error _ => g.Idle ∨ g = .astray

/-- The roles in which the tasks start that a call starts. -/
def rolesOf : ProcessCall Q → List Role
  | .job call => (workersOf call).map ProcessTask.role
  | _ => []

/-- A task performs the actions of its role. -/
def processContract {α : Type} (post : Role → Except JobError α → Prop) :
    Contract (ProcessState S Q) Role JobError (ProcessCall Q) (ProcessReply Q) α where
  rely _ _ _ := True
  guar g s c _ s' g' := Act Canonical g s.view s'.view g' (rolesOf c)
  post g _ outcome := post g outcome

/-- The effect of a call of a task. -/
def processExec (answers : ProviderAnswers) (s : ProcessState S Q) (c : ProcessCall Q)
    (r : ProcessReply Q c) (s' : ProcessState S Q) : Prop :=
  ∃ input, s.perform answers c input = some (r, s')

variable (S Q answers) in
/-- A part of a task keeps to the protocol, from a role on. -/
def Keeps {α : Type} (post : Role → Except JobError α → Prop) (g : Role)
    (p : ProcessProgram Q α) : Prop :=
  ∀ s : ProcessState S Q, p.Safe (processContract post) (processExec answers) g s

section Tasks

variable {α β : Type} {post : Role → Except JobError α → Prop} {g : Role}

lemma keeps_ret {a : α} (h : post g (.ok a)) : Keeps S Q answers post g (.ret a) := fun _ => h

lemma keeps_raise {e : JobError} (h : post g (.error e)) : Keeps S Q answers post g (.raise e) :=
  fun _ => h

lemma Keeps.bind {post' : Role → Except JobError β → Prop} {p : ProcessProgram Q β}
    {f : β → ProcessProgram Q α} (hp : Keeps S Q answers post' g p)
    (hret : ∀ a g', post' g' (.ok a) → Keeps S Q answers post g' (f a))
    (hraise : ∀ e g', post' g' (.error e) → post g' (.error e)) :
    Keeps S Q answers post g (p >>= f) := by
  intro s
  exact Program.Safe.bind (Q := fun g _ outcome => post' g outcome) (hp s)
    (fun a g' s' h => hret a g' h s') fun e g' _ h => hraise e g' h

lemma Keeps.attempt {p : ProcessProgram Q α}
    {post' : Role → Except JobError (Except JobError α) → Prop}
    (hp : Keeps S Q answers (fun g outcome => post' g (.ok outcome)) g p) :
    Keeps S Q answers post' g p.attempt :=
  fun s => Program.Safe.attempt (hp s)

lemma Conducts.onJobs {p : JobProgram α} (hp : Conducts S Q answers post g p) :
    Keeps S Q answers post g (onJobs Q p) := by
  intro s
  refine Program.Safe.embed (fun _ _ _ _ => trivial) ?_ ?_ ?_ (hp s)
  · rintro s c r s' ⟨input, hperform⟩
    exact ⟨input.call, hperform⟩
  · exact fun _ _ _ _ _ _ hact => hact
  · rintro g s (e | a) h <;> exact h

lemma keeps_astray (hpost : ∀ outcome, post .astray outcome) (p : ProcessProgram Q α) :
    Keeps S Q answers post .astray p := by
  induction p with
  | ret a => exact keeps_ret (hpost _)
  | raise e => exact keeps_raise (hpost _)
  | call c next ih => exact fun s s₁ _ r s₂ _ => ⟨.astray, .astray .., ih r s₂⟩

/-- An operation of the queue, by what it does. -/
lemma keeps_onQueue {p : Program JobError Q.Call Q.Reply α}
    {effect : α → QueueView → QueueView → Prop}
    (hp : p.Linearizes (fun q c r q' => ∃ input, Q.perform q input c = (r, q')) Q.view effect)
    (after : α → Role)
    (heffect : ∀ (a : α) (v v' : View) (items items' : String → Option ForecastQueueItem),
      v.regular = AllRegular items → v'.regular = AllRegular items' →
      v' = { v with pending := v'.pending, inFlight := v'.inFlight, regular := v'.regular } →
      effect a ⟨v.pending, v.inFlight, items⟩ ⟨v'.pending, v'.inFlight, items'⟩ →
      Act Canonical g v v' (after a) []) :
    Keeps S Q answers (fun g' outcome => ∃ a, outcome = .ok a ∧ g' = after a) g (onQueue Q p) := by
  intro s
  refine hp.safe_embed ProcessState.queue g after (fun s c r s' hexec => ?_)
    (fun g s c r s' hexec hview => ?_) (fun a s c r s' hexec heff => ?_) (fun a s => ?_) s
  · obtain ⟨input, hperform⟩ := hexec
    cases hperform
    exact ⟨input.queue, rfl⟩
  · obtain ⟨input, hperform⟩ := hexec
    cases hperform
    have hsame : ProcessState.view { s with queue := (Q.perform s.queue input.queue c).2 } =
        s.view := by
      simp only [ProcessState.view, hview]
    change Act Canonical g s.view _ g []
    rw [hsame]
    exact .stay g s.view
  · obtain ⟨input, hperform⟩ := hexec
    cases hperform
    exact heffect a s.view _ (Q.view s.queue).items _ rfl rfl rfl heff
  · exact ⟨a, rfl, rfl⟩

variable (S Q answers) in
/-- An item is taken; in good order it is keyed by its job. -/
lemma keeps_dequeue : ∃ after : Option ForecastQueueItem → Role,
    after none = .finished ∧
    (∀ item, after (some item) = .astray ∨ Regular item ∧ after (some item) = .taken item.jobId) ∧
    Keeps S Q answers (fun g' outcome => ∃ a, outcome = .ok a ∧ g' = after a) .draining
      (onQueue Q Q.dequeue) := by
  classical
  refine ⟨fun result => result.elim .finished fun item =>
      if Regular item then .taken item.jobId else .astray, rfl, fun item => ?_,
    keeps_onQueue Q.dequeue_linearizes _ fun result v v' items items' hitems hitems' hv' heff => ?_⟩
  · by_cases hregular : Regular item
    · exact .inr ⟨hregular, if_pos hregular⟩
    · exact .inl (if_neg hregular)
  · cases result with
    | none =>
      obtain ⟨hpending, hsame⟩ := heff
      have hview : v' = v := by
        rw [hv']
        simp only [QueueView.mk.injEq] at hsame
        obtain ⟨h₁, h₂, rfl⟩ := hsame
        rw [h₁, h₂, hitems', ← hitems]
      rw [hview]
      exact .exhausted v hpending
    | some item =>
      obtain ⟨hpending, hitem, heq⟩ := heff
      simp only [QueueView.mk.injEq] at heq
      obtain ⟨hpending', hinFlight', rfl⟩ := heq
      dsimp only [Option.elim_some] at hpending hitem ⊢
      by_cases hregular : Regular item
      · rw [if_pos hregular, hv', hpending', hinFlight', hregular.1]
        rw [hregular.1] at hpending
        exact .dequeue v item.jobId v'.regular hpending fun h => by
          rw [hitems']
          rwa [hitems] at h
      · rw [if_neg hregular]
        exact .dequeueStray v v' fun h => hregular ((hitems ▸ h) _ item hitem)

lemma keeps_release {p : Program JobError Q.Call Q.Reply Unit} {item : ForecastQueueItem}
    (hp : p.Linearizes (fun q c r q' => ∃ input, Q.perform q input c = (r, q')) Q.view
      (Releases item)) (g' : Role)
    (hact : ∀ (v : View) (regular : Prop), (v.regular → regular) →
      Act Canonical g v
        { v with inFlight := v.inFlight.erase (itemKey item), regular := regular } g' []) :
    Keeps S Q answers (fun g'' outcome => ∃ a, outcome = .ok a ∧ g'' = g') g (onQueue Q p) := by
  refine keeps_onQueue hp (fun _ => g') fun _ v v' items items' hitems hitems' hv' heff => ?_
  simp only [Releases, QueueView.mk.injEq] at heff
  obtain ⟨hpending', hinFlight', rfl⟩ := heff
  rw [hv', hpending', hinFlight']
  refine hact v v'.regular fun h => ?_
  rw [hitems']
  rw [hitems] at h
  split
  · exact h
  · intro key other hother
    rcases item_of_update hother with hnone | hold
    · cases hnone
    · exact h key other hold

/-- The run of a job that was taken, with its outcome as a value. -/
def RanTo (id : String) (g : Role) : Except JobError (Except JobError Unit) → Prop
  | .ok outcome => Ran id g outcome
  | .error _ => False

lemma keeps_drainQueue (hfit : AnswersFit config answers) :
    Keeps S Q answers Ends .draining (drainQueueOf Q config) := by
  unfold drainQueueOf
  obtain ⟨after, hnone, hsome, hdequeue⟩ := keeps_dequeue S Q answers
  refine hdequeue.bind (fun result g hg => ?_) (by simp)
  obtain ⟨_, ha, rfl⟩ := hg
  obtain rfl := Except.ok.inj ha
  cases result with
  | none =>
    rw [hnone]
    exact keeps_ret (.inl trivial)
  | some item =>
    rcases hsome item with hastray | ⟨⟨hkey, hcanonical⟩, htaken⟩
    · rw [hastray]
      exact keeps_astray (by rintro (e | (_ | _)) <;> exact .inr rfl) _
    rw [htaken]
    have hrun : Keeps S Q answers (RanTo item.jobId) (.taken item.jobId)
        (onJobs Q (runForecastJob config.diagnosticMethod item.jobId)).attempt :=
      (conducts_runForecastJob hfit hcanonical).onJobs.attempt
    refine hrun.bind (fun outcome g hg => ?_) (fun e g hg => hg.elim)
    cases outcome with
    | ok _ =>
      obtain rfl : g = .handled item.jobId := hg
      refine (keeps_release (Q.markCompleted_linearizes item) .draining
        fun v regular h => ?_).bind (fun _ g hg => ?_) (by simp)
      · rw [hkey]
        exact .release v item.jobId regular h
      · obtain ⟨_, -, rfl⟩ := hg
        exact keeps_ret (.inl rfl)
    | error e =>
      obtain ⟨rfl, hne⟩ : g = .raised item.jobId ∧ e ≠ .interrupted := hg
      have hdie : Keeps S Q answers Ends (.raised item.jobId)
          (onQueue Q (Q.markFailed item false) >>= fun _ => .raise e) := by
        refine (keeps_release (Q.markFailed_linearizes item) .finished
          fun v regular h => ?_).bind (fun _ g hg => ?_) (by simp)
        · rw [hkey]
          exact .die v item.jobId regular h
        · obtain ⟨_, -, rfl⟩ := hg
          exact keeps_raise (.inl trivial)
      cases e with
      | interrupted => exact absurd rfl hne
      | _ => exact hdie

lemma keeps_enqueueAndDrain (hfit : AnswersFit config answers) (jobId : String) :
    Keeps S Q answers Ends (.enqueuing jobId) (enqueueAndDrainOf Q config jobId) := by
  have hkey : itemKey (queueItem jobId defaultForecastJobPriority (some jobId)) = jobId := by
    simp [itemKey_queueItem, queueKey, keyOr]
  have henqueue : Keeps S Q answers
      (fun g outcome => ∃ result : ForecastQueueEnqueueResult, outcome = .ok result ∧
        g = if result.enqueued then .draining else .finished)
      (.enqueuing jobId)
      (onQueue Q (Q.enqueue jobId defaultForecastJobPriority (some jobId))) := by
    refine keeps_onQueue (Q.enqueue_linearizes jobId _ _) _
      fun result v v' items items' hitems hitems' hv' heff => ?_
    unfold Enqueues at heff
    rw [hkey] at heff
    by_cases henqueued : result.enqueued = true
    · rw [if_pos henqueued] at heff ⊢
      obtain ⟨hpending, hinFlight, -, heq⟩ := heff
      simp only [QueueView.mk.injEq] at heq
      obtain ⟨hpending', hinFlight', rfl⟩ := heq
      rw [hv', hpending', hinFlight']
      refine .enqueue v jobId v'.regular hpending hinFlight fun h hcanonical => ?_
      rw [hitems']
      rw [hitems] at h
      intro key item hitem
      rcases item_of_update hitem with hnew | hold
      · obtain rfl := Option.some.inj hnew
        exact ⟨hkey, hcanonical⟩
      · exact h key item hold
    · rw [if_neg henqueued] at heff ⊢
      obtain ⟨hqueued, -, hsame⟩ := heff
      have hview : v' = v := by
        rw [hv']
        simp only [QueueView.mk.injEq] at hsame
        obtain ⟨h₁, h₂, rfl⟩ := hsame
        rw [h₁, h₂, hitems', ← hitems]
      rw [hview]
      exact .refused v jobId hqueued
  unfold enqueueAndDrainOf
  refine henqueue.bind (fun result g hg => ?_) (by simp)
  obtain ⟨_, heq, rfl⟩ := hg
  obtain rfl := Except.ok.inj heq
  by_cases henqueued : result.enqueued = true
  · rw [if_pos henqueued, if_pos henqueued]
    exact keeps_drainQueue hfit
  · rw [if_neg henqueued, if_neg henqueued]
    exact keeps_ret (.inl trivial)

lemma keeps_lifespan : Keeps S Q answers Ends .startup (lifespan Q config) := by
  unfold lifespan
  refine (conducts_recoverInterruptedJobs _ none).onJobs.bind (fun report g hg => ?_)
    fun e g hg => ?_
  · rcases hg with rfl | ⟨rfl, -⟩
    · exact keeps_astray (by rintro (e | (_ | _)) <;> exact .inr rfl) _
    · intro s s₁ _ r s₂ hexec
      obtain ⟨input, hperform⟩ := hexec
      cases hperform
      exact ⟨_, .serve s₁.view, .inl trivial⟩
  · rcases hg with rfl | ⟨-, a, ha⟩
    · exact .inr rfl
    · cases ha

lemma keeps_request (r : Request) :
    Keeps S Q answers Ends (ProcessTask.request r).role
      ((ProcessTask.request r).program Q config) :=
  (conducts_request r).onJobs.bind (fun _ _ hg => keeps_ret (.inl hg)) fun _ _ hg => .inl hg

lemma keeps_task (hfit : AnswersFit config answers) (t : ProcessTask) :
    Keeps S Q answers Ends t.role (t.program Q config) := by
  cases t with
  | startup => exact keeps_lifespan
  | request r => exact keeps_request r
  | enqueueAndDrain jobId => exact keeps_enqueueAndDrain hfit jobId
  | drainQueue => exact keeps_drainQueue hfit

end Tasks

/-! ## The process -/

/-- The roles of the tasks that a call starts. -/
lemma spawnedGhosts_role {permitted : Request → Bool} (n : ℕ) (c : ProcessCall Q)
    (r : ProcessReply Q c) :
    System.spawnedGhosts (fun _ t => t.role) n ((process S Q config permitted answers).spawns c r) =
      rolesOf c := by
  cases c with
  | job call =>
    cases call with
    | enqueue jobId => rfl
    | _ => rfl
  | _ => rfl

/-- **Simulation.**  The tasks of the process perform the dispatch protocol. -/
theorem process_verified_permitted (S : ForecastJobStore) (Q : ForecastQueue)
    (config : ServiceConfig) (permitted : Request → Bool) {answers : ProviderAnswers}
    (hfit : AnswersFit config answers) (orphans : Finset String) (keep : View → List Role → Prop)
    (hstep : ∀ (v v' : View) (γ new : List Role) (i : ℕ) (g g' : Role),
      Dispatched Canonical orphans v γ → keep v γ → γ[i]? = some g → Act Canonical g v v' g' new →
      keep v' (γ.set i g' ++ new))
    (harrive : ∀ (v : View) (γ : List Role) (r : Request), permitted r = true → keep v γ →
      keep v (γ ++ [(ProcessTask.request r).role])) :
    (process S Q config permitted answers).Verified (processContract Ends)
      (fun s γ => Dispatched Canonical orphans s.view γ ∧ keep s.view γ) (fun _ t => t.role) where
  rely_refl _ _ := trivial
  rely_trans _ _ _ _ _ _ := trivial
  post_stable _ _ _ _ _ h := h
  interfere _ _ _ _ _ _ _ _ _ _ _ _ _ _ _ := trivial
  preserve s γ i g c r s' g' hinv hi hact := by
    rw [spawnedGhosts_role]
    exact ⟨hinv.1.step hi hact, hstep _ _ _ _ _ _ _ hinv.1 hinv.2 hi hact⟩
  spawned s γ i g c r s' g' hinv hi hact n l hl := keeps_task hfit l s'
  admitted s γ l hinv hadmits := by
    cases l with
    | request r =>
      refine ⟨⟨hinv.1.arrive hadmits.1 ?_, harrive _ _ r hadmits.2 hinv.2⟩, keeps_request r s⟩
      cases r with
      | cleanup hours statuses => exact .inr rfl
      | _ => exact .inl rfl
    | _ => exact hadmits.elim
  resumed g s a l i hpost hresumes := by
    cases a with
    | done => cases hresumes
    | again =>
      cases hresumes
      rcases hpost with rfl | rfl
      · exact keeps_drainQueue hfit s
      · exact keeps_astray (by rintro (e | (_ | _)) <;> exact .inr rfl) _ s

/-- So it is whatever the requests are. -/
theorem process_verified (S : ForecastJobStore) (Q : ForecastQueue) (config : ServiceConfig)
    (permitted : Request → Bool) {answers : ProviderAnswers} (hfit : AnswersFit config answers)
    (orphans : Finset String) (keep : View → List Role → Prop)
    (hstep : ∀ (v v' : View) (γ new : List Role) (i : ℕ) (g g' : Role),
      Dispatched Canonical orphans v γ → keep v γ → γ[i]? = some g → Act Canonical g v v' g' new →
      keep v' (γ.set i g' ++ new))
    (harrive : ∀ (v : View) (γ : List Role) (g : Role), keep v γ → keep v (γ ++ [g])) :
    (process S Q config permitted answers).Verified (processContract Ends)
      (fun s γ => Dispatched Canonical orphans s.view γ ∧ keep s.view γ) (fun _ t => t.role) :=
  process_verified_permitted S Q config permitted hfit orphans keep hstep
    fun v γ _ _ => harrive v γ _

end Runtime

end Earth2Sandbox
