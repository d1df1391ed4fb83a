import Earth2Sandbox.Framework.Tally
import Earth2Sandbox.Lifecycle.Discipline
import Earth2Sandbox.Observability.Metrics
import Earth2Sandbox.Storage.MemoryJobStore

/-!
# The lifecycle counters

Every command increments a counter after its write has succeeded.  Between the two other tasks may
run, so a counter lags behind the writes by what the tasks still owe (`Metered.Balanced`); when all
tasks are finished nothing is owed.

One write is never counted: recovery moves a stale job to failed without an increment.  So `failed`
falls short of the writes by the number of those (`counter_of_finished`), and the counters
are right exactly in the runs without one (`counters_right_iff`).
-/

namespace Earth2Sandbox

/-- The counters of the job service. -/
inductive LifecycleCounter where
  | accepted
  | retryAccepted
  | started
  | succeeded
  | failed
  | cancelled
  deriving DecidableEq

/-- The event that a counter is labelled with. -/
def LifecycleCounter.text : LifecycleCounter → String
  | accepted => "accepted"
  | retryAccepted => "retry_accepted"
  | started => "started"
  | succeeded => "succeeded"
  | failed => "failed"
  | cancelled => "cancelled"

lemma LifecycleCounter.text_injective : Function.Injective text := by
  intro counter counter' h
  cases counter <;> cases counter' <;> first | rfl | (revert h; decide)

/-- The counter of the writes of a status. -/
def writeCounter : ForecastJobStatus → Option LifecycleCounter
  | .queued => none
  | .running => some .started
  | .succeeded => some .succeeded
  | .failed => some .failed
  | .cancelled => some .cancelled

/-- The command is a recovery. -/
def Command.recovers : Command → Bool
  | .recover _ => true
  | _ => false

/-- What a command owes for a write of a status. -/
def Command.owes (command : Command) (status : ForecastJobStatus) : Option LifecycleCounter :=
  if command.recovers && status = .failed then none else writeCounter status

section Runtime

variable [Runtime] {S : ForecastJobStore}

/-! ## What is to be counted -/

namespace Event

/-- A job was created: as a first attempt, which has no parent, or as a retry. -/
def creates (e : Event S) (retry : Bool) : Bool :=
  match e with
  | ⟨_, _, .create _ _ parent _, .ok _, _⟩ => parent.isSome == retry
  | _ => false

/-- A guarded write has moved a job to this status. -/
def movesTo (e : Event S) (status : ForecastJobStatus) : Bool :=
  e.committed.any fun job => job.status = status

/-- A guarded write has moved a queued job to running. -/
def claims (e : Event S) : Bool :=
  e.committed.any fun job =>
    job.status = .running && (S.records e.before job.id).any fun current => current.status = .queued

/-- Recovery has moved a job to failed. -/
def timesOut (e : Event S) : Bool := e.command.recovers && e.movesTo .failed

end Event

/-- What a counter is to count. -/
def LifecycleCounter.counts : LifecycleCounter → Event S → Bool
  | accepted, e => e.creates false
  | retryAccepted, e => e.creates true
  | started, e => e.claims
  | succeeded, e => e.movesTo .succeeded
  | failed, e => e.movesTo .failed
  | cancelled, e => e.movesTo .cancelled

/-! ## Interleavings with counters -/

variable (S) in
/-- What the executions of one process share. -/
structure Metered where
  store : S.State
  metrics : MetricsRegistry
  history : List (Event S)

/-- The counters after a call. -/
def meterCall (metrics : MetricsRegistry) : JobCall → MetricsRegistry
  | .incrementForecastJobEvent event => metrics.incrementForecastJobEvent event
  | _ => metrics

/-- One call by task `i` in a command. -/
def Metered.perform (i : ℕ) (command : Command) (s : Metered S) (c : JobCall)
    (input : CallInput) : JobReply c × Metered S :=
  let q := performStoreCall S s.store input c
  (q.1, ⟨q.2, meterCall s.metrics c, ⟨i, command, c, q.1, s.store⟩ :: s.history⟩)

variable (S) in
/-- All interleavings of commands over the store `S`, with the counters. -/
def metered (config : ServiceConfig) :
    System (Metered S) Command CallInput JobError JobCall JobReply Unit where
  body := Command.program config
  perform i command s c input := some (s.perform i command c input)
  spawns _ _ := []
  admits _ _ := True
  admitsDecidable _ _ := inferInstance
  resumes _ := none

/-- A state of the interleaving. -/
abbrev MeteredConfig (S : ForecastJobStore) :=
  Config (Metered S) Command JobError JobCall JobReply Unit

/-- The process has just started; the store may hold anything. -/
def Metered.initial (store : S.State) : MeteredConfig S :=
  ⟨⟨store, .empty, []⟩, []⟩

/-- How many events a counter is to have counted. -/
def Metered.number (s : Metered S) (counter : LifecycleCounter) : ℕ :=
  s.history.countP counter.counts

/-- How many jobs recovery has moved to failed. -/
def Metered.timeOuts (s : Metered S) : ℕ := s.history.countP Event.timesOut

/-- Every counter has the number it is to have. -/
def Metered.CountersRight (s : Metered S) : Prop :=
  ∀ counter : LifecycleCounter, s.metrics.counter counter.text = s.number counter

/-! ## What a task owes -/

/-- What an event does to what its task owes. -/
inductive MeterStep (e : Event S) : Option LifecycleCounter → Option LifecycleCounter → Prop
  | silent : (∀ event, e.call ≠ .incrementForecastJobEvent event) →
      (∀ counter : LifecycleCounter, counter.counts e = false) → MeterStep e none none
  | owed (counter : LifecycleCounter) : (∀ event, e.call ≠ .incrementForecastJobEvent event) →
      (∀ counter' : LifecycleCounter, counter'.counts e = decide (counter' = counter)) →
      e.timesOut = false → MeterStep e none (some counter)
  | paid (counter : LifecycleCounter) : e.call = .incrementForecastJobEvent counter.text →
      MeterStep e (some counter) none
  | lost : (∀ event, e.call ≠ .incrementForecastJobEvent event) →
      (∀ counter : LifecycleCounter, counter.counts e = decide (counter = .failed)) →
      e.timesOut = true → MeterStep e none none

/-- A task owes nothing when it ends, however it ends. -/
def meterContract (α : Type) :
    Contract (Metered S) (Option LifecycleCounter) JobError JobCall JobReply α where
  rely _ _ _ := True
  guar g s c r s' g' := ∃ i command input, s.perform i command c input = (r, s') ∧
    MeterStep (⟨i, command, c, r, s.store⟩ : Event S) g g'
  post g _ _ := g = none

/-- A part of a command that starts with this debt and ends without one. -/
def Settles (S : ForecastJobStore) (command : Command) (owed : Option LifecycleCounter) {α : Type}
    (p : JobProgram α) : Prop :=
  ∀ i (s : Metered S), p.Safe (meterContract α)
    (fun s c r s' => ∃ input, some (s.perform i command c input) = some (r, s')) owed s

section Settles

variable {command : Command} {α β : Type}

lemma settles_ret (a : α) : Settles S command none (.ret a : JobProgram α) := fun _ _ => rfl

lemma settles_raise (e : JobError) : Settles S command none (.raise e : JobProgram α) :=
  fun _ _ => rfl

lemma Settles.bind {owed : Option LifecycleCounter} {p : JobProgram α} {f : α → JobProgram β}
    (hp : Settles S command owed p) (hf : ∀ a, Settles S command none (f a)) :
    Settles S command owed (p >>= f) := by
  intro i s
  refine Program.Safe.bind (Q := fun g _ _ => g = none) (hp i s) (fun a g s hg => ?_)
    fun e g s hg => hg
  obtain rfl : g = none := hg
  exact hf a i s

/-- A call, by what its replies do to the debt. -/
lemma settles_call {owed : Option LifecycleCounter} {c : JobCall} {next : JobReply c → JobProgram α}
    (h : ∀ i before r, Answers before c r → ∃ owed',
      MeterStep (⟨i, command, c, r, before⟩ : Event S) owed owed' ∧
        Settles S command owed' (next r)) :
    Settles S command owed (.call c next) := by
  intro i s s₁ _ r s₂ hperform
  obtain ⟨input, heq⟩ := hperform
  have hperform : s₁.perform i command c input = (r, s₂) := Option.some.inj heq
  obtain ⟨owed', hstep, hnext⟩ := h i s₁.store r ⟨input, (Prod.mk.inj hperform).1⟩
  exact ⟨owed', ⟨i, command, input, hperform, hstep⟩, hnext i s₂⟩

lemma settles_silent {c : JobCall} {next : JobReply c → JobProgram α}
    (hcall : match c with
      | .create .. | .updateIfStatus .. | .incrementForecastJobEvent _ => False
      | _ => True)
    (h : ∀ r, Settles S command none (next r)) : Settles S command none (.call c next) := by
  refine settles_call fun i before r _ =>
    ⟨none, .silent (fun event heq => ?_) fun counter => ?_, h r⟩
  · cases heq
    exact hcall
  · cases c <;> first | exact hcall.elim | (cases counter <;> rfl)

/-- What is owed is paid. -/
lemma settles_increment (counter : LifecycleCounter) {event : String}
    (hevent : event = counter.text) {f : Unit → JobProgram α}
    (h : ∀ u, Settles S command none (f u)) :
    Settles S command (some counter) (incrementForecastJobEvent event >>= f) :=
  settles_call fun _ _ r _ => ⟨none, .paid counter (by rw [hevent]), h r⟩

lemma settles_create {latitude longitude : PyFloat} {parent : Option String} {attempt : ℤ}
    {f : ForecastJob → JobProgram α} (counter : LifecycleCounter)
    (hcounter : counter = if parent.isSome then .retryAccepted else .accepted)
    (h : ∀ job, Settles S command (some counter) (f job)) :
    Settles S command none (createJob latitude longitude parent attempt >>= f) := by
  refine settles_call fun i before r _ => ?_
  cases r with
  | error e =>
    exact ⟨none, .silent nofun fun counter => by cases counter <;> rfl, settles_raise e⟩
  | ok job =>
    refine ⟨some counter, .owed counter nofun (fun counter' => ?_) ?_, h job⟩
    · rw [hcounter]
      cases parent <;> cases counter' <;> rfl
    · simp [Event.timesOut, Event.movesTo, Event.committed]

lemma counts_write {i : ℕ} {before : S.State} {job updated : ForecastJob}
    {expected : Finset ForecastJobStatus}
    (hanswers : Answers before (.updateIfStatus job expected) (.ok updated))
    (hclaim : job.status = .running → expected = {.queued}) (counter : LifecycleCounter) :
    counter.counts (⟨i, command, .updateIfStatus job expected, .ok updated, before⟩ : Event S) =
      decide (writeCounter job.status = some counter) := by
  obtain ⟨k, current, now, -, hcurrent, hexpected, rfl⟩ := answers_updateIfStatus hanswers
  cases counter with
  | accepted | retryAccepted =>
    change false = _
    cases job.status <;> rfl
  | started =>
    change (decide (job.status = .running) && (S.records before k).any _) = _
    rw [hcurrent]
    cases hstatus : job.status with
    | running =>
      rw [hclaim hstatus, Finset.mem_singleton] at hexpected
      simp [hexpected, writeCounter]
    | _ => rfl
  | succeeded =>
    change decide (job.status = .succeeded) = _
    cases job.status <;> rfl
  | failed =>
    change decide (job.status = .failed) = _
    cases job.status <;> rfl
  | cancelled =>
    change decide (job.status = .cancelled) = _
    cases job.status <;> rfl

lemma settles_tryUpdate {job : ForecastJob} {expected : Finset ForecastJobStatus}
    {f : Except ForecastJobStatus ForecastJob → JobProgram α}
    (hclaim : job.status = .running → expected = {.queued})
    (herror : ∀ status, Settles S command none (f (.error status)))
    (hok : ∀ updated, Settles S command (command.owes job.status) (f (.ok updated))) :
    Settles S command none (tryUpdateIfStatus job expected >>= f) := by
  refine settles_call fun i before r hanswers => ?_
  cases r with
  | error e =>
    refine ⟨none, .silent nofun fun counter => by cases counter <;> rfl, ?_⟩
    cases e with
    | transition jobId status expected' => exact herror status
    | _ => exact settles_raise _
  | ok updated =>
    have hcounts : ∀ counter : LifecycleCounter, counter.counts
        (⟨i, command, .updateIfStatus job expected, .ok updated, before⟩ : Event S) =
          decide (writeCounter job.status = some counter) := counts_write hanswers hclaim
    refine ⟨command.owes job.status, ?_, hok updated⟩
    have hfailed := hcounts .failed
    have htimeOut : (⟨i, command, .updateIfStatus job expected, .ok updated, before⟩ :
        Event S).timesOut = (command.recovers && decide (job.status = .failed)) := by
      change (command.recovers && LifecycleCounter.failed.counts _) = _
      rw [hfailed]
      cases job.status <;> rfl
    cases hlost : command.recovers && decide (job.status = .failed) with
    | true =>
      rw [Command.owes, if_pos hlost]
      refine .lost nofun (fun counter => ?_) (htimeOut.trans hlost)
      have hstatus : job.status = .failed := by simpa using (Bool.and_eq_true_iff.mp hlost).2
      rw [hcounts, hstatus]
      cases counter <;> rfl
    | false =>
      rw [Command.owes, if_neg (by rw [hlost]; exact Bool.false_ne_true)]
      cases hwrites : writeCounter job.status with
      | none => exact .silent nofun fun counter => by rw [hcounts, hwrites]; rfl
      | some owed =>
        refine .owed owed nofun (fun counter => ?_) (htimeOut.trans hlost)
        rw [hcounts, hwrites]
        cases counter <;> cases owed <;> rfl

lemma settles_getJob {jobId : String} {f : ForecastJob → JobProgram α}
    (h : ∀ job, Settles S command none (f job)) :
    Settles S command none (getJob jobId >>= f) := by
  refine settles_silent trivial fun r => ?_
  cases r with
  | error e => exact settles_raise e
  | ok job => exact h job

lemma settles_validateDiagnostics {d : PyDict} {f : ForecastJobDiagnostics → JobProgram α}
    (h : ∀ diagnostics, Settles S command none (f diagnostics)) :
    Settles S command none (validateDiagnostics d >>= f) := by
  unfold validateDiagnostics
  split
  · exact settles_raise _
  · exact h _

end Settles

/-! ## The commands -/

lemma submitForecastJob_settles (latitude longitude : PyFloat) :
    Settles S (.submit latitude longitude) none (submitForecastJob latitude longitude) :=
  settles_create .accepted rfl fun _ => settles_increment .accepted rfl fun _ => settles_ret _

lemma cancelForecastJob_settles (jobId : String) :
    Settles S (.cancel jobId) none (cancelForecastJob jobId) := by
  refine settles_getJob fun job => ?_
  split
  · exact settles_raise _
  · refine settles_silent trivial fun now => ?_
    refine settles_tryUpdate nofun (fun _ => settles_raise _) fun updated => ?_
    exact settles_increment .cancelled rfl fun _ => settles_ret _

lemma retryForecastJob_settles (jobId : String) :
    Settles S (.retry jobId) none (retryForecastJob jobId) := by
  refine settles_getJob fun source => ?_
  split
  · exact settles_raise _
  · exact settles_create .retryAccepted rfl fun _ =>
      settles_increment .retryAccepted rfl fun _ => settles_ret _

lemma cleanupForecastJobs_settles (default : ℤ) (hours : Option ℤ)
    (statuses : Option (List ForecastJobTerminalStatus)) :
    Settles S (.cleanup hours statuses) none (cleanupForecastJobs default hours statuses) :=
  settles_silent trivial fun _ => settles_silent trivial fun _ => settles_ret _

lemma markJobFailed_settles (jobId jobId' error : String) (diagnostics : Option PyDict) :
    Settles S (.run jobId) none (markJobFailed jobId' error diagnostics) := by
  refine settles_getJob fun job => ?_
  split
  · exact settles_ret _
  · refine settles_silent trivial fun failedAt => ?_
    refine settles_validateDiagnostics fun validated => ?_
    refine settles_tryUpdate nofun (fun _ => settles_ret _) fun updated => ?_
    exact settles_increment .failed rfl fun _ => settles_ret _

lemma markJobSucceeded_settles (jobId jobId' : String) (result : ForecastProviderResult) :
    Settles S (.run jobId) none (markJobSucceeded jobId' result) := by
  refine settles_silent trivial fun completed => ?_
  refine settles_getJob fun current => ?_
  split
  · exact settles_ret _
  · refine settles_validateDiagnostics fun validated => ?_
    refine settles_tryUpdate nofun (fun _ => settles_ret _) fun updated => ?_
    exact settles_increment .succeeded rfl fun _ => settles_ret _

lemma finishJob_settles (jobId : String) (outcome : ProviderOutcome ForecastProviderResult) :
    Settles S (.run jobId) none (finishJob jobId outcome) := by
  cases outcome with
  | returned result => exact markJobSucceeded_settles _ _ _
  | unavailable message diagnostics => exact markJobFailed_settles _ _ _ _
  | failed message => exact markJobFailed_settles _ _ _ _
  | interrupted => exact settles_raise _

lemma runForecastJob_settles (diagnosticMethod : Bool) (jobId : String) :
    Settles S (.run jobId) none (runForecastJob diagnosticMethod jobId) := by
  refine settles_getJob fun job => ?_
  split
  · exact settles_ret _
  · refine settles_silent trivial fun now => ?_
    refine settles_tryUpdate (fun _ => rfl) (fun _ => settles_ret _) fun updated => ?_
    refine settles_increment .started rfl fun _ => ?_
    refine Settles.bind ?_ (finishJob_settles jobId)
    unfold getProviderResult
    split
    · exact settles_silent trivial fun _ => settles_ret _
    · exact settles_silent trivial fun _ => settles_ret _

/-- Recovery pays for nothing: neither of its writes is owed for. -/
lemma recoverJob_settles (stale : Option ℤ) (now : Time) (timeout : ℤ)
    (report : ForecastJobRecoveryReport) (job : ForecastJob) :
    Settles S (.recover stale) none (recoverJob now timeout report job) := by
  rw [recoverJob_of_representable rfl]
  unfold treatJob
  split
  · refine Settles.bind ?_ fun timedOut => ?_
    · exact settles_tryUpdate nofun (fun _ => settles_ret _) fun _ => settles_ret _
    · split <;> exact settles_ret _
  · split
    · refine settles_tryUpdate nofun (fun _ => settles_ret _) fun updated => ?_
      exact settles_silent trivial fun _ => settles_ret _
    · exact settles_silent trivial fun _ => settles_ret _

lemma recoverJobs_settles (stale : Option ℤ) (now : Time) (timeout : ℤ)
    (report : ForecastJobRecoveryReport) (jobs : List ForecastJob) :
    Settles S (.recover stale) none (recoverJobs now timeout report jobs) := by
  induction jobs generalizing report with
  | nil => exact settles_ret _
  | cons job rest ih => exact Settles.bind (recoverJob_settles _ _ _ _ _) fun report' => ih report'

lemma recoverInterruptedJobs_settles (default : ℤ) (stale : Option ℤ) :
    Settles S (.recover stale) none (recoverInterruptedJobs default stale) :=
  settles_silent trivial fun _ => settles_silent trivial fun _ => recoverJobs_settles _ _ _ _ _

/-- Every command pays what it owes before it ends. -/
lemma Command.program_settles (config : ServiceConfig) (command : Command) :
    Settles S command none (command.program config) := by
  cases command with
  | submit latitude longitude =>
    exact (submitForecastJob_settles latitude longitude).bind fun _ => settles_ret _
  | run jobId => exact runForecastJob_settles _ jobId
  | cancel jobId => exact (cancelForecastJob_settles jobId).bind fun _ => settles_ret _
  | retry jobId => exact (retryForecastJob_settles jobId).bind fun _ => settles_ret _
  | cleanup hours statuses =>
    exact (cleanupForecastJobs_settles _ hours statuses).bind fun _ => settles_ret _
  | recover stale => exact (recoverInterruptedJobs_settles _ stale).bind fun _ => settles_ret _

/-! ## The balance -/

/-- How much of a counter is owed. -/
def LifecycleCounter.owedBy (counter : LifecycleCounter) (owed : Option LifecycleCounter) : ℕ :=
  if owed = some counter then 1 else 0

/-- What is not counted of the writes. -/
def Metered.lostOf (s : Metered S) (counter : LifecycleCounter) : ℕ :=
  if counter = .failed then s.timeOuts else 0

/-- What was counted, what is owed and what is lost add up. -/
def Metered.Balanced (s : Metered S) (γ : List (Option LifecycleCounter)) : Prop :=
  ∀ counter : LifecycleCounter, s.metrics.counter counter.text + tally counter.owedBy γ +
    s.lostOf counter = s.number counter

namespace Metered

variable {s s' : Metered S} {γ : List (Option LifecycleCounter)}

/-- A call that is no increment leaves the counters alone. -/
lemma metrics_of_perform {i : ℕ} {command : Command} {c : JobCall} {input : CallInput}
    {r : JobReply c} (h : s.perform i command c input = (r, s')) :
    s'.metrics = meterCall s.metrics c ∧ s'.history = ⟨i, command, c, r, s.store⟩ :: s.history := by
  obtain ⟨rfl, rfl⟩ := Prod.mk.inj h
  exact ⟨rfl, rfl⟩

omit [Runtime] in
lemma meterCall_eq {metrics : MetricsRegistry} {c : JobCall}
    (h : ∀ event, c ≠ .incrementForecastJobEvent event) : meterCall metrics c = metrics := by
  cases c with
  | incrementForecastJobEvent event => exact absurd rfl (h event)
  | _ => rfl

/-- What recovery moves to failed is moved to failed. -/
lemma timesOut_eq_false {e : Event S} (h : LifecycleCounter.failed.counts e = false) :
    e.timesOut = false := by
  have hmoves : e.movesTo .failed = false := h
  rw [Event.timesOut, hmoves, Bool.and_false]

/-- **Step.**  What an event adds to the numbers is paid, owed or lost. -/
lemma Balanced.step (h : s.Balanced γ) {i j : ℕ} {g g' : Option LifecycleCounter}
    (hi : γ[i]? = some g) {command : Command} {c : JobCall} {input : CallInput} {r : JobReply c}
    (hperform : s.perform j command c input = (r, s'))
    (hstep : MeterStep (⟨j, command, c, r, s.store⟩ : Event S) g g') :
    s'.Balanced (γ.set i g') := by
  intro counter
  obtain ⟨hmetrics, hhistory⟩ := metrics_of_perform hperform
  have hcounter := h counter
  have howed := tally_set counter.owedBy hi g'
  simp only [lostOf, timeOuts, number, hmetrics, hhistory, List.countP_cons] at hcounter ⊢
  cases hstep with
  | silent hcall hnone =>
    have hlost := timesOut_eq_false (hnone .failed)
    rw [meterCall_eq hcall, hnone, hlost]
    simp only [Bool.false_eq_true, if_false, Nat.add_zero]
    omega
  | owed due hcall hcounts hkept =>
    rw [meterCall_eq hcall, hcounts, hkept]
    simp only [LifecycleCounter.owedBy, Option.some.injEq, reduceCtorEq, if_false,
      decide_eq_true_eq, Bool.false_eq_true, Nat.add_zero] at howed hcounter ⊢
    by_cases hdue : counter = due
    · simp only [hdue, if_true] at howed hcounter ⊢
      omega
    · simp only [hdue, Ne.symm hdue, if_false] at howed hcounter ⊢
      omega
  | paid due hcall =>
    obtain rfl : c = .incrementForecastJobEvent due.text := hcall
    have hnone (counter : LifecycleCounter) : counter.counts
        (⟨j, command, .incrementForecastJobEvent due.text, r, s.store⟩ : Event S) = false := by
      cases counter <;> rfl
    rw [hnone, timesOut_eq_false (hnone .failed), meterCall]
    simp only [LifecycleCounter.owedBy, Option.some.injEq, reduceCtorEq, if_false,
      Bool.false_eq_true, Nat.add_zero] at howed hcounter ⊢
    by_cases hdue : due = counter
    · subst hdue
      rw [MetricsRegistry.counter_increment_self]
      simp only [if_true] at howed
      omega
    · rw [MetricsRegistry.counter_increment_of_ne _ fun heq =>
        hdue (LifecycleCounter.text_injective heq).symm]
      simp only [hdue, if_false] at howed
      omega
  | lost hcall hcounts hlost =>
    rw [meterCall_eq hcall, hcounts, hlost]
    simp only [decide_eq_true_eq, if_true] at hcounter ⊢
    by_cases hfailed : counter = .failed
    · simp only [hfailed, if_true] at howed hcounter ⊢
      omega
    · simp only [hfailed, if_false] at howed hcounter ⊢
      omega

end Metered

lemma metered_verified (config : ServiceConfig) :
    (metered S config).Verified (meterContract Unit) Metered.Balanced (fun _ _ => none) where
  rely_refl _ _ := trivial
  rely_trans _ _ _ _ _ _ := trivial
  post_stable _ _ _ _ _ h := h
  interfere _ _ _ _ _ _ _ _ _ _ _ _ _ _ _ := trivial
  preserve _ _ _ _ _ _ _ _ hinv hi hguar := by
    obtain ⟨j, command, input, hperform, hstep⟩ := hguar
    change Metered.Balanced _ (List.set _ _ _ ++ [])
    rw [List.append_nil]
    exact hinv.step hi hperform hstep
  spawned _ _ _ _ _ _ _ _ _ _ _ _ _ hl := by cases hl
  admitted s γ command hinv _ := by
    refine ⟨fun counter => ?_, ?_⟩
    · rw [tally_append]
      exact hinv counter
    · exact command.program_settles config γ.length s
  resumed _ _ _ _ _ _ hres := by cases hres

/-- When nothing is in progress, only what recovery has timed out is missing. -/
theorem counter_of_finished {config : ServiceConfig} {init : S.State} {cfg : MeteredConfig S}
    (h : (metered S config).Reaches (Metered.initial init) cfg)
    (hdone : (metered S config).Finished cfg) (counter : LifecycleCounter) :
    cfg.shared.metrics.counter counter.text + cfg.shared.lostOf counter =
      cfg.shared.number counter := by
  obtain ⟨γ, hinv, hlength, hsafe⟩ := (metered_verified config).safe_of_reaches
    ⟨[], fun counter => by cases counter <;> rfl, rfl, by simp [Metered.initial]⟩ h
  have howed : tally counter.owedBy γ = 0 := by
    refine tally_eq_zero fun g hg => ?_
    obtain ⟨i, hi⟩ := List.getElem?_of_mem hg
    obtain ⟨task, htask⟩ : ∃ task, cfg.tasks[i]? = some task :=
      ⟨_, List.getElem?_eq_getElem (hlength ▸ (List.getElem?_eq_some_iff.mp hi).1)⟩
    have hpost := hsafe i task g htask hi
    have hnone : g = none := by
      rcases hdone task (List.mem_of_getElem? htask) with ⟨e, hprogram⟩ | ⟨a, hprogram, -⟩
      · rwa [hprogram] at hpost
      · rwa [hprogram] at hpost
    rw [hnone, LifecycleCounter.owedBy, if_neg nofun]
  have hcounter := hinv counter
  rwa [howed, Nat.add_zero] at hcounter

/-- **The counters.**  When nothing is in progress, every counter has its number exactly when
recovery has moved no job to failed. -/
theorem counters_right_iff {config : ServiceConfig} {init : S.State} {cfg : MeteredConfig S}
    (h : (metered S config).Reaches (Metered.initial init) cfg)
    (hdone : (metered S config).Finished cfg) :
    cfg.shared.CountersRight ↔ ∀ e ∈ cfg.shared.history, e.timesOut = false := by
  have hcounter := counter_of_finished h hdone
  have hlost : cfg.shared.timeOuts = 0 ↔ ∀ e ∈ cfg.shared.history, e.timesOut = false := by
    rw [Metered.timeOuts, List.countP_eq_zero]
    exact forall₂_congr fun e _ => by rw [Bool.not_eq_true]
  rw [← hlost]
  constructor
  · intro hright
    have hfailed := hcounter .failed
    rw [hright .failed, Metered.lostOf, if_pos rfl] at hfailed
    omega
  · intro hnone counter
    have heq := hcounter counter
    rw [Metered.lostOf, hnone, ite_self, Nat.add_zero] at heq
    exact heq

end Runtime

/-! ## A failure by a run, and one by recovery -/

section Sample

open StrictRuntime

/-- A job is submitted, and its run fails. -/
def failedSample : MeteredConfig memoryStore :=
  (metered memoryStore {}).after (Metered.initial .empty)
    [.start (.submit 52 13), .act 0 { newId := sampleId }, .act 0 {}, .start (.run sampleId),
      .act 1 {}, .act 1 { clock := 5 }, .act 1 { clock := 6 }, .act 1 {},
      .act 1 { outcome := .failed "down" }, .act 1 {}, .act 1 { clock := 7 },
      .act 1 { clock := 8 }, .act 1 {}]

/-- A job is submitted, and recovery finds it an hour later. -/
def timedOutSample : MeteredConfig memoryStore :=
  (metered memoryStore {}).after (Metered.initial .empty)
    [.start (.submit 52 13), .act 0 { newId := sampleId }, .act 0 {}, .start (.recover none),
      .act 1 { clock := timedeltaHours 1 }, .act 1 {}, .act 1 { clock := timedeltaHours 1 }]

lemma finished_failedSample : (metered memoryStore {}).Finished failedSample := by
  have hprograms : failedSample.tasks.map (·.program) = [.ret (), .ret ()] := by rfl
  rw [System.finished_iff, hprograms]
  simp [metered]

lemma finished_timedOutSample : (metered memoryStore {}).Finished timedOutSample := by
  have hprograms : timedOutSample.tasks.map (·.program) = [.ret (), .ret ()] := by rfl
  rw [System.finished_iff, hprograms]
  simp [metered]

/-- The failure of the run is counted. -/
theorem counters_right_failed : failedSample.shared.CountersRight := by
  refine (counters_right_iff (System.reaches_after _ _) finished_failedSample).mpr ?_
  decide +kernel

/-- The failure by recovery is not. -/
theorem counters_wrong_timedOut :
    (metered memoryStore {}).Reaches (Metered.initial .empty) timedOutSample ∧
      (metered memoryStore {}).Finished timedOutSample ∧
      ¬ timedOutSample.shared.CountersRight := by
  refine ⟨System.reaches_after _ _, finished_timedOutSample, fun hright => ?_⟩
  have hfailed := hright .failed
  revert hfailed
  decide +kernel

end Sample

end Earth2Sandbox
