import Earth2Sandbox.Commands.Recovery
import Earth2Sandbox.Commands.RunForecastJob
import Earth2Sandbox.Framework.Interleaving

/-!
# Interleaved commands over one job store

Any number of command executions share one job store; the scheduler switches between them at
any call.  The shared state carries, besides the store, the ids the generator has already
given out and the history of all calls, newest first.  An event of the history records the
store as it was before the call, so a statement about "the record stored immediately before a
write" is a statement about the event.

`lifecycle` is the system of all interleavings: the environment may start any command that
`permitted` allows at any time, and answers calls with any clock reading, any provider outcome
and any generated id that was never used before.
-/

namespace Earth2Sandbox

/-- The commands of the job service, with their arguments. -/
inductive Command where
  | submit (latitude longitude : PyFloat)
  | run (jobId : String)
  | cancel (jobId : String)
  | retry (jobId : String)
  | cleanup (olderThanHours : Option ℤ) (statuses : Option (List ForecastJobTerminalStatus))
  | recover (staleTimeoutSeconds : Option ℤ)
  deriving DecidableEq

/-- Every command may be executed. -/
def allCommands : Command → Bool := fun _ => true

/-- How the job service is set up. -/
structure ServiceConfig where
  /-- The provider has a method `get_point_forecast_with_diagnostics`. -/
  diagnosticMethod : Bool := true
  defaultRetentionHours : ℤ := 168
  defaultStaleTimeoutSeconds : ℤ := 1800

/-- An execution of a command, without what it returns to its caller. -/
def Command.program [Runtime] (config : ServiceConfig) : Command → JobProgram Unit
  | submit latitude longitude => do let _ ← submitForecastJob latitude longitude
  | run jobId => runForecastJob config.diagnosticMethod jobId
  | cancel jobId => do let _ ← cancelForecastJob jobId
  | retry jobId => do let _ ← retryForecastJob jobId
  | cleanup olderThanHours statuses => do
    let _ ← cleanupForecastJobs config.defaultRetentionHours olderThanHours statuses
  | recover staleTimeoutSeconds => do
    let _ ← recoverInterruptedJobs config.defaultStaleTimeoutSeconds staleTimeoutSeconds

section Runtime

variable [Runtime] (S : ForecastJobStore)

/-- One performed call: by which task, in which command, with what reply, on what store. -/
structure Event where
  task : ℕ
  command : Command
  call : JobCall
  reply : JobReply call
  before : S.State

/-- The state that command executions share. -/
structure Lifecycle where
  store : S.State
  /-- The ids that have been stored at some time. -/
  issued : String → Bool
  history : List (Event S)

variable {S}

/-- The id generator never repeats an id. -/
def freshReply (issued : String → Bool) : (c : JobCall) → JobReply c → Bool
  | .create .., .ok job => !issued job.id
  | _, _ => true

/-- The ids given out after a call. -/
def markIssued (issued : String → Bool) : (c : JobCall) → JobReply c → String → Bool
  | .create .., .ok job => fun k => k == job.id || issued k
  | _, _ => issued

/-- One call by task `i` in a command. -/
def Lifecycle.perform (i : ℕ) (command : Command) (s : Lifecycle S) (c : JobCall)
    (input : CallInput) : Option (JobReply c × Lifecycle S) :=
  let q := performStoreCall S s.store input c
  if freshReply s.issued c q.1 then
    some (q.1, ⟨q.2, markIssued s.issued c q.1, ⟨i, command, c, q.1, s.store⟩ :: s.history⟩)
  else none

variable (S) in
/-- All interleavings of the permitted commands over the store `S`. -/
def lifecycle (config : ServiceConfig) (permitted : Command → Bool) :
    System (Lifecycle S) Command CallInput JobError JobCall JobReply Unit where
  body := Command.program config
  perform := Lifecycle.perform
  spawns _ _ := []
  admits _ command := permitted command = true
  admitsDecidable _ _ := inferInstance
  resumes _ := none

/-- A state of the interleaving: the shared state and the executions so far. -/
abbrev LifecycleConfig (S : ForecastJobStore) :=
  Config (Lifecycle S) Command JobError JobCall JobReply Unit

/-- Nothing has been executed yet; the store may hold anything. -/
def Lifecycle.initial (store : S.State) : LifecycleConfig S :=
  ⟨⟨store, fun k => (S.records store k).isSome, []⟩, []⟩

/-- The records stored in a state of the interleaving. -/
def recordsOf (cfg : LifecycleConfig S) : Records := S.records cfg.shared.store

/-! ## What an event says -/

namespace Event

/-- The record of job `k` that the call has returned to its task. -/
def read (e : Event S) (k : String) : Option ForecastJob :=
  match e with
  | ⟨_, _, .get _, .ok job, _⟩ => if job.id = k then some job else none
  | ⟨_, _, .listActive, jobs, _⟩ => jobs.find? (·.id = k)
  | _ => none

/-- The record that a successful guarded write has stored. -/
def committed (e : Event S) : Option ForecastJob :=
  match e with
  | ⟨_, _, .updateIfStatus _ _, .ok job, _⟩ => some job
  | _ => none

/-- The reading of the clock that the reply shows. -/
def reading (e : Event S) : Option Time :=
  match e with
  | ⟨_, _, .now, time, _⟩ => some time
  | ⟨_, _, .create .., .ok job, _⟩ => some job.createdAt
  | ⟨_, _, .updateIfStatus _ _, .ok job, _⟩ => some job.updatedAt
  | _ => none

/-- The event is a successful guarded write of job `k`. -/
def Commits (e : Event S) (k : String) : Prop := ∃ job, e.committed = some job ∧ job.id = k

/-- The event is a successful guarded write that moves job `k` from one status to another. -/
def Moves (e : Event S) (k : String) (old new : ForecastJobStatus) : Prop :=
  ∃ current job, S.records e.before k = some current ∧ current.status = old ∧
    e.committed = some job ∧ job.id = k ∧ job.status = new

instance (e : Event S) (k : String) (old new : ForecastJobStatus) :
    Decidable (e.Moves k old new) :=
  decidable_of_iff
    ((S.records e.before k).any (·.status = old) = true ∧
      e.committed.any (fun job => job.id = k ∧ job.status = new) = true) (by
    simp only [Option.any_eq_true, decide_eq_true_eq]
    constructor
    · rintro ⟨⟨current, hcurrent, hold⟩, job, hjob, hid, hnew⟩
      exact ⟨current, job, hcurrent, hold, hjob, hid, hnew⟩
    · rintro ⟨current, job, hcurrent, hold, hjob, hid, hnew⟩
      exact ⟨⟨current, hcurrent, hold⟩, job, hjob, hid, hnew⟩)

/-- The event is a provider call of a run of job `k`. -/
def RequestsForecast (e : Event S) (k : String) : Prop :=
  e.call.callsProvider = true ∧ ∃ jobId, e.command = .run jobId ∧ normalizeJobId jobId = .ok k

end Event

/-- The events of task `t`. -/
def own (t : ℕ) (history : List (Event S)) : List (Event S) := history.filter (·.task = t)

/-- The record of job `k` that was returned last. -/
def lastRead (k : String) (history : List (Event S)) : Option ForecastJob :=
  history.findSome? (·.read k)

/-- Job `k` was claimed: moved from queued to running. -/
def Claimed (k : String) (history : List (Event S)) : Prop :=
  ∃ e ∈ history, e.Moves k .queued .running

@[simp] lemma own_nil (t : ℕ) : own t ([] : List (Event S)) = [] := rfl

lemma own_cons_self (e : Event S) (history : List (Event S)) :
    own e.task (e :: history) = e :: own e.task history := by
  simp [own]

lemma own_cons_ne {t : ℕ} {e : Event S} (h : e.task ≠ t) (history : List (Event S)) :
    own t (e :: history) = own t history := by
  simp [own, h]

lemma mem_own {t : ℕ} {e : Event S} {history : List (Event S)} :
    e ∈ own t history ↔ e ∈ history ∧ e.task = t := by
  simp [own]

end Runtime

end Earth2Sandbox
