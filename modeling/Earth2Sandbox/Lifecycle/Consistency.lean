import Earth2Sandbox.Lifecycle.Executions
import Mathlib.Data.List.Chain

/-!
# Consistent records

`ForecastJob.Consistent` ties the optional fields and the events of a record to its status.  A
write site resets only some of the fields of its snapshot, so the record it writes is
consistent because the snapshot was: `GuardedWrite.consistent` checks the six sites, and
`record_consistent` carries it over every interleaving, stale snapshots included.
-/

namespace Earth2Sandbox

/-- The pairs of statuses that follow each other in the events of a job. -/
def followsStatus : ForecastJobStatus → ForecastJobStatus → Bool
  | .queued, .running | .queued, .cancelled | .queued, .failed => true
  | .running, .succeeded | .running, .failed | .running, .cancelled | .running, .queued => true
  | _, _ => false

/-- The optional fields and the events of the record agree with its status. -/
structure ForecastJob.Consistent (job : ForecastJob) : Prop where
  forecast_iff : job.forecast.isSome ↔ job.status = .succeeded
  completedAt_iff : job.completedAt.isSome ↔ job.status ∈ terminalJobStatuses
  error_iff : job.error.isSome ↔ job.status = .failed
  startedAt_isSome : job.status = .running ∨ job.status = .succeeded → job.startedAt.isSome
  startedAt_eq_none : job.status = .queued → job.startedAt = none
  events_head : job.events.head?.map (·.status) = some .queued
  events_last : job.events.getLast?.map (·.status) = some job.status
  events_chain : job.events.IsChain fun a b => followsStatus a.status b.status = true

namespace ForecastJob.Consistent

variable {job : ForecastJob}

lemma withUpdatedAt (h : job.Consistent) (now : Time) :
    ({ job with updatedAt := now } : ForecastJob).Consistent :=
  ⟨h.forecast_iff, h.completedAt_iff, h.error_iff, h.startedAt_isSome, h.startedAt_eq_none,
    h.events_head, h.events_last, h.events_chain⟩

/-- One more event, with a status that may follow the record's. -/
lemma events_append (h : job.Consistent) (event : ForecastJobEvent)
    (hfollows : followsStatus job.status event.status = true) :
    (job.events ++ [event]).head?.map (·.status) = some .queued ∧
      (job.events ++ [event]).getLast?.map (·.status) = some event.status ∧
      (job.events ++ [event]).IsChain fun a b => followsStatus a.status b.status = true := by
  have hlast := h.events_last
  refine ⟨?_, by simp, ?_⟩
  · have hhead := h.events_head
    cases hevents : job.events with
    | nil => simp [hevents] at hhead
    | cons first rest => simpa [hevents] using hhead
  · refine List.isChain_append.mpr ⟨h.events_chain, List.isChain_singleton _, ?_⟩
    intro a ha b hb
    rw [Option.mem_def.mp ha, Option.map_some, Option.some.injEq] at hlast
    obtain rfl : event = b := by simpa using hb
    rw [hlast]
    exact hfollows

lemma forecast_eq_none (h : job.Consistent) (hstatus : job.status ≠ .succeeded) :
    job.forecast = none :=
  Option.not_isSome_iff_eq_none.mp (mt h.forecast_iff.mp hstatus)

lemma completedAt_eq_none (h : job.Consistent) (hstatus : job.status ∉ terminalJobStatuses) :
    job.completedAt = none :=
  Option.not_isSome_iff_eq_none.mp (mt h.completedAt_iff.mp hstatus)

end ForecastJob.Consistent

lemma buildNewJob_consistent [Runtime] {latitude longitude : PyFloat} {parent : Option String}
    {attempt : ℤ} {now : Time} {newId : String} {job : ForecastJob}
    (h : buildNewJob latitude longitude parent attempt now newId = .ok job) :
    job.Consistent := by
  obtain ⟨_, _, _, _, -, -, -, -, -, rfl⟩ := buildNewJob_ok h
  exact ⟨by simp, by simp, by simp, by simp, fun _ => rfl, rfl, rfl, List.isChain_singleton _⟩

/-- Every write site makes a consistent record from a consistent snapshot. -/
lemma GuardedWrite.consistent {command : Command} {snapshot job : ForecastJob}
    {expected : Finset ForecastJobStatus} (h : GuardedWrite command snapshot job expected)
    (hsnapshot : snapshot.Consistent) : job.Consistent := by
  cases h with
  | running jobId snapshot now hstatus =>
    obtain ⟨hhead, hlast, hchain⟩ := hsnapshot.events_append
      ⟨now, .running, "Forecast provider request started."⟩ (by rw [hstatus]; rfl)
    have hforecast := hsnapshot.forecast_eq_none (by simp [hstatus])
    have hcompleted := hsnapshot.completedAt_eq_none (by simp [hstatus])
    exact ⟨by simp [runningJob, hforecast], by simp [runningJob, hcompleted],
      by simp [runningJob], fun _ => rfl, (fun h => by cases h), hhead, hlast, hchain⟩
  | succeeded jobId snapshot summary diagnostics completed hstatus =>
    obtain ⟨hhead, hlast, hchain⟩ := hsnapshot.events_append
      ⟨completed, .succeeded, "Forecast summary is ready."⟩ (by rw [hstatus]; rfl)
    exact ⟨by simp [succeededJob], by simp [succeededJob], by simp [succeededJob],
      fun _ => hsnapshot.startedAt_isSome (.inl hstatus), (fun h => by cases h), hhead, hlast,
      hchain⟩
  | failed jobId snapshot error diagnostics failedAt hstatus =>
    obtain ⟨hhead, hlast, hchain⟩ := hsnapshot.events_append
      ⟨failedAt, .failed, "Forecast job failed."⟩ (by rw [hstatus]; rfl)
    have hforecast := hsnapshot.forecast_eq_none (by simp [hstatus])
    exact ⟨by simp [failedJob, hforecast], by simp [failedJob], by simp [failedJob],
      by simp [failedJob], (fun h => by cases h), hhead, hlast, hchain⟩
  | cancelled jobId snapshot now hstatus =>
    have hactive := mem_activeJobStatuses.mp (not_mem_terminal_iff_active.mp hstatus)
    obtain ⟨hhead, hlast, hchain⟩ := hsnapshot.events_append
      ⟨now, .cancelled, "Forecast job cancelled by request."⟩
      (by rcases hactive with h | h <;> rw [h] <;> rfl)
    have hforecast := hsnapshot.forecast_eq_none (by rcases hactive with h | h <;> simp [h])
    exact ⟨by simp [cancelledJob, hforecast], by simp [cancelledJob], by simp [cancelledJob],
      by simp [cancelledJob], (fun h => by cases h), hhead, hlast, hchain⟩
  | recovered timeout snapshot now hstatus =>
    obtain ⟨hhead, hlast, hchain⟩ := hsnapshot.events_append
      ⟨now, .queued, "Forecast job recovered for worker retry."⟩ (by rw [hstatus]; rfl)
    have hforecast := hsnapshot.forecast_eq_none (by simp [hstatus])
    have hcompleted := hsnapshot.completedAt_eq_none (by simp [hstatus])
    exact ⟨by simp [recoveredJob, hforecast], by simp [recoveredJob, hcompleted],
      by simp [recoveredJob], by simp [recoveredJob], fun _ => rfl, hhead, hlast, hchain⟩
  | timedOut timeout snapshot now seconds hstatus =>
    have hactive := mem_activeJobStatuses.mp hstatus
    obtain ⟨hhead, hlast, hchain⟩ := hsnapshot.events_append
      ⟨now, .failed, "Forecast worker timed out."⟩
      (by rcases hactive with h | h <;> rw [h] <;> rfl)
    have hforecast := hsnapshot.forecast_eq_none (by rcases hactive with h | h <;> simp [h])
    exact ⟨by simp [timedOutJob, hforecast], by simp [timedOutJob], by simp [timedOutJob],
      by simp [timedOutJob], (fun h => by cases h), hhead, hlast, hchain⟩

section Runtime

variable [Runtime] {S : ForecastJobStore} {permitted : Command → Bool} {config : ServiceConfig}

/-- Every stored record is consistent. -/
def Records.Consistent (recs : Records) : Prop :=
  ∀ k job, recs k = some job → job.Consistent

omit [Runtime] in
lemma Records.Consistent.update {recs : Records} (h : recs.Consistent) (k : String)
    {job : ForecastJob} (hjob : job.Consistent) :
    Records.Consistent (Function.update recs k (some job)) := by
  intro k' job' hk'
  by_cases hk : k' = k
  · subst hk
    rw [Function.update_self] at hk'
    cases hk'
    exact hjob
  · rw [Function.update_of_ne hk] at hk'
    exact h k' job' hk'

/-- Consistency of all that is stored and of all that was stored when a task has read it. -/
lemma Trace.consistent {init : S.State} {s : Lifecycle S} (h : Trace permitted init s)
    (hinit : (S.records init).Consistent) :
    (S.records s.store).Consistent ∧
      ∀ e ∈ s.history, (S.records e.before).Consistent := by
  induction h with
  | nil => exact ⟨hinit, by simp [Lifecycle.initial]⟩
  | @cons s s' t command c r input htrace _ hjust hperform ih =>
    obtain ⟨hstored, hbefore⟩ := ih
    constructor
    · cases effect_of_perform htrace hjust hperform with
      | kept hrecs _ _ => rwa [hrecs]
      | created _ _ _ _ _ _ job hjob _ hrecs _ _ =>
        rw [hrecs]
        exact hstored.update _ (buildNewJob_consistent hjob)
      | written snapshot job current _ now hread hwrite _ _ _ _ hrecs _ =>
        obtain ⟨e, he, -, hsnapshot⟩ := htrace.exists_of_lastRead hread
        have hconsistent := hwrite.consistent (hbefore e he _ _ hsnapshot)
        rw [hrecs]
        exact hstored.update _ (hconsistent.withUpdatedAt now)
      | deleted _ _ cutoff selected _ _ hrecs _ _ =>
        intro k job hk
        rw [hrecs, Records.deleteOlderThan_eq_some] at hk
        exact hstored k job hk.1
    · rw [history_of_perform hperform]
      exact List.forall_mem_cons.mpr ⟨hstored, hbefore⟩

/-- **Every stored record is consistent**, in every state that an interleaving reaches from
consistent records, in particular from an empty store. -/
theorem record_consistent (S : ForecastJobStore) (config : ServiceConfig)
    (permitted : Command → Bool) (init : S.State) (hinit : (S.records init).Consistent)
    {cfg : LifecycleConfig S}
    (h : (lifecycle S config permitted).Reaches (Lifecycle.initial init) cfg) :
    (recordsOf cfg).Consistent :=
  ((trace_of_reaches h).consistent hinit).1

end Runtime

section Sample

open StrictRuntime

/-- The record of a completed job is consistent, and there is one. -/
theorem record_consistent_completed :
    ∃ job, recordsOf completedSample sampleId = some job ∧ job.status = .succeeded ∧
      job.Consistent := by
  have hsucceeded : (recordsOf completedSample sampleId).any (·.status = .succeeded) = true := by
    decide +kernel
  obtain ⟨job, hjob, hstatus⟩ := (Option.any_eq_true _ _).mp hsucceeded
  refine ⟨job, hjob, of_decide_eq_true hstatus, ?_⟩
  refine record_consistent memoryStore {} noRecovery .empty ?_ (System.reaches_after _ _) _ _ hjob
  intro k job hk
  simp [memoryStore] at hk

end Sample

end Earth2Sandbox
