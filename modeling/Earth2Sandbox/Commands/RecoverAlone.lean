import Earth2Sandbox.Lifecycle.Consistency

/-!
# Recovery that runs alone

`recover_interrupted_jobs` with no other command at work and a worker that records the ids it is
handed.  The loop treats each active job once (`run_recoverJobs`), as its record alone decides: a
stale one is failed, the others are queued and handed over.  `recover_exact` is what this leaves of
every record and what the report says.  A timeout that reaches back before the year 1 ends the loop
at the first active job.
-/

namespace Earth2Sandbox

section Runtime

variable [Runtime]

/-- A store, the calls made so far, which tell the readings of the clock apart, and the ids that
the worker has recorded. -/
structure RecoveryRun (S : ForecastJobStore) where
  store : S.State
  calls : ℕ
  jobIds : List String

/-- A call answered by the store alone, or recorded by the worker. -/
def performRecorded (S : ForecastJobStore) (clock : ℕ → Time) :
    (c : JobCall) → RecoveryRun S → JobReply c × RecoveryRun S
  | .enqueue jobId, s => ((), ⟨s.store, s.calls + 1, s.jobIds ++ [jobId]⟩)
  | c, s =>
    let result := performStoreCall S s.store { clock := clock s.calls } c
    (result.1, ⟨result.2, s.calls + 1, s.jobIds⟩)

omit [Runtime] in
/-- The job has made no progress for `timeout` seconds. -/
def ForecastJob.isStale (now : Time) (timeout : ℤ) (job : ForecastJob) : Bool :=
  shouldMarkJobStale job.updatedAt now timeout

omit [Runtime] in
/-- The report with one more job. -/
def ForecastJobRecoveryReport.count (report : ForecastJobRecoveryReport) (stale : Bool) :
    ForecastJobRecoveryReport :=
  if stale then { report with timedOutCount := report.timedOutCount + 1 }
  else { report with requeuedCount := report.requeuedCount + 1 }

omit [Runtime] in
/-- What recovery writes for an active job. -/
def recoveredRecord (now : Time) (timeout : ℤ) (job : ForecastJob) (written : Time) : ForecastJob :=
  if job.isStale now timeout then { timedOutJob job now timeout with updatedAt := written }
  else if job.status = .running then { recoveredJob job now with updatedAt := written }
  else job

variable {S : ForecastJobStore} {s : RecoveryRun S} {job : ForecastJob}
  {representable : Time → Bool}

/-! ## One job -/

lemma run_recorded_write {next : ForecastJob} {expected : Finset ForecastJobStatus}
    (hid : next.id = job.id) (hjob : S.records s.store job.id = some job)
    (hstatus : job.status ∈ expected) (clock : ℕ → Time) :
    ∃ s', s'.jobIds = s.jobIds ∧
      S.records s'.store = Function.update (S.records s.store) job.id
        (some { next with updatedAt := clock s.calls }) ∧
      (tryUpdateIfStatus next expected).run (performRecorded S clock) s =
        (.ok (.ok { next with updatedAt := clock s.calls }), s') := by
  obtain ⟨-, hcanonical⟩ := S.records_id s.store job.id job hjob
  rw [← hid] at hjob hcanonical ⊢
  have hwrite := Records.updateIfStatus_eq hcanonical hjob hstatus (clock s.calls)
  have hreply := (S.updateIfStatus_reply s.store next expected (clock s.calls)).trans
    (congrArg Prod.fst hwrite)
  have hrecords := (S.updateIfStatus_records s.store next expected (clock s.calls)).trans
    (congrArg Prod.snd hwrite)
  refine ⟨⟨(S.updateIfStatus s.store next expected (clock s.calls)).2, s.calls + 1, s.jobIds⟩, rfl,
    hrecords, ?_⟩
  rw [tryUpdateIfStatus, Program.run_call]
  simp only [performRecorded, performStoreCall, hreply, Program.run_ret]

/-- What recovery does with one active job. -/
lemma run_recoverJob {now : Time} {timeout : ℤ}
    (hrepresentable : representable (now - timedeltaSeconds timeout) = true)
    (hjob : S.records s.store job.id = some job) (hactive : job.status ∈ activeJobStatuses)
    (clock : ℕ → Time) (report : ForecastJobRecoveryReport) :
    ∃ s' written,
      (recoverJob now timeout report job representable).run (performRecorded S clock) s =
        (.ok (report.count (job.isStale now timeout)), s') ∧
      S.records s'.store = Function.update (S.records s.store) job.id
        (some (recoveredRecord now timeout job written)) ∧
      s'.jobIds = s.jobIds ++ if job.isStale now timeout then [] else [job.id] := by
  rw [recoverJob_of_representable hrepresentable, ← ForecastJob.isStale]
  by_cases hstale : job.isStale now timeout = true
  · have hid : (timedOutJob job now timeout).id = job.id := rfl
    obtain ⟨s', hids, hrecords, hrun⟩ := run_recorded_write hid hjob hactive clock
    have hmarked : (markTimedOut job now timeout).run (performRecorded S clock) s =
        (.ok true, s') := by
      rw [markTimedOut, Program.run_bind_of_ok hrun]
      rfl
    refine ⟨s', clock s.calls, ?_, by rw [hrecords, recoveredRecord, if_pos hstale],
      by simp [hids, hstale]⟩
    rw [treatJob, if_pos hstale, Program.run_bind_of_ok hmarked]
    simp [ForecastJobRecoveryReport.count, hstale]
  by_cases hrunning : job.status = .running
  · have hid : (recoveredJob job now).id = job.id := rfl
    obtain ⟨s', hids, hrecords, hrun⟩ := run_recorded_write hid hjob
      (Finset.mem_singleton.mpr hrunning) clock
    refine ⟨⟨s'.store, s'.calls + 1, s'.jobIds ++ [job.id]⟩, clock s.calls, ?_, ?_, ?_⟩
    · rw [treatJob, if_neg hstale, if_pos hrunning, Program.run_bind_of_ok hrun]
      simp [ForecastJobRecoveryReport.count, hstale, workerEnqueue, performRecorded, recoveredJob]
    · rw [recoveredRecord, if_neg hstale, if_pos hrunning]
      exact hrecords
    · simp [hids, hstale]
  · refine ⟨⟨s.store, s.calls + 1, s.jobIds ++ [job.id]⟩, now, ?_, ?_, by simp [hstale]⟩
    · rw [treatJob, if_neg hstale, if_neg hrunning]
      simp [ForecastJobRecoveryReport.count, hstale, workerEnqueue, performRecorded]
    · rw [recoveredRecord, if_neg hstale, if_neg hrunning, ← hjob, Function.update_eq_self]

/-! ## All jobs -/

/-- The loop treats the active jobs one after the other, and leaves the other records. -/
lemma run_recoverJobs {now : Time} {timeout : ℤ} {jobs : List ForecastJob}
    (hrepresentable : jobs = [] ∨ representable (now - timedeltaSeconds timeout) = true)
    (hnodup : (jobs.map ForecastJob.id).Nodup)
    (hstored : ∀ job ∈ jobs, S.records s.store job.id = some job)
    (hactive : ∀ job ∈ jobs, job.status ∈ activeJobStatuses) (clock : ℕ → Time)
    (report : ForecastJobRecoveryReport) :
    ∃ s',
      (recoverJobs now timeout report jobs representable).run (performRecorded S clock) s =
        (.ok { report with
          requeuedCount := report.requeuedCount + jobs.countP fun job => !job.isStale now timeout
          timedOutCount := report.timedOutCount + jobs.countP fun job => job.isStale now timeout },
          s') ∧
      (∀ job ∈ jobs, ∃ written,
        S.records s'.store job.id = some (recoveredRecord now timeout job written)) ∧
      (∀ k ∉ jobs.map ForecastJob.id, S.records s'.store k = S.records s.store k) ∧
      s'.jobIds = s.jobIds ++ (jobs.filter fun job => !job.isStale now timeout).map (·.id) := by
  induction jobs generalizing s report with
  | nil => exact ⟨s, rfl, by simp, by simp, by simp⟩
  | cons job jobs ih =>
    obtain ⟨hfirst, hrest⟩ := List.forall_mem_cons.mp hstored
    obtain ⟨hjob, hactive⟩ := List.forall_mem_cons.mp hactive
    rw [List.map_cons, List.nodup_cons] at hnodup
    have hrepresentable : representable (now - timedeltaSeconds timeout) = true :=
      hrepresentable.resolve_left (List.cons_ne_nil _ _)
    obtain ⟨s₁, written, hrun, hrecords, hids⟩ :=
      run_recoverJob hrepresentable hfirst hjob clock report
    have hother : ∀ k ≠ job.id, S.records s₁.store k = S.records s.store k :=
      fun k hk => by rw [hrecords, Function.update_of_ne hk]
    obtain ⟨s₂, hrun', htreated, hleft, hids'⟩ := ih (s := s₁) (.inr hrepresentable) hnodup.2
      (fun job' hmem => by
        rw [hother _ fun heq => hnodup.1 (heq ▸ List.mem_map_of_mem hmem), hrest job' hmem])
      hactive (report.count (job.isStale now timeout))
    refine ⟨s₂, ?_, ?_, ?_, ?_⟩
    · rw [recoverJobs, Program.run_bind_of_ok hrun, hrun']
      cases hstale : job.isStale now timeout <;>
        simp [ForecastJobRecoveryReport.count, hstale, Nat.add_assoc, Nat.add_comm 1]
    · refine List.forall_mem_cons.mpr ⟨⟨written, ?_⟩, htreated⟩
      rw [hleft job.id hnodup.1, hrecords, Function.update_self]
    · intro k hk
      rw [List.map_cons, List.mem_cons, not_or] at hk
      rw [hleft k hk.2, hother k hk.1]
    · rw [hids', hids]
      cases hstale : job.isStale now timeout <;> simp [hstale]

/-- The whole of recovery: the active jobs in the order of the listing. -/
lemma run_recoverInterruptedJobs (S : ForecastJobStore) (store : S.State) (clock : ℕ → Time)
    (default : ℤ) (stale : Option ℤ) (representable : Time → Bool)
    (hrepresentable : S.listActive store = [] ∨
      representable (clock 0 - timedeltaSeconds (intOr stale default)) = true) :
    ∃ s',
      (recoverInterruptedJobs default stale representable).run (performRecorded S clock)
          ⟨store, 0, []⟩ =
        (.ok {
          scannedCount := (S.listActive store).length
          requeuedCount := (S.listActive store).countP fun job =>
            !job.isStale (clock 0) (intOr stale default)
          timedOutCount := (S.listActive store).countP fun job =>
            job.isStale (clock 0) (intOr stale default)
          skippedCount := 0 }, s') ∧
      (∀ job ∈ S.listActive store, ∃ written, S.records s'.store job.id =
        some (recoveredRecord (clock 0) (intOr stale default) job written)) ∧
      (∀ k ∉ (S.listActive store).map ForecastJob.id,
        S.records s'.store k = S.records store k) ∧
      s'.jobIds = ((S.listActive store).filter fun job =>
        !job.isStale (clock 0) (intOr stale default)).map (·.id) := by
  obtain ⟨s', hrun, htreated, hleft, hids⟩ := run_recoverJobs (S := S) (s := ⟨store, 2, []⟩)
    hrepresentable (S.listActive_nodup_ids store) (fun job hmem => (S.mem_listActive.mp hmem).1)
    (fun job hmem => (S.mem_listActive.mp hmem).2) clock ⟨(S.listActive store).length, 0, 0, 0⟩
  refine ⟨s', ?_, htreated, hleft, hids⟩
  simp only [Nat.zero_add] at hrun
  exact hrun

/-! ## What recovery leaves -/

/-- Recovery at `now` has left `after` of the records `before`, handed `jobIds` to the worker and
reported this. -/
structure Recovery (before after : Records) (now : Time) (timeout : ℤ) (jobIds : List String)
    (report : ForecastJobRecoveryReport) : Prop where
  absent : ∀ k, before k = none → after k = none
  terminal : ∀ k job, before k = some job → job.status ∈ terminalJobStatuses → after k = some job
  timedOut : ∀ k job, before k = some job → job.status ∈ activeJobStatuses →
    job.updatedAt ≤ now - timedeltaSeconds timeout →
    k ∉ jobIds ∧ ∃ failed, after k = some failed ∧ failed.status = .failed ∧
      failed.completedAt = some now ∧
      ∃ message, failed.events = job.events ++ [⟨now, .failed, message⟩]
  requeued : ∀ k job, before k = some job → job.status ∈ activeJobStatuses →
    now - timedeltaSeconds timeout < job.updatedAt →
    jobIds.count k = 1 ∧ ∃ queued, after k = some queued ∧ queued.status = .queued ∧
      queued.startedAt = none ∧ (job.status = .queued → queued = job) ∧
      (job.status = .running → ∃ message,
        queued.events = job.events ++ [⟨now, .queued, message⟩])
  notRunning : ∀ k job, after k = some job → job.status ≠ .running
  enqueued : ∀ k ∈ jobIds, ∃ job, before k = some job ∧ job.status ∈ activeJobStatuses
  scanned_eq : report.scannedCount =
    report.requeuedCount + report.timedOutCount + report.skippedCount
  skipped_eq : report.skippedCount = 0
  timedOut_eq : ∀ jobs, before.Enumerates jobs → report.timedOutCount = jobs.countP fun job =>
    job.status ∈ activeJobStatuses ∧ job.updatedAt ≤ now - timedeltaSeconds timeout
  requeued_eq : ∀ jobs, before.Enumerates jobs → report.requeuedCount = jobs.countP fun job =>
    job.status ∈ activeJobStatuses ∧ now - timedeltaSeconds timeout < job.updatedAt

omit [Runtime] in
lemma isStale_eq_true {now : Time} {timeout : ℤ} :
    job.isStale now timeout = true ↔ job.updatedAt ≤ now - timedeltaSeconds timeout := by
  simp [ForecastJob.isStale, shouldMarkJobStale]

omit [Runtime] in
lemma isStale_eq_false {now : Time} {timeout : ℤ} :
    job.isStale now timeout = false ↔ now - timedeltaSeconds timeout < job.updatedAt := by
  simp [ForecastJob.isStale, shouldMarkJobStale]

/-- The jobs of the active listing that satisfy a condition. -/
lemma countP_listActive {store : S.State} {jobs : List ForecastJob}
    (hjobs : (S.records store).Enumerates jobs) (p : ForecastJob → Bool) :
    (S.listActive store).countP p =
      jobs.countP fun job => decide (job.status ∈ activeJobStatuses) && p job := by
  obtain ⟨jobs', hjobs', heq⟩ := S.listActive_eq store
  rw [heq, (sortJobs_perm _).countP_eq, List.countP_filter, (hjobs'.perm hjobs).countP_eq]
  simp only [Bool.and_comm]

omit [Runtime] in
lemma recoveredRecord_status (job : ForecastJob) (now : Time) (timeout : ℤ)
    (written : Time) : (recoveredRecord now timeout job written).status ≠ .running := by
  unfold recoveredRecord
  split
  · simp [timedOutJob]
  · split
    · simp [recoveredJob]
    · next hrunning => exact hrunning

omit [Runtime] in
lemma recoveredRecord_stale {now : Time} {timeout : ℤ} (hstale : job.isStale now timeout = true)
    (written : Time) :
    (recoveredRecord now timeout job written).status = .failed ∧
      (recoveredRecord now timeout job written).completedAt = some now ∧
      ∃ message, (recoveredRecord now timeout job written).events =
        job.events ++ [⟨now, .failed, message⟩] := by
  rw [recoveredRecord, if_pos hstale]
  exact ⟨rfl, rfl, _, rfl⟩

omit [Runtime] in
/-- A consistent record that is handed to the worker. -/
lemma recoveredRecord_fresh (hconsistent : job.Consistent)
    (hactive : job.status ∈ activeJobStatuses)
    {now : Time} {timeout : ℤ} (hfresh : job.isStale now timeout = false) (written : Time) :
    (recoveredRecord now timeout job written).status = .queued ∧
      (recoveredRecord now timeout job written).startedAt = none ∧
      (job.status = .queued → recoveredRecord now timeout job written = job) ∧
      (job.status = .running → ∃ message, (recoveredRecord now timeout job written).events =
        job.events ++ [⟨now, .queued, message⟩]) := by
  rw [recoveredRecord, if_neg (by simp [hfresh])]
  rcases mem_activeJobStatuses.mp hactive with hqueued | hrunning
  · rw [if_neg (by simp [hqueued])]
    exact ⟨hqueued, hconsistent.startedAt_eq_none hqueued, fun _ => rfl, fun h => by simp_all⟩
  · rw [if_pos hrunning]
    exact ⟨rfl, rfl, fun h => by simp_all, fun _ => ⟨_, rfl⟩⟩

/-- A time-out that reaches back too far ends the loop at the first active job. -/
lemma run_recoverInterruptedJobs_overflow {store : S.State} {clock : ℕ → Time} {default : ℤ}
    {stale : Option ℤ} (hactive : S.listActive store ≠ [])
    (hrepresentable :
      ¬ representable (clock 0 - timedeltaSeconds (intOr stale default)) = true) :
    (recoverInterruptedJobs default stale representable).run (performRecorded S clock)
      ⟨store, 0, []⟩ = (.error .overflow, ⟨store, 2, []⟩) := by
  have hrun : (recoverJobs (clock 0) (intOr stale default) ⟨(S.listActive store).length, 0, 0, 0⟩
      (S.listActive store) representable).run (performRecorded S clock) ⟨store, 2, []⟩ =
        (.error .overflow, ⟨store, 2, []⟩) := by
    generalize (⟨(S.listActive store).length, 0, 0, 0⟩ : ForecastJobRecoveryReport) = report
    obtain ⟨job, jobs, hjobs⟩ := List.exists_cons_of_ne_nil hactive
    rw [hjobs, recoverJobs, recoverJob_of_not_representable hrepresentable]
    rfl
  exact hrun

/-- What recovery leaves of consistent records. -/
lemma exists_recovery {store : S.State} (hconsistent : (S.records store).Consistent)
    {clock : ℕ → Time} {default : ℤ} {stale : Option ℤ}
    (hrepresentable : S.listActive store = [] ∨
      representable (clock 0 - timedeltaSeconds (intOr stale default)) = true) :
    ∃ report s',
      (recoverInterruptedJobs default stale representable).run (performRecorded S clock)
        ⟨store, 0, []⟩ = (.ok report, s') ∧
      Recovery (S.records store) (S.records s'.store) (clock 0) (intOr stale default) s'.jobIds
        report := by
  obtain ⟨s', hrun, htreated, hleft, hids⟩ := run_recoverInterruptedJobs S store clock default stale
    representable hrepresentable
  have hlisted {k : String} {job : ForecastJob} (hjob : S.records store k = some job)
      (hactive : job.status ∈ activeJobStatuses) :
      job ∈ S.listActive store ∧ job.id = k := by
    obtain ⟨rfl, -⟩ := S.records_id store k job hjob
    exact ⟨S.mem_listActive.mpr ⟨hjob, hactive⟩, rfl⟩
  have hkept {k : String}
      (hk : ∀ job, S.records store k = some job → job.status ∉ activeJobStatuses) :
      S.records s'.store k = S.records store k := by
    refine hleft k fun hmem => ?_
    obtain ⟨job, hlisted, rfl⟩ := List.mem_map.mp hmem
    obtain ⟨hjob, hactive⟩ := S.mem_listActive.mp hlisted
    exact hk job hjob hactive
  refine ⟨_, s', hrun, ?_⟩
  constructor
  case absent =>
    intro k hk
    rw [hkept (by simp [hk]), hk]
  case terminal =>
    intro k job hk hterminal
    refine (hkept fun job' hk' hactive => ?_).trans hk
    obtain rfl := Option.some.inj (hk.symm.trans hk')
    exact not_mem_terminal_iff_active.mpr hactive hterminal
  case timedOut =>
    intro k job hk hactive hstale
    obtain ⟨hmem, rfl⟩ := hlisted hk hactive
    obtain ⟨written, hwritten⟩ := htreated job hmem
    rw [← isStale_eq_true] at hstale
    refine ⟨?_, _, hwritten, recoveredRecord_stale hstale written⟩
    · rw [hids]
      intro hmem'
      obtain ⟨job', hmem', hid⟩ := List.mem_map.mp hmem'
      obtain ⟨hjob', -⟩ := S.mem_listActive.mp (List.mem_filter.mp hmem').1
      rw [hid] at hjob'
      obtain rfl := Option.some.inj (hk.symm.trans hjob')
      simp [hstale] at hmem'
  case requeued =>
    intro k job hk hactive hfresh
    obtain ⟨hmem, rfl⟩ := hlisted hk hactive
    obtain ⟨written, hwritten⟩ := htreated job hmem
    rw [← isStale_eq_false] at hfresh
    refine ⟨?_, _, hwritten, recoveredRecord_fresh (hconsistent _ _ hk) hactive hfresh written⟩
    rw [hids]
    refine List.count_eq_one_of_mem ?_ (List.mem_map_of_mem (List.mem_filter.mpr ⟨hmem, ?_⟩))
    · exact (S.listActive_nodup_ids _).sublist (List.filter_sublist.map _)
    · simp [hfresh]
  case notRunning =>
    intro k job hk
    by_cases hactive : ∃ old, S.records store k = some old ∧ old.status ∈ activeJobStatuses
    · obtain ⟨old, hold, hactive⟩ := hactive
      obtain ⟨hmem, rfl⟩ := hlisted hold hactive
      obtain ⟨written, hwritten⟩ := htreated old hmem
      obtain rfl := Option.some.inj (hk.symm.trans hwritten)
      exact recoveredRecord_status old _ _ _
    · simp only [not_exists, not_and] at hactive
      rw [hkept hactive] at hk
      intro hrunning
      exact hactive job hk (mem_activeJobStatuses.mpr (.inr hrunning))
  case enqueued =>
    intro k hk
    rw [hids] at hk
    obtain ⟨job, hmem, rfl⟩ := List.mem_map.mp hk
    exact ⟨job, S.mem_listActive.mp (List.mem_filter.mp hmem).1⟩
  case scanned_eq =>
    have := List.length_eq_countP_add_countP (p := fun job : ForecastJob =>
      job.isStale (clock 0) (intOr stale default)) (l := S.listActive store)
    simp only [Bool.not_eq_true, Bool.decide_eq_false] at this
    simp only
    omega
  case skipped_eq => rfl
  case timedOut_eq =>
    intro jobs hjobs
    refine (countP_listActive hjobs _).trans (List.countP_congr fun job _ => ?_)
    simp [isStale_eq_true]
  case requeued_eq =>
    intro jobs hjobs
    refine (countP_listActive hjobs _).trans (List.countP_congr fun job _ => ?_)
    simp [isStale_eq_false]

/-- **Recovery is complete and exact.**  Over records that the application has produced, it leaves
terminal records alone, fails the active jobs without progress, and leaves every other active job
queued and handed to the worker once; the report counts them.  When a `datetime` cannot be as far
back as the time-out and a job is active, it raises an `OverflowError` and has changed nothing. -/
theorem recover_exact (S : ForecastJobStore) (config : ServiceConfig) (init : S.State)
    (hinit : ∀ k, S.records init k = none) {cfg : LifecycleConfig S}
    (h : (lifecycle S config allCommands).Reaches (Lifecycle.initial init) cfg)
    (clock : ℕ → Time) (default : ℤ) (stale : Option ℤ) :
    ((isDatetime (clock 0 - timedeltaSeconds (intOr stale default)) = true ∨
        ∀ k job, recordsOf cfg k = some job → job.status ∉ activeJobStatuses) →
      ∃ report s',
        (recoverInterruptedJobs default stale isDatetime).run (performRecorded S clock)
          ⟨cfg.shared.store, 0, []⟩ = (.ok report, s') ∧
        Recovery (recordsOf cfg) (S.records s'.store) (clock 0) (intOr stale default) s'.jobIds
          report) ∧
    (¬ (isDatetime (clock 0 - timedeltaSeconds (intOr stale default)) = true ∨
        ∀ k job, recordsOf cfg k = some job → job.status ∉ activeJobStatuses) →
      ∃ s',
        (recoverInterruptedJobs default stale isDatetime).run (performRecorded S clock)
          ⟨cfg.shared.store, 0, []⟩ = (.error .overflow, s') ∧
        S.records s'.store = recordsOf cfg ∧ s'.jobIds = []) := by
  have hconsistent : (recordsOf cfg).Consistent :=
    ((trace_of_reaches h).consistent (by simp [Records.Consistent, hinit])).1
  have hlisted : S.listActive cfg.shared.store = [] ↔
      ∀ k job, recordsOf cfg k = some job → job.status ∉ activeJobStatuses := by
    rw [List.eq_nil_iff_forall_not_mem]
    constructor
    · intro hnone k job hjob hactive
      obtain ⟨rfl, -⟩ := S.records_id cfg.shared.store k job hjob
      exact hnone job (S.mem_listActive.mpr ⟨hjob, hactive⟩)
    · intro hnone job hmem
      obtain ⟨hjob, hactive⟩ := S.mem_listActive.mp hmem
      exact hnone job.id job hjob hactive
  rw [← hlisted]
  constructor
  · intro hrepresentable
    exact exists_recovery hconsistent hrepresentable.symm
  · intro hnot
    obtain ⟨hrepresentable, hactive⟩ := not_or.mp hnot
    exact ⟨_, run_recoverInterruptedJobs_overflow hactive hrepresentable, rfl, rfl⟩

end Runtime

section Sample

open StrictRuntime

/-- A job is claimed by a run that goes no further. -/
def interruptedSample : LifecycleConfig memoryStore :=
  (lifecycle memoryStore {} allCommands).after (Lifecycle.initial .empty)
    [.start (.submit 52 13), .act 0 { newId := sampleId }, .start (.run sampleId),
      .act 1 {}, .act 1 { clock := 5 }, .act 1 { clock := 6 }]

lemma interruptedSample_running : ∃ job, recordsOf interruptedSample sampleId = some job ∧
    job.status = .running ∧ job.updatedAt = 6 := by
  have hrunning : (recordsOf interruptedSample sampleId).any
      (fun job => job.status = .running ∧ job.updatedAt = 6) = true := by
    decide +kernel
  obtain ⟨job, hjob, hstatus⟩ := (Option.any_eq_true _ _).mp hrunning
  exact ⟨job, hjob, of_decide_eq_true hstatus⟩

/-- Recovery queues it again. -/
theorem recover_exact_interrupted :
    ∃ report s',
      (recoverInterruptedJobs 1800 none isDatetime).run (performRecorded memoryStore fun n => n + 7)
        ⟨interruptedSample.shared.store, 0, []⟩ = (.ok report, s') ∧
      s'.jobIds.count sampleId = 1 ∧
      ∃ job, memoryStore.records s'.store sampleId = some job ∧ job.status = .queued := by
  obtain ⟨job, hjob, hstatus, hupdated⟩ := interruptedSample_running
  have hreaches : (lifecycle memoryStore {} allCommands).Reaches (Lifecycle.initial .empty)
      interruptedSample := System.reaches_after _ _
  obtain ⟨hexact, -⟩ := recover_exact memoryStore {} .empty (fun _ => rfl) hreaches
    (fun n => n + 7) 1800 none
  obtain ⟨report, s', hrun, hrecovery⟩ := hexact (.inl (by decide))
  obtain ⟨honce, queued, hqueued, hstatus', -⟩ := hrecovery.requeued sampleId job hjob
    (mem_activeJobStatuses.mpr (.inr hstatus)) (by rw [hupdated]; decide)
  exact ⟨report, s', hrun, honce, queued, hqueued, hstatus'⟩

/-- With a time-out of 100000000000 seconds it leaves the job as it is. -/
theorem recover_overflows :
    (lifecycle memoryStore {} allCommands).Reaches (Lifecycle.initial .empty) interruptedSample ∧
    (∃ s', (recoverInterruptedJobs 1800 (some 100000000000) isDatetime).run
        (performRecorded memoryStore fun n => n + 7) ⟨interruptedSample.shared.store, 0, []⟩ =
          (.error .overflow, s') ∧
      ∃ job, memoryStore.records s'.store sampleId = some job ∧ job.status = .running) ∧
    ¬ ∃ report s',
      (recoverInterruptedJobs 1800 (some 100000000000) isDatetime).run
        (performRecorded memoryStore fun n => n + 7) ⟨interruptedSample.shared.store, 0, []⟩ =
          (.ok report, s') ∧
      Recovery (recordsOf interruptedSample) (memoryStore.records s'.store) 7 100000000000 s'.jobIds
        report := by
  obtain ⟨job, hjob, hstatus, -⟩ := interruptedSample_running
  have hlisted : memoryStore.listActive interruptedSample.shared.store ≠ [] := by
    obtain ⟨hid, -⟩ := memoryStore.records_id interruptedSample.shared.store sampleId job hjob
    refine List.ne_nil_of_mem (memoryStore.mem_listActive.mpr ⟨hid ▸ hjob, ?_⟩)
    exact mem_activeJobStatuses.mpr (.inr hstatus)
  have hrun : (recoverInterruptedJobs 1800 (some 100000000000) isDatetime).run
      (performRecorded memoryStore fun n => n + 7) ⟨interruptedSample.shared.store, 0, []⟩ =
        (.error .overflow, ⟨interruptedSample.shared.store, 2, []⟩) :=
    run_recoverInterruptedJobs_overflow hlisted (by decide)
  refine ⟨System.reaches_after _ _, ⟨_, hrun, job, hjob, hstatus⟩, ?_⟩
  rintro ⟨report, s', hok, -⟩
  cases hrun.symm.trans hok

end Sample

end Earth2Sandbox
