import Earth2Sandbox.Commands.Requests
import Earth2Sandbox.Commands.RunAlone

/-!
# Cleanup

`CleanupForecastJobs.execute` with no other command at work, for a request that names its statuses.
The selected records go and the others stay (`cleansUp`).  A list without any status counts as no
list at all, so that the command then selects every terminal job, and a retention that reaches back
before the year 1 is refused by the subtraction (`cleansUp_iff`).
-/

namespace Earth2Sandbox

section Runtime

variable [Runtime]

omit [Runtime] in
/-- The job has one of the statuses and ended, or was updated last, before the cutoff. -/
def ForecastJob.selected (statuses : List ForecastJobTerminalStatus) (cutoff : Time)
    (job : ForecastJob) : Prop :=
  (∃ status ∈ statuses, job.status = status.toStatus) ∧
    job.completedAt.getD job.updatedAt < cutoff

omit [Runtime] in
instance (statuses : List ForecastJobTerminalStatus) (cutoff : Time) :
    DecidablePred (ForecastJob.selected statuses cutoff) := fun job => by
  unfold ForecastJob.selected
  infer_instance

/-- The command at the time `now`, and the store after it. -/
def cleanupAt (S : ForecastJobStore) (default hours : ℤ) (statuses : List ForecastJobTerminalStatus)
    (now : Time) (store : S.State) : Except JobError ForecastJobCleanupResponse × S.State :=
  let result := (cleanupForecastJobs default (some hours) (some statuses) isDatetime).run
    (performAlone S .interrupted fun _ => now) (store, 0)
  (result.1, result.2.1)

/-- The command deletes the selected jobs and no others, says so, and has nothing left to do. -/
structure CleansUp (S : ForecastJobStore) (default hours : ℤ)
    (statuses : List ForecastJobTerminalStatus) (now : Time) (store : S.State)
    (response : ForecastJobCleanupResponse) : Prop where
  deleted : ∀ k job, S.records store k = some job →
    job.selected statuses (now - timedeltaHours hours) →
    S.records (cleanupAt S default hours statuses now store).2 k = none
  kept : ∀ k, (∀ job, S.records store k = some job →
      ¬ job.selected statuses (now - timedeltaHours hours)) →
    S.records (cleanupAt S default hours statuses now store).2 k = S.records store k
  active : ∀ k job, S.records store k = some job → job.status ∈ activeJobStatuses →
    S.records (cleanupAt S default hours statuses now store).2 k = some job
  deletedCount_eq : ∀ jobs, (S.records store).Enumerates jobs → response.deletedCount =
    jobs.countP fun job => job.selected statuses (now - timedeltaHours hours)
  mem_statuses : ∀ status, status ∈ response.statuses ↔ status ∈ statuses
  statuses_nodup : response.statuses.Nodup
  again : ∃ response', (cleanupAt S default hours statuses now
      (cleanupAt S default hours statuses now store).2).1 = .ok response' ∧
    response'.deletedCount = 0 ∧
    S.records (cleanupAt S default hours statuses now
      (cleanupAt S default hours statuses now store).2).2 =
        S.records (cleanupAt S default hours statuses now store).2

variable {S : ForecastJobStore} {default hours : ℤ} {statuses : List ForecastJobTerminalStatus}
  {now : Time} {store : S.State}

/-- The command makes one call of the store. -/
lemma cleanupAt_eq (hhours : 1 ≤ hours)
    (hcutoff : isDatetime (now - timedeltaHours hours) = true) :
    cleanupAt S default hours statuses now store =
      (.ok ⟨(S.deleteOlderThan store (now - timedeltaHours hours)
            (cleanupStatuses (some statuses))).1, now - timedeltaHours hours,
          sortedStatuses (cleanupStatuses (some statuses))⟩,
        (S.deleteOlderThan store (now - timedeltaHours hours)
          (cleanupStatuses (some statuses))).2) := by
  have hgiven : intOr (some hours) default = hours := if_neg (by omega)
  have hnow : clockNow.run (performAlone S .interrupted fun _ => now) (store, 0) =
      (.ok now, (store, 1)) := rfl
  have hsubtract : subtractTimedelta isDatetime now (timedeltaHours hours) =
      .ret (now - timedeltaHours hours) := if_pos hcutoff
  rw [cleanupAt, cleanupForecastJobs, hgiven]
  rw [Program.run_bind_of_ok hnow, hsubtract]
  rfl

/-- Without a cutoff it does not come to that call. -/
lemma cleanupAt_overflow (hhours : 1 ≤ hours)
    (hcutoff : ¬ isDatetime (now - timedeltaHours hours) = true) :
    cleanupAt S default hours statuses now store = (.error .overflow, store) := by
  have hgiven : intOr (some hours) default = hours := if_neg (by omega)
  have hnow : clockNow.run (performAlone S .interrupted fun _ => now) (store, 0) =
      (.ok now, (store, 1)) := rfl
  have hsubtract : subtractTimedelta isDatetime now (timedeltaHours hours) = .raise .overflow :=
    if_neg hcutoff
  rw [cleanupAt, cleanupForecastJobs, hgiven]
  rw [Program.run_bind_of_ok hnow, hsubtract]
  rfl

omit [Runtime] in
lemma shouldCleanup_iff {job : ForecastJob} {cutoff : Time} (hstatuses : statuses ≠ []) :
    job.shouldCleanup cutoff (cleanupStatuses (some statuses)) = true ↔
      job.selected statuses cutoff := by
  have hnamed : cleanupStatuses (some statuses) = statuses.toFinset := by
    obtain ⟨status, rest, rfl⟩ := List.exists_cons_of_ne_nil hstatuses
    rfl
  have himage : job.status ∈ statuses.toFinset.image ForecastJobTerminalStatus.toStatus ↔
      ∃ status ∈ statuses, job.status = status.toStatus := by
    simp only [Finset.mem_image, List.mem_toFinset, eq_comm]
  unfold ForecastJob.shouldCleanup shouldCleanupJob ForecastJob.selected
  rw [hnamed, ← himage]
  by_cases hmem : job.status ∈ statuses.toFinset.image ForecastJobTerminalStatus.toStatus
  · rw [if_neg (not_not.mpr hmem), decide_eq_true_iff]
    exact (and_iff_right hmem).symm
  · rw [if_pos hmem]
    exact iff_of_false Bool.false_ne_true fun h => hmem h.1

omit [Runtime] in
lemma mem_sortedStatuses {statuses : Finset ForecastJobTerminalStatus}
    {status : ForecastJobTerminalStatus} :
    status ∈ sortedStatuses statuses ↔ status ∈ statuses := by
  cases status <;> simp [sortedStatuses]

omit [Runtime] in
lemma nodup_sortedStatuses (statuses : Finset ForecastJobTerminalStatus) :
    (sortedStatuses statuses).Nodup :=
  List.Nodup.filter _ (by decide)

/-- A request that names a status is served as it says. -/
lemma cleansUp (hhours : 1 ≤ hours) (hstatuses : statuses ≠ [])
    (hdatetime : isDatetime (now - timedeltaHours hours) = true) :
    ∃ response, (cleanupAt S default hours statuses now store).1 = .ok response ∧
      CleansUp S default hours statuses now store response := by
  set cutoff := now - timedeltaHours hours with hcutoff
  have hrecords (store : S.State) :
      S.records (cleanupAt S default hours statuses now store).2 =
        (S.records store).deleteOlderThan cutoff (cleanupStatuses (some statuses)) := by
    rw [cleanupAt_eq hhours hdatetime]
    exact S.deleteOlderThan_records _ _ _
  have hkept {store : S.State} {k : String} (hk : ∀ job, S.records store k = some job →
      ¬ job.selected statuses cutoff) :
      S.records (cleanupAt S default hours statuses now store).2 k = S.records store k := by
    rw [hrecords, Records.deleteOlderThan]
    cases hjob : S.records store k with
    | none => rfl
    | some job =>
      have hnot := mt (shouldCleanup_iff hstatuses).mp (hk job hjob)
      simp [hnot]
  have hgone : ∀ k job, S.records (cleanupAt S default hours statuses now store).2 k = some job →
      ¬ job.selected statuses cutoff := by
    intro k job hjob hselected
    rw [hrecords, Records.deleteOlderThan_eq_some] at hjob
    rw [(shouldCleanup_iff hstatuses).mpr hselected] at hjob
    exact Bool.false_ne_true hjob.2.symm
  have hactive {job : ForecastJob} (h : job.status ∈ activeJobStatuses) :
      ¬ job.selected statuses cutoff := by
    rintro ⟨⟨status, -, hstatus⟩, -⟩
    exact not_mem_terminal_iff_active.mpr h (hstatus ▸ status.toStatus_mem)
  refine ⟨_, congrArg Prod.fst (cleanupAt_eq hhours hdatetime), ?_⟩
  constructor
  case deleted =>
    intro k job hjob hselected
    rw [hrecords, Records.deleteOlderThan, hjob, Option.filter_some,
      (shouldCleanup_iff hstatuses).mpr hselected]
    rfl
  case kept => exact fun k hk => hkept hk
  case active =>
    intro k job hjob h
    refine (hkept fun job' hjob' => ?_).trans hjob
    obtain rfl := Option.some.inj (hjob.symm.trans hjob')
    exact hactive h
  case deletedCount_eq =>
    intro jobs hjobs
    obtain ⟨jobs', hjobs', hcount⟩ := S.deleteOlderThan_count store cutoff
      (cleanupStatuses (some statuses))
    rw [hcount, ← List.countP_eq_length_filter, (hjobs'.perm hjobs).countP_eq]
    refine List.countP_congr fun job _ => ?_
    rw [shouldCleanup_iff hstatuses, decide_eq_true_iff]
  case mem_statuses =>
    intro status
    obtain ⟨first, rest, rfl⟩ := List.exists_cons_of_ne_nil hstatuses
    rw [mem_sortedStatuses, cleanupStatuses, List.mem_toFinset]
  case statuses_nodup => exact nodup_sortedStatuses _
  case again =>
    refine ⟨_, congrArg Prod.fst (cleanupAt_eq hhours hdatetime), ?_, ?_⟩
    · obtain ⟨jobs, hjobs, hcount⟩ := S.deleteOlderThan_count
        (cleanupAt S default hours statuses now store).2 cutoff (cleanupStatuses (some statuses))
      rw [hcount, List.length_eq_zero_iff, List.filter_eq_nil_iff]
      intro job hmem
      rw [shouldCleanup_iff hstatuses]
      exact hgone _ job ((hjobs.mem_iff job).mp hmem)
    · funext k
      exact hkept (hgone k)

/-- **Cleanup deletes exactly what was asked, when something was asked.**  For a list with at least
one status and a cutoff that a `datetime` can be, the command deletes the jobs of these statuses
that are older than the cutoff and no others.  For the empty list it does not, as it takes it for a
missing one, and without a cutoff it raises an `OverflowError`. -/
theorem cleansUp_iff (S : ForecastJobStore) (default hours : ℤ) (hhours : 1 ≤ hours)
    (statuses : List ForecastJobTerminalStatus) (now : Time) (store : S.State) :
    (∃ response, (cleanupAt S default hours statuses now store).1 = .ok response ∧
      CleansUp S default hours statuses now store response) ↔
      statuses ≠ [] ∧ isDatetime (now - timedeltaHours hours) = true := by
  constructor
  · rintro ⟨response, hresponse, hcleans⟩
    have hdatetime : isDatetime (now - timedeltaHours hours) = true := by
      by_contra hnot
      rw [cleanupAt_overflow hhours hnot] at hresponse
      cases hresponse
    refine ⟨?_, hdatetime⟩
    rintro rfl
    rw [cleanupAt_eq hhours hdatetime] at hresponse
    obtain rfl := Except.ok.inj hresponse
    have hmem : ForecastJobTerminalStatus.failed ∈ sortedStatuses (cleanupStatuses (some [])) := by
      decide
    exact List.not_mem_nil ((hcleans.mem_statuses _).mp hmem)
  · rintro ⟨hstatuses, hdatetime⟩
    exact cleansUp hhours hstatuses hdatetime

end Runtime

section Sample

open StrictRuntime

/-- A store with one job, cancelled when it was accepted. -/
def cancelledStore : memoryStore.State :=
  ((cancelForecastJob sampleId).run (performAlone memoryStore .interrupted fun _ => 0)
    (queuedStore, 0)).2.1

/-- An empty list of statuses deletes a job that is old enough. -/
theorem cleanup_empty_deletes :
    (memoryStore.records cancelledStore sampleId).map (·.status) = some .cancelled ∧
      memoryStore.records (cleanupAt memoryStore 168 1 [] (timedeltaHours 2) cancelledStore).2
        sampleId = none ∧
      ¬ ∃ response,
        (cleanupAt memoryStore 168 1 [] (timedeltaHours 2) cancelledStore).1 = .ok response ∧
          CleansUp memoryStore 168 1 [] (timedeltaHours 2) cancelledStore response := by
  have hstored :
      (memoryStore.records cancelledStore sampleId).map (·.status) = some .cancelled := by
    decide +kernel
  have hgone : memoryStore.records
      (cleanupAt memoryStore 168 1 [] (timedeltaHours 2) cancelledStore).2 sampleId = none := by
    decide +kernel
  refine ⟨hstored, hgone, ?_⟩
  rintro ⟨response, -, hcleans⟩
  obtain ⟨job, hjob, -⟩ := Option.map_eq_some_iff.mp hstored
  have hkept := hcleans.kept sampleId fun job' _ h => by simp [ForecastJob.selected] at h
  rw [hgone, hjob] at hkept
  cases hkept

/-- A job of a status that is named is deleted. -/
theorem cleansUp_iff_cancelled :
    ∃ response, (cleanupAt memoryStore 168 1 [.cancelled] (timedeltaHours 2) cancelledStore).1 =
        .ok response ∧
      CleansUp memoryStore 168 1 [.cancelled] (timedeltaHours 2) cancelledStore response :=
  (cleansUp_iff memoryStore 168 1 le_rfl [.cancelled] (timedeltaHours 2) cancelledStore).mpr
    ⟨List.cons_ne_nil _ _, by decide⟩

end Sample

end Earth2Sandbox
