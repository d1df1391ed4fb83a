import Earth2Sandbox.Commands.RunForecastJob
import Earth2Sandbox.Storage.MemoryJobStore

/-!
# A job that is run alone

`RunForecastJob.execute` with no other command at work.  The job ends succeeded or failed exactly
when the diagnostics that the command validates fit the fields of `ForecastJobDiagnostics`
(`runForecastJob_completes_iff`): validation is outside of the handler around the provider call, and
its error leaves the job running.
-/

namespace Earth2Sandbox

section Runtime

variable [Runtime]

/-- The diagnostics of the provider's outcome fit the fields of `ForecastJobDiagnostics`, with the
message that the command gives them. -/
def DiagnosticsFit (diagnosticMethod : Bool) : ProviderOutcome ForecastProviderResult → Prop
  | .returned providerResult =>
    -- the command writes the diagnostics of a provider without the method itself
    diagnosticMethod = true → (ForecastJobDiagnostics.ofDict
      (providerResult.diagnostics.override "message" (.str "Forecast summary is ready."))).isSome
  | .unavailable message diagnostics =>
    let payload := unavailableDiagnostics message diagnostics
    (ForecastJobDiagnostics.ofDict
      (payload.override "message" (diagnosticMessage payload))).isSome
  | .failed _ => True
  | .interrupted => False

/-- The diagnostics of a failure of another kind fit. -/
lemma isSome_ofDict_failed : (ForecastJobDiagnostics.ofDict
    (((none : Option PyDict).getD []).override "message"
      (diagnosticMessage ((none : Option PyDict).getD [])))).isSome := by
  simp [ForecastJobDiagnostics.ofDict, pydanticField, diagnosticMessage, PyDict.override,
    List.lookup_cons, Runtime.toOptStr_str]

/-! ## Calls without interference -/

section Alone

variable {S : ForecastJobStore}

/-- A call answered by the store alone.  The number of calls that were made tells the readings of
the clock apart. -/
def performAlone (S : ForecastJobStore) (outcome : ProviderOutcome ForecastProviderResult)
    (clock : ℕ → Time) : (c : JobCall) → S.State × ℕ → JobReply c × (S.State × ℕ)
  | c, (store, calls) =>
    let result := performStoreCall S store { clock := clock calls, outcome := outcome } c
    (result.1, result.2, calls + 1)

variable {outcome : ProviderOutcome ForecastProviderResult} {clock : ℕ → Time} {s : S.State}
  {calls : ℕ} {jobId k : String} {job : ForecastJob}

lemma get_eq_of_records (hk : normalizeJobId jobId = .ok k) (hjob : S.records s k = some job) :
    S.get s jobId = .ok job := by
  rw [S.get_eq, Records.get_eq_ok]
  exact ⟨k, hk, hjob⟩

lemma run_getJob {f : ForecastJob → JobProgram Unit} (hk : normalizeJobId jobId = .ok k)
    (hjob : S.records s k = some job) :
    (getJob jobId >>= f).run (performAlone S outcome clock) (s, calls) =
      (f job).run (performAlone S outcome clock) (s, calls + 1) := by
  have hget := get_eq_of_records hk hjob
  rw [getJob, Program.call_bind, Program.run_call]
  simp only [performAlone, performStoreCall, hget, Program.ofExcept_ok, Program.ret_bind]

lemma run_tryUpdateIfStatus {next : ForecastJob} {expected : Finset ForecastJobStatus}
    (hid : next.id = k) (hjob : S.records s k = some job) (hstatus : job.status ∈ expected)
    (outcome : ProviderOutcome ForecastProviderResult) (clock : ℕ → Time) (calls : ℕ) :
    ∃ s', S.records s' k = some { next with updatedAt := clock calls } ∧
      ∀ f : Except ForecastJobStatus ForecastJob → JobProgram Unit,
        (tryUpdateIfStatus next expected >>= f).run (performAlone S outcome clock) (s, calls) =
          (f (.ok { next with updatedAt := clock calls })).run (performAlone S outcome clock)
            (s', calls + 1) := by
  subst hid
  obtain ⟨-, hcanonical⟩ := S.records_id s next.id job hjob
  have hwrite := Records.updateIfStatus_eq hcanonical hjob hstatus (clock calls)
  have hreply := (S.updateIfStatus_reply s next expected (clock calls)).trans
    (congrArg Prod.fst hwrite)
  have hrecords := (S.updateIfStatus_records s next expected (clock calls)).trans
    (congrArg Prod.snd hwrite)
  refine ⟨(S.updateIfStatus s next expected (clock calls)).2, ?_, fun f => ?_⟩
  · rw [hrecords]
    exact Function.update_self ..
  · rw [tryUpdateIfStatus, Program.call_bind, Program.run_call]
    simp only [performAlone, performStoreCall, hreply, Program.ret_bind]

/-- What ends a run: the diagnostics are validated, and the job is completed. -/
lemma run_complete {d : PyDict} {mk : ForecastJobDiagnostics → ForecastJob}
    {f : Except ForecastJobStatus ForecastJob → JobProgram Unit} {event : String}
    {status : ForecastJobStatus} (hf : ∀ updated, f (.ok updated) = incrementForecastJobEvent event)
    (hid : ∀ diagnostics, (mk diagnostics).id = k)
    (hmk : ∀ diagnostics, (mk diagnostics).status = status)
    (hjob : S.records s k = some job) (hstatus : job.status = .running) :
    ∃ job', S.records ((validateDiagnostics d >>= fun diagnostics =>
        tryUpdateIfStatus (mk diagnostics) {.running} >>= f).run (performAlone S outcome clock)
          (s, calls)).2.1 k = some job' ∧
      job'.status = if (ForecastJobDiagnostics.ofDict d).isSome then status else .running := by
  cases hd : ForecastJobDiagnostics.ofDict d with
  | none =>
    refine ⟨job, ?_, hstatus⟩
    rw [validateDiagnostics, hd]
    exact hjob
  | some diagnostics =>
    have hrunning : job.status ∈ ({.running} : Finset ForecastJobStatus) :=
      Finset.mem_singleton.mpr hstatus
    obtain ⟨s', hs', hrun⟩ := run_tryUpdateIfStatus (hid diagnostics) hjob hrunning outcome clock
      calls
    refine ⟨{ mk diagnostics with updatedAt := clock calls }, ?_, hmk diagnostics⟩
    rw [validateDiagnostics, hd]
    dsimp only
    rw [Program.ret_bind, hrun, hf]
    exact hs'

lemma run_clockNow (f : Time → JobProgram Unit) :
    (clockNow >>= f).run (performAlone S outcome clock) (s, calls) =
      (f (clock calls)).run (performAlone S outcome clock) (s, calls + 1) := rfl

lemma run_markJobFailed (hk : normalizeJobId jobId = .ok k) (hjob : S.records s k = some job)
    (hstatus : job.status = .running) (hid : job.id = k) (error : String)
    (diagnostics : Option PyDict) (outcome : ProviderOutcome ForecastProviderResult)
    (clock : ℕ → Time) (calls : ℕ) :
    ∃ job', S.records ((markJobFailed jobId error diagnostics).run (performAlone S outcome clock)
        (s, calls)).2.1 k = some job' ∧
      job'.status = if (ForecastJobDiagnostics.ofDict ((diagnostics.getD []).override "message"
        (diagnosticMessage (diagnostics.getD [])))).isSome then .failed else .running := by
  rw [markJobFailed, run_getJob hk hjob, if_neg (not_not.mpr hstatus), run_clockNow]
  exact run_complete (fun _ => rfl) (fun _ => hid) (fun _ => rfl) hjob hstatus

lemma run_markJobSucceeded (hk : normalizeJobId jobId = .ok k) (hjob : S.records s k = some job)
    (hstatus : job.status = .running) (hid : job.id = k)
    (providerResult : ForecastProviderResult) (outcome : ProviderOutcome ForecastProviderResult)
    (clock : ℕ → Time) (calls : ℕ) :
    ∃ job', S.records ((markJobSucceeded jobId providerResult).run (performAlone S outcome clock)
        (s, calls)).2.1 k = some job' ∧
      job'.status = if (ForecastJobDiagnostics.ofDict (providerResult.diagnostics.override
        "message" (.str "Forecast summary is ready."))).isSome then .succeeded else .running := by
  rw [markJobSucceeded, run_clockNow, run_getJob hk hjob, if_neg (not_not.mpr hstatus)]
  exact run_complete (fun _ => rfl) (fun _ => hid) (fun _ => rfl) hjob hstatus

/-- What is stored once the provider has answered. -/
lemma run_finishJob (hk : normalizeJobId jobId = .ok k) (hjob : S.records s k = some job)
    (hstatus : job.status = .running) (hid : job.id = k)
    (answer : ProviderOutcome ForecastProviderResult) (hcaught : answer ≠ .interrupted)
    (outcome : ProviderOutcome ForecastProviderResult) (clock : ℕ → Time) (calls : ℕ) :
    ∃ job', S.records ((finishJob jobId answer).run (performAlone S outcome clock)
        (s, calls)).2.1 k = some job' ∧
      ((job'.status = .succeeded ∨ job'.status = .failed) ↔ DiagnosticsFit true answer) := by
  cases answer with
  | returned providerResult =>
    obtain ⟨job', hjob', hstatus'⟩ := run_markJobSucceeded hk hjob hstatus hid providerResult
      outcome clock calls
    refine ⟨job', hjob', ?_⟩
    rw [hstatus']
    simp only [DiagnosticsFit, forall_const]
    split <;> simp_all
  | unavailable message diagnostics =>
    obtain ⟨job', hjob', hstatus'⟩ := run_markJobFailed hk hjob hstatus hid message
      (some (unavailableDiagnostics message diagnostics)) outcome clock calls
    refine ⟨job', hjob', ?_⟩
    rw [hstatus']
    simp only [DiagnosticsFit, Option.getD_some]
    split <;> simp_all
  | failed message =>
    obtain ⟨job', hjob', hstatus'⟩ := run_markJobFailed hk hjob hstatus hid
      ("Unexpected forecast job error: " ++ message) none outcome clock calls
    refine ⟨job', hjob', ?_⟩
    rw [hstatus', if_pos isSome_ofDict_failed]
    simp [DiagnosticsFit]
  | interrupted => exact absurd rfl hcaught

/-- What the command makes of the provider's outcome. -/
def answerOf (diagnosticMethod : Bool) (outcome : ProviderOutcome ForecastProviderResult) :
    ProviderOutcome ForecastProviderResult :=
  if diagnosticMethod then outcome
  else (outcome.map (·.summary)).map fun summary =>
    ⟨summary, [("provider", .str summary.provider.text),
      ("message", .str "Provider did not return extended job diagnostics.")]⟩

lemma run_getProviderResult (diagnosticMethod : Bool)
    (f : ProviderOutcome ForecastProviderResult → JobProgram Unit) :
    (getProviderResult diagnosticMethod job >>= f).run (performAlone S outcome clock) (s, calls) =
      (f (answerOf diagnosticMethod outcome)).run (performAlone S outcome clock)
        (s, calls + 1) := by
  cases diagnosticMethod <;> rfl

/-- The diagnostics of a provider without the method fit. -/
lemma diagnosticsFit_answerOf (diagnosticMethod : Bool)
    (outcome : ProviderOutcome ForecastProviderResult) :
    DiagnosticsFit true (answerOf diagnosticMethod outcome) ↔
      DiagnosticsFit diagnosticMethod outcome := by
  cases diagnosticMethod with
  | true => rfl
  | false =>
    cases outcome with
    | returned providerResult =>
      refine iff_of_true (fun _ => ?_) (fun h => by cases h)
      refine ForecastJobDiagnostics.isSome_ofDict_override_message ?_ _
      simp [ForecastJobDiagnostics.ofDict, pydanticField, List.lookup_cons, Runtime.toOptStr_str]
    | unavailable message diagnostics => rfl
    | failed message => rfl
    | interrupted => rfl

/-- **A run alone.**  A queued job ends succeeded or failed exactly when the diagnostics of the
provider fit. -/
theorem runForecastJob_completes_iff (S : ForecastJobStore) (diagnosticMethod : Bool)
    (outcome : ProviderOutcome ForecastProviderResult) (clock : ℕ → Time) {s : S.State}
    {jobId : String} {job : ForecastJob} (hjob : S.get s jobId = .ok job)
    (hqueued : job.status = .queued) (hcaught : outcome ≠ .interrupted) :
    (∃ job', S.get ((runForecastJob diagnosticMethod jobId).run (performAlone S outcome clock)
        (s, 0)).2.1 jobId = .ok job' ∧ (job'.status = .succeeded ∨ job'.status = .failed)) ↔
      DiagnosticsFit diagnosticMethod outcome := by
  rw [S.get_eq, Records.get_eq_ok] at hjob
  obtain ⟨k, hk, hstored⟩ := hjob
  obtain ⟨hid, -⟩ := S.records_id s k job hstored
  have hexpected : job.status ∈ ({.queued} : Finset ForecastJobStatus) :=
    Finset.mem_singleton.mpr hqueued
  have hclaim : (runningJob job (clock 1)).id = k := hid
  obtain ⟨s', hs', hrun⟩ := run_tryUpdateIfStatus hclaim hstored hexpected outcome clock 2
  have hanswer : answerOf diagnosticMethod outcome ≠ .interrupted := by
    cases diagnosticMethod <;> cases outcome <;> simp_all [answerOf, ProviderOutcome.map]
  obtain ⟨job', hjob', hfit⟩ := run_finishJob hk hs' rfl hid
    (answerOf diagnosticMethod outcome) hanswer outcome clock 5
  have hfinal : (runForecastJob diagnosticMethod jobId).run (performAlone S outcome clock) (s, 0) =
      (finishJob jobId (answerOf diagnosticMethod outcome)).run (performAlone S outcome clock)
        (s', 5) := by
    rw [runForecastJob, run_getJob hk hstored, if_neg (not_not.mpr hqueued), run_clockNow, hrun]
    exact run_getProviderResult diagnosticMethod _
  rw [hfinal, ← diagnosticsFit_answerOf, ← hfit]
  simp only [get_eq_of_records hk hjob', Except.ok.injEq, exists_eq_left']

end Alone

end Runtime

/-! ## Diagnostics of the wrong type -/

section Sample

open StrictRuntime

/-- A store with one queued job. -/
def queuedStore : memoryStore.State :=
  (InMemoryForecastJobStore.create .empty 37 126 none 1 0 sampleId).2

/-- A provider that is unavailable and says so with a text for a number. -/
def illTypedOutcome : ProviderOutcome ForecastProviderResult :=
  .unavailable "upstream failed" (some [("poll_attempts", .str "many")])

/-- The job is left running. -/
theorem runForecastJob_strands :
    (memoryStore.get queuedStore sampleId).map (·.status) = .ok .queued ∧
      ¬ ∃ job', memoryStore.get ((runForecastJob true sampleId).run
          (performAlone memoryStore illTypedOutcome fun n => n) (queuedStore, 0)).2.1 sampleId =
            .ok job' ∧
        (job'.status = .succeeded ∨ job'.status = .failed) := by
  have hrunning : (memoryStore.get ((runForecastJob true sampleId).run
      (performAlone memoryStore illTypedOutcome fun n => n) (queuedStore, 0)).2.1 sampleId).map
        (·.status) = .ok .running := by
    rfl
  refine ⟨rfl, ?_⟩
  rintro ⟨job', hjob', hstatus⟩
  rw [hjob'] at hrunning
  have hstatus' : job'.status = .running := Except.ok.inj hrunning
  rw [hstatus'] at hstatus
  simp at hstatus

/-- A provider that is unavailable without diagnostics leaves a job that has failed. -/
theorem runForecastJob_completes_sample :
    ∃ job', memoryStore.get ((runForecastJob true sampleId).run
        (performAlone memoryStore (.unavailable "upstream failed" none) fun n => n)
          (queuedStore, 0)).2.1 sampleId = .ok job' ∧
      (job'.status = .succeeded ∨ job'.status = .failed) := by
  cases hjob : memoryStore.get queuedStore sampleId with
  | error e => cases hjob
  | ok job =>
    have hqueued : job.status = .queued := by
      cases hjob
      rfl
    exact (runForecastJob_completes_iff memoryStore true (.unavailable "upstream failed" none)
      (fun n => n) hjob hqueued (by decide)).mpr rfl

end Sample

end Earth2Sandbox
