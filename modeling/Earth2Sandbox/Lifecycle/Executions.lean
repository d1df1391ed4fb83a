import Earth2Sandbox.Lifecycle.EventHistory

/-!
# Which execution runs a job

A run claims its job by the guarded write from queued to running.  Nothing but the requeue of
a recovery makes a job queued again, so without a requeue the claim is the job's only one: it
entitles its task to the single provider call of the job, and to the completion.

With recovery in between the guard of a completion cannot tell two running periods apart: a run
may complete the period that a later run has opened (`superseded_run_completes`).  What does
hold is `completion_follows_own_claim`.
-/

namespace Earth2Sandbox

section Runtime

variable [Runtime] {S : ForecastJobStore} {permitted : Command → Bool} {config : ServiceConfig}

/-- A recovery has moved the running job `k` back to queued. -/
def Event.Requeues (e : Event S) (k : String) : Prop :=
  (∃ stale, e.command = .recover stale) ∧ e.Moves k .running .queued

/-- A provider call comes from a run that has claimed its job and has not called before. -/
lemma justified_provider {command : Command} {mine : List (Event S)} {c : JobCall}
    (hcall : c.callsProvider = true) (h : Justified command mine c) :
    ∃ jobId k, command = .run jobId ∧ normalizeJobId jobId = .ok k ∧ Claimed k mine ∧
      ∀ e ∈ mine, e.call.callsProvider = false := by
  cases c with
  | getPointForecastWithDiagnostics _ _ => exact h
  | getPointForecast _ _ => exact h
  | _ => cases hcall

/-! ## Committed writes -/

section Writes

variable {init : S.State} {s : Lifecycle S}

/-- A committed record in full: its write site, and what it has replaced. -/
lemma Trace.write_of_mem (h : Trace permitted init s) {later earlier : List (Event S)}
    {e : Event S} (hs : s.history = later ++ e :: earlier) {job : ForecastJob}
    (hjob : e.committed = some job) : ∃ snapshot written current expected now,
      GuardedWrite e.command snapshot written expected ∧
      (e.command.isRun = true → expected = {.running} → Claimed job.id (own e.task earlier)) ∧
      S.records e.before job.id = some current ∧ current.status ∈ expected ∧
      job = { written with updatedAt := now } := by
  obtain ⟨s₁, s₂, htrace₁, rfl, hbefore, -, -, heffect⟩ := h.split hs
  cases heffect with
  | kept _ _ hnone => cases hnone.symm.trans hjob
  | created _ _ _ _ _ _ _ _ _ _ _ hnone => cases hnone.symm.trans hjob
  | deleted _ _ _ _ _ _ _ _ hnone => cases hnone.symm.trans hjob
  | written snapshot written current expected now _ hwrite hclaim hcurrent hmem hcommitted _ _ =>
    cases hcommitted.symm.trans hjob
    refine ⟨snapshot, written, current, expected, now, hwrite, ?_, ?_, hmem, rfl⟩
    · simpa only [hwrite.id_eq] using hclaim
    · simpa only [hwrite.id_eq, hbefore] using hcurrent

lemma Trace.requeues_of_queued (h : Trace permitted init s) {e : Event S}
    (he : e ∈ s.history) {job : ForecastJob} (hjob : e.committed = some job)
    (hqueued : job.status = .queued) : e.Requeues job.id := by
  obtain ⟨later, earlier, hs⟩ := List.append_of_mem he
  obtain ⟨snapshot, written, current, expected, now, hwrite, -, hcurrent, hmem, rfl⟩ :=
    h.write_of_mem hs hjob
  generalize hcommand : e.command = command at hwrite
  cases hwrite with
  | recovered stale _ _ _ =>
    exact ⟨⟨stale, hcommand⟩, current, _, hcurrent, Finset.mem_singleton.mp hmem, hjob, rfl,
      rfl⟩
  | _ => cases hqueued

/-- A property of the record that a commit has stored persists as long as every later commit
of the job keeps it. -/
lemma Trace.persists (h : Trace permitted init s) {mid before : List (Event S)} {e : Event S}
    (hs : s.history = mid ++ e :: before) {job : ForecastJob} (hjob : e.committed = some job)
    {Q : ForecastJob → Prop} (hQ : Q job)
    (hkeep : ∀ later e' earlier current job', mid = later ++ e' :: earlier →
      S.records e'.before job.id = some current → Q current → e'.committed = some job' →
      job'.id = job.id → Q job') {current : ForecastJob}
    (hcurrent : S.records s.store job.id = some current) : Q current := by
  induction h generalizing mid current with
  | nil => simp [Lifecycle.initial] at hs
  | @cons s s' t command c r input htrace _ hjust hperform ih =>
    have heffect := effect_of_perform htrace hjust hperform
    rw [history_of_perform hperform] at hs
    cases mid with
    | nil =>
      obtain ⟨rfl, rfl⟩ := List.cons.inj hs
      cases (heffect.stored_of_committed hjob).symm.trans hcurrent
      exact hQ
    | cons e₀ mid =>
      obtain ⟨rfl, hrest⟩ := List.cons.inj hs
      have he : e ∈ s.history := by
        rw [hrest]
        exact List.mem_append_right _ List.mem_cons_self
      have ih' : ∀ current, S.records s.store job.id = some current → Q current :=
        fun current hc => ih hrest (fun later e' earlier current job' hmid =>
          hkeep (_ :: later) e' earlier current job' (congrArg _ hmid)) hc
      by_cases hcommits : (⟨t, command, c, r, s.store⟩ : Event S).Commits job.id
      · obtain ⟨job', hjob', hid⟩ := hcommits
        obtain ⟨_, before', _, -, hbefore, -⟩ := heffect.committed_cases hjob'
        cases (hid ▸ heffect.stored_of_committed hjob').symm.trans hcurrent
        rw [hid] at hbefore
        exact hkeep [] _ mid before' _ rfl hbefore (ih' before' hbefore) hjob' hid
      · have hissued : s.issued job.id = true := by
          obtain ⟨s₁, s₂, -, -, hbefore, -, -, heffect'⟩ := htrace.split hrest
          obtain ⟨_, _, _, -, hstored, -⟩ := heffect'.committed_cases hjob
          refine issued_of_mem htrace he ?_
          rw [hbefore, hstored]
          rfl
        rcases heffect.not_commits_cases hissued hcommits with hsame | hnone
        · exact ih' current (hsame ▸ hcurrent)
        · cases hnone.symm.trans hcurrent

/-- Up to the next requeue a claim is the only one. -/
lemma Trace.claimed_once (h : Trace permitted init s) {mid before : List (Event S)}
    {claim : Event S} (hs : s.history = mid ++ claim :: before) {k : String}
    (hclaim : claim.Moves k .queued .running) (hquiet : ∀ e ∈ mid, ¬ e.Requeues k) :
    ∀ e ∈ mid, ¬ e.Moves k .queued .running := by
  rintro e he ⟨current, -, hcurrent, hqueued, -⟩
  obtain ⟨later, earlier, rfl⟩ := List.append_of_mem he
  obtain ⟨-, job, -, -, hjob, rfl, hrunning⟩ := hclaim
  obtain ⟨s₁, -, htrace₁, (hs₁ : s₁.history = earlier ++ claim :: before), hbefore, -⟩ :=
    h.split (hs.trans (List.append_assoc later (e :: earlier) (claim :: before)))
  refine htrace₁.persists (Q := fun j => j.status ≠ .queued) hs₁ hjob (by simp [hrunning]) ?_
    (hbefore ▸ hcurrent) hqueued
  rintro later' e' earlier' _ job' rfl - - hjob' hid hqueued'
  exact hquiet e' (by simp) (hid ▸ htrace₁.requeues_of_queued (by simp [hs₁]) hjob' hqueued')

lemma Trace.claim_unique (h : Trace permitted init s) {k : String}
    (hquiet : ∀ e ∈ s.history, ¬ e.Requeues k) {e e' : Event S} (he : e ∈ s.history)
    (he' : e' ∈ s.history) (hclaim : e.Moves k .queued .running)
    (hclaim' : e'.Moves k .queued .running) : e = e' := by
  obtain ⟨mid, before, hs⟩ := List.append_of_mem he
  rw [hs, List.mem_append, List.mem_cons] at he'
  rcases he' with hmid | rfl | hbefore
  · refine absurd hclaim' (h.claimed_once hs hclaim (fun e he => hquiet e ?_) e' hmid)
    exact hs ▸ List.mem_append_left _ he
  · rfl
  · obtain ⟨mid', before', rfl⟩ := List.append_of_mem hbefore
    have hs' : s.history = (mid ++ e :: mid') ++ e' :: before' := by simp [hs]
    refine absurd hclaim (h.claimed_once hs' hclaim' (fun e he => hquiet e ?_) e (by simp))
    exact hs' ▸ List.mem_append_left _ he

lemma Trace.not_claimed_of_terminal (h : Trace permitted init s) {later mid before : List (Event S)}
    {claim e : Event S} (hs : s.history = later ++ claim :: (mid ++ e :: before)) {k : String}
    (hclaim : claim.Moves k .queued .running) {job : ForecastJob}
    (hjob : e.committed = some job) (hid : job.id = k) : job.status ∉ terminalJobStatuses := by
  intro hterminal
  subst hid
  obtain ⟨current, -, hcurrent, hqueued, -⟩ := hclaim
  obtain ⟨s₁, -, htrace₁, hs₁, hbefore, -⟩ := h.split hs
  have := htrace₁.persists (Q := fun j => j.status ∈ terminalJobStatuses) hs₁ hjob hterminal
    ?_ (hbefore ▸ hcurrent)
  · simp [hqueued] at this
  · rintro later' e' earlier' current' job' rfl hcurrent' hterm hjob' hid'
    -- a guarded write replaces active records only
    obtain ⟨_, _, current'', _, _, hwrite, -, hcurrent'', hmem, -⟩ := htrace₁.write_of_mem
      (hs₁.trans (List.append_assoc later' (e' :: earlier') (e :: before))) hjob'
    rw [hid', hcurrent'] at hcurrent''
    cases hcurrent''
    exact absurd hterm (not_mem_terminal_iff_active.mpr (hwrite.expected_active hmem))

/-- A run completes a job that it has claimed itself. -/
lemma Trace.claimed_of_completion (h : Trace permitted init s) {later earlier : List (Event S)}
    {e : Event S} (hs : s.history = later ++ e :: earlier) {job : ForecastJob}
    (hrun : e.command.isRun = true) (hjob : e.committed = some job)
    (hstatus : job.status = .succeeded ∨ job.status = .failed) :
    Claimed job.id (own e.task earlier) := by
  obtain ⟨snapshot, written, current, expected, now, hwrite, hclaim, -, -, rfl⟩ :=
    h.write_of_mem hs hjob
  refine hclaim hrun ?_
  generalize e.command = command at hrun hwrite
  cases hwrite with
  | succeeded _ _ _ _ _ _ => rfl
  | failed _ _ _ _ _ _ => rfl
  | running _ _ _ _ => rcases hstatus with hstatus | hstatus <;> cases hstatus
  | _ => cases hrun

end Writes

/-! ## Completions -/

/-- **A run completes a job that it has claimed itself.**  When a run commits a succeeded or
failed record, it has committed the queued-to-running transition of the job earlier, and that
is the most recent one unless a recovery has committed a requeue of the job after it. -/
theorem completion_follows_own_claim (S : ForecastJobStore) (config : ServiceConfig)
    (permitted : Command → Bool) (init : S.State) {cfg : LifecycleConfig S}
    (h : (lifecycle S config permitted).Reaches (Lifecycle.initial init) cfg)
    {later earlier : List (Event S)} {e : Event S}
    (hhistory : cfg.shared.history = later ++ e :: earlier)
    {job : ForecastJob} (hrun : e.command.isRun = true) (hjob : e.committed = some job)
    (hstatus : job.status = .succeeded ∨ job.status = .failed) :
    ∃ mid claim before, earlier = mid ++ claim :: before ∧ claim.task = e.task ∧
      claim.Moves job.id .queued .running ∧
      ((∀ e' ∈ mid, ¬ e'.Moves job.id .queued .running) ∨ ∃ e' ∈ mid, e'.Requeues job.id) := by
  have htrace := trace_of_reaches h
  obtain ⟨claim, hclaim, hmoves⟩ := htrace.claimed_of_completion hhistory hrun hjob hstatus
  obtain ⟨hmem, htask⟩ := mem_own.mp hclaim
  obtain ⟨mid, before, rfl⟩ := List.append_of_mem hmem
  refine ⟨mid, claim, before, rfl, htask, hmoves, ?_⟩
  obtain ⟨s₁, -, htrace₁, hs₁, -⟩ := htrace.split hhistory
  by_cases hquiet : ∀ e' ∈ mid, ¬ e'.Requeues job.id
  · exact .inl (htrace₁.claimed_once hs₁ hmoves hquiet)
  · simp only [not_forall, not_not] at hquiet
    obtain ⟨e', he', hrequeue⟩ := hquiet
    exact .inr ⟨e', he', hrequeue⟩

/-! ## Provider calls -/

/-- Every command but recovery. -/
def noRecovery : Command → Bool
  | .recover _ => false
  | _ => true

/-- **The provider is called at most once for a job.**  Without recovery, a provider call
belongs to a run of some job `k`; no earlier call does; the same run has committed the
queued-to-running transition of `k` before the call; and no cancellation of `k` was committed
before that transition. -/
theorem provider_called_once (S : ForecastJobStore) (config : ServiceConfig) (init : S.State)
    {cfg : LifecycleConfig S}
    (h : (lifecycle S config noRecovery).Reaches (Lifecycle.initial init) cfg)
    {later earlier : List (Event S)} {e : Event S}
    (hhistory : cfg.shared.history = later ++ e :: earlier)
    (hcall : e.call.callsProvider = true) :
    ∃ k, e.RequestsForecast k ∧ (∀ e' ∈ earlier, ¬ e'.RequestsForecast k) ∧
      ∃ mid claim before, earlier = mid ++ claim :: before ∧ claim.task = e.task ∧
        claim.Moves k .queued .running ∧
        ∀ e' ∈ before, ∀ old, ¬ e'.Moves k old .cancelled := by
  have htrace := trace_of_reaches h
  have hquiet : ∀ k, ∀ e' ∈ cfg.shared.history, ¬ e'.Requeues k := by
    rintro k e' he' ⟨⟨stale, hcommand⟩, -⟩
    obtain ⟨later', earlier', hhistory'⟩ := List.append_of_mem he'
    obtain ⟨-, -, -, -, -, hpermitted, -⟩ := htrace.split hhistory'
    simp [hcommand, noRecovery] at hpermitted
  obtain ⟨-, -, -, -, -, -, hjust, -⟩ := htrace.split hhistory
  obtain ⟨jobId, k, hcommand, hk, hclaimed, hfirst⟩ := justified_provider hcall hjust
  obtain ⟨claim, hclaim, hmoves⟩ := hclaimed
  obtain ⟨hmem, htask⟩ := mem_own.mp hclaim
  have hsub : ∀ e' ∈ earlier, e' ∈ cfg.shared.history := fun e' he' =>
    hhistory ▸ List.mem_append_right _ (List.mem_cons_of_mem _ he')
  refine ⟨k, ⟨hcall, jobId, hcommand, hk⟩, ?_, ?_⟩
  · -- another call for the same job comes with the same claim, hence from the same task
    rintro e' he' ⟨hcall', jobId', hcommand', hk'⟩
    obtain ⟨later', earlier', hearlier⟩ := List.append_of_mem he'
    have hhistory' : cfg.shared.history = (later ++ e :: later') ++ e' :: earlier' := by
      simp [hhistory, hearlier]
    obtain ⟨-, -, -, -, -, -, hjust', -⟩ := htrace.split hhistory'
    obtain ⟨jobId'', k', hcommand'', hk'', ⟨claim', hclaim', hmoves'⟩, -⟩ :=
      justified_provider hcall' hjust'
    cases hcommand'.symm.trans hcommand''
    cases hk'.symm.trans hk''
    obtain ⟨hmem', htask'⟩ := mem_own.mp hclaim'
    have hsame := htrace.claim_unique (hquiet k) (hsub _ hmem) (hsub claim' (by
      rw [hearlier]
      exact List.mem_append_right _ (List.mem_cons_of_mem _ hmem'))) hmoves hmoves'
    have := hfirst e' (mem_own.mpr ⟨he', by rw [← htask', ← hsame, htask]⟩)
    rw [hcall'] at this
    cases this
  · obtain ⟨mid, before, rfl⟩ := List.append_of_mem hmem
    refine ⟨mid, claim, before, rfl, htask, hmoves, ?_⟩
    rintro e' he' old ⟨-, job, -, -, hjob, hid, hcancelled⟩
    obtain ⟨mid', before', rfl⟩ := List.append_of_mem he'
    have hhistory' : cfg.shared.history =
        (later ++ e :: mid) ++ claim :: (mid' ++ e' :: before') := by
      simp [hhistory]
    exact htrace.not_claimed_of_terminal hhistory' hmoves hjob hid (by simp [hcancelled])

end Runtime

section Sample

open StrictRuntime

/-- A forecast. -/
def sampleSummary : ForecastSummary where
  provider := .mock
  generatedAt := 0
  latitude := 52
  longitude := 13
  headline := "Clear"
  metrics := []
  model := ⟨"FourCastNet", "mock", "25 km", .mock⟩
  forecastWindow := ⟨0, timedeltaHours 6, 6, [6]⟩
  timeline := []
  signals := []

/-- A provider that answers with the sample forecast. -/
def answered : CallInput := { outcome := .returned ⟨sampleSummary, []⟩ }

/-- A job is submitted and run to its end. -/
def completedSample : LifecycleConfig memoryStore :=
  (lifecycle memoryStore {} noRecovery).after (Lifecycle.initial .empty)
    [.start (.submit 52 13), .act 0 { newId := sampleId }, .start (.run sampleId),
      .act 1 {}, .act 1 { clock := 5 }, .act 1 { clock := 6 }, .act 1 {}, .act 1 answered,
      .act 1 { clock := 7 }, .act 1 {}, .act 1 { clock := 8 }]

/-- A run claims the job, recovery requeues it, a second run claims it, and the first run's
answer arrives. -/
def supersededSample : LifecycleConfig memoryStore :=
  (lifecycle memoryStore {} allCommands).after (Lifecycle.initial .empty)
    [.start (.submit 52 13), .act 0 { newId := sampleId },
      .start (.run sampleId), .act 1 {}, .act 1 { clock := 5 }, .act 1 { clock := 6 }, .act 1 {},
      .start (.recover none), .act 2 { clock := 7 }, .act 2 {}, .act 2 { clock := 8 }, .act 2 {},
      .start (.run sampleId), .act 3 {}, .act 3 { clock := 9 }, .act 3 { clock := 10 }, .act 3 {},
      .act 1 answered, .act 1 { clock := 11 }, .act 1 {}, .act 1 { clock := 12 }]

/-- The latest event completes the job for task `i`, and the claim before it is of task `j`. -/
def completedBy (i j : ℕ) : List (Event memoryStore) → Bool
  | [] => false
  | e :: earlier =>
    e.task = i && e.command.isRun && e.committed.any (fun job => job.status = .succeeded) &&
      (earlier.find? (·.Moves sampleId .queued .running)).any (·.task = j)

lemma completedBy_cases {i j : ℕ} {history : List (Event memoryStore)}
    (h : completedBy i j history = true) :
    ∃ e earlier job, history = e :: earlier ∧ e.task = i ∧ e.command.isRun = true ∧
      e.committed = some job ∧ job.status = .succeeded ∧
      ∃ claim, earlier.find? (·.Moves sampleId .queued .running) = some claim ∧
        claim.task = j := by
  cases history with
  | nil => cases h
  | cons e earlier =>
    simp only [completedBy, Bool.and_eq_true, decide_eq_true_eq, Option.any_eq_true] at h
    obtain ⟨⟨⟨htask, hrun⟩, job, hjob, hstatus⟩, claim, hclaim, htask'⟩ := h
    exact ⟨e, earlier, job, rfl, htask, hrun, hjob, hstatus, claim, hclaim, htask'⟩

/-- The first run completes the running period that the second one has opened: the most recent
queued-to-running transition before its completion is not its own. -/
theorem superseded_run_completes :
    (lifecycle memoryStore {} allCommands).Reaches (Lifecycle.initial .empty)
      supersededSample ∧
    ∃ e earlier job, supersededSample.shared.history = e :: earlier ∧
      e.command.isRun = true ∧ e.committed = some job ∧ job.status = .succeeded ∧
      ∃ claim, earlier.find? (·.Moves sampleId .queued .running) = some claim ∧
        claim.task ≠ e.task := by
  have hcompleted : completedBy 1 3 supersededSample.shared.history = true := by
    decide +kernel
  obtain ⟨e, earlier, job, hhistory, htask, hrun, hjob, hstatus, claim, hclaim, htask'⟩ :=
    completedBy_cases hcompleted
  exact ⟨System.reaches_after _ _, e, earlier, job, hhistory, hrun, hjob, hstatus, claim, hclaim,
    by rw [htask, htask']; decide⟩

/-- The completion of an undisturbed run follows its own claim. -/
theorem completion_follows_own_claim_completed :
    ∃ e earlier job claim, completedSample.shared.history = e :: earlier ∧
      e.committed = some job ∧ claim ∈ earlier ∧ claim.task = e.task ∧
      claim.Moves job.id .queued .running := by
  have hcompleted : completedBy 1 1 completedSample.shared.history = true := by
    decide +kernel
  obtain ⟨e, earlier, job, hhistory, -, hrun, hjob, hstatus, -⟩ := completedBy_cases hcompleted
  obtain ⟨mid, claim, before, rfl, htask, hmoves, -⟩ :=
    completion_follows_own_claim memoryStore {} noRecovery .empty (System.reaches_after _ _)
      (List.nil_append (e :: earlier) ▸ hhistory) hrun hjob (.inl hstatus)
  exact ⟨e, _, job, claim, hhistory, hjob, by simp, htask, hmoves⟩

/-- The provider call of that run comes after its claim. -/
theorem provider_called_once_completed :
    ∃ k e claim, e ∈ completedSample.shared.history ∧ e.RequestsForecast k ∧
      claim ∈ completedSample.shared.history ∧ claim.task = e.task ∧
      claim.Moves k .queued .running := by
  have hcalls : completedSample.shared.history.any (·.call.callsProvider) = true := by
    decide +kernel
  obtain ⟨e, he, hcall⟩ := List.any_eq_true.mp hcalls
  obtain ⟨later, earlier, hhistory⟩ := List.append_of_mem he
  obtain ⟨k, hrequests, -, mid, claim, before, rfl, htask, hmoves, -⟩ :=
    provider_called_once memoryStore {} .empty (System.reaches_after _ _) hhistory hcall
  exact ⟨k, e, claim, he, hrequests, by rw [hhistory]; simp, htask, hmoves⟩

end Sample

end Earth2Sandbox
