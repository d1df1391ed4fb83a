import Earth2Sandbox.Lifecycle.History
import Earth2Sandbox.Framework.RelyGuarantee

/-!
# What each command does, whatever the others do

`Justified` says when a call is in order, given the earlier events of the same task: a guarded
write stores one of six records built from the snapshot that the task has read last, under the
expected statuses of its write site; a completion and a provider call come after the task's own
claim of the job.  `Sourced` adds where the data of a call come from: `Descends` for the lineage
of a created job, `Dated` for the time in a written record.

`Command.program_sourced` is the theorem that every command makes sourced calls only, whatever
replies it gets; `Command.program_follows` is what is left of it without the sources.
-/

namespace Earth2Sandbox

variable [Runtime] {S : ForecastJobStore}

/-! ## Justified calls -/

/-- The guarded writes of the commands: snapshot, record written and expected statuses. -/
inductive GuardedWrite : Command → ForecastJob → ForecastJob → Finset ForecastJobStatus → Prop
  | running (jobId : String) (snapshot : ForecastJob) (now : Time) :
      snapshot.status = .queued →
      GuardedWrite (.run jobId) snapshot (runningJob snapshot now) {.queued}
  | succeeded (jobId : String) (snapshot : ForecastJob) (summary : ForecastSummary)
      (diagnostics : ForecastJobDiagnostics) (completed : Time) :
      snapshot.status = .running →
      GuardedWrite (.run jobId) snapshot (succeededJob snapshot summary diagnostics completed)
        {.running}
  | failed (jobId : String) (snapshot : ForecastJob) (error : String)
      (diagnostics : ForecastJobDiagnostics) (failedAt : Time) :
      snapshot.status = .running →
      GuardedWrite (.run jobId) snapshot (failedJob snapshot error diagnostics failedAt)
        {.running}
  | cancelled (jobId : String) (snapshot : ForecastJob) (now : Time) :
      snapshot.status ∉ terminalJobStatuses →
      GuardedWrite (.cancel jobId) snapshot (cancelledJob snapshot now) activeJobStatuses
  | recovered (timeout : Option ℤ) (snapshot : ForecastJob) (now : Time) :
      snapshot.status = .running →
      GuardedWrite (.recover timeout) snapshot (recoveredJob snapshot now) {.running}
  | timedOut (timeout : Option ℤ) (snapshot : ForecastJob) (now : Time) (seconds : ℤ) :
      snapshot.status ∈ activeJobStatuses →
      GuardedWrite (.recover timeout) snapshot (timedOutJob snapshot now seconds)
        activeJobStatuses

/-- The command is a run. -/
def Command.isRun : Command → Bool
  | .run _ => true
  | _ => false

/-- A call is in order after the task's own events `mine`. -/
def Justified (command : Command) (mine : List (Event S)) : JobCall → Prop
  | .updateIfStatus job expected =>
    ∃ snapshot, lastRead snapshot.id mine = some snapshot ∧
      GuardedWrite command snapshot job expected ∧
      (command.isRun = true → expected = {.running} → Claimed snapshot.id mine)
  | .getPointForecastWithDiagnostics .. | .getPointForecast .. =>
    ∃ jobId k, command = .run jobId ∧ normalizeJobId jobId = .ok k ∧ Claimed k mine ∧
      ∀ e ∈ mine, e.call.callsProvider = false
  | .create .. => (∃ latitude longitude, command = .submit latitude longitude) ∨
      ∃ jobId, command = .retry jobId
  | .deleteOlderThan .. => ∃ hours statuses, command = .cleanup hours statuses
  | _ => True

/-- The lineage of a created job: a submitted job is a first attempt, and a retry takes its
coordinates and its attempt from a terminal record that its task has read. -/
def Descends (command : Command) (mine : List (Event S)) : JobCall → Prop
  | .create latitude longitude parent attempt =>
    ((∃ latitude longitude, command = .submit latitude longitude) ∧ parent = none ∧
        attempt = 1) ∨
      ∃ jobId source, command = .retry jobId ∧ lastRead source.id mine = some source ∧
        source.status ∈ terminalJobStatuses ∧ latitude = source.latitude ∧
        longitude = source.longitude ∧ parent = some source.id ∧ attempt = source.attempt + 1
  | _ => True

/-- The time in a written record is a reading of the clock by the task itself, made after it has
read the snapshot or, for a success, after it has claimed the job. -/
def Dated (command : Command) (mine : List (Event S)) : JobCall → Prop
  | .updateIfStatus job _ => (∃ timeout, command = .recover timeout) ∨
      ∃ later e earlier time, mine = later ++ e :: earlier ∧ e.reading = some time ∧
        job.events.getLast?.map (·.occurredAt) = some time ∧
        (lastRead job.id earlier = lastRead job.id mine ∨
          job.status = .succeeded ∧ Claimed job.id earlier)
  | _ => True

/-- A call is in order, and its data have their sources among the task's own events. -/
structure Sourced (command : Command) (mine : List (Event S)) (c : JobCall) : Prop where
  justified : Justified command mine c
  descends : Descends command mine c
  dated : Dated command mine c

/-- The reply is one that the environment can give when the store is `before`. -/
def Answers (before : S.State) (c : JobCall) (r : JobReply c) : Prop :=
  ∃ input, (performStoreCall S before input c).1 = r

/-- After the task's own events `mine`, the program makes justified calls only. -/
def Follows (t : ℕ) (command : Command) {α : Type} :
    List (Event S) → JobProgram α → (List (Event S) → α → Prop) → Prop
  | mine, .ret a, post => post mine a
  | _, .raise _, _ => True
  | mine, .call c next, post =>
    Justified command mine c ∧
      ∀ before r, Answers before c r → Follows t command (⟨t, command, c, r, before⟩ :: mine)
        (next r) post

/-- After the task's own events `mine`, the program makes calls allowed by `J` only. -/
def FollowsBy (J : Command → List (Event S) → JobCall → Prop) (t : ℕ) (command : Command)
    {α : Type} : List (Event S) → JobProgram α → (List (Event S) → α → Prop) → Prop
  | mine, .ret a, post => post mine a
  | _, .raise _, _ => True
  | mine, .call c next, post =>
    J command mine c ∧
      ∀ before r, Answers before c r → FollowsBy J t command (⟨t, command, c, r, before⟩ :: mine)
        (next r) post

section FollowsBy

variable {J : Command → List (Event S) → JobCall → Prop} {t : ℕ} {command : Command}
  {α β : Type} {mine : List (Event S)} {post : List (Event S) → α → Prop}

lemma FollowsBy.bind {p : JobProgram α} {f : α → JobProgram β}
    {post' : List (Event S) → β → Prop} (hp : FollowsBy J t command mine p post)
    (hf : ∀ mine a, post mine a → FollowsBy J t command mine (f a) post') :
    FollowsBy J t command mine (p >>= f) post' := by
  induction p generalizing mine with
  | ret a => exact hf mine a hp
  | raise e => trivial
  | call c next ih => exact ⟨hp.1, fun before r hr => ih r (hp.2 before r hr)⟩

lemma FollowsBy.follows {p : JobProgram α} (hp : FollowsBy Sourced t command mine p post) :
    Follows t command mine p post := by
  induction p generalizing mine with
  | ret a => exact hp
  | raise e => trivial
  | call c next ih => exact ⟨hp.1.justified, fun before r hr => ih r (hp.2 before r hr)⟩

end FollowsBy

/-! ## Replies of the store -/

lemma answers_get {before : S.State} {jobId : String} {job : ForecastJob}
    (h : Answers before (.get jobId) (.ok job)) :
    ∃ k, normalizeJobId jobId = .ok k ∧ S.records before k = some job ∧ job.id = k := by
  obtain ⟨input, h⟩ := h
  have h' : S.get before jobId = .ok job := h
  rw [S.get_eq] at h'
  obtain ⟨k, hk, hrec⟩ := Records.get_eq_ok.mp h'
  exact ⟨k, hk, hrec, (S.records_id before k job hrec).1⟩

lemma answers_updateIfStatus {before : S.State} {job updated : ForecastJob}
    {expected : Finset ForecastJobStatus}
    (h : Answers before (.updateIfStatus job expected) (.ok updated)) :
    ∃ k current now, normalizeJobId job.id = .ok k ∧ S.records before k = some current ∧
      current.status ∈ expected ∧ updated = { job with id := k, updatedAt := now } := by
  obtain ⟨input, h⟩ := h
  have h' : (S.updateIfStatus before job expected input.clock).1 = .ok updated := h
  rw [S.updateIfStatus_reply] at h'
  obtain ⟨e, he⟩ | ⟨k, current, hk, hrec, hmem, hok⟩ :=
    (S.records before).updateIfStatus_cases job expected input.clock
  · rw [he] at h'
    cases h'
  · rw [hok] at h'
    cases h'
    exact ⟨k, current, input.clock, hk, hrec, hmem, rfl⟩

lemma answers_listActive {before : S.State} {jobs : List ForecastJob}
    (h : Answers before .listActive jobs) : jobs = S.listActive before := by
  obtain ⟨input, h⟩ := h
  exact h.symm

/-! ## The parts of a command -/

section Parts

variable {t : ℕ} {command : Command} {α : Type} {mine : List (Event S)}
  {post : List (Event S) → α → Prop}

lemma sourced_get (jobId : String) : Sourced command mine (.get jobId) :=
  ⟨trivial, trivial, trivial⟩

lemma sourced_now : Sourced command mine .now := ⟨trivial, trivial, trivial⟩

lemma sourced_increment (event : String) :
    Sourced command mine (.incrementForecastJobEvent event) :=
  ⟨trivial, trivial, trivial⟩

lemma sourced_enqueue (jobId : String) : Sourced command mine (.enqueue jobId) :=
  ⟨trivial, trivial, trivial⟩

lemma follows_getJob {jobId : String} {f : ForecastJob → JobProgram α}
    (h : ∀ job before k, normalizeJobId jobId = .ok k → S.records before k = some job →
      job.id = k → FollowsBy Sourced t command
        (⟨t, command, .get jobId, .ok job, before⟩ :: mine) (f job) post) :
    FollowsBy Sourced t command mine (getJob jobId >>= f) post := by
  refine ⟨sourced_get jobId, fun before r hr => ?_⟩
  cases r with
  | error e => trivial
  | ok job =>
    obtain ⟨k, hk, hrec, hid⟩ := answers_get hr
    exact h job before k hk hrec hid

lemma follows_tryUpdateIfStatus {job : ForecastJob} {expected : Finset ForecastJobStatus}
    {f : Except ForecastJobStatus ForecastJob → JobProgram α}
    (hsourced : Sourced command mine (.updateIfStatus job expected))
    (hok : ∀ updated before, Answers before (.updateIfStatus job expected) (.ok updated) →
      FollowsBy Sourced t command
        (⟨t, command, .updateIfStatus job expected, .ok updated, before⟩ :: mine)
        (f (.ok updated)) post)
    (herror : ∀ status e before, FollowsBy Sourced t command
      (⟨t, command, .updateIfStatus job expected, .error e, before⟩ :: mine)
        (f (.error status)) post) :
    FollowsBy Sourced t command mine (tryUpdateIfStatus job expected >>= f) post := by
  refine ⟨hsourced, fun before r hr => ?_⟩
  cases r with
  | ok updated => exact hok updated before hr
  | error e =>
    cases e with
    | transition jobId status expected' => exact herror status _ before
    | _ => trivial

/-- A call whose reply says nothing. -/
lemma follows_call_bind {c : JobCall} {f : JobReply c → JobProgram α}
    (hsourced : Sourced command mine c)
    (h : ∀ r before, FollowsBy Sourced t command (⟨t, command, c, r, before⟩ :: mine) (f r)
      post) :
    FollowsBy Sourced t command mine (.call c .ret >>= f) post :=
  ⟨hsourced, fun before r _ => h r before⟩

lemma follows_validateDiagnostics {d : PyDict} {f : ForecastJobDiagnostics → JobProgram α}
    (h : ∀ diagnostics, FollowsBy Sourced t command mine (f diagnostics) post) :
    FollowsBy Sourced t command mine (validateDiagnostics d >>= f) post := by
  unfold validateDiagnostics
  split
  · trivial
  · next diagnostics _ => exact h diagnostics

end Parts

lemma lastRead_cons (k : String) (e : Event S) (mine : List (Event S)) :
    lastRead k (e :: mine) = (e.read k).or (lastRead k mine) := by
  unfold lastRead
  rw [List.findSome?_cons]
  cases e.read k <;> rfl

lemma Claimed.cons {k : String} {mine : List (Event S)} (h : Claimed k mine) (e : Event S) :
    Claimed k (e :: mine) := by
  obtain ⟨e', he', hmoves⟩ := h
  exact ⟨e', List.mem_cons_of_mem _ he', hmoves⟩

/-! ## The commands -/

section Commands

variable {t : ℕ} {mine : List (Event S)}

omit [Runtime] in
lemma getLast?_appendJobEvent (job : ForecastJob) (status : ForecastJobStatus)
    (message : String) (occurredAt : Time) :
    (appendJobEvent job status message occurredAt).events.getLast?.map (·.occurredAt) =
      some occurredAt := by
  simp [appendJobEvent]

lemma markJobFailed_follows {jobId k : String} (hk : normalizeJobId jobId = .ok k)
    (hclaim : Claimed k mine) (error : String) (diagnostics : Option PyDict) :
    FollowsBy Sourced t (.run jobId) mine (markJobFailed jobId error diagnostics)
      fun _ _ => True := by
  unfold markJobFailed
  refine follows_getJob fun job before k' hk' _ hid => ?_
  obtain rfl : k = k' := Except.ok.inj (hk.symm.trans hk')
  split
  · trivial
  · next hstatus =>
    refine follows_call_bind sourced_now fun failedAt _ => ?_
    refine follows_validateDiagnostics fun validated => ?_
    refine follows_tryUpdateIfStatus ⟨⟨job, ?_, ?_, fun _ _ => ?_⟩, trivial, ?_⟩
      (fun _ _ _ => ?_) fun _ _ _ => ?_
    · simp [lastRead_cons, Event.read]
    · exact .failed jobId job error validated failedAt (not_not.mp hstatus)
    · exact hid ▸ (hclaim.cons _).cons _
    · exact .inr ⟨[], _, _, failedAt, rfl, rfl, getLast?_appendJobEvent .., .inl rfl⟩
    · exact follows_call_bind (sourced_increment _) fun _ _ => trivial
    · trivial

lemma markJobSucceeded_follows {jobId k : String} (hk : normalizeJobId jobId = .ok k)
    (hclaim : Claimed k mine) (result : ForecastProviderResult) :
    FollowsBy Sourced t (.run jobId) mine (markJobSucceeded jobId result) fun _ _ => True := by
  unfold markJobSucceeded
  refine follows_call_bind sourced_now fun completed _ => ?_
  refine follows_getJob fun job before k' hk' _ hid => ?_
  obtain rfl : k = k' := Except.ok.inj (hk.symm.trans hk')
  split
  · trivial
  · next hstatus =>
    refine follows_validateDiagnostics fun validated => ?_
    refine follows_tryUpdateIfStatus ⟨⟨job, ?_, ?_, fun _ _ => ?_⟩, trivial, ?_⟩
      (fun _ _ _ => ?_) fun _ _ _ => ?_
    · simp [lastRead_cons, Event.read]
    · exact .succeeded jobId job result.summary validated completed (not_not.mp hstatus)
    · exact hid ▸ (hclaim.cons _).cons _
    · -- the clock was read before the record
      exact .inr ⟨[_], _, mine, completed, rfl, rfl, getLast?_appendJobEvent ..,
        .inr ⟨rfl, hid ▸ hclaim⟩⟩
    · exact follows_call_bind (sourced_increment _) fun _ _ => trivial
    · trivial

lemma finishJob_follows {jobId k : String} (hk : normalizeJobId jobId = .ok k)
    (hclaim : Claimed k mine) (outcome : ProviderOutcome ForecastProviderResult) :
    FollowsBy Sourced t (.run jobId) mine (finishJob jobId outcome) fun _ _ => True := by
  cases outcome with
  | returned result => exact markJobSucceeded_follows hk hclaim result
  | unavailable message diagnostics => exact markJobFailed_follows hk hclaim _ _
  | failed message => exact markJobFailed_follows hk hclaim _ _
  | interrupted => trivial

lemma getProviderResult_follows {jobId k : String} (hk : normalizeJobId jobId = .ok k)
    (hclaim : Claimed k mine) (hfirst : ∀ e ∈ mine, e.call.callsProvider = false)
    (diagnosticMethod : Bool) (job : ForecastJob) :
    FollowsBy Sourced t (.run jobId) mine (getProviderResult diagnosticMethod job)
      fun mine' _ => Claimed k mine' := by
  have hjust : ∃ jobId' k', Command.run jobId = .run jobId' ∧ normalizeJobId jobId' = .ok k' ∧
      Claimed k' mine ∧ ∀ e ∈ mine, e.call.callsProvider = false :=
    ⟨jobId, k, rfl, hk, hclaim, hfirst⟩
  unfold getProviderResult
  split
  · exact ⟨⟨hjust, trivial, trivial⟩, fun before r _ => hclaim.cons _⟩
  · exact ⟨⟨hjust, trivial, trivial⟩, fun before r _ => hclaim.cons _⟩

/-- The write that claims a job is a claim. -/
lemma claimed_of_running {jobId : String} {job updated : ForecastJob} {now : Time}
    {before : S.State} {k : String} (hid : job.id = k) (hk : Runtime.parseUuid k = some k)
    (h : Answers before (.updateIfStatus (runningJob job now) {.queued}) (.ok updated)) :
    Claimed k ((⟨t, .run jobId, .updateIfStatus (runningJob job now) {.queued}, .ok updated,
      before⟩ : Event S) :: mine) := by
  obtain ⟨k', current, now', hk', hrec, hmem, rfl⟩ := answers_updateIfStatus h
  have hk'' : normalizeJobId job.id = .ok k' := hk'
  rw [hid, normalizeJobId_canonical hk] at hk''
  obtain rfl : k = k' := Except.ok.inj hk''
  exact ⟨_, List.mem_cons_self, current, _, hrec, Finset.mem_singleton.mp hmem, rfl, rfl, rfl⟩

lemma runForecastJob_follows (diagnosticMethod : Bool) (jobId : String) :
    FollowsBy Sourced t (.run jobId) ([] : List (Event S)) (runForecastJob diagnosticMethod jobId)
      fun _ _ => True := by
  unfold runForecastJob
  refine follows_getJob fun job before k hk hrec hid => ?_
  split
  · trivial
  · next hstatus =>
    refine follows_call_bind sourced_now fun now _ => ?_
    refine follows_tryUpdateIfStatus ⟨⟨job, ?_, ?_, ?_⟩, trivial, ?_⟩
      (fun updated before' hok => ?_) fun _ _ _ => ?_
    · simp [lastRead_cons, Event.read]
    · exact .running jobId job now (not_not.mp hstatus)
    · intro _ h
      exact absurd h (by decide)
    · exact .inr ⟨[], _, _, now, rfl, rfl, getLast?_appendJobEvent .., .inl rfl⟩
    · refine follows_call_bind (sourced_increment _) fun _ _ => ?_
      refine FollowsBy.bind (getProviderResult_follows hk ?_ ?_ _ job)
        fun mine' outcome hclaim' => finishJob_follows hk hclaim' outcome
      · exact (claimed_of_running hid (parseUuid_of_normalize hk) hok).cons _
      · simp [JobCall.callsProvider]
    · trivial

lemma submitForecastJob_follows (latitude longitude : PyFloat) :
    FollowsBy Sourced t (.submit latitude longitude) ([] : List (Event S))
      (submitForecastJob latitude longitude) fun _ _ => True := by
  refine ⟨⟨.inl ⟨_, _, rfl⟩, .inl ⟨⟨_, _, rfl⟩, rfl, rfl⟩, trivial⟩, fun before r _ => ?_⟩
  cases r with
  | error e => trivial
  | ok job => exact follows_call_bind (sourced_increment _) fun _ _ => trivial

lemma cancelForecastJob_follows (jobId : String) :
    FollowsBy Sourced t (.cancel jobId) ([] : List (Event S)) (cancelForecastJob jobId)
      fun _ _ => True := by
  unfold cancelForecastJob
  refine follows_getJob fun job before k _ _ hid => ?_
  split
  · trivial
  · next hstatus =>
    refine follows_call_bind sourced_now fun now _ => ?_
    refine follows_tryUpdateIfStatus ⟨⟨job, ?_, ?_, ?_⟩, trivial, ?_⟩ (fun _ _ _ => ?_)
      fun _ _ _ => trivial
    · simp [lastRead_cons, Event.read]
    · exact .cancelled jobId job now hstatus
    · intro h
      cases h
    · exact .inr ⟨[], _, _, now, rfl, rfl, getLast?_appendJobEvent .., .inl rfl⟩
    · exact follows_call_bind (sourced_increment _) fun _ _ => trivial

lemma retryForecastJob_follows (jobId : String) :
    FollowsBy Sourced t (.retry jobId) ([] : List (Event S)) (retryForecastJob jobId)
      fun _ _ => True := by
  unfold retryForecastJob
  refine follows_getJob fun job before k _ _ _ => ?_
  split
  · trivial
  · next hstatus =>
    refine ⟨⟨.inr ⟨_, rfl⟩, .inr ⟨jobId, job, rfl, ?_, not_not.mp hstatus, rfl, rfl, rfl, rfl⟩,
      trivial⟩, fun before r _ => ?_⟩
    · simp [lastRead_cons, Event.read]
    cases r with
    | error e => trivial
    | ok job => exact follows_call_bind (sourced_increment _) fun _ _ => trivial

lemma cleanupForecastJobs_follows (default : ℤ) (hours : Option ℤ)
    (statuses : Option (List ForecastJobTerminalStatus)) :
    FollowsBy Sourced t (.cleanup hours statuses) ([] : List (Event S))
      (cleanupForecastJobs default hours statuses) fun _ _ => True := by
  unfold cleanupForecastJobs
  refine follows_call_bind sourced_now fun now _ => ?_
  exact follows_call_bind ⟨⟨_, _, rfl⟩, trivial, trivial⟩ fun _ _ => trivial

omit [Runtime] in
lemma find?_id {jobs : List ForecastJob} (h : (jobs.map ForecastJob.id).Nodup)
    {job : ForecastJob} (hjob : job ∈ jobs) : jobs.find? (·.id = job.id) = some job := by
  induction jobs with
  | nil => cases hjob
  | cons first rest ih =>
    obtain ⟨hfirst, hrest⟩ := List.nodup_cons.mp h
    rcases List.mem_cons.mp hjob with rfl | hmem
    · simp
    · have hne : first.id ≠ job.id := fun heq =>
        hfirst (heq ▸ List.mem_map_of_mem hmem)
      rw [List.find?_cons_of_neg (by simpa using hne)]
      exact ih hrest hmem

/-- What recovery knows of the jobs still to be handled: it has read them and nothing of them
since. -/
def Listed (jobs : List ForecastJob) (mine : List (Event S)) : Prop :=
  ∀ job ∈ jobs, lastRead job.id mine = some job ∧ job.status ∈ activeJobStatuses

lemma Listed.cons {jobs : List ForecastJob} (h : Listed jobs mine) {e : Event S}
    (hread : ∀ k, e.read k = none) : Listed jobs (e :: mine) := by
  intro job hjob
  rw [lastRead_cons, hread, Option.none_or]
  exact h job hjob

lemma recoverJob_follows {stale : Option ℤ} {jobs : List ForecastJob} {job : ForecastJob}
    (hlisted : Listed jobs mine) (hjob : job ∈ jobs) (now : Time) (timeout : ℤ)
    (report : ForecastJobRecoveryReport) :
    FollowsBy Sourced t (.recover stale) mine (recoverJob now timeout report job)
      fun mine' _ => Listed jobs mine' := by
  obtain ⟨hread, hactive⟩ := hlisted job hjob
  have hlisted' : ∀ {written : ForecastJob} {expected : Finset ForecastJobStatus}
      {r : Except JobError ForecastJob} {before : S.State},
      Listed jobs ((⟨t, .recover stale, .updateIfStatus written expected, r, before⟩ : Event S) ::
        mine) :=
    fun {_ _ _ _} => hlisted.cons fun _ => rfl
  rw [recoverJob_of_representable rfl]
  unfold treatJob
  split
  · -- a stale job
    have hmark : FollowsBy Sourced t (.recover stale) mine (markTimedOut job now timeout)
        fun mine' _ => Listed jobs mine' := by
      unfold markTimedOut
      refine follows_tryUpdateIfStatus
        ⟨⟨job, hread, ?_, ?_⟩, trivial, .inl ⟨_, rfl⟩⟩ (fun _ _ _ => hlisted')
        fun _ _ _ => hlisted'
      · exact .timedOut stale job now timeout hactive
      · intro h
        cases h
    refine hmark.bind fun mine' b h => ?_
    cases b <;> exact h
  · split
    · -- a running job
      next hrunning =>
      refine follows_tryUpdateIfStatus
        ⟨⟨job, hread, ?_, ?_⟩, trivial, .inl ⟨_, rfl⟩⟩ (fun _ _ _ => ?_) fun _ _ _ => hlisted'
      · exact .recovered stale job now hrunning
      · intro h
        cases h
      · exact follows_call_bind (sourced_enqueue _) fun _ _ => hlisted'.cons fun _ => rfl
    · exact follows_call_bind (sourced_enqueue _) fun _ _ => hlisted.cons fun _ => rfl

lemma recoverJobs_follows {stale : Option ℤ} (now : Time) (timeout : ℤ)
    {jobs rest : List ForecastJob} (hsub : rest ⊆ jobs) (report : ForecastJobRecoveryReport)
    (hlisted : Listed jobs mine) :
    FollowsBy Sourced t (.recover stale) mine (recoverJobs now timeout report rest)
      fun _ _ => True := by
  induction rest generalizing report mine with
  | nil => trivial
  | cons job rest ih =>
    refine (recoverJob_follows hlisted (hsub List.mem_cons_self) now timeout report).bind
      fun mine' report' hlisted' => ?_
    exact ih (fun _ hjob => hsub (List.mem_cons_of_mem _ hjob)) report' hlisted'

lemma recoverInterruptedJobs_follows (default : ℤ) (stale : Option ℤ) :
    FollowsBy Sourced t (.recover stale) ([] : List (Event S))
      (recoverInterruptedJobs default stale) fun _ _ => True := by
  unfold recoverInterruptedJobs
  refine follows_call_bind sourced_now fun now _ => ?_
  refine ⟨⟨trivial, trivial, trivial⟩, fun before jobs hjobs => ?_⟩
  refine recoverJobs_follows now _ (List.Subset.refl jobs) _ fun job hjob => ?_
  obtain rfl := answers_listActive hjobs
  refine ⟨?_, (S.mem_listActive.mp hjob).2⟩
  simp [lastRead_cons, Event.read, find?_id (S.listActive_nodup_ids before) hjob]

/-- Every command makes sourced calls only. -/
theorem Command.program_sourced (config : ServiceConfig) (command : Command) :
    FollowsBy Sourced t command ([] : List (Event S)) (command.program config)
      fun _ _ => True := by
  cases command with
  | submit latitude longitude => exact (submitForecastJob_follows _ _).bind fun _ _ _ => trivial
  | run jobId => exact runForecastJob_follows _ jobId
  | cancel jobId => exact (cancelForecastJob_follows _).bind fun _ _ _ => trivial
  | retry jobId => exact (retryForecastJob_follows _).bind fun _ _ _ => trivial
  | cleanup hours statuses => exact (cleanupForecastJobs_follows _ _ _).bind fun _ _ _ => trivial
  | recover stale => exact (recoverInterruptedJobs_follows _ _).bind fun _ _ _ => trivial

/-- Every command makes justified calls only. -/
theorem Command.program_follows (config : ServiceConfig) (command : Command) :
    Follows t command ([] : List (Event S)) (command.program config) fun _ _ => True :=
  (command.program_sourced config).follows

end Commands

end Earth2Sandbox
