import Earth2Sandbox.Lifecycle.Consistency
import Earth2Sandbox.Lifecycle.Lineage

/-!
# Job times never run backwards

Every command reads the clock itself before it writes, and the store once more in the write.  A
run reads the clock before it reads the record it completes, so the order of its times rests on
its claim: without recovery the running record is the one that the run's own claim has stored
(`Trace.reading_of_running`).  The clock is any sequence of readings that never decreases.
-/

namespace Earth2Sandbox

/-- The times of a record are in order, as far as it has them. -/
structure ForecastJob.Ordered (job : ForecastJob) : Prop where
  times : (job.createdAt :: (job.startedAt.toList ++ job.completedAt.toList ++
    [job.updatedAt])).Pairwise (· ≤ ·)
  events : (job.events.map (·.occurredAt)).Pairwise (· ≤ ·)
  events_created : ∀ event ∈ job.events, job.createdAt ≤ event.occurredAt

/-- An ordered record whose events come before its last update, not completed while active. -/
structure ForecastJob.Timely (job : ForecastJob) : Prop extends job.Ordered where
  events_updated : ∀ event ∈ job.events, event.occurredAt ≤ job.updatedAt
  active : job.status ∈ activeJobStatuses → job.completedAt = none

lemma ForecastJob.Ordered.created_le (job : ForecastJob) (h : job.Ordered) :
    job.createdAt ≤ job.updatedAt :=
  List.rel_of_pairwise_cons h.times (by simp)

namespace ForecastJob.Timely

variable {snapshot : ForecastJob} {time now : Time}

lemma events_append (h : snapshot.Timely) (htime : snapshot.updatedAt ≤ time) (hnow : time ≤ now)
    {events : List ForecastJobEvent} {status : ForecastJobStatus} {message : String}
    (hevents : events = snapshot.events ++ [⟨time, status, message⟩]) :
    (events.map (·.occurredAt)).Pairwise (· ≤ ·) ∧
      (∀ event ∈ events, snapshot.createdAt ≤ event.occurredAt) ∧
      ∀ event ∈ events, event.occurredAt ≤ now := by
  have hcreated := ForecastJob.Ordered.created_le _ h.toOrdered
  subst hevents
  refine ⟨?_, fun event hevent => ?_, fun event hevent => ?_⟩
  · rw [List.map_append, List.pairwise_append]
    refine ⟨h.events, List.pairwise_singleton _ _, fun a ha b hb => ?_⟩
    obtain ⟨event, hevent, rfl⟩ := List.mem_map.mp ha
    obtain rfl : b = time := by simpa using hb
    exact (h.events_updated event hevent).trans htime
  · rcases List.mem_append.mp hevent with hevent | hevent
    · exact h.events_created event hevent
    · obtain rfl := List.mem_singleton.mp hevent
      exact hcreated.trans htime
  · rcases List.mem_append.mp hevent with hevent | hevent
    · exact ((h.events_updated event hevent).trans htime).trans hnow
    · obtain rfl := List.mem_singleton.mp hevent
      exact hnow

lemma times_started (h : snapshot.Timely) (htime : snapshot.updatedAt ≤ time) (hnow : time ≤ now) :
    [snapshot.createdAt, time, now].Pairwise (· ≤ ·) := by
  have hcreated := (ForecastJob.Ordered.created_le _ h.toOrdered).trans htime
  simpa using ⟨⟨hcreated, hcreated.trans hnow⟩, hnow⟩

lemma times_completed (h : snapshot.Timely) (hactive : snapshot.status ∈ activeJobStatuses)
    (htime : snapshot.updatedAt ≤ time) (hnow : time ≤ now) :
    (snapshot.createdAt :: (snapshot.startedAt.toList ++ [time] ++ [now])).Pairwise (· ≤ ·) := by
  have htimes := h.times
  rw [h.active hactive] at htimes
  cases hstarted : snapshot.startedAt with
  | none =>
    rw [hstarted] at htimes
    exact times_started h htime hnow
  | some started =>
    rw [hstarted] at htimes
    obtain ⟨⟨hcreated, -⟩, hupdated⟩ : (snapshot.createdAt ≤ started ∧
        snapshot.createdAt ≤ snapshot.updatedAt) ∧ started ≤ snapshot.updatedAt := by
      simpa using htimes
    have hstarted := hupdated.trans htime
    simpa using ⟨⟨hcreated, hcreated.trans hstarted, (hcreated.trans hstarted).trans hnow⟩,
      ⟨hstarted, hstarted.trans hnow⟩, hnow⟩

end ForecastJob.Timely

lemma buildNewJob_timely [Runtime] {latitude longitude : PyFloat} {parent : Option String}
    {attempt : ℤ} {now : Time} {newId : String} {job : ForecastJob}
    (h : buildNewJob latitude longitude parent attempt now newId = .ok job) : job.Timely := by
  obtain ⟨_, _, _, _, -, -, -, -, -, rfl⟩ := buildNewJob_ok h
  exact ⟨⟨by simp, by simp, by simp⟩, by simp, fun _ => rfl⟩

/-- A write site makes a timely record when its reading of the clock is not older than its
snapshot. -/
lemma GuardedWrite.timely {command : Command} {snapshot job : ForecastJob}
    {expected : Finset ForecastJobStatus} (h : GuardedWrite command snapshot job expected)
    (hcommand : ∀ timeout, command ≠ .recover timeout) (hsnapshot : snapshot.Timely)
    {time now : Time} (hlast : job.events.getLast?.map (·.occurredAt) = some time)
    (htime : snapshot.updatedAt ≤ time) (hnow : time ≤ now) :
    ({ job with updatedAt := now } : ForecastJob).Timely := by
  cases h with
  | running jobId snapshot reading hstatus =>
    obtain rfl : reading = time := by simpa [runningJob, appendJobEvent] using hlast
    obtain ⟨hevents, hcreated, hupdated⟩ := hsnapshot.events_append htime hnow rfl
    have hcompleted := hsnapshot.active (by simp [hstatus])
    refine ⟨⟨?_, hevents, hcreated⟩, hupdated, fun _ => hcompleted⟩
    simpa [runningJob, appendJobEvent, hcompleted] using hsnapshot.times_started htime hnow
  | succeeded jobId snapshot summary diagnostics completed hstatus =>
    obtain rfl : completed = time := by simpa [succeededJob, appendJobEvent] using hlast
    obtain ⟨hevents, hcreated, hupdated⟩ := hsnapshot.events_append htime hnow rfl
    exact ⟨⟨hsnapshot.times_completed (by simp [hstatus]) htime hnow, hevents, hcreated⟩, hupdated,
      fun h => by simp [succeededJob, appendJobEvent] at h⟩
  | failed jobId snapshot error diagnostics failedAt hstatus =>
    obtain rfl : failedAt = time := by simpa [failedJob, appendJobEvent] using hlast
    obtain ⟨hevents, hcreated, hupdated⟩ := hsnapshot.events_append htime hnow rfl
    exact ⟨⟨hsnapshot.times_completed (by simp [hstatus]) htime hnow, hevents, hcreated⟩, hupdated,
      fun h => by simp [failedJob, appendJobEvent] at h⟩
  | cancelled jobId snapshot reading hstatus =>
    obtain rfl : reading = time := by simpa [cancelledJob, appendJobEvent] using hlast
    obtain ⟨hevents, hcreated, hupdated⟩ := hsnapshot.events_append htime hnow rfl
    exact ⟨⟨hsnapshot.times_completed (not_mem_terminal_iff_active.mp hstatus) htime hnow, hevents,
      hcreated⟩, hupdated, fun h => by simp [cancelledJob, appendJobEvent] at h⟩
  | recovered timeout snapshot reading hstatus => exact absurd rfl (hcommand timeout)
  | timedOut timeout snapshot reading seconds hstatus => exact absurd rfl (hcommand timeout)

/-! ## The clock -/

section Runtime

variable [Runtime] {S : ForecastJobStore} {permitted : Command → Bool} {config : ServiceConfig}
  {init : S.State} {s s' : Lifecycle S}

/-- The readings of the clock in a history, latest first. -/
def readings (history : List (Event S)) : List Time := history.filterMap Event.reading

/-- The clock never goes backwards. -/
def ClockNonDecreasing (history : List (Event S)) : Prop :=
  (readings history).Pairwise (· ≥ ·)

lemma ClockNonDecreasing.suffix {later earlier : List (Event S)}
    (h : ClockNonDecreasing (later ++ earlier)) : ClockNonDecreasing earlier := by
  unfold ClockNonDecreasing readings at *
  rw [List.filterMap_append] at h
  exact (List.pairwise_append.mp h).2.1

lemma ClockNonDecreasing.tail {e : Event S} {earlier : List (Event S)}
    (h : ClockNonDecreasing (e :: earlier)) : ClockNonDecreasing earlier :=
  ClockNonDecreasing.suffix (show ClockNonDecreasing ([e] ++ earlier) from h)

lemma ClockNonDecreasing.head_le {earlier : List (Event S)} {e : Event S}
    (h : ClockNonDecreasing (e :: earlier)) {time : Time} (htime : e.reading = some time) :
    ∀ time' ∈ readings earlier, time' ≤ time := by
  unfold ClockNonDecreasing readings at h
  rw [List.filterMap_cons_some htime] at h
  exact (List.pairwise_cons.mp h).1

lemma ClockNonDecreasing.le {later earlier : List (Event S)} {e : Event S}
    (h : ClockNonDecreasing (later ++ e :: earlier)) {time : Time} (htime : e.reading = some time) :
    ∀ time' ∈ readings earlier, time' ≤ time :=
  h.suffix.head_le htime

lemma mem_readings {e : Event S} {history : List (Event S)} (he : e ∈ history) {time : Time}
    (htime : e.reading = some time) : time ∈ readings history :=
  List.mem_filterMap.mpr ⟨e, he, htime⟩

lemma readings_subset_cons (e : Event S) (history : List (Event S)) :
    readings history ⊆ readings (e :: history) :=
  fun _ h => by
    obtain ⟨e', he', htime⟩ := List.mem_filterMap.mp h
    exact mem_readings (List.mem_cons_of_mem _ he') htime

lemma reading_of_committed {e : Event S} {job : ForecastJob} (h : e.committed = some job) :
    e.reading = some job.updatedAt := by
  unfold Event.committed at h
  split at h
  · cases h
    rfl
  · cases h

lemma Trace.updatedAt_mem (h : Trace permitted init s) (hempty : ∀ k, S.records init k = none) :
    ∀ k job, S.records s.store k = some job → job.updatedAt ∈ readings s.history := by
  induction h with
  | nil =>
    intro k job hjob
    cases (hempty k).symm.trans hjob
  | @cons s s' t command c r input htrace _ hjust hperform ih =>
    intro k job hjob
    rw [history_of_perform hperform]
    cases effect_of_perform htrace hjust hperform with
    | kept hrecs _ _ => exact readings_subset_cons _ _ (ih k job (hrecs ▸ hjob))
    | deleted _ _ cutoff selected _ _ hrecs _ _ =>
      rw [hrecs, Records.deleteOlderThan_eq_some] at hjob
      exact readings_subset_cons _ _ (ih k job hjob.1)
    | written snapshot written current _ now _ _ _ _ _ hcommitted hrecs _ =>
      rw [hrecs] at hjob
      by_cases hk : k = snapshot.id
      · rw [hk, Function.update_self] at hjob
        cases hjob
        exact mem_readings List.mem_cons_self (reading_of_committed hcommitted)
      · rw [Function.update_of_ne hk] at hjob
        exact readings_subset_cons _ _ (ih k job hjob)
    | created _ _ _ _ _ _ new _ hfresh hrecs _ _ =>
      have hnew : S.records s'.store new.id = some new := by
        rw [hrecs, Function.update_self]
      rw [hrecs] at hjob
      by_cases hk : k = new.id
      · rw [hk, Function.update_self] at hjob
        obtain rfl : new = job := Option.some.inj hjob
        obtain ⟨_, _, _, _, rfl, hbuilt, hreading⟩ :=
          create_of_fresh (storedIssued_of_trace htrace) hperform hfresh hnew
        obtain ⟨_, _, _, _, -, -, -, -, -, hfields⟩ := buildNewJob_ok hbuilt
        have hsame : new.updatedAt = new.createdAt := by rw [hfields]
        exact hsame ▸ mem_readings List.mem_cons_self hreading
      · rw [Function.update_of_ne hk] at hjob
        exact readings_subset_cons _ _ (ih k job hjob)

/-! ## The times of a write -/

/-- Without recovery a running record is the one that its claim has stored. -/
lemma Trace.reading_of_running (h : Trace noRecovery init s) {claim : Event S}
    (hclaim : claim ∈ s.history) {k : String} (hmoves : claim.Moves k .queued .running)
    {job : ForecastJob} (hjob : S.records s.store k = some job)
    (hrunning : job.status = .running) : claim.reading = some job.updatedAt := by
  obtain ⟨mid, before, hs⟩ := List.append_of_mem hclaim
  obtain ⟨-, claimed, -, -, hcommitted, rfl, hclaimed⟩ := hmoves
  have hsame : job = claimed ∨ job.status ∈ terminalJobStatuses := by
    refine h.persists (Q := fun j => j = claimed ∨ j.status ∈ terminalJobStatuses) hs hcommitted
      (.inl rfl) ?_ hjob
    rintro later e earlier current job' rfl hcurrent hQ hjob' hid
    have hsplit := hs.trans (List.append_assoc later (e :: earlier) (claim :: before))
    obtain ⟨_, _, -, -, -, hpermitted, -, -⟩ := h.split hsplit
    obtain ⟨snapshot, written, current', expected, now, hwrite, -, hcurrent', hmem, rfl⟩ :=
      h.write_of_mem hsplit hjob'
    rw [hid, hcurrent] at hcurrent'
    cases hcurrent'
    rcases hQ with rfl | hterminal
    · -- the running record is replaced by a completion or a cancellation only
      rw [hclaimed] at hmem
      generalize e.command = command at hwrite hpermitted
      cases hwrite with
      | running _ _ _ _ => simp at hmem
      | recovered _ _ _ _ => cases hpermitted
      | timedOut _ _ _ _ _ => cases hpermitted
      | _ => exact .inr (by simp [succeededJob, failedJob, cancelledJob, appendJobEvent])
    · exact absurd hterminal (not_mem_terminal_iff_active.mpr (hwrite.expected_active hmem))
  rcases hsame with rfl | hterminal
  · exact reading_of_committed hcommitted
  · simp [hrunning] at hterminal

lemma own_split {t : ℕ} {history later earlier : List (Event S)} {e : Event S}
    (h : own t history = later ++ e :: earlier) : ∃ later' earlier',
      history = later' ++ e :: earlier' ∧ own t later' = later ∧ own t earlier' = earlier := by
  obtain ⟨front, back, rfl, hfront, hback⟩ := List.filter_eq_append_iff.mp h
  obtain ⟨skipped, rest, rfl, hskipped, -, hrest⟩ := List.filter_eq_cons_iff.mp hback
  refine ⟨front ++ skipped, rest, by simp, ?_, hrest⟩
  have hnone : own t skipped = [] := List.filter_eq_nil_iff.mpr hskipped
  rw [own, List.filter_append]
  exact (congrArg₂ _ hfront hnone).trans (List.append_nil later)

/-- A record that was stored before an event was last updated at a reading before it. -/
lemma Trace.updatedAt_mem_before (h : Trace permitted init s)
    (hempty : ∀ k, S.records init k = none) {later earlier : List (Event S)} {e : Event S}
    (hs : s.history = later ++ e :: earlier) {k : String} {job : ForecastJob}
    (hjob : S.records e.before k = some job) : job.updatedAt ∈ readings earlier := by
  obtain ⟨s₁, -, htrace, rfl, hbefore, -⟩ := h.split hs
  exact htrace.updatedAt_mem hempty k job (hbefore ▸ hjob)

/-- A task's reading of the clock is not older than its snapshot, when it was made after the
snapshot was read, or after the task's own claim of the running job. -/
lemma Trace.snapshot_le_reading (h : Trace noRecovery init s)
    (hempty : ∀ k, S.records init k = none) (hclock : ClockNonDecreasing s.history) {t : ℕ}
    {later earlier : List (Event S)} {e : Event S} (hown : own t s.history = later ++ e :: earlier)
    {time : Time} (htime : e.reading = some time) {snapshot : ForecastJob}
    (hread : lastRead snapshot.id (own t s.history) = some snapshot)
    (hsource : lastRead snapshot.id earlier = lastRead snapshot.id (own t s.history) ∨
      snapshot.status = .running ∧ Claimed snapshot.id earlier) :
    snapshot.updatedAt ≤ time := by
  obtain ⟨later', earlier', hs, -, hearlier⟩ := own_split hown
  refine ClockNonDecreasing.le (hs ▸ hclock) htime _ ?_
  have hbefore : ∀ e' ∈ earlier', e'.read snapshot.id = some snapshot →
      snapshot.updatedAt ∈ readings earlier' := by
    intro e' he' hread'
    obtain ⟨front, back, rfl⟩ := List.append_of_mem he'
    have hs' : s.history = (later' ++ e :: front) ++ e' :: back := by simp [hs]
    have hstored := stored_of_read (h.answers e' (by simp [hs'])) hread'
    obtain ⟨e'', he'', htime''⟩ :=
      List.mem_filterMap.mp (h.updatedAt_mem_before hempty hs' hstored)
    exact mem_readings (by simp [he'']) htime''
  rcases hsource with hsame | ⟨hrunning, claim, hclaim, hmoves⟩
  · rw [hread] at hsame
    obtain ⟨e', he', hread'⟩ := List.exists_of_findSome?_eq_some hsame
    exact hbefore e' (mem_own.mp (hearlier ▸ he')).1 hread'
  · have hclaim' : claim ∈ earlier' := (mem_own.mp (hearlier ▸ hclaim)).1
    obtain ⟨e', he', hread'⟩ := List.exists_of_findSome?_eq_some hread
    have hmem := (mem_own.mp he').1
    have hstored := stored_of_read (h.answers e' hmem) hread'
    rw [hs] at hmem
    rcases List.mem_append.mp hmem with hmem | hmem
    · -- the record was read after the clock: it is still the claimed one
      obtain ⟨front, back, rfl⟩ := List.append_of_mem hmem
      have hs' : s.history = front ++ e' :: (back ++ e :: earlier') := by simp [hs]
      obtain ⟨s₁, -, htrace, hs₁, hbefore', -⟩ := h.split hs'
      have hreading := htrace.reading_of_running (by simp [hs₁, hclaim']) hmoves
        (hbefore' ▸ hstored) hrunning
      exact mem_readings hclaim' hreading
    · rcases List.mem_cons.mp hmem with rfl | hmem
      · exact h.updatedAt_mem_before hempty hs hstored
      · exact hbefore e' hmem hread'

/-! ## Every record -/

omit [Runtime] in
/-- A success is written over a running snapshot. -/
lemma GuardedWrite.running_of_succeeded {command : Command} {snapshot job : ForecastJob}
    {expected : Finset ForecastJobStatus} (h : GuardedWrite command snapshot job expected)
    (hstatus : job.status = .succeeded) : snapshot.status = .running := by
  cases h with
  | succeeded _ _ _ _ _ hrunning => exact hrunning
  | _ => cases hstatus

/-- Every record is timely, and every record that was stored before an event was. -/
lemma Trace.timely (h : Trace noRecovery init s) (hempty : ∀ k, S.records init k = none)
    (hsourced : SourcedHistory s.history) (hclock : ClockNonDecreasing s.history) :
    (∀ k job, S.records s.store k = some job → job.Timely) ∧
      ∀ e ∈ s.history, ∀ k job, S.records e.before k = some job → job.Timely := by
  induction h with
  | nil =>
    refine ⟨fun k job hjob => ?_, by simp [Lifecycle.initial]⟩
    cases (hempty k).symm.trans hjob
  | @cons s s' t command c r input htrace hpermitted hjust hperform ih =>
    have hhistory := history_of_perform hperform
    rw [hhistory] at hsourced hclock ⊢
    have hclock' : ClockNonDecreasing s.history := hclock.tail
    obtain ⟨hstored, hbefore⟩ := ih hsourced.tail hclock'
    refine ⟨fun k job hjob => ?_, List.forall_mem_cons.mpr ⟨hstored, hbefore⟩⟩
    cases effect_of_perform htrace hjust hperform with
    | kept hrecs _ _ => exact hstored k job (hrecs ▸ hjob)
    | deleted _ _ cutoff selected _ _ hrecs _ _ =>
      rw [hrecs, Records.deleteOlderThan_eq_some] at hjob
      exact hstored k job hjob.1
    | created _ _ _ _ _ _ new hbuilt _ hrecs _ _ =>
      rw [hrecs] at hjob
      by_cases hk : k = new.id
      · rw [hk, Function.update_self] at hjob
        cases hjob
        exact buildNewJob_timely hbuilt
      · rw [Function.update_of_ne hk] at hjob
        exact hstored k job hjob
    | written snapshot written current _ now hread hwrite _ _ _ hcommitted hrecs _ =>
      rw [hrecs] at hjob
      by_cases hk : k = snapshot.id
      · rw [hk, Function.update_self] at hjob
        cases hjob
        obtain ⟨e, he, -, hsnapshot⟩ := htrace.exists_of_lastRead hread
        -- the call behind the write, and the reading of the clock behind the call
        obtain ⟨argument, _, _, rfl, hargument⟩ :=
          call_of_committed htrace hjust hperform hcommitted
        have hevents : argument.events = written.events :=
          (congrArg ForecastJob.events hargument).symm
        have hstatus : argument.status = written.status :=
          (congrArg ForecastJob.status hargument).symm
        have hid : argument.id = snapshot.id :=
          (congrArg ForecastJob.id hargument).symm.trans hwrite.id_eq
        have hcommand : ∀ timeout, command ≠ .recover timeout := by
          rintro timeout rfl
          cases hpermitted
        rcases (hsourced [] _ _ rfl).dated with ⟨timeout, hrecover⟩ |
          ⟨later, e', earlier, time, hown, htime, hlast, hsource⟩
        · exact absurd hrecover (hcommand timeout)
        · rw [hevents] at hlast
          rw [hid, hstatus] at hsource
          have hsnapshot_le := htrace.snapshot_le_reading hempty hclock' hown htime hread
            (hsource.imp_right fun hsuccess =>
              ⟨hwrite.running_of_succeeded hsuccess.1, hsuccess.2⟩)
          refine hwrite.timely hcommand (hbefore e he _ _ hsnapshot) hlast hsnapshot_le ?_
          -- the store reads the clock after the command has
          refine hclock.head_le (reading_of_committed hcommitted) _ ?_
          have he' : e' ∈ own t s.history := hown ▸ List.mem_append_right _ List.mem_cons_self
          exact mem_readings (mem_own.mp he').1 htime
      · rw [Function.update_of_ne hk] at hjob
        exact hstored k job hjob

lemma updatedAt_le_of_reaches (hempty : ∀ k, S.records init k = none) {cfg cfg' : LifecycleConfig S}
    (h : (lifecycle S config noRecovery).Reaches (Lifecycle.initial init) cfg)
    (h' : (lifecycle S config noRecovery).Reaches cfg cfg')
    (hclock : ClockNonDecreasing cfg'.shared.history) {k : String} {job : ForecastJob}
    (hjob : recordsOf cfg k = some job) :
    cfg'.shared.issued k = true ∧ job.updatedAt ∈ readings cfg'.shared.history ∧
      ∀ job', recordsOf cfg' k = some job' → job.updatedAt ≤ job'.updatedAt := by
  have htrace := trace_of_reaches h
  induction h' with
  | refl =>
    refine ⟨storedIssued_of_trace htrace k ?_, htrace.updatedAt_mem hempty k job hjob, ?_⟩
    · change (recordsOf cfg k).isSome
      rw [hjob]
      rfl
    · intro job' hjob'
      cases hjob.symm.trans hjob'
      exact le_rfl
  | step ch hreach hstep ih =>
    obtain heq | ⟨_, _, _, _, _, _, -, -, hhistory, heffect⟩ :=
      effect_of_step (h.trans hreach) hstep
    · unfold recordsOf at ih ⊢
      rw [heq] at hclock ⊢
      exact ih hclock
    · generalize Event.mk .. = e at hhistory heffect
      rw [hhistory] at hclock ⊢
      obtain ⟨hissued, hmem, hle⟩ := ih (hclock.tail)
      refine ⟨heffect.issued_mono hissued, readings_subset_cons _ _ hmem, fun job' hjob' => ?_⟩
      unfold recordsOf at hjob' hle
      by_cases hcommits : e.Commits k
      · obtain ⟨written, hwritten, rfl⟩ := hcommits
        cases (heffect.stored_of_committed hwritten).symm.trans hjob'
        exact hclock.head_le (reading_of_committed hwritten) _ hmem
      · rcases heffect.not_commits_cases hissued hcommits with hsame | hnone
        · exact hle job' (hsame ▸ hjob')
        · cases hnone.symm.trans hjob'

/-- **Job times never run backwards.**  In every state that an interleaving without recovery
reaches from an empty store, while the clock never goes backwards, the times of every record are
in order; and later versions of a record were updated later. -/
theorem times_ordered (S : ForecastJobStore) (config : ServiceConfig) (init : S.State)
    (hempty : ∀ k, S.records init k = none) {cfg : LifecycleConfig S}
    (h : (lifecycle S config noRecovery).Reaches (Lifecycle.initial init) cfg)
    (hclock : ClockNonDecreasing cfg.shared.history) :
    (∀ k job, recordsOf cfg k = some job → job.Ordered) ∧
      ∀ cfg', (lifecycle S config noRecovery).Reaches cfg cfg' →
        ClockNonDecreasing cfg'.shared.history → ∀ k job job', recordsOf cfg k = some job →
          recordsOf cfg' k = some job' → job.updatedAt ≤ job'.updatedAt := by
  refine ⟨fun k job hjob => ?_, fun cfg' h' hclock' k job job' hjob hjob' => ?_⟩
  · have htimely := (trace_of_reaches h).timely hempty (sourced_of_reaches h) hclock
    exact (htimely.1 k job hjob).toOrdered
  · exact (updatedAt_le_of_reaches hempty h h' hclock' hjob).2.2 job' hjob'

end Runtime

section Sample

open StrictRuntime

/-- The times of the completed job are in order. -/
theorem times_ordered_completed :
    ∃ job, recordsOf completedSample sampleId = some job ∧ job.startedAt = some 5 ∧
      job.completedAt = some 7 ∧ job.Ordered := by
  have hcompleted : (recordsOf completedSample sampleId).any
      (fun job => job.startedAt = some 5 ∧ job.completedAt = some 7) = true := by
    decide +kernel
  have hclock : ClockNonDecreasing completedSample.shared.history := by
    unfold ClockNonDecreasing
    decide +kernel
  obtain ⟨job, hjob, htimes⟩ := (Option.any_eq_true _ _).mp hcompleted
  obtain ⟨hstarted, hcompletedAt⟩ := of_decide_eq_true htimes
  refine ⟨job, hjob, hstarted, hcompletedAt, ?_⟩
  exact (times_ordered memoryStore {} .empty (fun _ => rfl) (System.reaches_after _ _) hclock).1
    _ _ hjob

end Sample

end Earth2Sandbox
