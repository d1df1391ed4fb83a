import Earth2Sandbox.Lifecycle.EventHistory

/-!
# The lineage of retries

A retry copies its coordinates and its attempt from a snapshot of a terminal record.  Terminal
records are not written any more and their ids are not used again, so what the snapshot said stays
true of the parent as long as it is stored (`LineageAt`).  Attempts go down by one along parent
links, which therefore never form a cycle (`lineage_sound`).
-/

namespace Earth2Sandbox

/-- `job` is a retry of the terminal record `source`. -/
structure ForecastJob.Retries (job source : ForecastJob) : Prop where
  terminal : source.status ∈ terminalJobStatuses
  latitude : source.latitude = job.latitude
  longitude : source.longitude = job.longitude
  attempt : source.attempt = job.attempt - 1

/-- Job `k` is stored and names `p` as its parent. -/
def Records.ParentLink (recs : Records) (k p : String) : Prop :=
  ∃ job, recs k = some job ∧ job.parentJobId = some p

/-- A job has a parent from the second attempt on, and a parent that is still stored is the
source of the retry. -/
structure Records.LineageSound (recs : Records) : Prop where
  parent_iff : ∀ k job, recs k = some job → (job.parentJobId.isSome ↔ 2 ≤ job.attempt)
  parent : ∀ k job p source, recs k = some job → job.parentJobId = some p →
    recs p = some source → job.Retries source

section Runtime

variable [Runtime] {S : ForecastJobStore} {permitted : Command → Bool} {config : ServiceConfig}
  {init : S.State} {s s' : Lifecycle S}

/-- The lineage of the records in `before`, as far as their parents are stored in `s`. -/
def LineageAt (s : Lifecycle S) (before : S.State) : Prop :=
  ∀ k job, S.records before k = some job →
    1 ≤ job.attempt ∧ (job.parentJobId.isSome ↔ 2 ≤ job.attempt) ∧
      ∀ p, job.parentJobId = some p → s.issued p = true ∧
        ∀ source, S.records s.store p = some source → job.Retries source

omit [Runtime] in
/-- A guarded write keeps what the lineage is about. -/
lemma GuardedWrite.lineage {command : Command} {snapshot job : ForecastJob}
    {expected : Finset ForecastJobStatus} (h : GuardedWrite command snapshot job expected) :
    job.latitude = snapshot.latitude ∧ job.longitude = snapshot.longitude ∧
      job.attempt = snapshot.attempt ∧ job.parentJobId = snapshot.parentJobId := by
  cases h <;> exact ⟨rfl, rfl, rfl, rfl⟩

/-- One event keeps the lineage of records that were stored once. -/
lemma LineageAt.step {before : S.State} (h : LineageAt s before) {e : Event S}
    (heffect : Effect s s' e) (hstored : StoredIssued s) : LineageAt s' before := by
  intro k job hjob
  obtain ⟨hpositive, hiff, hparent⟩ := h k job hjob
  refine ⟨hpositive, hiff, fun p hp => ?_⟩
  obtain ⟨hissued, hsource⟩ := hparent p hp
  refine ⟨heffect.issued_mono hissued, fun source hnow => ?_⟩
  cases hbefore : S.records s.store p with
  | none => cases (heffect.not_revived hissued hbefore).symm.trans hnow
  | some source' =>
    have hretries := hsource source' hbefore
    rcases heffect.terminal_cases hstored hbefore hretries.terminal with hkept | ⟨hnone, -⟩
    · cases hkept.symm.trans hnow
      exact hretries
    · cases hnone.symm.trans hnow

lemma create_of_fresh {t : ℕ} {command : Command} {c : JobCall} {r : JobReply c}
    {input : CallInput} (hstored : StoredIssued s)
    (hperform : s.perform t command c input = some (r, s')) {job : ForecastJob}
    (hfresh : s.issued job.id = false) (hnew : S.records s'.store job.id = some job) :
    ∃ latitude longitude parent attempt, c = .create latitude longitude parent attempt ∧
      buildNewJob latitude longitude parent attempt input.clock input.newId = .ok job ∧
      (⟨t, command, c, r, s.store⟩ : Event S).reading = some job.createdAt := by
  have hnone : S.records s.store job.id = none := by
    by_contra hsome
    have := hstored job.id (Option.isSome_iff_ne_none.mpr hsome)
    rw [hfresh] at this
    cases this
  obtain ⟨hr, -, rfl⟩ := perform_eq_some.mp hperform
  cases c with
  | create latitude longitude parent attempt =>
    refine ⟨latitude, longitude, parent, attempt, rfl, ?_⟩
    have hreply := S.create_reply s.store latitude longitude parent attempt input.clock
      input.newId
    have hrecs := S.create_records s.store latitude longitude parent attempt input.clock
      input.newId
    change S.records (S.create s.store latitude longitude parent attempt input.clock
      input.newId).2 job.id = some job at hnew
    obtain ⟨e, -, hcreate⟩ | ⟨created, hcreated, hcreate⟩ :=
      (S.records s.store).create_cases latitude longitude parent attempt input.clock input.newId
    · rw [hrecs, hcreate] at hnew
      cases hnone.symm.trans hnew
    · simp only [hrecs, hcreate] at hnew
      by_cases hid : job.id = created.id
      · rw [hid, Function.update_self] at hnew
        cases hnew
        rw [hcreate] at hreply
        obtain rfl : r = .ok job := hr.trans hreply
        exact ⟨hcreated, rfl⟩
      · rw [Function.update_of_ne hid] at hnew
        cases hnone.symm.trans hnew
  | updateIfStatus written expected =>
    have hrecs := S.updateIfStatus_records s.store written expected input.clock
    change S.records (S.updateIfStatus s.store written expected input.clock).2 job.id = some job
      at hnew
    obtain ⟨e, hcase⟩ | ⟨k, current, -, hcurrent, -, hcase⟩ :=
      (S.records s.store).updateIfStatus_cases written expected input.clock
    · rw [hrecs, hcase] at hnew
      cases hnone.symm.trans hnew
    · simp only [hrecs, hcase] at hnew
      by_cases hid : job.id = k
      · rw [hid, hcurrent] at hnone
        cases hnone
      · rw [Function.update_of_ne hid] at hnew
        cases hnone.symm.trans hnew
  | deleteOlderThan cutoff statuses =>
    change S.records (S.deleteOlderThan s.store cutoff statuses).2 job.id = some job at hnew
    rw [S.deleteOlderThan_records, Records.deleteOlderThan_eq_some] at hnew
    cases hnone.symm.trans hnew.1
  | _ => cases hnone.symm.trans hnew

lemma buildNewJob_lineage {latitude longitude : PyFloat} {parent : Option String} {attempt : ℤ}
    {now : Time} {newId : String} {job : ForecastJob}
    (h : buildNewJob latitude longitude parent attempt now newId = .ok job) :
    job.latitude = latitude ∧ job.longitude = longitude ∧ job.attempt = attempt ∧
      job.parentJobId = parent.bind Runtime.parseUuid := by
  obtain ⟨_, _, _, _, -, -, -, -, -, rfl⟩ := buildNewJob_ok h
  exact ⟨rfl, rfl, rfl, rfl⟩

/-- A terminal record that was stored once is still stored as it was, or gone. -/
lemma Trace.terminal_kept (h : Trace permitted init s) {e : Event S} (he : e ∈ s.history)
    {k : String} {job : ForecastJob} (hjob : S.records e.before k = some job)
    (hterminal : job.status ∈ terminalJobStatuses) :
    S.records s.store k = some job ∨ S.records s.store k = none := by
  induction h with
  | nil => simp [Lifecycle.initial] at he
  | @cons s s' t command c r input htrace _ hjust hperform ih =>
    have heffect := effect_of_perform htrace hjust hperform
    have hstep : ∀ {job : ForecastJob}, S.records s.store k = some job →
        job.status ∈ terminalJobStatuses →
        S.records s'.store k = some job ∨ S.records s'.store k = none := fun hk hterm =>
      (heffect.terminal_cases (storedIssued_of_trace htrace) hk hterm).imp_right And.left
    rw [history_of_perform hperform] at he
    rcases List.mem_cons.mp he with rfl | he
    · exact hstep hjob hterminal
    · rcases ih he with hkept | hnone
      · exact hstep hkept hterminal
      · refine .inr (heffect.not_revived (issued_of_mem htrace he ?_) hnone)
        rw [hjob]
        rfl

/-- The lineage of all that is stored, and of all that was stored before any event. -/
lemma Trace.lineage (h : Trace permitted init s) (hempty : ∀ k, S.records init k = none)
    (hsourced : SourcedHistory s.history) :
    LineageAt s s.store ∧ ∀ e ∈ s.history, LineageAt s e.before := by
  induction h with
  | nil =>
    refine ⟨fun k job hjob => ?_, by simp [Lifecycle.initial]⟩
    cases (hempty k).symm.trans hjob
  | @cons s s' t command c r input htrace _ hjust hperform ih =>
    have hhistory := history_of_perform hperform
    rw [hhistory] at hsourced
    obtain ⟨hstored, hbefore⟩ := ih hsourced.tail
    have heffect := effect_of_perform htrace hjust hperform
    have hissued := storedIssued_of_trace htrace
    have hold := hstored.step heffect hissued
    refine ⟨?_, ?_⟩
    · intro k job hjob
      cases heffect with
      | kept hrecs _ _ => exact hold k job (hrecs ▸ hjob)
      | deleted _ _ cutoff selected _ _ hrecs _ _ =>
        rw [hrecs, Records.deleteOlderThan_eq_some] at hjob
        exact hold k job hjob.1
      | written snapshot written current _ now hread hwrite _ _ _ _ hrecs _ =>
        rw [hrecs] at hjob
        by_cases hk : k = snapshot.id
        · -- the lineage is that of the snapshot, when it was read
          subst hk
          rw [Function.update_self] at hjob
          cases hjob
          obtain ⟨e, he, -, hsnapshot⟩ := htrace.exists_of_lastRead hread
          obtain ⟨hlatitude, hlongitude, hattempt, hparent⟩ := hwrite.lineage
          obtain ⟨hpositive, hiff, hretries⟩ :=
            (hbefore e he).step (effect_of_perform htrace hjust hperform) hissued _ _ hsnapshot
          refine ⟨hattempt ▸ hpositive, hattempt ▸ hparent ▸ hiff, fun p hp => ?_⟩
          obtain ⟨hp, hsource⟩ := hretries p (hparent ▸ hp)
          refine ⟨hp, fun source hnow => ?_⟩
          have := hsource source hnow
          exact ⟨this.terminal, this.latitude.trans hlatitude.symm,
            this.longitude.trans hlongitude.symm, by rw [this.attempt, ← hattempt]⟩
        · rw [Function.update_of_ne hk] at hjob
          exact hold k job hjob
      | created _ _ _ _ _ _ new _ hfresh hrecs _ _ =>
        have hnew : S.records s'.store new.id = some new := by
          rw [hrecs, Function.update_self]
        rw [hrecs] at hjob
        by_cases hk : k = new.id
        · subst hk
          rw [Function.update_self] at hjob
          obtain rfl : new = job := Option.some.inj hjob
          obtain ⟨latitude, longitude, parent, attempt, rfl, hbuilt, -⟩ :=
            create_of_fresh hissued hperform hfresh hnew
          obtain ⟨hlatitude, hlongitude, hattempt, hparent⟩ := buildNewJob_lineage hbuilt
          rw [hattempt, hparent]
          rcases (hsourced [] _ _ rfl).descends with ⟨-, rfl, rfl⟩ |
            ⟨jobId, source, -, hread, hterminal, rfl, rfl, rfl, rfl⟩
          · exact ⟨by simp, by simp, by simp⟩
          · obtain ⟨e, he, -, hsource⟩ := htrace.exists_of_lastRead hread
            obtain ⟨hpositive, -, -⟩ := hbefore e he _ _ hsource
            have hsourceIssued := issued_of_mem htrace he (by rw [hsource]; rfl)
            rw [Option.bind_some, (S.records_id _ _ _ hsource).2]
            refine ⟨by omega, ⟨fun _ => by omega, fun _ => rfl⟩, ?_⟩
            rintro p hp
            cases hp
            refine ⟨(effect_of_perform htrace hjust hperform).issued_mono hsourceIssued,
              fun source' hnow => ?_⟩
            -- what is stored of the source is what the retry has read
            have hne : source.id ≠ new.id := by
              rintro heq
              rw [heq, hfresh] at hsourceIssued
              cases hsourceIssued
            rw [hrecs, Function.update_of_ne hne] at hnow
            rcases htrace.terminal_kept he hsource hterminal with hkept | hnone
            · cases hkept.symm.trans hnow
              exact ⟨hterminal, hlatitude.symm, hlongitude.symm, by omega⟩
            · cases hnone.symm.trans hnow
        · rw [Function.update_of_ne hk] at hjob
          exact hold k job hjob
    · rw [hhistory]
      refine List.forall_mem_cons.mpr ⟨hold, fun e he => ?_⟩
      exact (hbefore e he).step heffect hissued

/-! ## Parent links -/

omit [Runtime] in
/-- Attempts go down by one along parent links: a walk ends after `attempt - 1` steps at the
latest, and never comes back to a job. -/
lemma Records.LineageSound.walk {recs : Records} (h : recs.LineageSound)
    (hpositive : ∀ k job, recs k = some job → 1 ≤ job.attempt) {k : String} {job : ForecastJob}
    (hjob : recs k = some job) {ids : List String} (hwalk : (k :: ids).IsChain recs.ParentLink) :
    (k :: ids).Nodup ∧ (ids.length : ℤ) ≤ job.attempt - 1 ∧
      ∀ k' ∈ ids, ∀ job', recs k' = some job' → job'.attempt < job.attempt := by
  induction ids generalizing k job with
  | nil =>
    have := hpositive k job hjob
    simpa using this
  | cons p ids ih =>
    obtain ⟨⟨job', hjob', hparent⟩, hrest⟩ := List.isChain_cons_cons.mp hwalk
    cases hjob.symm.trans hjob'
    have hsecond : 2 ≤ job.attempt := (h.parent_iff k job hjob).mp (by rw [hparent]; rfl)
    cases hp : recs p with
    | none =>
      -- a parent that is gone ends the walk
      obtain rfl : ids = [] := by
        cases ids with
        | nil => rfl
        | cons p' ids =>
          obtain ⟨⟨source, hsource, -⟩, -⟩ := List.isChain_cons_cons.mp hrest
          cases hp.symm.trans hsource
      have hne : k ≠ p := by
        rintro rfl
        cases hjob.symm.trans hp
      refine ⟨by simpa using hne, by simp only [List.length_singleton]; omega, ?_⟩
      intro k' hk' job' hjob''
      rw [List.mem_singleton.mp hk', hp] at hjob''
      cases hjob''
    | some source =>
      have hattempt := (h.parent k job p source hjob hparent hp).attempt
      obtain ⟨hnodup, hlength, hlower⟩ := ih hp hrest
      have hdown : ∀ k' ∈ p :: ids, ∀ job', recs k' = some job' → job'.attempt < job.attempt := by
        intro k' hk' job' hjob''
        rcases List.mem_cons.mp hk' with rfl | hk'
        · cases hp.symm.trans hjob''
          omega
        · have := hlower k' hk' job' hjob''
          omega
      refine ⟨List.nodup_cons.mpr ⟨fun hmem => ?_, hnodup⟩, ?_, hdown⟩
      · exact absurd (hdown k hmem job hjob) (lt_irrefl _)
      · simp only [List.length_cons]
        omega

/-- **Retry lineage is sound.**  In every state that an interleaving reaches from an empty store,
a job has a parent from the second attempt on, a parent that is still stored is terminal and has
the same coordinates and the attempt before; so a walk along parent links takes at most
`attempt - 1` steps and meets no job twice; and a step of a retry leaves every record as it
is. -/
theorem lineage_sound (S : ForecastJobStore) (config : ServiceConfig)
    (permitted : Command → Bool) (init : S.State) (hempty : ∀ k, S.records init k = none)
    {cfg : LifecycleConfig S}
    (h : (lifecycle S config permitted).Reaches (Lifecycle.initial init) cfg) :
    (recordsOf cfg).LineageSound ∧
      (∀ k job ids, recordsOf cfg k = some job →
        (k :: ids).IsChain (recordsOf cfg).ParentLink →
        (k :: ids).Nodup ∧ (ids.length : ℤ) ≤ job.attempt - 1) ∧
      ∀ cfg' i input jobId c next,
        cfg.tasks[i]? = some ⟨.retry jobId, .call c next⟩ →
        (lifecycle S config permitted).step cfg (.act i input) = some cfg' →
        ∀ k job, recordsOf cfg k = some job → recordsOf cfg' k = some job := by
  have htrace := trace_of_reaches h
  have hlineage := (htrace.lineage hempty (sourced_of_reaches h)).1
  have hsound : (recordsOf cfg).LineageSound :=
    ⟨fun k job hjob => (hlineage k job hjob).2.1,
      fun k job p source hjob hp hsource => ((hlineage k job hjob).2.2 p hp).2 source hsource⟩
  refine ⟨hsound, fun k job ids hjob hwalk => ?_, ?_⟩
  · obtain ⟨hnodup, hlength, -⟩ :=
      hsound.walk (fun k job hjob => (hlineage k job hjob).1) hjob hwalk
    exact ⟨hnodup, hlength⟩
  · intro cfg' i input jobId c next htask hstep k job hjob
    obtain heq | ⟨j, input', command, c', next', r, hch, htask', -, heffect⟩ :=
      effect_of_step h hstep
    · unfold recordsOf at hjob ⊢
      rwa [heq]
    · cases hch
      obtain ⟨rfl, -⟩ := Task.mk.inj (Option.some.inj (htask'.symm.trans htask))
      unfold recordsOf at hjob ⊢
      cases heffect with
      | kept hrecs _ _ => rwa [hrecs]
      | created _ _ _ _ _ _ new _ hfresh hrecs _ _ =>
        have hk : k ≠ new.id := by
          rintro rfl
          rw [storedIssued_of_trace htrace new.id (by rw [hjob]; rfl)] at hfresh
          cases hfresh
        rw [hrecs, Function.update_of_ne hk]
        exact hjob
      | written _ _ _ _ _ _ hwrite _ _ _ _ _ _ => cases hwrite
      | deleted _ _ _ _ hcommand _ _ _ _ => cases hcommand

end Runtime

section Sample

open StrictRuntime

/-- Another canonical identifier. -/
def retryId : String := "7a2e4d3b-1c6f-4d9e-8b80-123456789abc"

/-- A cancelled job is retried. -/
def retriedSample : LifecycleConfig memoryStore :=
  (lifecycle memoryStore {} allCommands).after (Lifecycle.initial .empty)
    [.start (.submit 52 13), .act 0 { newId := sampleId }, .start (.cancel sampleId),
      .act 1 {}, .act 1 { clock := 5 }, .act 1 { clock := 6 }, .start (.retry sampleId),
      .act 2 {}, .act 2 { clock := 7, newId := retryId }]

/-- The retry is a second attempt, and its parent is the source. -/
theorem lineage_sound_retried :
    (∃ job, recordsOf retriedSample retryId = some job ∧ job.parentJobId = some sampleId ∧
      job.attempt = 2) ∧ (recordsOf retriedSample).LineageSound := by
  have hretried : (recordsOf retriedSample retryId).any
      (fun job => job.parentJobId = some sampleId ∧ job.attempt = 2) = true := by
    decide +kernel
  obtain ⟨job, hjob, hretry⟩ := (Option.any_eq_true _ _).mp hretried
  obtain ⟨hparent, hattempt⟩ := of_decide_eq_true hretry
  refine ⟨⟨job, hjob, hparent, hattempt⟩, ?_⟩
  exact (lineage_sound memoryStore {} allCommands .empty (fun _ => rfl)
    (System.reaches_after _ _)).1

end Sample

end Earth2Sandbox
