import Earth2Sandbox.Lifecycle.Terminal

/-!
# The event history of a job

Every write site appends one event to the events of the *snapshot* its task has read.  The
guard compares statuses only, and a cancellation and a timeout accept both active statuses, so
the stored record may have gained an event since: that event is then overwritten
(`running_event_lost`).  The history is append-only exactly in the runs in which no other
guarded write of the job was committed between the read and the write
(`appendsOneEvent_iff_undisturbed`).
-/

namespace Earth2Sandbox

section Runtime

variable [Runtime] {S : ForecastJobStore} {permitted : Command → Bool} {config : ServiceConfig}

/-- A successful guarded write stores the events that were stored immediately before it and
one more. -/
def Event.AppendsOneEvent (e : Event S) : Prop :=
  ∀ job, e.committed = some job → ∃ current event,
    S.records e.before job.id = some current ∧ job.events = current.events ++ [event]

/-- Since task `t` has last read job `k`, no guarded write of the job was committed. -/
def Undisturbed (t : ℕ) (k : String) : List (Event S) → Prop
  | [] => True
  | e :: earlier =>
    (e.task = t ∧ (e.read k).isSome) ∨ (¬ e.Commits k ∧ Undisturbed t k earlier)

omit [Runtime] in
lemma GuardedWrite.events {command : Command} {snapshot job : ForecastJob}
    {expected : Finset ForecastJobStatus} (h : GuardedWrite command snapshot job expected) :
    ∃ event, job.events = snapshot.events ++ [event] ∧ event.status = job.status := by
  cases h <;> exact ⟨_, rfl, rfl⟩

/-! ## What a task that has read a job knows of it -/

section Reads

variable {init : S.State} {s s' : Lifecycle S}

lemma store_of_read {t : ℕ} {command : Command} {c : JobCall} {r : JobReply c}
    {input : CallInput} (hperform : s.perform t command c input = some (r, s')) {k : String}
    (hread : ((⟨t, command, c, r, s.store⟩ : Event S).read k).isSome) : s'.store = s.store := by
  obtain ⟨-, -, rfl⟩ := perform_eq_some.mp hperform
  cases c <;> first | rfl | simp [Event.read] at hread

lemma issued_of_mem (h : Trace permitted init s) {e : Event S} (he : e ∈ s.history)
    {k : String} (hk : (S.records e.before k).isSome) : s.issued k = true := by
  induction h with
  | nil => simp [Lifecycle.initial] at he
  | cons htrace _ hjust hperform ih =>
    have heffect := effect_of_perform htrace hjust hperform
    rw [history_of_perform hperform] at he
    rcases List.mem_cons.mp he with rfl | he
    · exact heffect.issued_mono (storedIssued_of_trace htrace k hk)
    · exact heffect.issued_mono (ih he)

lemma lastRead_own_cons {t : ℕ} {k : String} {e : Event S} {history : List (Event S)}
    (h : ¬ (e.task = t ∧ (e.read k).isSome)) :
    lastRead k (own t (e :: history)) = lastRead k (own t history) := by
  by_cases ht : e.task = t
  · subst ht
    have hnone : e.read k = none := by
      simpa using h
    rw [own_cons_self, lastRead_cons, hnone, Option.none_or]
  · rw [own_cons_ne ht]

lemma lastRead_own_read {t : ℕ} {k : String} {e : Event S} {history : List (Event S)}
    (h : e.task = t ∧ (e.read k).isSome) : lastRead k (own t (e :: history)) = e.read k := by
  obtain ⟨rfl, hread⟩ := h
  rw [own_cons_self, lastRead_cons, Option.or_of_isSome hread]

namespace Effect

variable {e : Event S}

/-- What an event that is not a guarded write of an issued job can do to its record. -/
lemma not_commits_cases (h : Effect s s' e) {k : String} (hissued : s.issued k = true)
    (hcommits : ¬ e.Commits k) :
    S.records s'.store k = S.records s.store k ∨ S.records s'.store k = none := by
  cases h with
  | kept hrecs _ _ => exact .inl (by rw [hrecs])
  | created _ _ _ _ _ _ job _ hfresh hrecs _ _ =>
    have hk : k ≠ job.id := by
      rintro rfl
      rw [hissued] at hfresh
      cases hfresh
    exact .inl (by rw [hrecs, Function.update_of_ne hk])
  | written snapshot job current _ _ _ hwrite _ _ _ hcommitted hrecs _ =>
    have hk : k ≠ snapshot.id := by
      rintro rfl
      exact hcommits ⟨_, hcommitted, hwrite.id_eq⟩
    exact .inl (by rw [hrecs, Function.update_of_ne hk])
  | deleted _ _ cutoff selected _ _ hrecs _ _ =>
    rw [hrecs]
    obtain hkept | ⟨hnone, -⟩ := (S.records s.store).deleteOlderThan_cases cutoff selected k
    · exact .inl hkept
    · exact .inr hnone

lemma stored_of_committed (h : Effect s s' e) {job : ForecastJob}
    (hjob : e.committed = some job) : S.records s'.store job.id = some job := by
  cases h with
  | kept _ _ hnone => cases hnone.symm.trans hjob
  | created _ _ _ _ _ _ _ _ _ _ _ hnone => cases hnone.symm.trans hjob
  | deleted _ _ _ _ _ _ _ _ hnone => cases hnone.symm.trans hjob
  | written snapshot written current _ _ _ hwrite _ _ _ hcommitted hrecs _ =>
    cases hcommitted.symm.trans hjob
    rw [hrecs]
    exact hwrite.id_eq ▸ Function.update_self ..

end Effect

/-- A snapshot that nobody has written over is still what is stored, unless the job is gone. -/
lemma stored_of_undisturbed (h : Trace permitted init s) {t : ℕ} {k : String}
    {snapshot : ForecastJob} (hquiet : Undisturbed t k s.history)
    (hread : lastRead k (own t s.history) = some snapshot) :
    S.records s.store k = some snapshot ∨ S.records s.store k = none := by
  induction h with
  | nil => simp [Lifecycle.initial, lastRead] at hread
  | @cons s s' t' command c r input htrace hp hjust hperform ih =>
    have hanswers := (Trace.cons htrace hp hjust hperform).answers
    rw [history_of_perform hperform] at hquiet hread hanswers
    by_cases hmine : t' = t ∧ ((⟨t', command, c, r, s.store⟩ : Event S).read k).isSome
    · rw [lastRead_own_read hmine] at hread
      rw [store_of_read hperform hmine.2]
      exact .inl (stored_of_read (hanswers _ List.mem_cons_self) hread)
    · rw [lastRead_own_cons hmine] at hread
      obtain ⟨hcommits, hquiet⟩ := hquiet.resolve_left hmine
      obtain ⟨e', he', -, hstored⟩ := htrace.exists_of_lastRead hread
      have hissued := issued_of_mem htrace he' (by rw [hstored]; rfl)
      have heffect := effect_of_perform htrace hjust hperform
      rcases ih hquiet hread with hrec | hnone
      · exact (heffect.not_commits_cases hissued hcommits).imp_left fun h => h.trans hrec
      · exact .inr (heffect.not_revived hissued hnone)

/-- Where every guarded write appends, the stored events are at least as many as the ones read,
and not more only if nobody has written since. -/
lemma events_length_of_appends (h : Trace permitted init s)
    (happends : ∀ e ∈ s.history, e.AppendsOneEvent) {t : ℕ} {k : String}
    {snapshot current : ForecastJob} (hread : lastRead k (own t s.history) = some snapshot)
    (hcurrent : S.records s.store k = some current) :
    snapshot.events.length ≤ current.events.length ∧
      (snapshot.events.length = current.events.length → Undisturbed t k s.history) := by
  induction h generalizing current with
  | nil => simp [Lifecycle.initial, lastRead] at hread
  | @cons s s' t' command c r input htrace hp hjust hperform ih =>
    have hanswers := (Trace.cons htrace hp hjust hperform).answers
    have heffect := effect_of_perform htrace hjust hperform
    rw [history_of_perform hperform] at hread hanswers happends ⊢
    obtain ⟨happend, happends⟩ := List.forall_mem_cons.mp happends
    by_cases hmine : t' = t ∧ ((⟨t', command, c, r, s.store⟩ : Event S).read k).isSome
    · rw [lastRead_own_read hmine] at hread
      rw [store_of_read hperform hmine.2,
        stored_of_read (hanswers _ List.mem_cons_self) hread] at hcurrent
      cases hcurrent
      exact ⟨le_refl _, fun _ => .inl hmine⟩
    · rw [lastRead_own_cons hmine] at hread
      obtain ⟨e', he', -, hstored⟩ := htrace.exists_of_lastRead hread
      have hissued := issued_of_mem htrace he' (by rw [hstored]; rfl)
      by_cases hcommits : (⟨t', command, c, r, s.store⟩ : Event S).Commits k
      · -- one more event than before, hence more than the snapshot has
        obtain ⟨job, hjob, rfl⟩ := hcommits
        obtain ⟨before, event, hbefore, hevents⟩ := happend job hjob
        have hlt := (ih happends hread hbefore).1
        have hstored' : S.records s'.store job.id = some job :=
          heffect.stored_of_committed hjob
        rw [hstored'] at hcurrent
        cases hcurrent
        rw [hevents, List.length_append, List.length_singleton]
        exact ⟨by omega, fun h => by omega⟩
      · rcases heffect.not_commits_cases hissued hcommits with hsame | hnone
        · obtain ⟨hle, hquiet⟩ := ih happends hread (hsame ▸ hcurrent)
          exact ⟨hle, fun h => .inr ⟨hcommits, hquiet h⟩⟩
        · rw [hnone] at hcurrent
          cases hcurrent

/-- A successful guarded write: the snapshot it was made from and the record it replaces. -/
lemma Effect.committed_cases {e : Event S} (h : Effect s s' e) {job : ForecastJob}
    (hjob : e.committed = some job) : ∃ snapshot current event,
      lastRead job.id (own e.task s.history) = some snapshot ∧
      S.records s.store job.id = some current ∧ job.events = snapshot.events ++ [event] := by
  cases h with
  | kept _ _ hnone => cases hnone.symm.trans hjob
  | created _ _ _ _ _ _ _ _ _ _ _ hnone => cases hnone.symm.trans hjob
  | deleted _ _ _ _ _ _ _ _ hnone => cases hnone.symm.trans hjob
  | written snapshot written current _ now hread hwrite _ hcurrent _ hcommitted _ _ =>
    cases hcommitted.symm.trans hjob
    obtain ⟨event, hevents, -⟩ := hwrite.events
    refine ⟨snapshot, current, event, ?_, ?_, hevents⟩
    · simpa only [hwrite.id_eq] using hread
    · simpa only [hwrite.id_eq] using hcurrent

end Reads

/-! ## When the history is append-only -/

/-- **The event history is append-only exactly in undisturbed runs.**  Every guarded write of a
run appends one event to the events stored immediately before it if and only if, before every
guarded write, no other one of the same job was committed since its task had read the job. -/
theorem appendsOneEvent_iff_undisturbed (S : ForecastJobStore) (config : ServiceConfig)
    (permitted : Command → Bool) (init : S.State) {cfg : LifecycleConfig S}
    (h : (lifecycle S config permitted).Reaches (Lifecycle.initial init) cfg) :
    (∀ e ∈ cfg.shared.history, e.AppendsOneEvent) ↔
      ∀ later e earlier job, cfg.shared.history = later ++ e :: earlier →
        e.committed = some job → Undisturbed e.task job.id earlier := by
  have htrace := trace_of_reaches h
  constructor
  · intro happends later e earlier job hhistory hjob
    obtain ⟨s₁, s₂, htrace₁, rfl, hbefore, -, -, heffect⟩ := htrace.split hhistory
    obtain ⟨snapshot, current, event, hread, hcurrent, hevents⟩ := heffect.committed_cases hjob
    have hearlier : ∀ e' ∈ s₁.history, e'.AppendsOneEvent := fun e' he' =>
      happends e' (hhistory ▸ List.mem_append_right _ (List.mem_cons_of_mem _ he'))
    refine (events_length_of_appends htrace₁ hearlier hread hcurrent).2 ?_
    -- the snapshot has as many events as the record that the write replaces
    have he : e ∈ cfg.shared.history := hhistory ▸ List.mem_append_right _ List.mem_cons_self
    obtain ⟨current', event', hcurrent', hevents'⟩ := happends e he job hjob
    rw [hbefore, hcurrent] at hcurrent'
    cases hcurrent'
    have hlength := congrArg List.length (hevents.symm.trans hevents')
    simpa using hlength
  · intro hquiet e he job hjob
    obtain ⟨later, earlier, hhistory⟩ := List.append_of_mem he
    obtain ⟨s₁, s₂, htrace₁, rfl, hbefore, -, -, heffect⟩ := htrace.split hhistory
    obtain ⟨snapshot, current, event, hread, hcurrent, hevents⟩ := heffect.committed_cases hjob
    refine ⟨current, event, hbefore ▸ hcurrent, ?_⟩
    rcases stored_of_undisturbed htrace₁ (hquiet later e _ job hhistory hjob) hread with
      hstored | hnone
    · cases hcurrent.symm.trans hstored
      exact hevents
    · cases hcurrent.symm.trans hnone

end Runtime

section Sample

open StrictRuntime

/-- A cancellation reads the queued job, a run claims it, and the cancellation is written. -/
def overwrittenSample : LifecycleConfig memoryStore :=
  (lifecycle memoryStore {} allCommands).after (Lifecycle.initial .empty)
    [.start (.submit 52 13), .act 0 { newId := sampleId },
      .start (.cancel sampleId), .start (.run sampleId), .act 1 {}, .act 1 { clock := 7 },
      .act 2 {}, .act 2 { clock := 5 }, .act 2 { clock := 6 }, .act 1 { clock := 8 }]

/-- A successful guarded write that stores other than one event more than the record before
it has. -/
def Event.breaksHistory (e : Event memoryStore) : Bool :=
  e.committed.any fun job => (memoryStore.records e.before job.id).all fun current =>
    job.events.length ≠ current.events.length + 1

lemma Event.not_appendsOneEvent {e : Event memoryStore} (h : e.breaksHistory = true) :
    ¬ e.AppendsOneEvent := by
  intro happends
  obtain ⟨job, hjob, hall⟩ := (Option.any_eq_true _ _).mp h
  obtain ⟨current, event, hcurrent, hevents⟩ := happends job hjob
  simp [hcurrent, hevents] at hall

lemma overwrittenSample_breaks : ∃ e ∈ overwrittenSample.shared.history, ¬ e.AppendsOneEvent := by
  have hbreaks : overwrittenSample.shared.history.any Event.breaksHistory = true := by
    decide +kernel
  obtain ⟨e, he, hbreak⟩ := List.any_eq_true.mp hbreaks
  exact ⟨e, he, Event.not_appendsOneEvent hbreak⟩

/-- The cancellation has overwritten the event of the claim: not every guarded write appends. -/
theorem running_event_lost :
    (lifecycle memoryStore {} allCommands).Reaches (Lifecycle.initial .empty)
      overwrittenSample ∧
    (∃ e ∈ overwrittenSample.shared.history, ¬ e.AppendsOneEvent) ∧
    (recordsOf overwrittenSample sampleId).map (fun job => job.events.map (·.status)) =
      some [.queued, .cancelled] :=
  ⟨System.reaches_after _ _, overwrittenSample_breaks, by decide +kernel⟩

/-- In that run a guarded write is disturbed. -/
theorem overwrittenSample_disturbed :
    ¬ ∀ later e earlier job, overwrittenSample.shared.history = later ++ e :: earlier →
      e.committed = some job → Undisturbed e.task job.id earlier := by
  intro hquiet
  obtain ⟨e, he, hbreak⟩ := overwrittenSample_breaks
  exact hbreak ((appendsOneEvent_iff_undisturbed memoryStore {} allCommands .empty
    (System.reaches_after _ _)).mpr hquiet e he)

end Sample

end Earth2Sandbox
