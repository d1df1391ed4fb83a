import Earth2Sandbox.Lifecycle.Trace
import Earth2Sandbox.Storage.MemoryJobStore

/-!
# A finished job stays as it is

Every write site expects active statuses only, so the store refuses to replace a record whose
status is succeeded, failed or cancelled; a creation uses an unused id.  What is left is
deletion by a cleanup, and a deleted id is never used again.
-/

namespace Earth2Sandbox

section Runtime

variable [Runtime] {S : ForecastJobStore} {permitted : Command → Bool} {config : ServiceConfig}

/-- Only issued ids are stored. -/
def StoredIssued (s : Lifecycle S) : Prop :=
  ∀ k, (S.records s.store k).isSome → s.issued k = true

namespace Effect

variable {s s' : Lifecycle S} {e : Event S}

lemma issued_mono (h : Effect s s' e) {k : String} (hk : s.issued k = true) :
    s'.issued k = true := by
  cases h with
  | kept _ hissued _ => rwa [hissued]
  | created _ _ _ _ _ _ job _ _ _ hissued _ => simp [hissued, hk]
  | written _ _ _ _ _ _ _ _ _ _ _ _ hissued => rwa [hissued]
  | deleted _ _ _ _ _ _ _ hissued _ => rwa [hissued]

lemma storedIssued (h : Effect s s' e) (hs : StoredIssued s) : StoredIssued s' := by
  intro k hk
  cases h with
  | kept hrecs hissued _ =>
    rw [hissued]
    exact hs k (hrecs ▸ hk)
  | created _ _ _ _ _ _ job _ _ hrecs hissued _ =>
    rw [hrecs] at hk
    by_cases hjob : k = job.id
    · simp [hissued, hjob]
    · rw [Function.update_of_ne hjob] at hk
      simp [hissued, hs k hk]
  | written snapshot job current _ _ _ _ _ hcurrent _ _ hrecs hissued =>
    rw [hissued]
    rw [hrecs] at hk
    by_cases hk' : k = snapshot.id
    · exact hs k (by rw [hk', hcurrent]; rfl)
    · rw [Function.update_of_ne hk'] at hk
      exact hs k hk
  | deleted _ _ cutoff selected _ _ hrecs hissued _ =>
    rw [hissued]
    refine hs k ?_
    obtain ⟨job, hjob⟩ := Option.isSome_iff_exists.mp hk
    rw [hrecs, Records.deleteOlderThan_eq_some] at hjob
    rw [hjob.1]
    rfl

lemma not_revived (h : Effect s s' e) {k : String} (hissued : s.issued k = true)
    (hnone : S.records s.store k = none) : S.records s'.store k = none := by
  cases h with
  | kept hrecs _ _ => rwa [hrecs]
  | created _ _ _ _ _ _ job _ hfresh hrecs _ _ =>
    have hk : k ≠ job.id := by
      rintro rfl
      rw [hissued] at hfresh
      cases hfresh
    rw [hrecs, Function.update_of_ne hk, hnone]
  | written snapshot job current _ _ _ _ _ hcurrent _ _ hrecs _ =>
    have hk : k ≠ snapshot.id := by
      rintro rfl
      rw [hnone] at hcurrent
      cases hcurrent
    rw [hrecs, Function.update_of_ne hk, hnone]
  | deleted _ _ cutoff selected _ _ hrecs _ _ =>
    rw [hrecs]
    simp [Records.deleteOlderThan, hnone]

/-- A terminal record is left as it is, or deleted by a cleanup. -/
lemma terminal_cases (h : Effect s s' e) (hs : StoredIssued s) {k : String} {job : ForecastJob}
    (hjob : S.records s.store k = some job) (hterminal : job.status ∈ terminalJobStatuses) :
    S.records s'.store k = some job ∨
    (S.records s'.store k = none ∧ ∃ hours statuses cutoff selected,
      e.command = .cleanup hours statuses ∧ e.call = .deleteOlderThan cutoff selected) := by
  cases h with
  | kept hrecs _ _ => exact .inl (hrecs ▸ hjob)
  | created _ _ _ _ _ _ new _ hfresh hrecs _ _ =>
    have hk : k ≠ new.id := by
      rintro rfl
      rw [hs new.id (by rw [hjob]; rfl)] at hfresh
      cases hfresh
    rw [hrecs, Function.update_of_ne hk]
    exact .inl hjob
  | written snapshot new current expected _ _ hwrite _ hcurrent hmem _ hrecs _ =>
    have hk : k ≠ snapshot.id := by
      rintro rfl
      obtain rfl : job = current := Option.some.inj (hjob.symm.trans hcurrent)
      exact not_mem_terminal_iff_active.mpr (hwrite.expected_active hmem) hterminal
    rw [hrecs, Function.update_of_ne hk]
    exact .inl hjob
  | deleted hours statuses cutoff selected hcommand hcall hrecs _ _ =>
    rw [hrecs]
    obtain hkept | ⟨hnone, -⟩ :=
      (S.records s.store).deleteOlderThan_cases cutoff selected k
    · exact .inl (hkept.trans hjob)
    · exact .inr ⟨hnone, hours, statuses, cutoff, selected, hcommand, hcall⟩

end Effect

lemma storedIssued_of_trace {init : S.State} {s : Lifecycle S} (h : Trace permitted init s) :
    StoredIssued s := by
  induction h with
  | nil => exact fun _ hk => hk
  | cons htrace _ hjust hperform ih =>
    exact (effect_of_perform htrace hjust hperform).storedIssued ih

section Runs

variable {init : S.State} {cfg cfg' : LifecycleConfig S}

lemma not_revived_of_reaches
    (h : (lifecycle S config permitted).Reaches (Lifecycle.initial init) cfg)
    (h' : (lifecycle S config permitted).Reaches cfg cfg') {k : String}
    (hissued : cfg.shared.issued k = true) (hnone : recordsOf cfg k = none) :
    cfg'.shared.issued k = true ∧ recordsOf cfg' k = none := by
  induction h' with
  | refl => exact ⟨hissued, hnone⟩
  | step ch hreach hstep ih =>
    obtain heq | ⟨_, _, _, _, _, _, -, -, -, heffect⟩ := effect_of_step (h.trans hreach) hstep
    · unfold recordsOf at ih ⊢
      rwa [heq]
    · exact ⟨heffect.issued_mono ih.1, heffect.not_revived ih.1 ih.2⟩

/-- **Terminal records are final.**  Once job `k` is stored with a terminal status, its record
is the same in every later state or absent; the only step that makes a difference is a
deletion by a cleanup, and after it the id is never stored again. -/
theorem terminal_record_final (S : ForecastJobStore) (config : ServiceConfig)
    (permitted : Command → Bool) (init : S.State) {cfg cfg' : LifecycleConfig S}
    (h : (lifecycle S config permitted).Reaches (Lifecycle.initial init) cfg)
    {k : String} {job : ForecastJob} (hjob : recordsOf cfg k = some job)
    (hterminal : job.status ∈ terminalJobStatuses)
    (h' : (lifecycle S config permitted).Reaches cfg cfg') :
    (recordsOf cfg' k = some job ∧
      ∀ ch cfg'', (lifecycle S config permitted).step cfg' ch = some cfg'' →
        recordsOf cfg'' k = some job ∨
        (recordsOf cfg'' k = none ∧ ∃ i input hours statuses cutoff selected next,
          ch = .act i input ∧ cfg'.tasks[i]? =
            some ⟨.cleanup hours statuses, .call (.deleteOlderThan cutoff selected) next⟩)) ∨
    (recordsOf cfg' k = none ∧
      ∀ cfg'', (lifecycle S config permitted).Reaches cfg' cfg'' → recordsOf cfg'' k = none) := by
  have hstep : ∀ {c c' : LifecycleConfig S} {ch : Choice Command CallInput},
      (lifecycle S config permitted).Reaches (Lifecycle.initial init) c →
      recordsOf c k = some job → (lifecycle S config permitted).step c ch = some c' →
      recordsOf c' k = some job ∨
      (recordsOf c' k = none ∧ ∃ i input hours statuses cutoff selected next,
        ch = .act i input ∧ c.tasks[i]? =
          some ⟨.cleanup hours statuses, .call (.deleteOlderThan cutoff selected) next⟩) := by
    intro c c' ch hc hck hs
    obtain heq | ⟨i, input, command, call, next, r, hch, htask, -, heffect⟩ :=
      effect_of_step hc hs
    · left
      unfold recordsOf at hck ⊢
      rwa [heq]
    · obtain hkept | ⟨hnone, hours, statuses, cutoff, selected, hcommand, hcall⟩ :=
        heffect.terminal_cases (storedIssued_of_trace (trace_of_reaches hc)) hck hterminal
      · exact .inl hkept
      · subst hcommand hcall
        exact .inr ⟨hnone, i, input, hours, statuses, cutoff, selected, next, hch, htask⟩
  -- the record is kept up to its deletion, and not revived from there on
  have hrun : recordsOf cfg' k = some job ∨
      (recordsOf cfg' k = none ∧ cfg'.shared.issued k = true) := by
    induction h' with
    | refl => exact .inl hjob
    | step ch hreach hs ih =>
      have hc := h.trans hreach
      rcases ih with hkept | ⟨hnone, hissued⟩
      · rcases hstep hc hkept hs with hkept' | ⟨hnone', -⟩
        · exact .inl hkept'
        · have hissued := storedIssued_of_trace (trace_of_reaches hc) k
            (by unfold recordsOf at hkept; rw [hkept]; rfl)
          obtain heq | ⟨_, _, _, _, _, _, -, -, -, heffect⟩ := effect_of_step hc hs
          · exact .inr ⟨hnone', heq ▸ hissued⟩
          · exact .inr ⟨hnone', heffect.issued_mono hissued⟩
      · exact .inr ((not_revived_of_reaches hc (.single hs) hissued hnone).symm)
  rcases hrun with hkept | ⟨hnone, hissued⟩
  · exact .inl ⟨hkept, fun ch cfg'' hs => hstep (h.trans h') hkept hs⟩
  · exact .inr ⟨hnone, fun cfg'' h'' =>
      (not_revived_of_reaches (h.trans h') h'' hissued hnone).2⟩

end Runs

end Runtime

section Sample

open StrictRuntime

/-- A job is submitted and cancelled. -/
def cancelledSample : LifecycleConfig memoryStore :=
  (lifecycle memoryStore {} allCommands).after (Lifecycle.initial .empty)
    [.start (.submit 52 13), .act 0 { newId := sampleId }, .start (.cancel sampleId),
      .act 1 {}, .act 1 { clock := 5 }, .act 1 { clock := 6 }]

/-- A cleanup removes it later. -/
def cleanedSample : LifecycleConfig memoryStore :=
  (lifecycle memoryStore {} allCommands).after cancelledSample
    [.start (.cleanup none none), .act 2 { clock := timedeltaHours 200 }, .act 2 {}]

/-- The cleanup has removed the cancelled job, and it never comes back. -/
theorem terminal_record_final_cleaned :
    recordsOf cleanedSample sampleId = none ∧
      ∀ cfg, (lifecycle memoryStore {} allCommands).Reaches cleanedSample cfg →
        recordsOf cfg sampleId = none := by
  have hterminal : (recordsOf cancelledSample sampleId).any
      (·.status ∈ terminalJobStatuses) := by decide +kernel
  obtain ⟨job, hjob, hstatus⟩ := (Option.any_eq_true _ _).mp hterminal
  have hgone : recordsOf cleanedSample sampleId = none := by decide +kernel
  rcases terminal_record_final memoryStore {} allCommands .empty (System.reaches_after _ _)
    hjob (of_decide_eq_true hstatus) (System.reaches_after cancelledSample _) with
    ⟨hkept, -⟩ | hfinal
  · cases hgone.symm.trans hkept
  · exact hfinal

end Sample

end Earth2Sandbox
