import Earth2Sandbox.Queue.InMemory

/-!
# Callers of the in-memory queue

Any number of callers use one queue.  What interleaves are the critical sections of its lock;
`mark_failed` with a requeue is two of them, and between the two the item is neither queued nor
in flight.  A `QueueRun` carries, besides the queue, the history that the contract of the queue
is about: the accepted enqueues, numbered in the order of their acceptance, the ones that were
delivered, and what each caller holds.

`Contract` is that contract, and `contract_of_reachable` says that it holds in every state of
every run.
-/

namespace Earth2Sandbox

/-- An accepted enqueue: how many were accepted before it, and its item. -/
structure Ticket where
  number : ℕ
  item : ForecastQueueItem
  deriving DecidableEq

/-- Priority first, then order of acceptance. -/
def Ticket.le (t t' : Ticket) : Prop :=
  priorityRank t.item.priority < priorityRank t'.item.priority ∨
    priorityRank t.item.priority = priorityRank t'.item.priority ∧ t.number ≤ t'.number

/-- The critical sections of the queue's operations. -/
inductive QueueAction where
  | enqueue (jobId : String) (priority : ForecastJobPriority) (idempotencyKey : Option String)
  | dequeue (caller : ℕ)
  | markCompleted (caller : ℕ) (item : ForecastQueueItem)
  | markFailed (caller : ℕ) (item : ForecastQueueItem) (requeue : Bool)
  | requeue (item : ForecastQueueItem)
  deriving DecidableEq

/-- The queue with its history. -/
structure QueueRun where
  queue : InMemoryPriorityForecastQueue
  accepted : List Ticket
  delivered : List Ticket
  /-- What callers have dequeued and not marked yet. -/
  held : List (ℕ × Ticket)
  /-- Items between the two critical sections of a `mark_failed` with a requeue. -/
  requeueing : List ForecastQueueItem

namespace QueueRun

/-- The run of an empty queue. -/
def initial : QueueRun := ⟨.empty, [], [], [], []⟩

/-- The ticket of a heap entry. -/
def ticketOf (entry : QueuedEntry) : Ticket := ⟨entry.sequence, entry.item⟩

/-- The accepted enqueues that were not delivered yet. -/
def Waiting (r : QueueRun) (t : Ticket) : Prop := t ∈ r.accepted ∧ t ∉ r.delivered

/-- An enqueue, as an operation or as the second half of a requeue. -/
def enqueue (r : QueueRun) (jobId : String) (priority : ForecastJobPriority)
    (idempotencyKey : Option String) : QueueRun :=
  let result := r.queue.enqueue jobId priority idempotencyKey
  { r with
    queue := result.2
    accepted :=
      if result.1.enqueued then ⟨r.accepted.length, result.1.item⟩ :: r.accepted
      else r.accepted }

/-- A dequeue by a caller. -/
def dequeue (r : QueueRun) (caller : ℕ) : QueueRun :=
  match r.queue.dequeueEntry with
  | (none, queue) => { r with queue := queue }
  | (some entry, queue) =>
    { r with
      queue := queue
      delivered := ticketOf entry :: r.delivered
      held := (caller, ticketOf entry) :: r.held }

/-- What a caller holds with this item. -/
def holding (r : QueueRun) (caller : ℕ) (item : ForecastQueueItem) : Option (ℕ × Ticket) :=
  r.held.find? fun p => p.1 = caller ∧ p.2.item = item

/-- A caller marks the item that it holds under `p`. -/
def release (r : QueueRun) (p : ℕ × Ticket) : QueueRun :=
  { r with queue := r.queue.markCompleted p.2.item, held := r.held.erase p }

/-- One critical section; `none` when a caller marks an item that it does not hold. -/
def step (r : QueueRun) : QueueAction → Option QueueRun
  | .enqueue jobId priority idempotencyKey => some (r.enqueue jobId priority idempotencyKey)
  | .dequeue caller => some (r.dequeue caller)
  | .markCompleted caller item => (r.holding caller item).map r.release
  | .markFailed caller item requeue =>
    (r.holding caller item).map fun p =>
      { r.release p with requeueing := if requeue then item :: r.requeueing else r.requeueing }
  | .requeue item =>
    if item ∈ r.requeueing then
      some ({ r with requeueing := r.requeueing.erase item }.enqueue item.jobId item.priority
        item.idempotencyKey)
    else none

/-- The states of all runs. -/
inductive Reachable : QueueRun → Prop
  | initial : Reachable initial
  | step {r r' : QueueRun} (action : QueueAction) :
      Reachable r → r.step action = some r' → Reachable r'

/-! ## The contract -/

/-- A deduplicating priority/FIFO queue. -/
structure Contract (r : QueueRun) : Prop where
  /-- No key is both queued and in flight. -/
  disjoint : ∀ key, ¬ ((r.queue.queuedByKey.lookup key).isSome ∧
    (r.queue.inFlightByKey.lookup key).isSome)
  /-- The heap entries are exactly the queued items, one each. -/
  entries_perm : (r.queue.entries.map fun entry =>
      (⟨itemKey entry.item, entry.item⟩ : Sigma fun _ : String => ForecastQueueItem)).Perm
    r.queue.queuedByKey.entries
  /-- A dequeue returns nothing only when nothing is queued. -/
  dequeue_none : r.queue.dequeue.1 = none ↔ r.queue.queuedByKey.entries = []
  /-- A dequeue returns the item of the waiting enqueue that is first by priority, then by
  order of acceptance, and that enqueue is delivered by it. -/
  dequeue_some : ∀ caller item, r.queue.dequeue.1 = some item →
    ∃ t, r.Waiting t ∧ t.item = item ∧ (∀ t', r.Waiting t' → t.le t') ∧
      (r.dequeue caller).delivered = t :: r.delivered ∧
      (r.dequeue caller).held = (caller, t) :: r.held
  /-- Accepted enqueues have different numbers, so a ticket stands for one of them. -/
  numbers_nodup : (r.accepted.map (·.number)).Nodup
  /-- What is delivered was accepted, and is delivered once. -/
  delivered_once : r.delivered.Nodup ∧ ∀ t ∈ r.delivered, t ∈ r.accepted
  /-- An accepted enqueue stays queued until it is delivered. -/
  queued_of_waiting : ∀ t, r.Waiting t →
    r.queue.queuedByKey.lookup (itemKey t.item) = some t.item
  /-- An enqueue is refused exactly when the key is queued or in flight, and then it returns
  the item that is. -/
  refused_iff : ∀ jobId priority idempotencyKey,
    let result := (r.queue.enqueue jobId priority idempotencyKey).1
    let key := queueKey jobId idempotencyKey
    (result.enqueued = false ↔ (r.queue.queuedByKey.lookup key).isSome ∨
      (r.queue.inFlightByKey.lookup key).isSome) ∧
    (result.enqueued = false → r.queue.queuedByKey.lookup key = some result.item ∨
      r.queue.inFlightByKey.lookup key = some result.item)
  /-- No two callers hold items with the same key. -/
  held_nodup : (r.held.map fun p => itemKey p.2.item).Nodup

/-! ## The invariant of runs -/

/-- How the history and the queue hang together. -/
structure Invariant (r : QueueRun) : Prop where
  queue : r.queue.Invariant
  sequence_eq : r.queue.sequence = r.accepted.length
  numbers_lt : ∀ t ∈ r.accepted, t.number < r.accepted.length
  numbers_nodup : (r.accepted.map (·.number)).Nodup
  waiting_iff : ∀ t, r.Waiting t ↔ ∃ entry ∈ r.queue.entries, ticketOf entry = t
  delivered_mem : ∀ t ∈ r.delivered, t ∈ r.accepted
  delivered_nodup : r.delivered.Nodup
  inFlight_iff : ∀ key item, r.queue.inFlightByKey.lookup key = some item ↔
    ∃ p ∈ r.held, p.2.item = item ∧ itemKey item = key
  held_nodup : (r.held.map fun p => itemKey p.2.item).Nodup

variable {r : QueueRun}

lemma invariant_initial : initial.Invariant where
  queue := InMemoryPriorityForecastQueue.invariant_empty
  sequence_eq := rfl
  numbers_lt := by simp [initial]
  numbers_nodup := List.nodup_nil
  waiting_iff := by simp [initial, Waiting, InMemoryPriorityForecastQueue.empty]
  delivered_mem := by simp [initial]
  delivered_nodup := List.nodup_nil
  inFlight_iff := by simp [initial, InMemoryPriorityForecastQueue.empty]
  held_nodup := List.nodup_nil

/-- The two outcomes of an enqueue. -/
lemma enqueue_cases (r : QueueRun) (jobId : String) (priority : ForecastJobPriority)
    (idempotencyKey : Option String) :
    (∃ item, r.queue.existing (queueKey jobId idempotencyKey) = some item ∧
      r.queue.enqueue jobId priority idempotencyKey = (⟨item, false⟩, r.queue) ∧
      r.enqueue jobId priority idempotencyKey = r) ∨
    (∃ entries' queued', r.queue.existing (queueKey jobId idempotencyKey) = none ∧
      entries' = heappush r.queue.entries ⟨priorityRank priority, r.queue.sequence,
        queueItem jobId priority idempotencyKey⟩ ∧
      (r.queue.enqueue jobId priority idempotencyKey).1 =
        ⟨queueItem jobId priority idempotencyKey, true⟩ ∧
      r.enqueue jobId priority idempotencyKey =
        { r with
          queue := ⟨entries', queued', r.queue.inFlightByKey, r.queue.sequence + 1⟩
          accepted := ⟨r.accepted.length, queueItem jobId priority idempotencyKey⟩ ::
            r.accepted }) := by
  cases h : r.queue.existing (queueKey jobId idempotencyKey) with
  | some item =>
    refine .inl ⟨item, rfl, ?_, ?_⟩
    · simp [InMemoryPriorityForecastQueue.enqueue, h]
    · simp [enqueue, InMemoryPriorityForecastQueue.enqueue, h]
  | none =>
    refine .inr ⟨_, r.queue.queuedByKey.insert (queueKey jobId idempotencyKey)
      (queueItem jobId priority idempotencyKey), rfl, rfl, ?_, ?_⟩
    · simp [InMemoryPriorityForecastQueue.enqueue, h]
    · simp [enqueue, InMemoryPriorityForecastQueue.enqueue, h]

namespace Invariant

lemma enqueue (h : r.Invariant) (jobId : String) (priority : ForecastJobPriority)
    (idempotencyKey : Option String) : (r.enqueue jobId priority idempotencyKey).Invariant := by
  have hqueue := h.queue.enqueue jobId priority idempotencyKey
  obtain ⟨item, -, -, heq⟩ | ⟨entries', queued', hnone, hentries, -, heq⟩ :=
    r.enqueue_cases jobId priority idempotencyKey
  · rwa [heq]
  · have hqueue' : (r.enqueue jobId priority idempotencyKey).queue.Invariant := hqueue
    rw [heq] at hqueue' ⊢
    have hnew : (⟨r.accepted.length, queueItem jobId priority idempotencyKey⟩ : Ticket) ∉
        r.delivered := fun hmem => absurd (h.numbers_lt _ (h.delivered_mem _ hmem)) (lt_irrefl _)
    refine ⟨hqueue', ?_, ?_, ?_, ?_, ?_, h.delivered_nodup, h.inFlight_iff, h.held_nodup⟩
    · simp [h.sequence_eq]
    · intro t ht
      rcases List.mem_cons.mp ht with rfl | ht
      · simp
      · have := h.numbers_lt t ht
        simp only [List.length_cons]
        omega
    · refine List.nodup_cons.mpr ⟨?_, h.numbers_nodup⟩
      intro hmem
      obtain ⟨t, ht, hnumber⟩ := List.mem_map.mp hmem
      have hlt : t.number < r.accepted.length := h.numbers_lt t ht
      exact absurd hnumber (Nat.ne_of_lt hlt)
    · intro t
      simp only [Waiting, List.mem_cons, hentries, InMemoryPriorityForecastQueue.mem_heappush]
      constructor
      · rintro ⟨rfl | ht, hdelivered⟩
        · exact ⟨_, .inl rfl, by simp [ticketOf, h.sequence_eq]⟩
        · obtain ⟨entry, hentry, hticket⟩ := (h.waiting_iff t).mp ⟨ht, hdelivered⟩
          exact ⟨entry, .inr hentry, hticket⟩
      · rintro ⟨entry, rfl | hentry, rfl⟩
        · have hticket : ticketOf ⟨priorityRank priority, r.queue.sequence,
              queueItem jobId priority idempotencyKey⟩ =
              ⟨r.accepted.length, queueItem jobId priority idempotencyKey⟩ := by
            simp [ticketOf, h.sequence_eq]
          rw [hticket]
          exact ⟨.inl rfl, hnew⟩
        · obtain ⟨ht, hdelivered⟩ := (h.waiting_iff (ticketOf entry)).mpr ⟨entry, hentry, rfl⟩
          exact ⟨.inr ht, hdelivered⟩
    · exact fun t ht => List.mem_cons_of_mem _ (h.delivered_mem t ht)

/-- The first entry of the heap is the waiting enqueue that is first. -/
lemma le_of_head (h : r.Invariant) {entry : QueuedEntry} {rest : List QueuedEntry}
    (hentries : r.queue.entries = entry :: rest) {t : Ticket} (ht : r.Waiting t) :
    (ticketOf entry).le t := by
  obtain ⟨entry', hentry', rfl⟩ := (h.waiting_iff t).mp ht
  have hle : entry.le entry' := by
    have hsorted := h.queue.sorted
    rw [hentries] at hsorted hentry'
    rcases List.mem_cons.mp hentry' with rfl | hmem
    · exact .inr ⟨rfl, le_refl _⟩
    · exact (List.pairwise_cons.mp hsorted).1 entry' hmem
  unfold QueuedEntry.le at hle
  rw [h.queue.rank_eq entry (hentries ▸ List.mem_cons_self), h.queue.rank_eq entry' hentry'] at hle
  exact hle

lemma dequeue (h : r.Invariant) (caller : ℕ) : (r.dequeue caller).Invariant := by
  have hqueue := h.queue.dequeueEntry
  have hdequeue := h.queue.dequeueEntry_eq
  unfold QueueRun.dequeue
  cases hentries : r.queue.entries with
  | nil =>
    rw [hentries] at hdequeue
    rw [hdequeue] at hqueue ⊢
    exact h
  | cons entry rest =>
    rw [hentries] at hdequeue
    rw [hdequeue] at hqueue ⊢
    have hmem : entry ∈ r.queue.entries := hentries ▸ List.mem_cons_self
    obtain ⟨haccepted, hdelivered⟩ := (h.waiting_iff (ticketOf entry)).mpr ⟨entry, hmem, rfl⟩
    have hsequences := h.queue.sequences_nodup
    rw [hentries, List.map_cons, List.nodup_cons] at hsequences
    have hflight : r.queue.inFlightByKey.lookup (itemKey entry.item) = none := by
      refine h.queue.disjoint _ ?_
      rw [(h.queue.queued_iff _ entry.item).mpr ⟨entry, hmem, rfl, rfl⟩]
      rfl
    have hfresh : ∀ p ∈ r.held, itemKey p.2.item ≠ itemKey entry.item := by
      intro p hp hkey
      have := (h.inFlight_iff _ p.2.item).mpr ⟨p, hp, rfl, hkey⟩
      rw [hflight] at this
      cases this
    refine ⟨hqueue, h.sequence_eq, h.numbers_lt, h.numbers_nodup, ?_, ?_,
      List.nodup_cons.mpr ⟨hdelivered, h.delivered_nodup⟩, ?_, ?_⟩
    · intro t
      simp only [Waiting, List.mem_cons, not_or]
      constructor
      · rintro ⟨ht, hne, hnot⟩
        obtain ⟨entry', hentry', rfl⟩ := (h.waiting_iff t).mp ⟨ht, hnot⟩
        rw [hentries] at hentry'
        rcases List.mem_cons.mp hentry' with rfl | hrest
        · exact absurd rfl hne
        · exact ⟨entry', hrest, rfl⟩
      · rintro ⟨entry', hrest, rfl⟩
        obtain ⟨ht, hnot⟩ := (h.waiting_iff (ticketOf entry')).mpr
          ⟨entry', hentries ▸ List.mem_cons_of_mem _ hrest, rfl⟩
        refine ⟨ht, fun heq => ?_, hnot⟩
        exact hsequences.1 (List.mem_map.mpr ⟨entry', hrest, congrArg Ticket.number heq⟩)
    · exact List.forall_mem_cons.mpr ⟨haccepted, h.delivered_mem⟩
    · intro key item
      by_cases hkey : key = itemKey entry.item
      · subst hkey
        rw [AList.lookup_insert]
        constructor
        · intro hitem
          cases hitem
          exact ⟨_, List.mem_cons_self, rfl, rfl⟩
        · rintro ⟨p, hp, rfl, hkey⟩
          rcases List.mem_cons.mp hp with rfl | hp
          · rfl
          · exact absurd hkey (hfresh p hp)
      · rw [AList.lookup_insert_ne hkey, h.inFlight_iff]
        constructor
        · rintro ⟨p, hp, hitem⟩
          exact ⟨p, List.mem_cons_of_mem _ hp, hitem⟩
        · rintro ⟨p, hp, rfl, rfl⟩
          rcases List.mem_cons.mp hp with rfl | hp
          · exact absurd rfl hkey
          · exact ⟨p, hp, rfl, rfl⟩
    · refine List.nodup_cons.mpr ⟨?_, h.held_nodup⟩
      intro hmem'
      obtain ⟨p, hp, hkey⟩ := List.mem_map.mp hmem'
      exact hfresh p hp hkey

lemma release (h : r.Invariant) {p : ℕ × Ticket} (hp : p ∈ r.held) :
    (r.release p).Invariant := by
  have hnodup : r.held.Nodup := List.Nodup.of_map _ h.held_nodup
  have hkeys : ∀ p' ∈ r.held.erase p, itemKey p'.2.item ≠ itemKey p.2.item := by
    intro p' hp' hkey
    obtain ⟨hne, hmem⟩ := (hnodup.mem_erase_iff).mp hp'
    exact hne (List.inj_on_of_nodup_map h.held_nodup hmem hp hkey)
  refine ⟨h.queue.markCompleted p.2.item, h.sequence_eq, h.numbers_lt, h.numbers_nodup,
    h.waiting_iff, h.delivered_mem, h.delivered_nodup, ?_, ?_⟩
  · intro key item
    change (r.queue.inFlightByKey.erase (itemKey p.2.item)).lookup key = some item ↔
      ∃ p' ∈ r.held.erase p, _
    by_cases hkey : key = itemKey p.2.item
    · subst hkey
      rw [AList.lookup_erase]
      refine iff_of_false nofun ?_
      rintro ⟨p', hp', rfl, hkey⟩
      exact hkeys p' hp' hkey
    · rw [AList.lookup_erase_ne hkey, h.inFlight_iff]
      constructor
      · rintro ⟨p', hp', rfl, rfl⟩
        exact ⟨p', hnodup.mem_erase_iff.mpr ⟨fun heq => hkey (heq ▸ rfl), hp'⟩, rfl, rfl⟩
      · rintro ⟨p', hp', hitem⟩
        exact ⟨p', List.mem_of_mem_erase hp', hitem⟩
  · exact h.held_nodup.sublist (List.erase_sublist.map _)

/-- Items between two critical sections are of no consequence. -/
lemma withRequeueing (h : r.Invariant) (items : List ForecastQueueItem) :
    ({ r with requeueing := items } : QueueRun).Invariant :=
  ⟨h.queue, h.sequence_eq, h.numbers_lt, h.numbers_nodup, h.waiting_iff, h.delivered_mem,
    h.delivered_nodup, h.inFlight_iff, h.held_nodup⟩

lemma step (h : r.Invariant) {action : QueueAction} {r' : QueueRun}
    (hstep : r.step action = some r') : r'.Invariant := by
  cases action with
  | enqueue jobId priority idempotencyKey =>
    cases hstep
    exact h.enqueue jobId priority idempotencyKey
  | dequeue caller =>
    cases hstep
    exact h.dequeue caller
  | markCompleted caller item =>
    obtain ⟨p, hp, rfl⟩ := Option.map_eq_some_iff.mp hstep
    exact h.release (List.mem_of_find?_eq_some hp)
  | markFailed caller item requeue =>
    obtain ⟨p, hp, rfl⟩ := Option.map_eq_some_iff.mp hstep
    exact (h.release (List.mem_of_find?_eq_some hp)).withRequeueing _
  | requeue item =>
    simp only [QueueRun.step, Option.ite_none_right_eq_some, Option.some.injEq] at hstep
    obtain ⟨-, rfl⟩ := hstep
    exact (h.withRequeueing _).enqueue _ _ _

/-! ## The contract holds -/

lemma entries_perm (h : r.queue.Invariant) :
    (r.queue.entries.map fun entry =>
      (⟨itemKey entry.item, entry.item⟩ : Sigma fun _ : String => ForecastQueueItem)).Perm
    r.queue.queuedByKey.entries := by
  refine (List.perm_ext_iff_of_nodup ?_ ?_).mpr ?_
  · refine List.Nodup.of_map Sigma.fst ?_
    rw [List.map_map]
    exact h.keys_nodup
  · exact r.queue.queuedByKey.nodupKeys.nodup
  · rintro ⟨key, item⟩
    rw [← AList.mem_lookup_iff, Option.mem_def, h.queued_iff, List.mem_map]
    constructor
    · rintro ⟨entry, hentry, heq⟩
      cases heq
      exact ⟨entry, hentry, rfl, rfl⟩
    · rintro ⟨entry, hentry, rfl, rfl⟩
      exact ⟨entry, hentry, rfl⟩

lemma contract (h : r.Invariant) : r.Contract := by
  have hperm := entries_perm h.queue
  have hdequeue := h.queue.dequeueEntry_eq
  refine ⟨?_, hperm, ?_, ?_, h.numbers_nodup, ⟨h.delivered_nodup, h.delivered_mem⟩, ?_, ?_,
    h.held_nodup⟩
  · rintro key ⟨hqueued, hflight⟩
    rw [h.queue.disjoint key hqueued] at hflight
    cases hflight
  · unfold InMemoryPriorityForecastQueue.dequeue
    rw [hdequeue]
    cases hentries : r.queue.entries with
    | nil =>
      rw [hentries] at hperm
      simpa using hperm.symm.eq_nil
    | cons entry rest =>
      rw [hentries] at hperm
      refine iff_of_false nofun fun hnil => ?_
      rw [hnil] at hperm
      simpa using hperm.eq_nil
  · intro caller item hitem
    unfold InMemoryPriorityForecastQueue.dequeue at hitem
    unfold QueueRun.dequeue
    cases hentries : r.queue.entries with
    | nil =>
      rw [hentries] at hdequeue
      simp [hdequeue] at hitem
    | cons entry rest =>
      rw [hentries] at hdequeue
      rw [hdequeue] at hitem ⊢
      obtain rfl : entry.item = item := by simpa using hitem
      exact ⟨ticketOf entry,
        (h.waiting_iff _).mpr ⟨entry, hentries ▸ List.mem_cons_self, rfl⟩, rfl,
        fun t' ht' => h.le_of_head hentries ht', rfl, rfl⟩
  · intro t ht
    obtain ⟨entry, hentry, rfl⟩ := (h.waiting_iff t).mp ht
    exact (h.queue.queued_iff _ _).mpr ⟨entry, hentry, rfl, rfl⟩
  · intro jobId priority idempotencyKey
    obtain ⟨item, hexisting, heq, -⟩ | ⟨_, _, hnone, -, heq, -⟩ :=
      r.enqueue_cases jobId priority idempotencyKey
    · have hor := Option.or_eq_some_iff.mp hexisting
      rw [heq]
      refine ⟨iff_of_true rfl ?_, fun _ => ?_⟩
      · rcases hor with hqueued | ⟨-, hflight⟩
        · exact .inl (by rw [hqueued]; rfl)
        · exact .inr (by rw [hflight]; rfl)
      · exact hor.imp_right And.right
    · obtain ⟨hqueued, hflight⟩ := InMemoryPriorityForecastQueue.existing_eq_none.mp hnone
      dsimp only
      rw [heq, hqueued, hflight]
      simp

end Invariant

/-- **The in-memory queue is a deduplicating priority/FIFO queue.**  Its contract holds in
every state that any sequence of critical sections of any callers reaches. -/
theorem contract_of_reachable {r : QueueRun} (h : Reachable r) : r.Contract := by
  refine Invariant.contract ?_
  induction h with
  | initial => exact invariant_initial
  | step action _ hstep ih => exact ih.step hstep

/-- A duplicate, a more urgent job and a dequeue: the contract at the end of the run, and
the urgent job is what is held. -/
theorem contract_of_reachable_urgent :
    let r := ((((initial.enqueue "a" .normal none).enqueue "a" .high none).enqueue "b" .high
      none).dequeue 1)
    r.Contract ∧ r.held = [(1, ⟨1, queueItem "b" .high none⟩)] := by
  refine ⟨contract_of_reachable ?_, by decide +kernel⟩
  have h₁ := Reachable.initial.step (.enqueue "a" .normal none) rfl
  have h₂ := h₁.step (.enqueue "a" .high none) rfl
  have h₃ := h₂.step (.enqueue "b" .high none) rfl
  exact h₃.step (.dequeue 1) rfl

end QueueRun

end Earth2Sandbox
