import Earth2Sandbox.Queue.Port
import Mathlib.Data.List.Sort

/-!
# The in-memory priority queue

`InMemoryPriorityForecastQueue` keeps a heap of entries, the queued items and the items in
flight by key, and a sequence counter.  Every operation but `mark_failed` with a requeue is one
critical section of the queue's lock, hence one function of the state.

A `heapq` list is the sorted list of its entries: `heappush` inserts in order and `heappop`
takes the first, which is the smallest.  `Invariant` says how the heap and the two dictionaries
hang together; under it no entry is ever skipped (`dequeue_eq`).
-/

namespace Earth2Sandbox

/-- `_QueuedEntry`, compared by rank and sequence. -/
structure QueuedEntry where
  rank : ℕ
  sequence : ℕ
  item : ForecastQueueItem
  deriving DecidableEq

/-- The order of a heap: `entry <= other`. -/
def QueuedEntry.le (entry other : QueuedEntry) : Prop :=
  entry.rank < other.rank ∨ entry.rank = other.rank ∧ entry.sequence ≤ other.sequence

instance : DecidableRel QueuedEntry.le := fun entry other => by
  unfold QueuedEntry.le
  infer_instance

instance : Std.Total QueuedEntry.le := ⟨fun a b => by unfold QueuedEntry.le; omega⟩

instance : IsTrans QueuedEntry QueuedEntry.le := ⟨fun a b c => by unfold QueuedEntry.le; omega⟩

/-- `heapq.heappush`. -/
def heappush (entries : List QueuedEntry) (entry : QueuedEntry) : List QueuedEntry :=
  entries.orderedInsert QueuedEntry.le entry

/-- The state of an `InMemoryPriorityForecastQueue`. -/
structure InMemoryPriorityForecastQueue where
  entries : List QueuedEntry
  queuedByKey : Dict ForecastQueueItem
  inFlightByKey : Dict ForecastQueueItem
  sequence : ℕ

namespace InMemoryPriorityForecastQueue

/-- `__init__`. -/
def empty : InMemoryPriorityForecastQueue := ⟨[], ∅, ∅, 0⟩

/-- The item queued or in flight under a key: `queued.get(key) or in_flight.get(key)`. -/
def existing (queue : InMemoryPriorityForecastQueue) (key : String) :
    Option ForecastQueueItem :=
  (queue.queuedByKey.lookup key).or (queue.inFlightByKey.lookup key)

def enqueue (queue : InMemoryPriorityForecastQueue) (jobId : String)
    (priority : ForecastJobPriority) (idempotencyKey : Option String) :
    ForecastQueueEnqueueResult × InMemoryPriorityForecastQueue :=
  let key := queueKey jobId idempotencyKey
  match queue.existing key with
  | some existing => (⟨existing, false⟩, queue)
  | none =>
    let item := queueItem jobId priority idempotencyKey
    let entry := ⟨priorityRank priority, queue.sequence, item⟩
    (⟨item, true⟩,
      { queue with
        entries := heappush queue.entries entry
        queuedByKey := queue.queuedByKey.insert key item
        sequence := queue.sequence + 1 })

/-- The loop of `dequeue`: entries whose item is not queued any more are skipped. -/
def dequeueLoop (queue : InMemoryPriorityForecastQueue) :
    List QueuedEntry → Option QueuedEntry × InMemoryPriorityForecastQueue
  | [] => (none, { queue with entries := [] })
  | entry :: rest =>
    let key := itemKey entry.item
    if queue.queuedByKey.lookup key ≠ some entry.item then dequeueLoop queue rest
    else
      (some entry,
        { queue with
          entries := rest
          queuedByKey := queue.queuedByKey.erase key
          inFlightByKey := queue.inFlightByKey.insert key entry.item })

/-- `dequeue`, with the entry whose item is returned. -/
def dequeueEntry (queue : InMemoryPriorityForecastQueue) :
    Option QueuedEntry × InMemoryPriorityForecastQueue :=
  queue.dequeueLoop queue.entries

def dequeue (queue : InMemoryPriorityForecastQueue) :
    Option ForecastQueueItem × InMemoryPriorityForecastQueue :=
  (queue.dequeueEntry.1.map (·.item), queue.dequeueEntry.2)

/-- `mark_completed`, and the first critical section of `mark_failed`. -/
def markCompleted (queue : InMemoryPriorityForecastQueue) (item : ForecastQueueItem) :
    InMemoryPriorityForecastQueue :=
  { queue with inFlightByKey := queue.inFlightByKey.erase (itemKey item) }

/-- `mark_failed`, without interference between its two critical sections. -/
def markFailed (queue : InMemoryPriorityForecastQueue) (item : ForecastQueueItem)
    (requeue : Bool) : InMemoryPriorityForecastQueue :=
  if requeue then
    ((queue.markCompleted item).enqueue item.jobId item.priority item.idempotencyKey).2
  else queue.markCompleted item

def pendingCount (queue : InMemoryPriorityForecastQueue) : ℕ := queue.queuedByKey.len

def inFlightCount (queue : InMemoryPriorityForecastQueue) : ℕ := queue.inFlightByKey.len

/-! ## The invariant -/

/-- The heap holds exactly the queued items, one entry each, in order; no key is both queued
and in flight. -/
structure Invariant (queue : InMemoryPriorityForecastQueue) : Prop where
  sorted : queue.entries.Pairwise QueuedEntry.le
  rank_eq : ∀ entry ∈ queue.entries, entry.rank = priorityRank entry.item.priority
  sequence_lt : ∀ entry ∈ queue.entries, entry.sequence < queue.sequence
  sequences_nodup : (queue.entries.map (·.sequence)).Nodup
  keys_nodup : (queue.entries.map fun entry => itemKey entry.item).Nodup
  queued_iff : ∀ key item, queue.queuedByKey.lookup key = some item ↔
    ∃ entry ∈ queue.entries, entry.item = item ∧ itemKey item = key
  inFlight_key : ∀ key item, queue.inFlightByKey.lookup key = some item → itemKey item = key
  disjoint : ∀ key, (queue.queuedByKey.lookup key).isSome →
    queue.inFlightByKey.lookup key = none

variable {queue : InMemoryPriorityForecastQueue}

lemma mem_heappush {entries : List QueuedEntry} {entry e : QueuedEntry} :
    e ∈ heappush entries entry ↔ e = entry ∨ e ∈ entries := by
  unfold heappush
  rw [(List.perm_orderedInsert QueuedEntry.le entry entries).mem_iff, List.mem_cons]

lemma existing_eq_none {key : String} :
    queue.existing key = none ↔
      queue.queuedByKey.lookup key = none ∧ queue.inFlightByKey.lookup key = none := by
  simp [existing]

lemma invariant_empty : empty.Invariant where
  sorted := List.Pairwise.nil
  rank_eq := by simp [empty]
  sequence_lt := by simp [empty]
  sequences_nodup := List.nodup_nil
  keys_nodup := List.nodup_nil
  queued_iff := by simp [empty]
  inFlight_key := by simp [empty]
  disjoint := by simp [empty]

namespace Invariant

lemma enqueue (h : queue.Invariant) (jobId : String) (priority : ForecastJobPriority)
    (idempotencyKey : Option String) :
    (queue.enqueue jobId priority idempotencyKey).2.Invariant := by
  unfold InMemoryPriorityForecastQueue.enqueue
  dsimp only
  split
  · exact h
  · next hnone =>
    obtain ⟨hqueued, hflight⟩ := existing_eq_none.mp hnone
    have hnew : ∀ entry ∈ queue.entries,
        itemKey entry.item ≠ queueKey jobId idempotencyKey := by
      intro entry hentry hkey
      have hsome := (h.queued_iff _ _).mpr ⟨entry, hentry, rfl, hkey⟩
      rw [hqueued] at hsome
      cases hsome
    have hperm := List.perm_orderedInsert QueuedEntry.le
      ⟨priorityRank priority, queue.sequence, queueItem jobId priority idempotencyKey⟩
      queue.entries
    refine ⟨?_, ?_, ?_, ?_, ?_, ?_, h.inFlight_key, ?_⟩
    · exact h.sorted.orderedInsert _ _
    · intro entry hentry
      rcases mem_heappush.mp hentry with rfl | hentry
      · rfl
      · exact h.rank_eq entry hentry
    · intro entry hentry
      rcases mem_heappush.mp hentry with rfl | hentry
      · exact Nat.lt_succ_self _
      · exact Nat.lt_succ_of_lt (h.sequence_lt entry hentry)
    · refine ((hperm.map (·.sequence)).nodup_iff).mpr (List.nodup_cons.mpr ⟨?_, h.sequences_nodup⟩)
      intro hmem
      obtain ⟨entry, hentry, heq⟩ := List.mem_map.mp hmem
      exact absurd (h.sequence_lt entry hentry) (heq ▸ lt_irrefl _)
    · refine ((hperm.map fun entry => itemKey entry.item).nodup_iff).mpr
        (List.nodup_cons.mpr ⟨?_, h.keys_nodup⟩)
      intro hmem
      obtain ⟨entry, hentry, heq⟩ := List.mem_map.mp hmem
      exact hnew entry hentry (by simpa using heq)
    · intro key item
      by_cases hkey : key = queueKey jobId idempotencyKey
      · subst hkey
        rw [AList.lookup_insert]
        constructor
        · intro hitem
          cases hitem
          exact ⟨_, mem_heappush.mpr (.inl rfl), rfl, itemKey_queueItem ..⟩
        · rintro ⟨entry, hentry, rfl, hkey⟩
          rcases mem_heappush.mp hentry with rfl | hentry
          · rfl
          · exact absurd hkey (hnew entry hentry)
      · rw [AList.lookup_insert_ne hkey, h.queued_iff]
        constructor
        · rintro ⟨entry, hentry, hitem⟩
          exact ⟨entry, mem_heappush.mpr (.inr hentry), hitem⟩
        · rintro ⟨entry, hentry, rfl, hkey'⟩
          rcases mem_heappush.mp hentry with rfl | hentry
          · exact absurd (hkey'.symm.trans (itemKey_queueItem ..)) hkey
          · exact ⟨entry, hentry, rfl, hkey'⟩
    · intro key hsome
      by_cases hkey : key = queueKey jobId idempotencyKey
      · rw [hkey]
        exact hflight
      · rw [AList.lookup_insert_ne hkey] at hsome
        exact h.disjoint key hsome

/-- No entry of the heap is skipped. -/
lemma dequeueEntry_eq (h : queue.Invariant) :
    queue.dequeueEntry = match queue.entries with
      | [] => (none, queue)
      | entry :: rest =>
        (some entry,
          { queue with
            entries := rest
            queuedByKey := queue.queuedByKey.erase (itemKey entry.item)
            inFlightByKey := queue.inFlightByKey.insert (itemKey entry.item) entry.item }) := by
  unfold dequeueEntry
  cases hentries : queue.entries with
  | nil =>
    change (none, { queue with entries := [] }) = (none, queue)
    rw [← hentries]
  | cons entry rest =>
    have hqueued : queue.queuedByKey.lookup (itemKey entry.item) = some entry.item :=
      (h.queued_iff _ _).mpr ⟨entry, hentries ▸ List.mem_cons_self, rfl, rfl⟩
    unfold dequeueLoop
    rw [if_neg (not_not.mpr hqueued)]

lemma dequeue_eq_some (h : queue.Invariant) {item : ForecastQueueItem}
    (hitem : queue.dequeue.1 = some item) :
    ∃ entry rest, queue.entries = entry :: rest ∧ entry.item = item ∧
      queue.dequeue.2 =
        { queue with
          entries := rest
          queuedByKey := queue.queuedByKey.erase (itemKey item)
          inFlightByKey := queue.inFlightByKey.insert (itemKey item) item } := by
  have heq := h.dequeueEntry_eq
  unfold InMemoryPriorityForecastQueue.dequeue at hitem ⊢
  cases hentries : queue.entries with
  | nil =>
    rw [heq, hentries] at hitem
    cases hitem
  | cons entry rest =>
    rw [hentries] at heq
    rw [heq] at hitem ⊢
    obtain rfl : entry.item = item := by simpa using hitem
    exact ⟨entry, rest, rfl, rfl, rfl⟩

lemma dequeue_eq_none (h : queue.Invariant) (hnone : queue.dequeue.1 = none) :
    queue.entries = [] ∧ queue.dequeue.2 = queue := by
  have heq := h.dequeueEntry_eq
  unfold InMemoryPriorityForecastQueue.dequeue at hnone ⊢
  cases hentries : queue.entries with
  | nil =>
    rw [hentries] at heq
    exact ⟨rfl, by rw [heq]⟩
  | cons entry rest =>
    rw [heq, hentries] at hnone
    cases hnone

lemma dequeueEntry (h : queue.Invariant) : queue.dequeueEntry.2.Invariant := by
  rw [h.dequeueEntry_eq]
  cases hentries : queue.entries with
  | nil => exact h
  | cons entry rest =>
    have hsorted := h.sorted
    have hkeys := h.keys_nodup
    have hsequences := h.sequences_nodup
    rw [hentries] at hsorted hkeys hsequences
    rw [List.map_cons, List.nodup_cons] at hkeys hsequences
    have hrest : ∀ e ∈ rest, e ∈ queue.entries := fun e he =>
      hentries ▸ List.mem_cons_of_mem _ he
    refine ⟨(List.pairwise_cons.mp hsorted).2, fun e he => h.rank_eq e (hrest e he),
      fun e he => h.sequence_lt e (hrest e he), hsequences.2, hkeys.2, ?_, ?_, ?_⟩
    · intro key item
      by_cases hkey : key = itemKey entry.item
      · subst hkey
        rw [AList.lookup_erase]
        refine iff_of_false nofun ?_
        rintro ⟨e, he, rfl, hkey⟩
        exact hkeys.1 (List.mem_map.mpr ⟨e, he, hkey⟩)
      · rw [AList.lookup_erase_ne hkey, h.queued_iff, hentries]
        constructor
        · rintro ⟨e, he, rfl, rfl⟩
          rcases List.mem_cons.mp he with rfl | he
          · exact absurd rfl hkey
          · exact ⟨e, he, rfl, rfl⟩
        · rintro ⟨e, he, hitem⟩
          exact ⟨e, List.mem_cons_of_mem _ he, hitem⟩
    · intro key item hitem
      by_cases hkey : key = itemKey entry.item
      · subst hkey
        rw [AList.lookup_insert] at hitem
        cases hitem
        rfl
      · rw [AList.lookup_insert_ne hkey] at hitem
        exact h.inFlight_key key item hitem
    · intro key hsome
      by_cases hkey : key = itemKey entry.item
      · subst hkey
        simp at hsome
      · rw [AList.lookup_erase_ne hkey] at hsome
        rw [AList.lookup_insert_ne hkey]
        exact h.disjoint key hsome

lemma markCompleted (h : queue.Invariant) (item : ForecastQueueItem) :
    (queue.markCompleted item).Invariant := by
  have hlookup : ∀ key, (queue.markCompleted item).inFlightByKey.lookup key = none ∨
      (queue.markCompleted item).inFlightByKey.lookup key = queue.inFlightByKey.lookup key := by
    intro key
    by_cases hkey : key = itemKey item
    · subst hkey
      exact .inl (AList.lookup_erase _ _)
    · exact .inr (AList.lookup_erase_ne hkey)
  refine ⟨h.sorted, h.rank_eq, h.sequence_lt, h.sequences_nodup, h.keys_nodup, h.queued_iff, ?_, ?_⟩
  · intro key item' hitem
    rcases hlookup key with hnone | hsame
    · rw [hnone] at hitem
      cases hitem
    · exact h.inFlight_key key item' (hsame ▸ hitem)
  · intro key hsome
    rcases hlookup key with hnone | hsame
    · exact hnone
    · rw [hsame]
      exact h.disjoint key hsome

end Invariant

end InMemoryPriorityForecastQueue

end Earth2Sandbox
