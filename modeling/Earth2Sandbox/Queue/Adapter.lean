import Earth2Sandbox.Framework.Linearization
import Earth2Sandbox.Queue.InMemory
import Mathlib.Data.Finset.Insert

/-!
# Queue adapters

A `ForecastQueue` is any implementation of the queue port whose operations take effect at once,
however many calls they take: the operations as programs, and the laws that they act on the keys of
the pending items and of those in flight as `Enqueues`, `Dequeues` and `Releases` say.

`InMemoryPriorityForecastQueue` is one, with every critical section of its lock as a call.
-/

namespace Earth2Sandbox

/-- What can be seen of a queue: the keys of the pending items and of those in flight, and the item
under each key. -/
structure QueueView where
  pending : Finset String
  inFlight : Finset String
  items : String → Option ForecastQueueItem

/-- An item is enqueued, unless there is one with its key, which is returned. -/
def Enqueues (item : ForecastQueueItem) (result : ForecastQueueEnqueueResult)
    (q q' : QueueView) : Prop :=
  if result.enqueued then
    itemKey item ∉ q.pending ∧ itemKey item ∉ q.inFlight ∧ result.item = item ∧
      q' = { q with
        pending := insert (itemKey item) q.pending
        items := Function.update q.items (itemKey item) (some item) }
  else (itemKey item ∈ q.pending ∨ itemKey item ∈ q.inFlight) ∧
    q.items (itemKey item) = some result.item ∧ q' = q

/-- A pending item is taken, if there is one.  Which one it is does not matter here. -/
def Dequeues (result : Option ForecastQueueItem) (q q' : QueueView) : Prop :=
  match result with
  | none => q.pending = ∅ ∧ q' = q
  | some item => itemKey item ∈ q.pending ∧ q.items (itemKey item) = some item ∧
      q' = { q with
        pending := q.pending.erase (itemKey item)
        inFlight := insert (itemKey item) q.inFlight }

/-- An item is not in flight any more. -/
def Releases (item : ForecastQueueItem) (_ : Unit) (q q' : QueueView) : Prop :=
  q' = { q with
    inFlight := q.inFlight.erase (itemKey item)
    items := if itemKey item ∈ q.pending then q.items
      else Function.update q.items (itemKey item) none }

/-- A queue: its calls and what they do, its operations as programs over them, and what can be
seen of it. -/
structure ForecastQueue where
  State : Type
  Call : Type
  Reply : Call → Type
  /-- What the environment contributes to a call. -/
  Input : Type
  perform : State → Input → (c : Call) → Reply c × State
  enqueue : String → ForecastJobPriority → Option String →
    Program JobError Call Reply ForecastQueueEnqueueResult
  dequeue : Program JobError Call Reply (Option ForecastQueueItem)
  markCompleted : ForecastQueueItem → Program JobError Call Reply Unit
  markFailed : ForecastQueueItem → Bool → Program JobError Call Reply Unit
  view : State → QueueView
  enqueue_linearizes : ∀ jobId priority key, (enqueue jobId priority key).Linearizes
    (fun q c r q' => ∃ input, perform q input c = (r, q')) view
    (Enqueues (queueItem jobId priority key))
  dequeue_linearizes : dequeue.Linearizes
    (fun q c r q' => ∃ input, perform q input c = (r, q')) view Dequeues
  markCompleted_linearizes : ∀ item, (markCompleted item).Linearizes
    (fun q c r q' => ∃ input, perform q input c = (r, q')) view (Releases item)
  markFailed_linearizes : ∀ item, (markFailed item false).Linearizes
    (fun q c r q' => ∃ input, perform q input c = (r, q')) view (Releases item)

/-! ## The in-memory queue -/

/-- The keys of a dictionary. -/
def Dict.keySet {α : Type} (d : Dict α) : Finset String := d.keys.toFinset

@[simp] lemma Dict.mem_keySet {α : Type} {d : Dict α} {key : String} :
    key ∈ d.keySet ↔ (d.lookup key).isSome := by
  rw [Dict.keySet, List.mem_toFinset, ← AList.mem_keys, AList.lookup_isSome]

lemma Dict.keySet_insert {α : Type} (d : Dict α) (key : String) (a : α) :
    Dict.keySet (AList.insert key a d) = insert key d.keySet := by
  ext k
  by_cases hk : k = key
  · simp [hk]
  · simp [hk, AList.lookup_insert_ne hk]

lemma Dict.keySet_erase {α : Type} (d : Dict α) (key : String) :
    Dict.keySet (AList.erase key d) = d.keySet.erase key := by
  ext k
  by_cases hk : k = key
  · simp [hk]
  · simp [hk, AList.lookup_erase_ne hk]

/-- The critical sections of the in-memory queue. -/
inductive MemoryQueueCall where
  | enqueue (jobId : String) (priority : ForecastJobPriority) (idempotencyKey : Option String)
  | dequeue
  | release (item : ForecastQueueItem)

abbrev MemoryQueueReply : MemoryQueueCall → Type
  | .enqueue .. => ForecastQueueEnqueueResult
  | .dequeue => Option ForecastQueueItem
  | .release _ => Unit

/-- A part of the in-memory queue. -/
abbrev MemoryQueueProgram (α : Type) := Program JobError MemoryQueueCall MemoryQueueReply α

namespace InMemoryPriorityForecastQueue

/-- A queue in good order. -/
abbrev Sound := { queue : InMemoryPriorityForecastQueue // queue.Invariant }

/-- A critical section. -/
def Sound.perform (queue : Sound) : (c : MemoryQueueCall) → MemoryQueueReply c × Sound
  | .enqueue jobId priority idempotencyKey =>
    ((queue.1.enqueue jobId priority idempotencyKey).1,
      ⟨_, queue.2.enqueue jobId priority idempotencyKey⟩)
  | .dequeue => (queue.1.dequeue.1, ⟨queue.1.dequeue.2, queue.2.dequeueEntry⟩)
  | .release item => ((), ⟨_, queue.2.markCompleted item⟩)

/-- What can be seen of the queue. -/
def Sound.view (queue : Sound) : QueueView where
  pending := queue.1.queuedByKey.keySet
  inFlight := queue.1.inFlightByKey.keySet
  items := queue.1.existing

namespace Sound

variable (queue : Sound)

lemma view_enqueue (jobId : String) (priority : ForecastJobPriority)
    (idempotencyKey : Option String) :
    Enqueues (queueItem jobId priority idempotencyKey)
      (queue.1.enqueue jobId priority idempotencyKey).1 queue.view
      (queue.perform (.enqueue jobId priority idempotencyKey)).2.view := by
  cases hexisting : queue.1.existing (queueKey jobId idempotencyKey) with
  | some item =>
    have hqueue : queue.1.enqueue jobId priority idempotencyKey = (⟨item, false⟩, queue.1) := by
      simp [enqueue, hexisting]
    have hsome : (queue.1.existing (queueKey jobId idempotencyKey)).isSome := by simp [hexisting]
    rw [existing, Option.isSome_or, Bool.or_eq_true] at hsome
    simp only [Enqueues, perform, view, hqueue, Bool.false_eq_true, if_false, itemKey_queueItem,
      Dict.mem_keySet, hexisting, and_true]
    exact hsome
  | none =>
    obtain ⟨hqueued, hinFlight⟩ := existing_eq_none.mp hexisting
    have hqueue : queue.1.enqueue jobId priority idempotencyKey =
        (⟨queueItem jobId priority idempotencyKey, true⟩, { queue.1 with
          entries := heappush queue.1.entries
            ⟨priorityRank priority, queue.1.sequence, queueItem jobId priority idempotencyKey⟩
          queuedByKey := queue.1.queuedByKey.insert (queueKey jobId idempotencyKey)
            (queueItem jobId priority idempotencyKey)
          sequence := queue.1.sequence + 1 }) := by
      simp [enqueue, hexisting]
    simp only [Enqueues, perform, view, hqueue, if_true, itemKey_queueItem, Dict.mem_keySet,
      hqueued, hinFlight, Option.isSome_none, Bool.false_eq_true, not_false_eq_true, true_and,
      Dict.keySet_insert, QueueView.mk.injEq]
    funext key
    by_cases hkey : key = queueKey jobId idempotencyKey
    · subst hkey
      simp [existing]
    · simp [existing, AList.lookup_insert_ne hkey, Function.update_of_ne hkey]

lemma view_dequeue :
    Dequeues queue.1.dequeue.1 queue.view (queue.perform .dequeue).2.view := by
  cases hitem : queue.1.dequeue.1 with
  | none =>
    obtain ⟨hentries, heq⟩ := queue.2.dequeue_eq_none hitem
    refine ⟨Finset.eq_empty_of_forall_notMem fun key hkey => ?_, ?_⟩
    · obtain ⟨item, hlookup⟩ := Option.isSome_iff_exists.mp (Dict.mem_keySet.mp hkey)
      obtain ⟨entry, hentry, -⟩ := (queue.2.queued_iff key item).mp hlookup
      rw [hentries] at hentry
      cases hentry
    · simp only [perform, view, heq]
  | some item =>
    obtain ⟨entry, rest, hentries, rfl, heq⟩ := queue.2.dequeue_eq_some hitem
    have hlookup : queue.1.queuedByKey.lookup (itemKey entry.item) = some entry.item :=
      (queue.2.queued_iff _ _).mpr ⟨entry, hentries ▸ List.mem_cons_self, rfl, rfl⟩
    refine ⟨?_, ?_, ?_⟩
    · simp [view, hlookup]
    · simp [view, existing, hlookup]
    · simp only [perform, view, heq, Dict.keySet_erase, Dict.keySet_insert, QueueView.mk.injEq,
        true_and]
      funext key
      by_cases hkey : key = itemKey entry.item
      · subst hkey
        simp [existing, hlookup]
      · simp [existing, AList.lookup_erase_ne hkey, AList.lookup_insert_ne hkey]

lemma view_release (item : ForecastQueueItem) :
    Releases item () queue.view (queue.perform (.release item)).2.view := by
  simp only [Releases, perform, view, markCompleted, Dict.keySet_erase, Dict.mem_keySet,
    QueueView.mk.injEq, true_and]
  funext key
  by_cases hkey : key = itemKey item
  · subst hkey
    cases hqueued : queue.1.queuedByKey.lookup (itemKey item) with
    | some queued => simp [existing, hqueued]
    | none => simp [existing, hqueued]
  · split <;> simp [existing, AList.lookup_erase_ne hkey, Function.update_of_ne hkey]

end Sound

/-- A critical section takes effect at once. -/
lemma linearizes_call {α : Type} {c : MemoryQueueCall}
    {next : MemoryQueueReply c → MemoryQueueProgram α}
    {effect : α → QueueView → QueueView → Prop} (result : MemoryQueueReply c → α)
    (hnext : ∀ r, next r = .ret (result r))
    (h : ∀ queue : Sound, effect (result (queue.perform c).1) queue.view (queue.perform c).2.view) :
    (Program.call c next : MemoryQueueProgram α).Linearizes
      (fun q c r q' => ∃ _ : Unit, Sound.perform q c = (r, q')) Sound.view effect := by
  rintro - queue - r queue' ⟨-, heq⟩
  obtain ⟨rfl, rfl⟩ := Prod.mk.inj heq
  refine ⟨some _, .inr ⟨_, rfl, rfl, h queue⟩, ?_⟩
  rw [hnext]
  exact ⟨_, rfl, rfl⟩

end InMemoryPriorityForecastQueue

open InMemoryPriorityForecastQueue in
/-- `InMemoryPriorityForecastQueue`. -/
def inMemoryForecastQueue : ForecastQueue where
  State := Sound
  Call := MemoryQueueCall
  Reply := MemoryQueueReply
  Input := Unit
  perform queue _ := queue.perform
  enqueue jobId priority idempotencyKey :=
    .call (.enqueue jobId priority idempotencyKey) .ret
  dequeue := .call .dequeue .ret
  markCompleted item := .call (.release item) .ret
  markFailed item requeue := .call (.release item) fun _ =>
    if requeue then
      .call (.enqueue item.jobId item.priority item.idempotencyKey) fun _ => .ret ()
    else .ret ()
  view := Sound.view
  enqueue_linearizes jobId priority key :=
    linearizes_call id (fun _ => rfl) fun queue => queue.view_enqueue jobId priority key
  dequeue_linearizes := linearizes_call id (fun _ => rfl) fun queue => queue.view_dequeue
  markCompleted_linearizes item :=
    linearizes_call id (fun _ => rfl) fun queue => queue.view_release item
  markFailed_linearizes item :=
    linearizes_call id (fun _ => rfl) fun queue => queue.view_release item

end Earth2Sandbox
