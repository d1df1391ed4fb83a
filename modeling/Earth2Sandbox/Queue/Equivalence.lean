import Earth2Sandbox.Queue.InMemory
import Earth2Sandbox.Queue.Redis

/-!
# The two queue adapters agree

Started empty, the Redis adapter and the in-memory queue answer every sequence of completed
calls alike, whatever leases expire on the way.  The relation `Agrees` is the simulation: the
hashes hold the payloads of the dictionaries' items, and the sorted set lists the heap entries
in the same order.  Redis numbers every enqueue, the in-memory queue only the accepted ones;
all that matters is that a new entry has a larger number than the ones before, on both sides.

The scores keep the ranks apart as long as fewer than `10 ^ 13` numbers are used, and a
`mark_failed` that requeues uses one too (`requeue_overtakes`).
-/

namespace Earth2Sandbox

/-! ## Sequences of calls -/

/-- A completed call of the queue port. -/
inductive QueueOp where
  | enqueue (jobId : String) (priority : ForecastJobPriority) (idempotencyKey : Option String)
  | dequeue
  | markCompleted (item : ForecastQueueItem)
  | markFailed (item : ForecastQueueItem) (requeue : Bool)
  | pendingCount
  | inFlightCount
  deriving DecidableEq

/-- What a call returns. -/
inductive QueueReply where
  | enqueued (result : ForecastQueueEnqueueResult)
  | dequeued (item : Option ForecastQueueItem)
  | done
  | count (n : ℕ)
  deriving DecidableEq

namespace QueueOp

/-- The call on the in-memory queue. -/
def onMemory (queue : InMemoryPriorityForecastQueue) :
    QueueOp → QueueReply × InMemoryPriorityForecastQueue
  | enqueue jobId priority idempotencyKey =>
    let result := queue.enqueue jobId priority idempotencyKey
    (.enqueued result.1, result.2)
  | dequeue => (.dequeued queue.dequeue.1, queue.dequeue.2)
  | markCompleted item => (.done, queue.markCompleted item)
  | markFailed item requeue => (.done, queue.markFailed item requeue)
  | pendingCount => (.count queue.pendingCount, queue)
  | inFlightCount => (.count queue.inFlightCount, queue)

/-- The call on the Redis adapter. -/
def onRedis : QueueOp → RedisProgram QueueReply
  | enqueue jobId priority idempotencyKey => do
    return .enqueued (← redisEnqueue jobId priority idempotencyKey)
  | dequeue => do return .dequeued (← redisDequeue)
  | markCompleted item => do
    redisMarkCompleted item
    return .done
  | markFailed item requeue => do
    redisMarkFailed item requeue
    return .done
  | pendingCount => do return .count (← redisPendingCount)
  | inFlightCount => do return .count (← redisInFlightCount)

/-- The call is `enqueue`. -/
def isEnqueue : QueueOp → Bool
  | enqueue .. => true
  | _ => false

/-- The call runs `enqueue`, as a call of its own or to requeue. -/
def numbersItem : QueueOp → Bool
  | enqueue .. => true
  | markFailed _ requeue => requeue
  | _ => false

end QueueOp

/-- The replies of the in-memory queue. -/
def memoryReplies : List QueueOp → InMemoryPriorityForecastQueue → List QueueReply
  | [], _ => []
  | op :: ops, queue => (op.onMemory queue).1 :: memoryReplies ops (op.onMemory queue).2

/-- The environment of the adapter: before its `n`-th request the leases `expired n` expire. -/
def expiring (expired : ℕ → List String) (n : ℕ) (state : RedisQueueState) : RedisQueueState :=
  state.expire (expired n)

/-- The replies of the Redis adapter from request `n` on. -/
def redisReplies (expired : ℕ → List String) :
    List QueueOp → ℕ → RedisQueueState → List (Except JobError QueueReply)
  | [], _, _ => []
  | op :: ops, n, state =>
    let result := op.onRedis.eval RedisCall.perform (expiring expired) n state
    result.1 :: redisReplies expired ops result.2.1 result.2.2

section Evaluation

variable (expired : ℕ → List String) (n : ℕ) (state : RedisQueueState)

/-- The state on which the script of an `enqueue` runs: a number was drawn, and leases may have
expired. -/
def numberedState : RedisQueueState :=
  expiring expired (n + 1) { expiring expired n state with sequence := state.sequence + 1 }

lemma eval_redisEnqueue (jobId : String) (priority : ForecastJobPriority)
    (idempotencyKey : Option String) {created : Bool} {item : ForecastQueueItem}
    {state' : RedisQueueState}
    (hscript : (numberedState expired n state).enqueueScript (queueKey jobId idempotencyKey)
      (encodeItem (queueItem jobId priority idempotencyKey))
      (priorityRank priority * scoreFactor + (state.sequence + 1)) =
        ((created, encodeItem item), state')) :
    (redisEnqueue jobId priority idempotencyKey).eval RedisCall.perform (expiring expired) n
      state = (.ok ⟨item, created⟩, n + 2, state') := by
  let script := (numberedState expired n state).enqueueScript (queueKey jobId idempotencyKey)
    (encodeItem (queueItem jobId priority idempotencyKey))
    (priorityRank priority * scoreFactor + (state.sequence + 1))
  have heval : (redisEnqueue jobId priority idempotencyKey).eval RedisCall.perform
      (expiring expired) n state =
        (Program.ofExcept (decodeItem (some script.1.2)) >>= fun returned =>
          (.ret ⟨returned.getD (queueItem jobId priority idempotencyKey), script.1.1⟩ :
            RedisProgram ForecastQueueEnqueueResult)).eval RedisCall.perform (expiring expired)
          (n + 2) script.2 := rfl
  have hreturned : script = ((created, encodeItem item), state') := hscript
  rw [heval, hreturned, decodeItem_encodeItem]
  rfl

/-- `dequeue` decodes what its script returns and sets a lease for it. -/
lemma eval_redisDequeue :
    redisDequeue.eval RedisCall.perform (expiring expired) n state =
      (Program.ofExcept (decodeItem (expiring expired n state).dequeueScript.1) >>= fun
        | none => (.ret none : RedisProgram (Option ForecastQueueItem))
        | some item => .call (.setLease (itemKey item) item.jobId) fun _ =>
            .ret (some item)).eval RedisCall.perform (expiring expired) (n + 1)
        (expiring expired n state).dequeueScript.2 := rfl

/-- `dequeue` when nothing is pending. -/
lemma eval_redisDequeue_none {state' : RedisQueueState}
    (hscript : (expiring expired n state).dequeueScript = (none, state')) :
    redisDequeue.eval RedisCall.perform (expiring expired) n state =
      (.ok none, n + 1, state') := by
  rw [eval_redisDequeue, hscript]
  rfl

/-- `dequeue` of a pending item; the lease is set with a second request. -/
lemma eval_redisDequeue_some {item : ForecastQueueItem} {state' : RedisQueueState}
    (hscript : (expiring expired n state).dequeueScript = (some (encodeItem item), state')) :
    redisDequeue.eval RedisCall.perform (expiring expired) n state =
      (.ok (some item), n + 2,
        { expiring expired (n + 1) state' with
          leases := (expiring expired (n + 1) state').leases.insert (itemKey item)
            item.jobId }) := by
  rw [eval_redisDequeue, hscript, decodeItem_encodeItem]
  rfl

end Evaluation

/-- The first reply, and the rest from the state that the first call leaves. -/
lemma redisReplies_cons {expired : ℕ → List String} {op : QueueOp} {ops : List QueueOp}
    {n n' : ℕ} {state state' : RedisQueueState} {reply : Except JobError QueueReply}
    (h : op.onRedis.eval RedisCall.perform (expiring expired) n state = (reply, n', state')) :
    redisReplies expired (op :: ops) n state = reply :: redisReplies expired ops n' state' := by
  rw [redisReplies, h]

/-! ## The simulation -/

/-- A heap entry and a member of the sorted set stand for the same item. -/
def Corresponds (sequence : ℕ) (entry : QueuedEntry) (m : ScoredMember) : Prop :=
  m.member = itemKey entry.item ∧ (∃ priority, entry.rank = priorityRank priority) ∧
    ∃ n, 0 < n ∧ n ≤ sequence ∧ m.score = entry.rank * scoreFactor + n

lemma Corresponds.mono {sequence sequence' : ℕ} (hle : sequence ≤ sequence') (entry : QueuedEntry)
    (m : ScoredMember) (h : Corresponds sequence entry m) : Corresponds sequence' entry m := by
  obtain ⟨hmember, hrank, n, hpos, hn, hscore⟩ := h
  exact ⟨hmember, hrank, n, hpos, hn.trans hle, hscore⟩

/-- The Redis state represents the in-memory queue. -/
structure Agrees (queue : InMemoryPriorityForecastQueue) (state : RedisQueueState) : Prop where
  invariant : queue.Invariant
  pending : ∀ key, state.pending.lookup key = (queue.queuedByKey.lookup key).map encodeItem
  inFlight : ∀ key, state.inFlight.lookup key = (queue.inFlightByKey.lookup key).map encodeItem
  order : List.Forall₂ (Corresponds state.sequence) queue.entries state.pendingScores

/-- Inserting corresponding elements at corresponding places. -/
lemma forall₂_orderedInsert {α β : Type} {r : α → α → Prop} {q : β → β → Prop}
    [DecidableRel r] [DecidableRel q] {R R' : α → β → Prop} {a : α} {b : β} (hab : R' a b)
    {xs : List α} {ys : List β} (h : List.Forall₂ R xs ys) (hR : ∀ x y, R x y → R' x y)
    (hiff : ∀ x y, R x y → x ∈ xs → (r a x ↔ q b y)) :
    List.Forall₂ R' (xs.orderedInsert r a) (ys.orderedInsert q b) := by
  induction h with
  | nil => exact .cons hab .nil
  | @cons x y xs ys hxy htail ih =>
    have hhead := hiff x y hxy List.mem_cons_self
    by_cases hr : r a x
    · rw [List.orderedInsert_cons_of_le r xs hr,
        List.orderedInsert_cons_of_le q ys (hhead.mp hr)]
      exact .cons hab (.cons (hR x y hxy) (htail.imp hR))
    · rw [List.orderedInsert_of_not_le r xs hr,
        List.orderedInsert_of_not_le q ys (mt hhead.mpr hr)]
      exact .cons (hR x y hxy) (ih fun x y hxy hx => hiff x y hxy (List.mem_cons_of_mem _ hx))

lemma Dict.len_eq {α β : Type} {d : Dict α} {d' : Dict β}
    (h : ∀ key, (d.lookup key).isSome = (d'.lookup key).isSome) : d.len = d'.len := by
  have hperm : d.keys.Perm d'.keys := by
    refine (List.perm_ext_iff_of_nodup d.keys_nodup d'.keys_nodup).mpr fun key => ?_
    rw [← AList.mem_keys, ← AList.mem_keys, ← AList.lookup_isSome, ← AList.lookup_isSome, h]
  have hlength := hperm.length_eq
  simpa [AList.keys, List.keys, Dict.len] using hlength

namespace Agrees

variable {queue : InMemoryPriorityForecastQueue} {state : RedisQueueState}

lemma initial : Agrees .empty .empty where
  invariant := InMemoryPriorityForecastQueue.invariant_empty
  pending := by simp [InMemoryPriorityForecastQueue.empty, RedisQueueState.empty]
  inFlight := by simp [InMemoryPriorityForecastQueue.empty, RedisQueueState.empty]
  order := .nil

/-- Leases do not matter. -/
lemma withLeases (h : Agrees queue state) (leases : Dict String) :
    Agrees queue { state with leases := leases } :=
  ⟨h.invariant, h.pending, h.inFlight, h.order⟩

lemma expire (h : Agrees queue state) (keys : List String) : Agrees queue (state.expire keys) :=
  h.withLeases _

/-- A number that is used for nothing does not matter. -/
lemma withSequence (h : Agrees queue state) {sequence : ℕ} (hle : state.sequence ≤ sequence) :
    Agrees queue { state with sequence := sequence } :=
  ⟨h.invariant, h.pending, h.inFlight, h.order.imp (Corresponds.mono hle)⟩

/-- The keys of the sorted set are the keys of the heap entries. -/
lemma members_eq (h : Agrees queue state) :
    state.pendingScores.map (·.member) = queue.entries.map fun entry => itemKey entry.item := by
  have horder := h.order
  generalize queue.entries = entries at horder
  generalize state.pendingScores = zset at horder
  induction horder with
  | nil => rfl
  | cons hhead _ ih => rw [List.map_cons, List.map_cons, ih, hhead.1]

lemma existing_eq_some (h : Agrees queue state) {key : String} {item : ForecastQueueItem}
    (hitem : queue.existing key = some item) (payload : String) (score : ℕ) :
    state.enqueueScript key payload score = ((false, encodeItem item), state) := by
  unfold RedisQueueState.enqueueScript
  rcases Option.or_eq_some_iff.mp hitem with hqueued | ⟨hqueued, hflight⟩
  · simp [h.pending, hqueued]
  · simp [h.pending, h.inFlight, hqueued, hflight]

/-- A new entry goes before another exactly when its score does. -/
lemma le_iff {sequence sequence' : ℕ} {entry : QueuedEntry} {m : ScoredMember}
    (hcorresponds : Corresponds sequence entry m) (hbound : sequence + 1 ≤ 10 * scoreFactor)
    (hsequence : entry.sequence < sequence') (priority : ForecastJobPriority)
    (item : ForecastQueueItem) :
    QueuedEntry.le ⟨priorityRank priority, sequence', item⟩ entry ↔
      ScoredMember.le ⟨itemKey item, priorityRank priority * scoreFactor + (sequence + 1)⟩ m := by
  obtain ⟨-, ⟨priority', hrank⟩, n, hpos, hn, hscore⟩ := hcorresponds
  have hle : QueuedEntry.le ⟨priorityRank priority, sequence', item⟩ entry ↔
      priorityRank priority < entry.rank := by
    unfold QueuedEntry.le
    dsimp only
    omega
  have hne : priorityRank priority * scoreFactor + (sequence + 1) ≠ m.score := by
    rw [hscore, hrank]
    unfold scoreFactor at hbound ⊢
    cases priority <;> cases priority' <;> simp only [priorityRank] <;> omega
  rw [hle]
  unfold ScoredMember.le
  dsimp only
  rw [hscore, hrank] at hne ⊢
  unfold scoreFactor at *
  cases priority <;> cases priority' <;> simp only [priorityRank] at * <;> omega

/-- A score that is a double. -/
lemma toDouble_score {sequence : ℕ} (hbound : sequence ≤ 10 * scoreFactor)
    (priority : ForecastJobPriority) :
    toDouble (priorityRank priority * scoreFactor + sequence) =
      priorityRank priority * scoreFactor + sequence := by
  refine toDouble_of_lt ?_
  unfold scoreFactor at *
  cases priority <;> simp only [priorityRank] <;> omega

/-- The scripts and the critical sections do the same to corresponding states. -/
lemma insert (h : Agrees queue state) (hbound : state.sequence + 1 ≤ 10 * scoreFactor)
    {jobId : String} (priority : ForecastJobPriority) {idempotencyKey : Option String}
    (hnone : queue.existing (queueKey jobId idempotencyKey) = none) :
    ∃ state', RedisQueueState.enqueueScript { state with sequence := state.sequence + 1 }
        (queueKey jobId idempotencyKey)
        (encodeItem (queueItem jobId priority idempotencyKey))
        (priorityRank priority * scoreFactor + (state.sequence + 1)) =
          ((true, encodeItem (queueItem jobId priority idempotencyKey)), state') ∧
      Agrees (queue.enqueue jobId priority idempotencyKey).2 state' ∧
      state'.sequence = state.sequence + 1 := by
  have hinvariant := h.invariant.enqueue jobId priority idempotencyKey
  obtain ⟨hqueued, hflight⟩ := InMemoryPriorityForecastQueue.existing_eq_none.mp hnone
  have hpending : state.pending.lookup (queueKey jobId idempotencyKey) = none := by
    rw [h.pending, hqueued, Option.map_none]
  have hinFlight : state.inFlight.lookup (queueKey jobId idempotencyKey) = none := by
    rw [h.inFlight, hflight, Option.map_none]
  unfold RedisQueueState.enqueueScript
  simp only [hpending, hinFlight]
  refine ⟨_, rfl, ?_, rfl⟩
  unfold InMemoryPriorityForecastQueue.enqueue at hinvariant ⊢
  simp only [hnone] at hinvariant ⊢
  refine ⟨hinvariant, fun key => ?_, h.inFlight, ?_⟩
  · by_cases hkey : key = queueKey jobId idempotencyKey
    · subst hkey
      simp
    · simp only [AList.lookup_insert_ne hkey, h.pending]
  · -- the key is new to the sorted set
    have hfilter : state.pendingScores.filter (·.member ≠ queueKey jobId idempotencyKey) =
        state.pendingScores := by
      refine List.filter_eq_self.mpr fun m hm => ?_
      have hmem : m.member ∈ queue.entries.map fun entry => itemKey entry.item :=
        h.members_eq ▸ List.mem_map_of_mem hm
      obtain ⟨entry, hentry, hkey⟩ := List.mem_map.mp hmem
      have hsome := (h.invariant.queued_iff _ _).mpr ⟨entry, hentry, rfl, rfl⟩
      simp only [ne_eq, decide_not, Bool.not_eq_eq_eq_not, Bool.not_true, decide_eq_false_iff_not]
      intro heq
      rw [hkey, heq, hqueued] at hsome
      cases hsome
    unfold heappush SortedSet.zadd
    rw [hfilter, toDouble_score hbound]
    refine forall₂_orderedInsert
      ⟨(itemKey_queueItem ..).symm, ⟨priority, rfl⟩, _, Nat.succ_pos _, le_refl _, rfl⟩ h.order
      (Corresponds.mono (Nat.le_succ _)) fun entry m hcorresponds hentry => ?_
    rw [← itemKey_queueItem jobId priority idempotencyKey]
    exact le_iff hcorresponds hbound (h.invariant.sequence_lt entry hentry) priority _

/-- Both sides take the same item. -/
lemma dequeueScript (h : Agrees queue state) :
    ∃ state', state.dequeueScript = (queue.dequeue.1.map encodeItem, state') ∧
      Agrees queue.dequeue.2 state' ∧ state'.sequence = state.sequence := by
  have hinvariant := h.invariant.dequeueEntry
  have hmembers := h.members_eq
  have horder := h.order
  unfold InMemoryPriorityForecastQueue.dequeue RedisQueueState.dequeueScript
  rw [h.invariant.dequeueEntry_eq] at hinvariant ⊢
  cases hentries : queue.entries with
  | nil =>
    rw [hentries] at horder
    rw [List.forall₂_nil_left_iff.mp horder]
    exact ⟨state, rfl, h, rfl⟩
  | cons entry rest =>
    rw [hentries] at horder hmembers
    simp only [hentries] at hinvariant
    obtain ⟨m, ms, hm, hms, hzset⟩ := List.forall₂_cons_left_iff.mp horder
    rw [hzset] at hmembers ⊢
    have hqueued : queue.queuedByKey.lookup m.member = some entry.item :=
      (h.invariant.queued_iff _ _).mpr ⟨entry, hentries ▸ List.mem_cons_self, rfl, hm.1.symm⟩
    have hpayload : state.pending.lookup m.member = some (encodeItem entry.item) := by
      rw [h.pending, hqueued, Option.map_some]
    -- the other members have other keys
    have hnodup := h.invariant.keys_nodup
    rw [hentries, ← hmembers, List.map_cons, List.nodup_cons] at hnodup
    have hzrem : SortedSet.zrem (m :: ms) m.member = ms := by
      unfold SortedSet.zrem
      rw [List.filter_cons_of_neg (by simp)]
      refine List.filter_eq_self.mpr fun m' hm' => ?_
      simp only [ne_eq, decide_not, Bool.not_eq_eq_eq_not, Bool.not_true, decide_eq_false_iff_not]
      intro heq
      exact hnodup.1 (heq ▸ List.mem_map_of_mem hm')
    dsimp only
    rw [hpayload, hzrem]
    refine ⟨_, rfl, ⟨hinvariant, fun key => ?_, fun key => ?_, hms⟩, rfl⟩
    · by_cases hkey : key = m.member
      · rw [hkey, hm.1, AList.lookup_erase, AList.lookup_erase, Option.map_none]
      · have hkey' : key ≠ itemKey entry.item := hm.1 ▸ hkey
        simp only [AList.lookup_erase_ne hkey, AList.lookup_erase_ne hkey', h.pending]
    · by_cases hkey : key = m.member
      · rw [hkey, hm.1, AList.lookup_insert, AList.lookup_insert, Option.map_some]
      · have hkey' : key ≠ itemKey entry.item := hm.1 ▸ hkey
        simp only [AList.lookup_insert_ne hkey, AList.lookup_insert_ne hkey', h.inFlight]

lemma release (h : Agrees queue state) (item : ForecastQueueItem) :
    Agrees (queue.markCompleted item)
      { state with
        inFlight := state.inFlight.erase (itemKey item)
        leases := state.leases.erase (itemKey item) } := by
  refine ⟨h.invariant.markCompleted item, h.pending, fun key => ?_, h.order⟩
  unfold InMemoryPriorityForecastQueue.markCompleted
  by_cases hkey : key = itemKey item
  · subst hkey
    simp
  · simp only [AList.lookup_erase_ne hkey, h.inFlight]

/-! ### The operations -/

section Operations

variable (expired : ℕ → List String) (n : ℕ)

lemma eval_enqueue (h : Agrees queue state) (hbound : state.sequence + 1 ≤ 10 * scoreFactor)
    (jobId : String) (priority : ForecastJobPriority) (idempotencyKey : Option String) :
    ∃ state', (redisEnqueue jobId priority idempotencyKey).eval RedisCall.perform
        (expiring expired) n state =
          (.ok (queue.enqueue jobId priority idempotencyKey).1, n + 2, state') ∧
      Agrees (queue.enqueue jobId priority idempotencyKey).2 state' ∧
      state'.sequence = state.sequence + 1 := by
  let numbered := numberedState expired n state
  cases hexisting : queue.existing (queueKey jobId idempotencyKey) with
  | some item =>
    have hnumbered : Agrees queue numbered :=
      ((h.expire _).withSequence (Nat.le_succ _)).expire _
    have hqueue : queue.enqueue jobId priority idempotencyKey = (⟨item, false⟩, queue) := by
      simp [InMemoryPriorityForecastQueue.enqueue, hexisting]
    have heval := eval_redisEnqueue expired n state jobId priority idempotencyKey
      (hnumbered.existing_eq_some hexisting _ _)
    rw [hqueue]
    exact ⟨numbered, heval, hnumbered, rfl⟩
  | none =>
    have hleases : Agrees queue { state with leases := numbered.leases } := h.withLeases _
    obtain ⟨state', hscript, hagrees, hsequence⟩ := hleases.insert hbound priority hexisting
    have hqueue : (queue.enqueue jobId priority idempotencyKey).1 =
        ⟨queueItem jobId priority idempotencyKey, true⟩ := by
      simp [InMemoryPriorityForecastQueue.enqueue, hexisting]
    have heval := eval_redisEnqueue expired n state jobId priority idempotencyKey hscript
    rw [hqueue]
    exact ⟨state', heval, hagrees, hsequence⟩

lemma eval_dequeue (h : Agrees queue state) :
    ∃ n' state', redisDequeue.eval RedisCall.perform (expiring expired) n state =
        (.ok queue.dequeue.1, n', state') ∧
      Agrees queue.dequeue.2 state' ∧ state'.sequence = state.sequence := by
  obtain ⟨state', hscript, hagrees, hsequence⟩ := (h.expire (expired n)).dequeueScript
  cases hitem : queue.dequeue.1 with
  | none =>
    rw [hitem] at hscript
    exact ⟨n + 1, state', eval_redisDequeue_none expired n state hscript, hagrees, hsequence⟩
  | some item =>
    rw [hitem] at hscript
    exact ⟨n + 2, _, eval_redisDequeue_some expired n state hscript,
      (hagrees.expire _).withLeases _, hsequence⟩

lemma eval_markFailed (h : Agrees queue state) (item : ForecastQueueItem) (requeue : Bool)
    (hbound : requeue = true → state.sequence + 1 ≤ 10 * scoreFactor) :
    ∃ n' state', (redisMarkFailed item requeue).eval RedisCall.perform (expiring expired) n
        state = (.ok (), n', state') ∧
      Agrees (queue.markFailed item requeue) state' ∧
      state'.sequence = state.sequence + requeue.toNat := by
  have hreleased := (h.expire (expired n)).release item
  cases requeue with
  | false => exact ⟨n + 1, _, rfl, hreleased, rfl⟩
  | true =>
    obtain ⟨state', heval, hagrees, hsequence⟩ := hreleased.eval_enqueue expired (n + 1)
      (hbound rfl) item.jobId item.priority item.idempotencyKey
    refine ⟨n + 3, state', ?_, hagrees, hsequence⟩
    have hrest := Program.eval_bind
      (f := fun _ => (.ret () : RedisProgram Unit)) heval
    exact hrest

lemma pendingCount_eq (h : Agrees queue state) : state.pending.len = queue.pendingCount :=
  Dict.len_eq fun key => by rw [h.pending, Option.isSome_map]

lemma inFlightCount_eq (h : Agrees queue state) : state.inFlight.len = queue.inFlightCount :=
  Dict.len_eq fun key => by rw [h.inFlight, Option.isSome_map]

/-- Every call returns the same on both sides, and the states agree again. -/
lemma eval_onRedis (h : Agrees queue state) (op : QueueOp)
    (hbound : op.numbersItem = true → state.sequence + 1 ≤ 10 * scoreFactor) :
    ∃ n' state', op.onRedis.eval RedisCall.perform (expiring expired) n state =
        (.ok (op.onMemory queue).1, n', state') ∧
      Agrees (op.onMemory queue).2 state' ∧
      state'.sequence = state.sequence + op.numbersItem.toNat := by
  cases op with
  | enqueue jobId priority idempotencyKey =>
    obtain ⟨state', heval, hagrees, hsequence⟩ :=
      h.eval_enqueue expired n (hbound rfl) jobId priority idempotencyKey
    exact ⟨_, state', Program.eval_bind heval, hagrees, hsequence⟩
  | dequeue =>
    obtain ⟨n', state', heval, hagrees, hsequence⟩ := h.eval_dequeue expired n
    exact ⟨n', state', Program.eval_bind heval, hagrees, hsequence⟩
  | markCompleted item => exact ⟨n + 1, _, rfl, (h.expire (expired n)).release item, rfl⟩
  | markFailed item requeue =>
    obtain ⟨n', state', heval, hagrees, hsequence⟩ :=
      h.eval_markFailed expired n item requeue hbound
    exact ⟨n', state', Program.eval_bind heval, hagrees, hsequence⟩
  | pendingCount =>
    have hcount := (h.expire (expired n)).pendingCount_eq
    refine ⟨n + 1, state.expire (expired n), ?_, h.expire _, rfl⟩
    unfold QueueOp.onMemory
    rw [← hcount]
    rfl
  | inFlightCount =>
    have hcount := (h.expire (expired n)).inFlightCount_eq
    refine ⟨n + 1, state.expire (expired n), ?_, h.expire _, rfl⟩
    unfold QueueOp.onMemory
    rw [← hcount]
    rfl

end Operations

/-- From agreeing states on, the replies are the same as long as the numbers last. -/
theorem replies_eq (h : Agrees queue state) (expired : ℕ → List String) (ops : List QueueOp)
    (n : ℕ) (hbound : state.sequence + ops.countP QueueOp.numbersItem ≤ 10 * scoreFactor) :
    redisReplies expired ops n state = (memoryReplies ops queue).map .ok := by
  induction ops generalizing queue state n with
  | nil => rfl
  | cons op ops ih =>
    rw [List.countP_cons] at hbound
    have hop : op.numbersItem = true → state.sequence + 1 ≤ 10 * scoreFactor := by
      intro hnumbers
      rw [hnumbers] at hbound
      simp only [if_true] at hbound
      omega
    obtain ⟨n', state', heval, hagrees, hsequence⟩ := h.eval_onRedis expired n op hop
    have hrest : state'.sequence + ops.countP QueueOp.numbersItem ≤ 10 * scoreFactor := by
      rw [hsequence]
      cases hnumbers : op.numbersItem <;> simp [hnumbers] at hbound ⊢ <;> omega
    rw [redisReplies_cons heval, ih hagrees n' hrest]
    rfl

end Agrees

/-! ## Agreement -/

/-- Started empty, the two queues return equal results at every step of every sequence of calls
that enqueues, or requeues, fewer than `10 ^ 13` times. -/
theorem redisReplies_eq_memoryReplies (expired : ℕ → List String) (ops : List QueueOp)
    (hops : ops.countP QueueOp.numbersItem < 10 ^ 13) :
    redisReplies expired ops 0 .empty = (memoryReplies ops .empty).map .ok := by
  refine Agrees.initial.replies_eq expired ops 0 ?_
  have hfactor : 10 * scoreFactor = 10 ^ 13 := rfl
  simp only [RedisQueueState.empty, hfactor]
  omega

/-- A refused enqueue, an expired lease and a requeue on the way. -/
theorem redisReplies_eq_memoryReplies_requeued :
    let ops := [.enqueue "a" .low (some "k"), .enqueue "b" .high (some "k"), .dequeue,
      .markFailed ⟨"a", .low, some "k"⟩ true, .dequeue, .pendingCount]
    ops.countP QueueOp.numbersItem < 10 ^ 13 ∧
      redisReplies (fun n => if n = 6 then ["k"] else []) ops 0 .empty =
        (memoryReplies ops .empty).map .ok :=
  ⟨by decide, redisReplies_eq_memoryReplies _ _ (by decide)⟩

/-! ## Requeues use up the numbers -/

namespace Requeueing

/-- The item that is taken and requeued over and over. -/
def high : ForecastQueueItem := queueItem "a" .high none

/-- The item that waits behind it. -/
def normal : ForecastQueueItem := queueItem "b" .normal none

/-- So many times, the next item is taken and `high` is requeued; then one more is taken. -/
def rounds : ℕ → List QueueOp
  | 0 => [.dequeue]
  | k + 1 => .dequeue :: .markFailed high true :: rounds k

/-- Both items are enqueued first. -/
def ops (k : ℕ) : List QueueOp :=
  .enqueue "b" .normal none :: .enqueue "a" .high none :: rounds k

/-- The in-memory queue between two rounds. -/
def queue (sequence : ℕ) : InMemoryPriorityForecastQueue where
  entries := [⟨0, sequence, high⟩, ⟨10, 0, normal⟩]
  queuedByKey := (AList.insert "b" normal ∅).insert "a" high
  inFlightByKey := ∅
  sequence := sequence + 1

/-- The Redis state between two rounds: `high` has this number, `normal` that score. -/
def state (sequence score : ℕ) : RedisQueueState where
  sequence := sequence
  pending := (AList.insert "b" (encodeItem normal) ∅).insert "a" (encodeItem high)
  inFlight := ∅
  pendingScores :=
    SortedSet.zadd [⟨"b", score⟩] (priorityRank .high * scoreFactor + sequence) "a"
  leases := ∅

/-- The Redis state within a round. -/
def taken (sequence score : ℕ) : RedisQueueState where
  sequence := sequence
  pending := AList.insert "b" (encodeItem normal) ∅
  inFlight := AList.insert "a" (encodeItem high) ∅
  pendingScores := [⟨"b", score⟩]
  leases := AList.insert "a" "a" ∅

lemma countP_ops (k : ℕ) : (ops k).countP QueueOp.isEnqueue = 2 := by
  have hrounds : (rounds k).countP QueueOp.isEnqueue = 0 := by
    induction k with
    | zero => rfl
    | succ k ih => simpa [rounds, QueueOp.isEnqueue] using ih
  unfold ops
  rw [List.countP_cons, List.countP_cons, hrounds]
  rfl

lemma toDouble_high {sequence : ℕ} (hbound : sequence < 2 ^ 53) :
    toDouble (priorityRank .high * scoreFactor + sequence) = sequence := by
  rw [priorityRank, Nat.zero_mul, Nat.zero_add]
  exact toDouble_of_lt hbound

/-- `high` is taken while its number is small. -/
lemma dequeueScript_state {sequence score : ℕ} (hscore : sequence ≤ score)
    (hbound : sequence < 2 ^ 53) :
    (state sequence score).dequeueScript =
      (some (encodeItem high), { taken sequence score with leases := ∅ }) := by
  have hle : ScoredMember.le ⟨"a", sequence⟩ ⟨"b", score⟩ := by
    have hmember : "a" ≤ "b" := by decide
    rcases Nat.lt_or_eq_of_le hscore with hlt | heq
    · exact Or.inl hlt
    · exact Or.inr ⟨heq, hmember⟩
  have hzadd : (state sequence score).pendingScores = [⟨"a", sequence⟩, ⟨"b", score⟩] := by
    unfold state SortedSet.zadd
    rw [toDouble_high hbound]
    exact List.orderedInsert_cons_of_le _ _ hle
  unfold RedisQueueState.dequeueScript
  rw [hzadd]
  unfold state taken
  generalize encodeItem high = a
  generalize encodeItem normal = b
  rfl

/-- `normal` is taken when the number of `high` has passed its score. -/
lemma dequeueScript_overtaken (sequence score : ℕ) (hscore : score < sequence)
    (hbound : sequence < 2 ^ 53) :
    (state sequence score).dequeueScript.1 = some (encodeItem normal) := by
  have hle : ¬ ScoredMember.le ⟨"a", sequence⟩ ⟨"b", score⟩ := by
    unfold ScoredMember.le
    dsimp only
    omega
  have hzadd : (state sequence score).pendingScores = [⟨"b", score⟩, ⟨"a", sequence⟩] := by
    unfold state SortedSet.zadd
    rw [toDouble_high hbound]
    exact List.orderedInsert_of_not_le _ _ hle
  unfold RedisQueueState.dequeueScript
  rw [hzadd]
  unfold state
  generalize encodeItem high = a
  generalize encodeItem normal = b
  rfl

/-- Requeued, `high` gets the next number. -/
lemma enqueueScript_taken (sequence score : ℕ) :
    RedisQueueState.enqueueScript
        { taken sequence score with sequence := sequence + 1, inFlight := ∅, leases := ∅ } "a"
        (encodeItem high) (priorityRank .high * scoreFactor + (sequence + 1)) =
      ((true, encodeItem high), state (sequence + 1) score) := by
  have hpending : (taken sequence score).pending.lookup "a" = none := by
    unfold taken
    rw [AList.lookup_insert_ne (by decide), AList.lookup_empty]
  unfold RedisQueueState.enqueueScript
  simp only [hpending, AList.lookup_empty]
  simp only [taken, state]

lemma eval_dequeue (sequence score : ℕ) (hscore : sequence ≤ score)
    (hbound : sequence < 2 ^ 53) (n : ℕ) :
    QueueOp.dequeue.onRedis.eval RedisCall.perform (expiring fun _ => []) n
      (state sequence score) = (.ok (.dequeued (some high)), n + 2, taken sequence score) := by
  have heval := eval_redisDequeue_some (fun _ => []) n (state sequence score)
    (dequeueScript_state hscore hbound)
  exact Program.eval_bind heval

lemma eval_markFailed (sequence score n : ℕ) :
    (QueueOp.markFailed high true).onRedis.eval RedisCall.perform (expiring fun _ => []) n
      (taken sequence score) = (.ok .done, n + 3, state (sequence + 1) score) := by
  have henqueue := eval_redisEnqueue (fun _ => []) (n + 1)
    { taken sequence score with inFlight := ∅, leases := ∅ } "a" .high none
    (enqueueScript_taken sequence score)
  have hfailed := Program.eval_bind (f := fun _ => (.ret () : RedisProgram Unit)) henqueue
  exact Program.eval_bind (f := fun _ => (.ret .done : RedisProgram QueueReply)) hfailed

/-- In memory every round takes `high`, and so does the last call. -/
lemma memoryReplies_rounds (k sequence : ℕ) :
    (memoryReplies (rounds k) (queue sequence)).getLast? = some (.dequeued (some high)) := by
  induction k generalizing sequence with
  | zero => rfl
  | succ k ih =>
    have hround : memoryReplies (rounds (k + 1)) (queue sequence) =
        .dequeued (some high) :: .done :: memoryReplies (rounds k) (queue (sequence + 1)) := rfl
    rw [hround, List.getLast?_cons, List.getLast?_cons, ih]
    rfl

/-- In Redis the last call takes `normal` when the number has passed its score by then. -/
lemma redisReplies_rounds (k : ℕ) {sequence score : ℕ} (hovertakes : sequence + k = score + 1)
    (hbound : score < 2 ^ 52) (n : ℕ) :
    (redisReplies (fun _ => []) (rounds k) n (state sequence score)).getLast? =
      some (.ok (.dequeued (some normal))) := by
  induction k generalizing sequence n with
  | zero =>
    have hscript := dequeueScript_overtaken sequence score (by omega)
      (by omega)
    have heval := eval_redisDequeue_some (fun _ => []) n (state sequence score)
      (Prod.ext hscript rfl)
    have hreply := Program.eval_bind
      (f := fun item => (.ret (.dequeued item) : RedisProgram QueueReply)) heval
    have hreplies : redisReplies (fun _ => []) (rounds 0) n (state sequence score) =
        [(QueueOp.dequeue.onRedis.eval RedisCall.perform (expiring fun _ => []) n
          (state sequence score)).1] := rfl
    rw [hreplies]
    exact congrArg (fun result => some result.1) hreply
  | succ k ih =>
    have hdequeue := eval_dequeue sequence score (by omega) (by omega) n
    have hround : redisReplies (fun _ => []) (rounds (k + 1)) n (state sequence score) =
        .ok (.dequeued (some high)) :: .ok .done ::
          redisReplies (fun _ => []) (rounds k) (n + 5) (state (sequence + 1) score) := by
      rw [rounds, redisReplies_cons hdequeue, redisReplies_cons (eval_markFailed ..)]
    rw [hround, List.getLast?_cons, List.getLast?_cons, ih (by omega)]
    rfl

lemma memoryReplies_ops (k : ℕ) :
    (memoryReplies (ops k) .empty).getLast? = some (.dequeued (some high)) := by
  have hops : memoryReplies (ops k) .empty = .enqueued ⟨normal, true⟩ ::
      .enqueued ⟨high, true⟩ :: memoryReplies (rounds k) (queue 1) := rfl
  rw [hops, List.getLast?_cons, List.getLast?_cons, memoryReplies_rounds]
  rfl

lemma eval_enqueue {n n' : ℕ} {s s' : RedisQueueState} {jobId : String}
    {priority : ForecastJobPriority} {result : ForecastQueueEnqueueResult}
    (h : (redisEnqueue jobId priority none).eval RedisCall.perform (expiring fun _ => []) n s =
      (.ok result, n', s')) :
    (QueueOp.enqueue jobId priority none).onRedis.eval RedisCall.perform (expiring fun _ => [])
      n s = (.ok (.enqueued result), n', s') :=
  Program.eval_bind h

/-- The Redis state with `normal` alone. -/
def waiting (score : ℕ) : RedisQueueState :=
  ⟨1, AList.insert "b" (encodeItem normal) ∅, ∅, [⟨"b", score⟩], ∅⟩

lemma redisReplies_ops (k : ℕ) (hovertakes : k = 10 * scoreFactor) :
    (redisReplies (fun _ => []) (ops k) 0 .empty).getLast? =
      some (.ok (.dequeued (some normal))) := by
  let score := priorityRank .normal * scoreFactor + 1
  have hbound : score < 2 ^ 52 := by decide
  have hdouble : toDouble score = score := toDouble_of_lt (by omega)
  have hscript : (numberedState (fun _ => []) 0 .empty).enqueueScript (queueKey "b" none)
      (encodeItem (queueItem "b" .normal none)) score =
        ((true, encodeItem normal), waiting (toDouble score)) := rfl
  have hnormal := eval_redisEnqueue (fun _ => []) 0 .empty "b" .normal none hscript
  have hhigh := eval_redisEnqueue (fun _ => []) 2 (waiting score) "a" .high none
    (enqueueScript_taken 1 score)
  rw [hdouble] at hnormal
  have hops : redisReplies (fun _ => []) (ops k) 0 .empty = .ok (.enqueued ⟨normal, true⟩) ::
      .ok (.enqueued ⟨high, true⟩) ::
        redisReplies (fun _ => []) (rounds k) 4 (state 2 score) := by
    rw [ops, redisReplies_cons (eval_enqueue hnormal), redisReplies_cons (eval_enqueue hhigh)]
  rw [hops, List.getLast?_cons, List.getLast?_cons,
    redisReplies_rounds k (by rw [hovertakes]; decide) hbound]
  rfl

end Requeueing

/-- Two enqueues and `10 ^ 13` requeues: the Redis queue takes the item that was requeued last
after the one with the lower priority. -/
theorem requeue_overtakes :
    (Requeueing.ops (10 ^ 13)).countP QueueOp.isEnqueue < 10 ^ 13 ∧
      redisReplies (fun _ => []) (Requeueing.ops (10 ^ 13)) 0 .empty ≠
        (memoryReplies (Requeueing.ops (10 ^ 13)) .empty).map .ok := by
  constructor
  · rw [Requeueing.countP_ops]
    decide
  · intro heq
    have hlast := congrArg List.getLast? heq
    have hnumbers : 10 ^ 13 = 10 * scoreFactor := rfl
    rw [Requeueing.redisReplies_ops _ hnumbers, List.getLast?_map,
      Requeueing.memoryReplies_ops] at hlast
    simp [Requeueing.high, Requeueing.normal, queueItem] at hlast

end Earth2Sandbox
