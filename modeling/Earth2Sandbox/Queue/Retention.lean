import Earth2Sandbox.Framework.Interleaving
import Earth2Sandbox.Queue.Equivalence
import Earth2Sandbox.Queue.RedisAdapter

/-!
# What a crash leaves in the queue

Any number of clients work on one Redis queue.  Their requests interleave, leases expire at any
time, and a client that crashes between two requests is one that gets no further turn.

Between the requests of an operation every accepted item stays pending or in flight, with one
exception: `mark_failed` with requeue takes the item out of flight with one request and enqueues it
with two more (`retained_iff`), so a client that crashes in between loses it (`requeue_loses_item`).
-/

namespace Earth2Sandbox

/-- The call is `mark_failed` with requeue. -/
def QueueOp.requeues : QueueOp → Bool
  | markFailed _ requeue => requeue
  | _ => false

/-- The requests of every call are the adapter's own. -/
lemma QueueOp.onRedis_only (op : QueueOp) : op.onRedis.Only RedisCall.Proper := by
  cases op with
  | enqueue jobId priority key => exact (redisEnqueue_only ..).bind fun _ => trivial
  | dequeue => exact redisDequeue_only.bind fun _ => trivial
  | markCompleted item => exact (redisMarkCompleted_only item).bind fun _ => trivial
  | markFailed item requeue => exact (redisMarkFailed_only item requeue).bind fun _ => trivial
  | pendingCount => exact ⟨trivial, fun _ => trivial⟩
  | inFlightCount => exact ⟨trivial, fun _ => trivial⟩

/-! ## Clients -/

/-- A request that was served: the call it belongs to, and the state that it met. -/
structure Served where
  op : QueueOp
  request : RedisCall
  before : RedisQueueState

/-- The clients of a queue.  A task is one call of a client; the requests served are recorded, the
latest first. -/
def queueClients :
    System (RedisQueueState × List Served) QueueOp (List String) JobError RedisCall RedisReply
      QueueReply where
  body := QueueOp.onRedis
  perform _ op s request expired :=
    let state := s.1.expire expired
    some ((request.perform state).1, (request.perform state).2, ⟨op, request, state⟩ :: s.2)
  spawns _ _ := []
  admits _ _ := True
  admitsDecidable _ _ := inferInstance
  resumes _ := none

/-- No client has called yet. -/
def noCalls : Config (RedisQueueState × List Served) QueueOp JobError RedisCall RedisReply
    QueueReply := ⟨(.empty, []), []⟩

namespace Served

variable (item : ForecastQueueItem) (r : Served)

/-- The item was accepted. -/
def accepts : Bool :=
  match r.request with
  | .evalEnqueue key payload score =>
    key = itemKey item && payload = encodeItem item &&
      (r.before.enqueueScript key payload score).1.1
  | _ => false

/-- The item was released by `mark_completed`, or by `mark_failed` without requeue. -/
def finishes : Bool := r.request = .release (itemKey item) && !r.op.requeues

/-- The item was taken out of flight. -/
def takes : Bool :=
  r.request = .release (itemKey item) &&
    r.before.inFlight.lookup (itemKey item) = some (encodeItem item)

/-- The item was taken out of flight by `mark_failed`, to be enqueued again. -/
def withdraws : Bool := r.takes item && r.op.requeues

end Served

/-- The requests served since the item was last accepted. -/
def sinceAccepted (item : ForecastQueueItem) (history : List Served) : List Served :=
  history.takeWhile fun r => !r.accepts item

/-- The item was accepted, and no call has finished it since. -/
def Owed (item : ForecastQueueItem) (history : List Served) : Prop :=
  (∃ r ∈ history, r.accepts item) ∧ ∀ r ∈ sinceAccepted item history, ¬ r.finishes item

/-- A requeue has taken the item out of flight, and it was not accepted again. -/
def Withdrawn (item : ForecastQueueItem) (history : List Served) : Prop :=
  ∃ r ∈ sinceAccepted item history, r.withdraws item

instance (item : ForecastQueueItem) (history : List Served) : Decidable (Owed item history) :=
  inferInstanceAs (Decidable (_ ∧ _))

instance (item : ForecastQueueItem) (history : List Served) : Decidable (Withdrawn item history) :=
  inferInstanceAs (Decidable (∃ r ∈ _, _))

namespace RedisQueueState

/-- The item is in exactly one of pending and in flight. -/
def Keeps (state : RedisQueueState) (item : ForecastQueueItem) : Prop :=
  state.pending.lookup (itemKey item) = some (encodeItem item) ∧
      state.inFlight.lookup (itemKey item) = none ∨
    state.pending.lookup (itemKey item) = none ∧
      state.inFlight.lookup (itemKey item) = some (encodeItem item)

instance (state : RedisQueueState) (item : ForecastQueueItem) : Decidable (state.Keeps item) :=
  inferInstanceAs (Decidable (_ ∨ _))

variable {state state' : RedisQueueState} {item : ForecastQueueItem}

/-- What is kept depends on the entry under the item's key. -/
lemma keeps_congr (state : RedisQueueState)
    (hpending : state'.pending.lookup (itemKey item) = state.pending.lookup (itemKey item))
    (hinFlight : state'.inFlight.lookup (itemKey item) = state.inFlight.lookup (itemKey item)) :
    state'.Keeps item ↔ state.Keeps item := by
  rw [Keeps, Keeps, hpending, hinFlight]

lemma keeps_expire (keys : List String) : (state.expire keys).Keeps item ↔ state.Keeps item :=
  Iff.rfl

/-- An item is kept from when it is accepted to when it is taken out of flight. -/
lemma Sound.keeps_perform (h : state.Sound) {request : RedisCall} (hrequest : request.Proper)
    (op : QueueOp) : (request.perform state).2.Keeps item ↔
      Served.accepts item ⟨op, request, state⟩ ∨
        ¬ Served.takes item ⟨op, request, state⟩ ∧ state.Keeps item := by
  cases request with
  | evalEnqueue key payload score =>
    simp only [RedisCall.perform, Served.accepts, Served.takes, reduceCtorEq, decide_false,
      Bool.false_and, Bool.false_eq_true, not_false_eq_true, true_and, Bool.and_eq_true,
      decide_eq_true_eq]
    rcases state.enqueueScript_cases key payload score with
      ⟨existing, -, heq⟩ | ⟨hpending, hinFlight, heq⟩
    · simp [heq]
    · simp only [heq, and_true]
      by_cases hkey : itemKey item = key
      · subst hkey
        simp [Keeps, hpending, hinFlight]
      · refine Iff.trans (keeps_congr state (AList.lookup_insert_ne hkey) rfl) ?_
        simp [Ne.symm hkey]
  | evalDequeue =>
    simp only [RedisCall.perform, Served.accepts, Served.takes, reduceCtorEq, decide_false,
      Bool.false_and, Bool.false_eq_true, not_false_eq_true, true_and, false_or]
    rcases h.dequeueScript_cases with ⟨-, heq⟩ | ⟨first, hfirst, heq⟩
    · rw [heq]
    · rw [heq]
      by_cases hkey : itemKey item = itemKey first
      · have hinFlight := h.disjoint (itemKey first) (by simp [hfirst])
        rw [Keeps, Keeps, hkey, hfirst, hinFlight, AList.lookup_erase, AList.lookup_insert]
        simp
      · exact keeps_congr state (AList.lookup_erase_ne hkey) (AList.lookup_insert_ne hkey)
  | release key =>
    simp only [RedisCall.perform, Served.accepts, Served.takes, Bool.false_eq_true, false_or,
      RedisCall.release.injEq, Bool.and_eq_true, decide_eq_true_eq]
    by_cases hkey : itemKey item = key
    · subst hkey
      have hdisjoint := h.disjoint (itemKey item)
      simp only [Keeps, AList.lookup_erase, true_and]
      cases hpending : state.pending.lookup (itemKey item) with
      | none => simp
      | some payload => simp [hdisjoint (by simp [hpending])]
    · refine Iff.trans (keeps_congr state rfl (AList.lookup_erase_ne hkey)) ?_
      simp [Ne.symm hkey]
  | _ => simp [RedisCall.perform, Served.accepts, Served.takes, Keeps]

end RedisQueueState

/-! ## Runs -/

/-- The items kept are those accepted and not taken since. -/
structure Retains (s : RedisQueueState × List Served) : Prop where
  sound : s.1.Sound
  keeps : ∀ item, s.1.Keeps item ↔
    (∃ r ∈ s.2, r.accepts item) ∧ ∀ r ∈ sinceAccepted item s.2, ¬ r.takes item

lemma retains_empty : Retains (.empty, []) where
  sound := RedisQueueState.sound_empty
  keeps item := by simp [RedisQueueState.Keeps, RedisQueueState.empty]

lemma Retains.perform {s : RedisQueueState × List Served} (h : Retains s) {request : RedisCall}
    (hrequest : request.Proper) (op : QueueOp) (expired : List String) :
    Retains ((request.perform (s.1.expire expired)).2,
      ⟨op, request, s.1.expire expired⟩ :: s.2) where
  sound := (h.sound.expire expired).perform hrequest
  keeps item := by
    rw [(h.sound.expire expired).keeps_perform hrequest op, RedisQueueState.keeps_expire, h.keeps]
    by_cases haccepts : Served.accepts item ⟨op, request, s.1.expire expired⟩
    · simp [haccepts, sinceAccepted]
    · simp only [haccepts, sinceAccepted, List.takeWhile_cons, Bool.not_false, if_true,
        List.exists_mem_cons_iff, List.forall_mem_cons, false_or, Bool.false_eq_true]
      tauto

lemma retains_of_reaches {cfg : Config (RedisQueueState × List Served) QueueOp JobError RedisCall
    RedisReply QueueReply} (h : queueClients.Reaches noCalls cfg) : Retains cfg.shared := by
  refine System.Reaches.invariant (P := fun c => Retains c.shared) h retains_empty
    fun c₁ c₂ ch hreach ih hstep => ?_
  have honly := hreach.only QueueOp.onRedis_only (by simp [noCalls])
  rcases queueClients.step_cases hstep with
    ⟨l, -, -, rfl⟩ | ⟨i, expired, op, request, next, r, s, -, htask, hperform, rfl⟩ |
    ⟨i, l, a, l', -, -, -, rfl⟩
  · exact ih
  · obtain ⟨-, rfl⟩ := Prod.mk.inj (Option.some.inj hperform)
    exact ih.perform (honly _ (List.mem_of_getElem? htask)).1 op expired
  · exact ih

/-- The members of the sorted set are the keys of the pending hash, and an accepted item that no
call has finished is in exactly one of pending and in flight, unless a requeue has taken it out of
flight without its being accepted again. -/
theorem retained_iff {cfg : Config (RedisQueueState × List Served) QueueOp JobError RedisCall
    RedisReply QueueReply} (h : queueClients.Reaches noCalls cfg) :
    (∀ key, (∃ m ∈ cfg.shared.1.pendingScores, m.member = key) ↔
      (cfg.shared.1.pending.lookup key).isSome) ∧
    ∀ item, Owed item cfg.shared.2 →
      (cfg.shared.1.Keeps item ↔ ¬ Withdrawn item cfg.shared.2) := by
  have hretains := retains_of_reaches h
  refine ⟨hretains.sound.members, fun item howed => ?_⟩
  rw [hretains.keeps, Withdrawn, not_exists]
  simp only [howed.1, true_and, not_and]
  refine forall₂_congr fun r hr => not_congr ⟨fun htakes => ?_, fun hwithdraws => ?_⟩
  · -- what no call has finished was taken by a requeue
    have hfinishes := howed.2 r hr
    simp only [Served.finishes, Served.takes, Served.withdraws, Bool.and_eq_true,
      decide_eq_true_eq, not_and, Bool.not_eq_true', Bool.not_eq_false] at *
    exact ⟨htakes, hfinishes htakes.1⟩
  · exact (Bool.and_eq_true _ _ ▸ hwithdraws).1

/-- A client enqueues an item. -/
def acceptedRun : List (Choice QueueOp (List String)) :=
  [.start (.enqueue "job" .normal none), .act 0 [], .act 0 []]

/-- A client dequeues the item and requeues it; another client dequeues it again, and crashes before
the lease is set. -/
def requeuedRun : List (Choice QueueOp (List String)) :=
  acceptedRun ++ [.start .dequeue, .act 1 [], .act 1 [],
    .start (.markFailed (queueItem "job" .normal none) true), .act 2 [], .act 2 ["job"], .act 2 [],
    .start .dequeue, .act 3 []]

theorem retained_iff_requeued :
    (queueClients.after noCalls requeuedRun).shared.1.Keeps (queueItem "job" .normal none) :=
  ((retained_iff (queueClients.reaches_after noCalls requeuedRun)).2 _ (by decide)).mpr (by decide)

/-- A client dequeues an item and crashes while it requeues it: nothing of the item is left. -/
def crashedRequeue : List (Choice QueueOp (List String)) :=
  acceptedRun ++ [.start .dequeue, .act 1 [], .act 1 [],
    .start (.markFailed (queueItem "job" .normal none) true), .act 2 []]

theorem requeue_loses_item : ∃ cfg, queueClients.Reaches noCalls cfg ∧
    ∃ item, Owed item cfg.shared.2 ∧ ¬ cfg.shared.1.Keeps item :=
  ⟨_, queueClients.reaches_after noCalls crashedRequeue, queueItem "job" .normal none,
    by decide, by decide⟩

end Earth2Sandbox
