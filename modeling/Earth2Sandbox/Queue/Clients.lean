import Earth2Sandbox.Framework.Linearizability
import Earth2Sandbox.Queue.Equivalence
import Earth2Sandbox.Queue.RedisAdapter

/-!
# Clients of a queue

Any number of clients call one queue, whichever adapter it is; the requests of their calls
interleave, and on Redis leases expire at any time.  A call is `enqueue`, `dequeue`,
`mark_completed` or `mark_failed` without requeue.

Every run is linearizable (`ForecastQueue.clients_linearizable`) with respect to a collection that
has one item under a key: an enqueue is refused, with the item that is there, when the key is taken,
and a dequeue takes some pending item (`PortCall.effect`).  Which one is the subject of
`Queue/Callers.lean` and `Queue/Priority.lean`.  Who has an item can be read off the sequence: under
a key that is free at first there are at most as many deliveries as accepted items, at most one more
than releases, and when all calls have returned no accepted item is missing
(`ForecastQueue.custody`).
-/

namespace Earth2Sandbox

/-- A call of the queue port that takes effect at once. -/
inductive PortCall where
  | enqueue (jobId : String) (priority : ForecastJobPriority) (idempotencyKey : Option String)
  | dequeue
  | markCompleted (item : ForecastQueueItem)
  | markFailed (item : ForecastQueueItem)
  deriving DecidableEq

/-- What a call does to a queue that is not in any order, and returns. -/
def PortCall.effect : PortCall → QueueReply → QueueView → QueueView → Prop
  | enqueue jobId priority key, .enqueued result, q, q' =>
    Enqueues (queueItem jobId priority key) result q q'
  | dequeue, .dequeued result, q, q' => Dequeues result q q'
  | markCompleted item, .done, q, q' => Releases item () q q'
  | markFailed item, .done, q, q' => Releases item () q q'
  | _, _, _, _ => False

def PortCall.enqueues (key : String) : PortCall → Bool
  | enqueue jobId _ idempotencyKey => queueKey jobId idempotencyKey = key
  | _ => false

/-- The call enqueues under the key, and is not refused. -/
def PortCall.accepted (key : String) : PortCall → QueueReply → Bool
  | call, .enqueued result => call.enqueues key && result.enqueued
  | _, _ => false

def PortCall.delivered (key : String) : PortCall → QueueReply → Bool
  | dequeue, .dequeued (some item) => itemKey item = key
  | _, _ => false

def PortCall.releases (key : String) : PortCall → Bool
  | markCompleted item => itemKey item = key
  | markFailed item => itemKey item = key
  | _ => false

/-- The account of a key after some operations. -/
structure KeyAccount (key : String) (operations : List (Occurrence PortCall QueueReply))
    (q : QueueView) : Prop where
  disjoint : key ∈ q.pending → key ∉ q.inFlight
  accepted : operations.countP (fun o => o.label.accepted key o.result) =
    operations.countP (fun o => o.label.delivered key o.result) + if key ∈ q.pending then 1 else 0
  released : operations.countP (fun o => o.label.delivered key o.result) ≤
    operations.countP (fun o => o.label.releases key) + if key ∈ q.inFlight then 1 else 0

/-- What an operation does to one key. -/
inductive KeyStep (key : String) (call : PortCall) (reply : QueueReply) (q q' : QueueView) : Prop
  | accepted : call.accepted key reply = true → call.delivered key reply = false →
      call.releases key = false → key ∉ q.pending → key ∉ q.inFlight → key ∈ q'.pending →
      key ∉ q'.inFlight → KeyStep key call reply q q'
  | delivered : call.accepted key reply = false → call.delivered key reply = true →
      call.releases key = false → key ∈ q.pending → key ∉ q'.pending → key ∈ q'.inFlight →
      KeyStep key call reply q q'
  | released : call.accepted key reply = false → call.delivered key reply = false →
      call.releases key = true → (key ∈ q'.pending ↔ key ∈ q.pending) → key ∉ q'.inFlight →
      KeyStep key call reply q q'
  | untouched : call.accepted key reply = false → call.delivered key reply = false →
      call.releases key = false → (key ∈ q'.pending ↔ key ∈ q.pending) →
      (key ∈ q'.inFlight ↔ key ∈ q.inFlight) → KeyStep key call reply q q'

/-- A release, of the key or of another one. -/
lemma KeyStep.of_releases {key : String} {call : PortCall} {reply : QueueReply} {q q' : QueueView}
    {item : ForecastQueueItem} (haccepted : call.accepted key reply = false)
    (hdelivered : call.delivered key reply = false)
    (hreleased : call.releases key = decide (itemKey item = key))
    (h : Releases item () q q') : KeyStep key call reply q q' := by
  obtain rfl := h
  by_cases hkey : itemKey item = key
  · exact .released haccepted hdelivered (by simp [hreleased, hkey]) Iff.rfl (by simp [hkey])
  · exact .untouched haccepted hdelivered (by simp [hreleased, hkey]) Iff.rfl
      (by simp [Ne.symm hkey])

/-- Everything an operation can do to one key. -/
lemma PortCall.effect_key {call : PortCall} {reply : QueueReply} {q q' : QueueView}
    (h : call.effect reply q q') (key : String) : KeyStep key call reply q q' := by
  cases call with
  | enqueue jobId priority idempotencyKey =>
    cases reply with
    | enqueued result =>
      obtain ⟨item, enqueued⟩ := result
      cases enqueued with
      | false =>
        obtain ⟨-, -, rfl⟩ : _ ∧ _ ∧ q' = q := h
        exact .untouched (by simp [accepted, enqueues]) rfl rfl Iff.rfl Iff.rfl
      | true =>
        obtain ⟨hpending, hinFlight, -, rfl⟩ := h
        rw [itemKey_queueItem] at hpending hinFlight
        by_cases hkey : queueKey jobId idempotencyKey = key
        · subst hkey
          exact .accepted (by simp [accepted, enqueues]) rfl rfl hpending hinFlight (by simp)
            hinFlight
        · exact .untouched (by simp [accepted, enqueues, hkey]) rfl rfl (by simp [Ne.symm hkey])
            Iff.rfl
    | _ => exact h.elim
  | dequeue =>
    cases reply with
    | dequeued result =>
      cases result with
      | none =>
        obtain ⟨-, rfl⟩ := h
        exact .untouched rfl rfl rfl Iff.rfl Iff.rfl
      | some item =>
        obtain ⟨hpending, -, rfl⟩ := h
        by_cases hkey : itemKey item = key
        · subst hkey
          exact .delivered rfl (by simp [delivered]) rfl hpending (by simp) (by simp)
        · exact .untouched rfl (by simp [delivered, hkey]) rfl (by simp [Ne.symm hkey])
            (by simp [Ne.symm hkey])
    | _ => exact h.elim
  | markCompleted item =>
    cases reply with
    | done => exact .of_releases rfl rfl rfl h
    | _ => exact h.elim
  | markFailed item =>
    cases reply with
    | done => exact .of_releases rfl rfl rfl h
    | _ => exact h.elim

lemma KeyAccount.snoc {key : String} {operations : List (Occurrence PortCall QueueReply)}
    {o : Occurrence PortCall QueueReply} {q q' : QueueView} (h : KeyAccount key operations q)
    (heffect : o.label.effect o.result q q') : KeyAccount key (operations ++ [o]) q' := by
  obtain ⟨hdisjoint, haccepted, hreleased⟩ := h
  rcases PortCall.effect_key heffect key with ⟨ha, hd, hr, hp, hf, hp', hf'⟩ |
    ⟨ha, hd, hr, hp, hp', hf'⟩ | ⟨ha, hd, hr, hp', hf'⟩ | ⟨ha, hd, hr, hp', hf'⟩
  · refine ⟨fun _ => hf', ?_, ?_⟩ <;>
      simp_all [List.countP_append]
  · have hf := hdisjoint hp
    refine ⟨fun h => absurd h hp', ?_, ?_⟩ <;>
      simp_all [List.countP_append]
  · refine ⟨fun _ => hf', ?_, ?_⟩
    · simp_all [List.countP_append]
    · simp only [List.countP_append, List.countP_singleton, hd, hr, hf', Bool.false_eq_true,
        if_false, if_true]
      split at hreleased <;> omega
  · refine ⟨fun h => fun h' => hdisjoint (hp'.mp h) (hf'.mp h'), ?_, ?_⟩ <;>
      simp_all [List.countP_append]

namespace ForecastQueue

variable (Q : ForecastQueue)

/-- The call on this queue. -/
def onPort : PortCall → Program JobError Q.Call Q.Reply QueueReply
  | .enqueue jobId priority key => do return .enqueued (← Q.enqueue jobId priority key)
  | .dequeue => do return .dequeued (← Q.dequeue)
  | .markCompleted item => do
    Q.markCompleted item
    return .done
  | .markFailed item => do
    Q.markFailed item false
    return .done

/-- The clients of the queue.  A task is one call of a client. -/
def clients : System Q.State PortCall Q.Input JobError Q.Call Q.Reply QueueReply where
  body := Q.onPort
  perform _ _ state call input := some (Q.perform state input call)
  spawns _ _ := []
  admits _ _ := True
  admitsDecidable _ _ := inferInstance
  resumes _ := none

lemma onPort_linearizes (call : PortCall) (i : ℕ) :
    (Q.onPort call).Linearizes (Q.clients.exec i call) Q.view call.effect := by
  have hexec : Q.clients.exec i call =
      fun q c r q' => ∃ input, Q.perform q input c = (r, q') := by
    funext q c r q'
    simp [System.exec, clients]
  rw [hexec]
  cases call with
  | enqueue jobId priority key =>
    exact (Q.enqueue_linearizes jobId priority key).map fun _ _ _ h => h
  | dequeue => exact Q.dequeue_linearizes.map fun _ _ _ h => h
  | markCompleted item => exact (Q.markCompleted_linearizes item).map fun _ _ _ h => h
  | markFailed item => exact (Q.markFailed_linearizes item).map fun _ _ _ h => h

/-- **Any number of clients see a queue, whichever adapter it is, as a collection on which their
calls are made one after the other**, each between its invocation and its return. -/
theorem clients_linearizable (state : Q.State) :
    Q.clients.Linearizable Q.view PortCall.effect ⟨state, []⟩ :=
  System.linearizable_of_linearizes (fun i call => Q.onPort_linearizes call i) (fun _ => rfl) _ rfl

/-! ## Who has an item -/

/-- The calls that returned an item under the key. -/
def deliveries (cfg : Config Q.State PortCall JobError Q.Call Q.Reply QueueReply) (key : String) :
    Finset ℕ :=
  System.tasksWhere cfg fun call reply => reply.any (call.delivered key)

/-- The calls that enqueue under the key, and were not refused. -/
def acceptances (cfg : Config Q.State PortCall JobError Q.Call Q.Reply QueueReply) (key : String) :
    Finset ℕ :=
  System.tasksWhere cfg fun call reply => call.enqueues key && reply.all (call.accepted key)

/-- The calls that release the key. -/
def releases (cfg : Config Q.State PortCall JobError Q.Call Q.Reply QueueReply) (key : String) :
    Finset ℕ :=
  System.tasksWhere cfg fun call _ => call.releases key

variable {Q}

/-- **Who has an item.**  Whatever the clients of a queue call, under one key there are at most as
many deliveries as accepted items, and at most one more than releases.  When all calls have
returned, every accepted item was delivered or is pending. -/
theorem custody {state : Q.State} {choices : List (Choice PortCall Q.Input)}
    {cfg : Config Q.State PortCall JobError Q.Call Q.Reply QueueReply} {key : String}
    (hpending : key ∉ (Q.view state).pending) (hinFlight : key ∉ (Q.view state).inFlight)
    (hrun : Q.clients.run ⟨state, []⟩ choices = some cfg) :
    (deliveries Q cfg key).card ≤ (acceptances Q cfg key).card ∧
    (deliveries Q cfg key).card ≤ (releases Q cfg key).card + 1 ∧
    ((∀ t ∈ cfg.tasks, (System.returned? t).isSome) →
      (acceptances Q cfg key).card =
        (deliveries Q cfg key).card + if key ∈ (Q.view cfg.shared).pending then 1 else 0) := by
  have hlinearizable : Q.clients.Linearizable Q.view PortCall.effect ⟨state, []⟩ :=
    System.linearizable_of_linearizes (fun i call => Q.onPort_linearizes call i) (fun _ => rfl) _
      rfl
  obtain ⟨operations, h, -⟩ := hlinearizable choices cfg hrun
  obtain ⟨-, haccepted, hreleased⟩ : KeyAccount key operations (Q.view cfg.shared) :=
    h.sequential.invariant ⟨fun h => absurd h hpending, by simp [hpending], by simp [hinFlight]⟩
      fun _ _ _ _ haccount heffect => haccount.snoc heffect
  have hcalled : ∀ call reply, PortCall.accepted key call reply → PortCall.enqueues key call := by
    intro call reply hcall
    cases reply <;> simp_all [PortCall.accepted]
  have hdeliveries := h.card_returned_le (PortCall.delivered key)
  have hacceptances := h.countP_le _ _ hcalled
  have hreleases := (h.countP_le (fun call _ => call.releases key) (PortCall.releases key)
    fun _ _ hcall => hcall).trans (Finset.card_le_card
      (System.tasksWhere_mono fun _ _ hcall => (Bool.and_eq_true _ _ ▸ hcall).1))
  refine ⟨?_, ?_, fun hfinished => ?_⟩
  · exact hdeliveries.trans (le_trans (by omega) hacceptances)
  · refine hdeliveries.trans (hreleased.trans (add_le_add hreleases ?_))
    split <;> omega
  · rw [acceptances, (h.card_returned _ _ hcalled hfinished).2, haccepted, deliveries,
      (h.card_returned _ (fun _ => true) (fun _ _ _ => rfl) hfinished).1]

/-- Two clients enqueue one job and two dequeue, all at the same time. -/
def contestedRun : List (Choice PortCall (List String)) :=
  [.start (.enqueue "job" .normal none), .start (.enqueue "job" .high none), .act 0 [], .act 1 [],
    .act 1 [], .start .dequeue, .start .dequeue, .act 0 [], .act 3 [], .act 2 [], .act 3 []]

/-- The configuration after it, on Redis. -/
def contested : Config redisForecastQueue.State PortCall JobError redisForecastQueue.Call
    redisForecastQueue.Reply QueueReply :=
  redisForecastQueue.clients.after ⟨RedisQueueState.Orderly.empty, []⟩ contestedRun

lemma custody_contested :
    (acceptances redisForecastQueue contested "job").card =
      (deliveries redisForecastQueue contested "job").card +
        if "job" ∈ (redisForecastQueue.view contested.shared).pending then 1 else 0 := by
  have hrun : redisForecastQueue.clients.run ⟨RedisQueueState.Orderly.empty, []⟩ contestedRun =
      some contested := System.run_eq_after (by decide +kernel)
  exact (custody (Finset.notMem_empty _) (Finset.notMem_empty _) hrun).2.2 (by decide +kernel)

end ForecastQueue

end Earth2Sandbox
