import Earth2Sandbox.Framework.RelyGuarantee
import Earth2Sandbox.Framework.Tally
import Earth2Sandbox.Queue.InMemory

/-!
# Workers over the in-memory queue

Both queued workers start a task for every job they are handed: `_enqueue_and_drain`.  It queues
the job and, when the enqueue was accepted, takes jobs from the queue until there are none, which
need not include its own.  A job whose run raises ends the task.

`run_job` is left to the environment: a call of it takes any time, and returns or raises.  What is
kept is which enqueues were accepted and which calls of `run_job` began and ended.

A task dies with a failed job, and a refused enqueue starts no drainer, so it has to be said why
there is always a task left for what is pending: every pending job was left by its enqueuer with a
drainer more, and a drainer is lost with a job that it has taken (`DrainInvariant.drainers`).
-/

namespace Earth2Sandbox

/-! ## Tasks -/

/-- What a task awaits; `E` are the exceptions of `run_job`. -/
inductive DrainCall where
  | enqueue (jobId : String) (priority : ForecastJobPriority)
  | dequeue
  | startRun (jobId : String)
  | awaitRun (jobId : String)
  | markCompleted (item : ForecastQueueItem)
  | markFailed (item : ForecastQueueItem)
  deriving DecidableEq

abbrev DrainReply (E : Type) : DrainCall → Type
  | .enqueue _ _ => ForecastQueueEnqueueResult
  | .dequeue => Option ForecastQueueItem
  | .awaitRun _ => Except E Unit
  | .startRun _ | .markCompleted _ | .markFailed _ => Unit

/-- How a task goes on: with the next round of the `while` loop, or not at all. -/
inductive DrainNext where
  | again
  | done
  deriving DecidableEq

abbrev DrainProgram (E : Type) := Program E DrainCall (DrainReply E) DrainNext

variable {E : Type}

/-- One round of the loop of `_drain_queue`. -/
def drainQueue : DrainProgram E :=
  .call .dequeue fun
    | none => .ret .done
    | some item =>
      .call (.startRun item.jobId) fun _ => .call (.awaitRun item.jobId) fun
        | .error e => .call (.markFailed item) fun _ => .raise e
        | .ok () => .call (.markCompleted item) fun _ => .ret .again

/-- `_enqueue_and_drain` of a worker with this priority. -/
def enqueueAndDrain (jobId : String) (priority : ForecastJobPriority) : DrainProgram E :=
  .call (.enqueue jobId priority) fun result =>
    if result.enqueued then drainQueue else .ret .done

/-- What is left of a task. -/
inductive DrainLabel where
  | enqueueAndDrain (jobId : String) (priority : ForecastJobPriority)
  | drainQueue

/-- The program of a label. -/
def DrainLabel.program : DrainLabel → DrainProgram E
  | enqueueAndDrain jobId priority => Earth2Sandbox.enqueueAndDrain jobId priority
  | drainQueue => Earth2Sandbox.drainQueue

/-- A task can be started, the rest of one cannot. -/
def DrainLabel.starts : DrainLabel → Bool
  | enqueueAndDrain _ _ => true
  | drainQueue => false

/-- The queue, and the jobs whose enqueues were accepted and whose runs began and ended. -/
structure DrainState where
  queue : InMemoryPriorityForecastQueue
  accepted : List String
  began : List String
  ended : List String

namespace DrainState

/-- An enqueue by a worker; the idempotency key is the id of the job. -/
def enqueue (s : DrainState) (jobId : String) (priority : ForecastJobPriority) :
    ForecastQueueEnqueueResult × DrainState :=
  let result := s.queue.enqueue jobId priority (some jobId)
  (result.1, { s with
    queue := result.2
    accepted := if result.1.enqueued then jobId :: s.accepted else s.accepted })

/-- A call, answered with `outcome` when it awaits a run. -/
def perform (s : DrainState) (outcome : Except E Unit) :
    (c : DrainCall) → DrainReply E c × DrainState
  | .enqueue jobId priority => s.enqueue jobId priority
  | .dequeue => (s.queue.dequeue.1, { s with queue := s.queue.dequeue.2 })
  | .startRun jobId => ((), { s with began := jobId :: s.began })
  | .awaitRun jobId => (outcome, { s with ended := jobId :: s.ended })
  | .markCompleted item => ((), { s with queue := s.queue.markCompleted item })
  | .markFailed item => ((), { s with queue := s.queue.markFailed item false })

end DrainState

variable (E) in
/-- Any number of workers of one queue. -/
def workers :
    System DrainState DrainLabel (Except E Unit) E DrainCall (DrainReply E) DrainNext where
  body := DrainLabel.program
  perform _ _ s c outcome := some (s.perform outcome c)
  spawns _ _ := []
  admits _ label := label.starts = true
  admitsDecidable _ _ := inferInstance
  resumes
    | .again => some .drainQueue
    | .done => none

abbrev DrainConfig (E : Type) :=
  Config DrainState DrainLabel E DrainCall (DrainReply E) DrainNext

/-- No task has been started, and the queue is empty. -/
def noWorkers : DrainConfig E :=
  ⟨⟨.empty, [], [], []⟩, []⟩

/-! ## What a task does -/

/-- What a task is about to do. -/
inductive DrainRole where
  | enqueuing
  | draining
  | taken (item : ForecastQueueItem)
  | running (item : ForecastQueueItem)
  | handled (item : ForecastQueueItem)
  | finished

namespace DrainRole

/-- The task will take a job from the queue. -/
def drains : DrainRole → ℕ
  | draining => 1
  | _ => 0

/-- The task has taken job `id`, and `run_job` was not called. -/
def takes (id : String) : DrainRole → ℕ
  | taken item => if item.jobId = id then 1 else 0
  | _ => 0

/-- The task awaits `run_job` for job `id`. -/
def runs (id : String) : DrainRole → ℕ
  | running item => if item.jobId = id then 1 else 0
  | _ => 0

/-- The task has taken job `id` and not marked it. -/
def holds (id : String) : DrainRole → ℕ
  | taken item | running item | handled item => if item.jobId = id then 1 else 0
  | _ => 0

/-- The role is about an item that is keyed by its job. -/
def Keyed : DrainRole → Prop
  | taken item | running item | handled item => itemKey item = item.jobId
  | _ => True

end DrainRole

open DrainRole in
/-- What a step of a task does. -/
inductive DrainStep (s : DrainState) : DrainRole → DrainState → DrainRole → Prop
  | accepted (jobId : String) (priority : ForecastJobPriority) :
      (s.enqueue jobId priority).1.enqueued = true →
      DrainStep s enqueuing (s.enqueue jobId priority).2 draining
  | refused (jobId : String) (priority : ForecastJobPriority) :
      (s.enqueue jobId priority).1.enqueued = false →
      DrainStep s enqueuing (s.enqueue jobId priority).2 finished
  | exhausted : s.queue.dequeue.1 = none →
      DrainStep s draining { s with queue := s.queue.dequeue.2 } finished
  | took (item : ForecastQueueItem) : s.queue.dequeue.1 = some item →
      DrainStep s draining { s with queue := s.queue.dequeue.2 } (taken item)
  | began (item : ForecastQueueItem) :
      DrainStep s (taken item) { s with began := item.jobId :: s.began } (running item)
  | ended (item : ForecastQueueItem) :
      DrainStep s (running item) { s with ended := item.jobId :: s.ended } (handled item)
  | marked (item : ForecastQueueItem) (g : DrainRole) : g = draining ∨ g = finished →
      DrainStep s (handled item) { s with queue := s.queue.markCompleted item } g

/-- What a task guarantees; it relies on nothing. -/
def drainContract : Contract DrainState DrainRole E DrainCall (DrainReply E) DrainNext where
  rely _ _ _ := True
  guar g s _ _ s' g' := DrainStep s g s' g'
  post g _
    | .ok .again => g = .draining
    | .ok .done | .error _ => g = .finished

lemma workers_exec {i : ℕ} {label : DrainLabel} {s s' : DrainState} {c : DrainCall}
    {r : DrainReply E c} (h : (workers E).exec i label s c r s') :
    ∃ outcome, s.perform outcome c = (r, s') := by
  obtain ⟨outcome, heq⟩ := h
  exact ⟨outcome, Option.some.inj heq⟩

lemma safe_drainQueue {i : ℕ} {label : DrainLabel} {s : DrainState} :
    (drainQueue : DrainProgram E).Safe drainContract ((workers E).exec i label) .draining s := by
  intro s₁ _ r s₂ hdequeue
  obtain ⟨_, heq⟩ := workers_exec hdequeue
  obtain ⟨rfl, rfl⟩ := Prod.mk.inj heq
  cases hitem : s₁.queue.dequeue.1 with
  | none => exact ⟨.finished, .exhausted hitem, rfl⟩
  | some item =>
    refine ⟨.taken item, .took item hitem, ?_⟩
    intro s₃ _ _ s₄ hbegin
    obtain ⟨_, heq⟩ := workers_exec hbegin
    obtain ⟨-, rfl⟩ := Prod.mk.inj heq
    refine ⟨.running item, .began item, ?_⟩
    intro s₅ _ outcome s₆ hend
    obtain ⟨_, heq⟩ := workers_exec hend
    obtain ⟨-, rfl⟩ := Prod.mk.inj heq
    refine ⟨.handled item, .ended item, ?_⟩
    cases outcome with
    | error e =>
      intro s₇ _ _ s₈ hmark
      obtain ⟨_, heq⟩ := workers_exec hmark
      obtain ⟨-, rfl⟩ := Prod.mk.inj heq
      exact ⟨.finished, .marked item _ (.inr rfl), rfl⟩
    | ok _ =>
      intro s₇ _ _ s₈ hmark
      obtain ⟨_, heq⟩ := workers_exec hmark
      obtain ⟨-, rfl⟩ := Prod.mk.inj heq
      exact ⟨.draining, .marked item _ (.inl rfl), rfl⟩

lemma safe_enqueueAndDrain {i : ℕ} {label : DrainLabel} {s : DrainState} {jobId : String}
    {priority : ForecastJobPriority} :
    (enqueueAndDrain jobId priority : DrainProgram E).Safe drainContract
      ((workers E).exec i label) .enqueuing s := by
  intro s₁ _ r s₂ henqueue
  obtain ⟨_, heq⟩ := workers_exec henqueue
  change s₁.enqueue jobId priority = (r, s₂) at heq
  have hresult : (s₁.enqueue jobId priority).1 = r := congrArg Prod.fst heq
  obtain rfl : (s₁.enqueue jobId priority).2 = s₂ := congrArg Prod.snd heq
  by_cases haccepted : r.enqueued = true
  · refine ⟨.draining, .accepted jobId priority (hresult ▸ haccepted), ?_⟩
    dsimp only
    rw [if_pos haccepted]
    exact safe_drainQueue
  · refine ⟨.finished, .refused jobId priority ?_, ?_⟩
    · rw [hresult]
      exact Bool.eq_false_iff.mpr haccepted
    · dsimp only
      rw [if_neg haccepted]
      exact rfl

/-! ## The invariant -/

/-- How many enqueues of a job are pending. -/
def DrainState.waiting (s : DrainState) (id : String) : ℕ :=
  s.queue.entries.countP fun entry => entry.item.jobId = id

/-- How often a job is in flight. -/
def DrainState.flying (s : DrainState) (id : String) : ℕ :=
  (s.queue.inFlightByKey.lookup id).elim 0 fun _ => 1

/-- How the queue, the calls of `run_job` and the tasks hang together. -/
structure DrainInvariant (s : DrainState) (γ : List DrainRole) : Prop where
  queue : s.queue.Invariant
  entries_keyed : ∀ entry ∈ s.queue.entries, itemKey entry.item = entry.item.jobId
  roles_keyed : ∀ g ∈ γ, g.Keyed
  /-- For every pending job there is a task that will take it. -/
  drainers : s.queue.entries.length ≤ tally DrainRole.drains γ
  /-- What is in flight is held by one task. -/
  inFlight : ∀ id, tally (DrainRole.holds id) γ = s.flying id
  accepted : ∀ id, s.accepted.count id =
    s.began.count id + tally (DrainRole.takes id) γ + s.waiting id
  began : ∀ id, s.began.count id = s.ended.count id + tally (DrainRole.runs id) γ

namespace DrainInvariant

variable {s : DrainState} {γ : List DrainRole} {i : ℕ}

lemma initial : DrainInvariant (noWorkers (E := E)).shared [] where
  queue := InMemoryPriorityForecastQueue.invariant_empty
  entries_keyed := by simp [noWorkers, InMemoryPriorityForecastQueue.empty]
  roles_keyed := by simp
  drainers := Nat.le_refl 0
  inFlight := by simp [noWorkers, DrainState.flying, InMemoryPriorityForecastQueue.empty]
  accepted := by simp [noWorkers, DrainState.waiting, InMemoryPriorityForecastQueue.empty]
  began := by simp [noWorkers]

lemma roles_keyed_set (h : DrainInvariant s γ) {g : DrainRole} (hg : g.Keyed) :
    ∀ g' ∈ γ.set i g, g'.Keyed := by
  intro g' hmem
  rcases List.mem_or_eq_of_mem_set hmem with hmem | rfl
  · exact h.roles_keyed g' hmem
  · exact hg

lemma started (h : DrainInvariant s γ) : DrainInvariant s (γ ++ [.enqueuing]) := by
  refine ⟨h.queue, h.entries_keyed, fun g hg => ?_, ?_, fun id => ?_, fun id => ?_, fun id => ?_⟩
  · rcases List.mem_append.mp hg with hg | hg
    · exact h.roles_keyed g hg
    · rw [List.mem_singleton.mp hg]
      trivial
  · rw [tally_append]
    exact h.drainers.trans (Nat.le_add_right _ _)
  · rw [tally_append]
    exact h.inFlight id
  · rw [tally_append]
    exact h.accepted id
  · rw [tally_append]
    exact h.began id

/-- An enqueue is accepted when the job is neither pending nor in flight. -/
lemma enqueue_accepted {jobId : String} {priority : ForecastJobPriority}
    (h : (s.enqueue jobId priority).1.enqueued = true) :
    s.queue.existing jobId = none ∧
      (s.enqueue jobId priority).2 =
        { s with
          queue := { s.queue with
            entries := heappush s.queue.entries
              ⟨priorityRank priority, s.queue.sequence, queueItem jobId priority (some jobId)⟩
            queuedByKey := s.queue.queuedByKey.insert jobId
              (queueItem jobId priority (some jobId))
            sequence := s.queue.sequence + 1 }
          accepted := jobId :: s.accepted } := by
  have hkey : queueKey jobId (some jobId) = jobId := by simp [queueKey, keyOr]
  simp only [DrainState.enqueue, InMemoryPriorityForecastQueue.enqueue, hkey] at h ⊢
  cases hexisting : s.queue.existing jobId with
  | some item => simp [hexisting] at h
  | none => exact ⟨rfl, by simp⟩

lemma enqueue_refused {jobId : String} {priority : ForecastJobPriority}
    (h : (s.enqueue jobId priority).1.enqueued = false) : (s.enqueue jobId priority).2 = s := by
  cases hexisting : s.queue.existing (queueKey jobId (some jobId)) with
  | some item =>
    have hresult : s.queue.enqueue jobId priority (some jobId) = (⟨item, false⟩, s.queue) := by
      simp [InMemoryPriorityForecastQueue.enqueue, hexisting]
    simp [DrainState.enqueue, hresult]
  | none => simp [DrainState.enqueue, InMemoryPriorityForecastQueue.enqueue, hexisting] at h

/-- A pending job more, and a drainer more. -/
lemma step_accepted (h : DrainInvariant s γ) (hi : γ[i]? = some .enqueuing) {jobId : String}
    {priority : ForecastJobPriority} (haccepted : (s.enqueue jobId priority).1.enqueued = true) :
    DrainInvariant (s.enqueue jobId priority).2 (γ.set i .draining) := by
  have hqueue := h.queue.enqueue jobId priority (some jobId)
  obtain ⟨-, heq⟩ := enqueue_accepted haccepted
  have hitem : itemKey (queueItem jobId priority (some jobId)) = jobId := by
    simp [queueKey, keyOr]
  have hperm := List.perm_orderedInsert QueuedEntry.le
    ⟨priorityRank priority, s.queue.sequence, queueItem jobId priority (some jobId)⟩
    s.queue.entries
  have htally (f : DrainRole → ℕ) := tally_set f hi .draining
  refine ⟨hqueue, ?_, h.roles_keyed_set trivial, ?_, fun id => ?_, fun id => ?_, fun id => ?_⟩ <;>
    rw [heq]
  · intro entry hentry
    rcases InMemoryPriorityForecastQueue.mem_heappush.mp hentry with rfl | hentry
    · exact hitem
    · exact h.entries_keyed entry hentry
  · have hdrainers := h.drainers
    have := htally DrainRole.drains
    have hlength : (heappush s.queue.entries _).length = s.queue.entries.length + 1 :=
      hperm.length_eq
    simp only [DrainRole.drains] at this
    dsimp only
    omega
  · rw [tally_set_of_eq _ hi (by rfl)]
    exact h.inFlight id
  · have := htally (DrainRole.takes id)
    have hcount := h.accepted id
    have hwaiting : (heappush s.queue.entries _).countP _ = _ :=
      hperm.countP_eq fun entry => entry.item.jobId = id
    simp only [DrainRole.takes] at this
    simp only [DrainState.waiting, List.count_cons] at hcount ⊢
    rw [hwaiting, List.countP_cons]
    by_cases hid : jobId = id
    · simp only [queueItem, hid, beq_self_eq_true, decide_true, if_true]
      omega
    · simp only [queueItem, hid, beq_false_of_ne hid, decide_false, Bool.false_eq_true, if_false]
      omega
  · rw [tally_set_of_eq _ hi (by rfl)]
    exact h.began id

/-- The first pending job is taken. -/
lemma step_took (h : DrainInvariant s γ) (hi : γ[i]? = some .draining) {item : ForecastQueueItem}
    (hitem : s.queue.dequeue.1 = some item) :
    DrainInvariant { s with queue := s.queue.dequeue.2 } (γ.set i (.taken item)) := by
  have hqueue : s.queue.dequeue.2.Invariant := h.queue.dequeueEntry
  obtain ⟨entry, rest, hentries, rfl, heq⟩ := h.queue.dequeue_eq_some hitem
  have htally (f : DrainRole → ℕ) := tally_set f hi (.taken entry.item)
  have hmem : entry ∈ s.queue.entries := hentries ▸ List.mem_cons_self
  have hkey := h.entries_keyed entry hmem
  have hflight : s.flying entry.item.jobId = 0 := by
    have hnone : s.queue.inFlightByKey.lookup entry.item.jobId = none := by
      refine h.queue.disjoint _ ?_
      rw [(h.queue.queued_iff _ entry.item).mpr ⟨entry, hmem, rfl, hkey⟩]
      rfl
    rw [DrainState.flying, hnone]
    rfl
  refine ⟨hqueue, ?_, h.roles_keyed_set hkey, ?_, fun id => ?_, fun id => ?_, fun id => ?_⟩ <;>
    rw [heq]
  · exact fun e he => h.entries_keyed e (hentries ▸ List.mem_cons_of_mem _ he)
  · have hdrainers := h.drainers
    have := htally DrainRole.drains
    rw [hentries, List.length_cons] at hdrainers
    simp only [DrainRole.drains] at this
    dsimp only
    omega
  · have := htally (DrainRole.holds id)
    have hheld := h.inFlight id
    simp only [DrainRole.holds] at this
    by_cases hid : entry.item.jobId = id
    · subst hid
      simp only [if_true] at this
      simp only [DrainState.flying, hkey, AList.lookup_insert, Option.elim_some]
      omega
    · simp only [hid, if_false] at this
      simp only [DrainState.flying, hkey, AList.lookup_insert_ne (Ne.symm hid)] at hheld ⊢
      omega
  · have := htally (DrainRole.takes id)
    have hcount := h.accepted id
    simp only [DrainRole.takes] at this
    simp only [DrainState.waiting, hentries, List.countP_cons] at hcount ⊢
    by_cases hid : entry.item.jobId = id
    · simp only [hid, decide_true, if_true] at this hcount
      omega
    · simp only [hid, decide_false, Bool.false_eq_true, if_false] at this hcount
      omega
  · rw [tally_set_of_eq _ hi (by rfl)]
    exact h.began id

/-- A drainer leaves when nothing is pending. -/
lemma step_exhausted (h : DrainInvariant s γ) (hi : γ[i]? = some .draining)
    (hnone : s.queue.dequeue.1 = none) :
    DrainInvariant { s with queue := s.queue.dequeue.2 } (γ.set i .finished) := by
  obtain ⟨hentries, heq⟩ := h.queue.dequeue_eq_none hnone
  rw [heq]
  refine ⟨h.queue, h.entries_keyed, h.roles_keyed_set trivial, ?_, fun id => ?_, fun id => ?_,
    fun id => ?_⟩
  · rw [hentries]
    exact Nat.zero_le _
  · rw [tally_set_of_eq _ hi (by rfl)]
    exact h.inFlight id
  · rw [tally_set_of_eq _ hi (by rfl)]
    exact h.accepted id
  · rw [tally_set_of_eq _ hi (by rfl)]
    exact h.began id

/-- A refused enqueue changes nothing. -/
lemma step_refused (h : DrainInvariant s γ) (hi : γ[i]? = some .enqueuing) {jobId : String}
    {priority : ForecastJobPriority} (hrefused : (s.enqueue jobId priority).1.enqueued = false) :
    DrainInvariant (s.enqueue jobId priority).2 (γ.set i .finished) := by
  rw [enqueue_refused hrefused]
  refine ⟨h.queue, h.entries_keyed, h.roles_keyed_set trivial, ?_, fun id => ?_, fun id => ?_,
    fun id => ?_⟩ <;> rw [tally_set_of_eq _ hi (by rfl)]
  · exact h.drainers
  · exact h.inFlight id
  · exact h.accepted id
  · exact h.began id

/-- A run begins. -/
lemma step_began (h : DrainInvariant s γ) {item : ForecastQueueItem}
    (hi : γ[i]? = some (.taken item)) :
    DrainInvariant { s with began := item.jobId :: s.began } (γ.set i (.running item)) := by
  have htally (f : DrainRole → ℕ) := tally_set f hi (.running item)
  have hkey : itemKey item = item.jobId := h.roles_keyed _ (List.mem_of_getElem? hi)
  refine ⟨h.queue, h.entries_keyed, h.roles_keyed_set hkey, ?_, fun id => ?_, fun id => ?_,
    fun id => ?_⟩
  · rw [tally_set_of_eq _ hi (by rfl)]
    exact h.drainers
  · rw [tally_set_of_eq _ hi (by rfl)]
    exact h.inFlight id
  · have := htally (DrainRole.takes id)
    have hcount := h.accepted id
    simp only [DrainRole.takes] at this
    simp only [DrainState.waiting, List.count_cons, beq_iff_eq] at hcount ⊢
    omega
  · have := htally (DrainRole.runs id)
    have hcount := h.began id
    simp only [DrainRole.runs] at this
    simp only [List.count_cons, beq_iff_eq]
    omega

/-- A run ends. -/
lemma step_ended (h : DrainInvariant s γ) {item : ForecastQueueItem}
    (hi : γ[i]? = some (.running item)) :
    DrainInvariant { s with ended := item.jobId :: s.ended } (γ.set i (.handled item)) := by
  have htally (f : DrainRole → ℕ) := tally_set f hi (.handled item)
  have hkey : itemKey item = item.jobId := h.roles_keyed _ (List.mem_of_getElem? hi)
  refine ⟨h.queue, h.entries_keyed, h.roles_keyed_set hkey, ?_, fun id => ?_, fun id => ?_,
    fun id => ?_⟩
  · rw [tally_set_of_eq _ hi (by rfl)]
    exact h.drainers
  · rw [tally_set_of_eq _ hi (by rfl)]
    exact h.inFlight id
  · rw [tally_set_of_eq _ hi (by rfl)]
    exact h.accepted id
  · have := htally (DrainRole.runs id)
    have hcount := h.began id
    simp only [DrainRole.runs] at this
    simp only [List.count_cons, beq_iff_eq]
    omega

/-- A job is not in flight any more, and its task drains again or is lost. -/
lemma step_marked (h : DrainInvariant s γ) {item : ForecastQueueItem}
    (hi : γ[i]? = some (.handled item)) {g : DrainRole} (hg : g = .draining ∨ g = .finished) :
    DrainInvariant { s with queue := s.queue.markCompleted item } (γ.set i g) := by
  have hkey : itemKey item = item.jobId := h.roles_keyed _ (List.mem_of_getElem? hi)
  have htally (f : DrainRole → ℕ) := tally_set f hi g
  have hone : s.flying item.jobId = 1 := by
    have hpos := le_tally (DrainRole.holds item.jobId) hi
    rw [h.inFlight, DrainRole.holds, if_pos rfl] at hpos
    unfold DrainState.flying at hpos ⊢
    cases hlookup : s.queue.inFlightByKey.lookup item.jobId with
    | none =>
      rw [hlookup] at hpos
      exact absurd hpos (by decide)
    | some _ => rfl
  have hkeyed : g.Keyed := by rcases hg with rfl | rfl <;> trivial
  refine ⟨h.queue.markCompleted item, h.entries_keyed, h.roles_keyed_set hkeyed, ?_, fun id => ?_,
    fun id => ?_, fun id => ?_⟩
  · have := htally DrainRole.drains
    have hdrainers : s.queue.entries.length ≤ _ := h.drainers
    change s.queue.entries.length ≤ _
    simp only [DrainRole.drains] at this
    omega
  · have := htally (DrainRole.holds id)
    have hheld := h.inFlight id
    have hnone : g.holds id = 0 := by rcases hg with rfl | rfl <;> rfl
    rw [hnone] at this
    simp only [DrainRole.holds] at this
    by_cases hid : item.jobId = id
    · subst hid
      simp only [if_true] at this
      simp only [DrainState.flying, InMemoryPriorityForecastQueue.markCompleted, hkey,
        AList.lookup_erase, Option.elim_none]
      omega
    · simp only [hid, if_false] at this
      simp only [DrainState.flying, InMemoryPriorityForecastQueue.markCompleted, hkey,
        AList.lookup_erase_ne (Ne.symm hid)] at hheld ⊢
      omega
  · rw [tally_set_of_eq _ hi (by rcases hg with rfl | rfl <;> rfl)]
    exact h.accepted id
  · rw [tally_set_of_eq _ hi (by rcases hg with rfl | rfl <;> rfl)]
    exact h.began id

/-- **Step.**  Every step of a task keeps the invariant. -/
lemma step (h : DrainInvariant s γ) {s' : DrainState} {g g' : DrainRole} (hi : γ[i]? = some g)
    (hstep : DrainStep s g s' g') : DrainInvariant s' (γ.set i g') := by
  cases hstep with
  | accepted jobId priority haccepted => exact h.step_accepted hi haccepted
  | refused jobId priority hrefused => exact h.step_refused hi hrefused
  | exhausted hnone => exact h.step_exhausted hi hnone
  | took item hitem => exact h.step_took hi hitem
  | began item => exact h.step_began hi
  | ended item => exact h.step_ended hi
  | marked item g hg => exact h.step_marked hi hg

end DrainInvariant

lemma workers_verified : (workers E).Verified drainContract DrainInvariant
    (fun _ _ => .enqueuing) where
  rely_refl _ _ := trivial
  rely_trans _ _ _ _ _ _ := trivial
  post_stable _ _ _ _ _ h := h
  interfere _ _ _ _ _ _ _ _ _ _ _ _ _ _ _ := trivial
  preserve _ _ _ _ _ _ _ _ hinv hi hguar := by
    change DrainInvariant _ (List.set _ _ _ ++ [])
    rw [List.append_nil]
    exact hinv.step hi hguar
  spawned _ _ _ _ _ _ _ _ _ _ _ _ _ hl := by cases hl
  admitted s γ label hinv hadmits := by
    refine ⟨hinv.started, ?_⟩
    cases label with
    | enqueueAndDrain jobId priority => exact safe_enqueueAndDrain
    | drainQueue => cases hadmits
  resumed g s next label i hpost hresumes := by
    cases next with
    | again =>
      obtain rfl : g = .draining := hpost
      cases hresumes
      exact safe_drainQueue
    | done => cases hresumes

/-! ## Nothing is left behind -/

namespace DrainInvariant

variable {s : DrainState} {γ : List DrainRole}

/-- A job is pending once at most, and not when it is in flight. -/
lemma waiting_add_flying_le (h : DrainInvariant s γ) (id : String) :
    s.waiting id + s.flying id ≤ 1 := by
  have hkeys : (s.queue.entries.map fun entry => entry.item.jobId).Nodup := by
    rw [List.map_congr_left fun entry hentry => (h.entries_keyed entry hentry).symm]
    exact h.queue.keys_nodup
  have hwaiting : s.waiting id = (s.queue.entries.map fun entry => entry.item.jobId).count id := by
    rw [List.count, List.countP_map, DrainState.waiting]
    rfl
  have hone : s.waiting id ≤ 1 := by
    rw [hwaiting]
    exact List.nodup_iff_count_le_one.mp hkeys id
  cases hflight : s.queue.inFlightByKey.lookup id with
  | none => simpa [DrainState.flying, hflight] using hone
  | some item =>
    have hnone : s.waiting id = 0 := by
      rw [hwaiting, List.count_eq_zero]
      intro hmem
      obtain ⟨entry, hentry, rfl⟩ := List.mem_map.mp hmem
      have hqueued := (h.queue.queued_iff _ entry.item).mpr
        ⟨entry, hentry, rfl, h.entries_keyed entry hentry⟩
      rw [h.queue.disjoint _ (by rw [hqueued]; rfl)] at hflight
      cases hflight
    simp [DrainState.flying, hflight, hnone]

/-- The runs of a job alternate with its accepted enqueues, and do not overlap. -/
lemma balance (h : DrainInvariant s γ) (id : String) :
    s.ended.count id ≤ s.began.count id ∧ s.began.count id ≤ s.accepted.count id ∧
      s.accepted.count id ≤ s.ended.count id + 1 := by
  have haccepted := h.accepted id
  have hbegan := h.began id
  have hflying := h.inFlight id
  have hone := h.waiting_add_flying_le id
  have hheld : tally (DrainRole.takes id) γ + tally (DrainRole.runs id) γ ≤
      tally (DrainRole.holds id) γ := by
    rw [← tally_add]
    refine tally_mono fun g _ => ?_
    cases g <;> simp [DrainRole.takes, DrainRole.runs, DrainRole.holds]
  omega

/-- When all tasks are finished, nothing is pending or in flight, and every accepted enqueue had
its run. -/
lemma finished (h : DrainInvariant s γ) (hdone : ∀ g ∈ γ, g = .finished) :
    s.began.Perm s.accepted ∧ s.queue.pendingCount = 0 ∧ s.queue.inFlightCount = 0 := by
  have hzero (f : DrainRole → ℕ) (hf : f .finished = 0) : tally f γ = 0 :=
    tally_eq_zero fun g hg => by rw [hdone g hg, hf]
  have hentries : s.queue.entries = [] := by
    have hdrainers := h.drainers
    rw [hzero _ rfl] at hdrainers
    exact List.eq_nil_of_length_eq_zero (Nat.le_zero.mp hdrainers)
  refine ⟨List.perm_iff_count.mpr fun id => ?_, ?_, ?_⟩
  · have haccepted := h.accepted id
    rw [hzero _ rfl] at haccepted
    simp only [DrainState.waiting, hentries, List.countP_nil] at haccepted
    omega
  · refine Dict.len_eq_zero fun key => ?_
    cases hlookup : s.queue.queuedByKey.lookup key with
    | none => rfl
    | some item =>
      obtain ⟨entry, hentry, -⟩ := (h.queue.queued_iff key item).mp hlookup
      rw [hentries] at hentry
      cases hentry
  · refine Dict.len_eq_zero fun key => ?_
    have hflying := h.inFlight key
    rw [hzero _ rfl, DrainState.flying] at hflying
    cases hlookup : s.queue.inFlightByKey.lookup key with
    | none => rfl
    | some item =>
      rw [hlookup] at hflying
      cases hflying

end DrainInvariant

/-- **Draining leaves nothing behind.**  Over a queue that starts empty, for every interleaving of
any tasks and whatever their runs do: at no time has a job had more calls of `run_job` than accepted
enqueues, and two calls for one job do not overlap; when all tasks are finished, every accepted
enqueue had one call, and nothing is pending or in flight. -/
theorem drained_of_finished {cfg : DrainConfig E} (h : (workers E).Reaches noWorkers cfg) :
    (∀ id, cfg.shared.began.count id ≤ cfg.shared.accepted.count id ∧
      cfg.shared.began.count id ≤ cfg.shared.ended.count id + 1) ∧
      ((workers E).Finished cfg →
        cfg.shared.began.Perm cfg.shared.accepted ∧ cfg.shared.queue.pendingCount = 0 ∧
          cfg.shared.queue.inFlightCount = 0) := by
  obtain ⟨γ, hinv, hlength, hsafe⟩ := workers_verified.safe_of_reaches
    ⟨[], DrainInvariant.initial, rfl, by simp [noWorkers]⟩ h
  refine ⟨fun id => ?_, fun hdone => hinv.finished fun g hg => ?_⟩
  · obtain ⟨-, hbegan, haccepted⟩ := hinv.balance id
    exact ⟨hbegan, hbegan.trans haccepted⟩
  · obtain ⟨i, hi⟩ := List.getElem?_of_mem hg
    obtain ⟨task, htask⟩ : ∃ task, cfg.tasks[i]? = some task :=
      ⟨_, List.getElem?_eq_getElem (hlength ▸ (List.getElem?_eq_some_iff.mp hi).1)⟩
    have hpost := hsafe i task g htask hi
    rcases hdone task (List.mem_of_getElem? htask) with ⟨e, hprogram⟩ | ⟨next, hprogram, hnone⟩
    · rw [hprogram] at hpost
      exact hpost
    · rw [hprogram] at hpost
      cases next with
      | again => cases hnone
      | done => exact hpost

/-! ## A run -/

/-- Three tasks for two jobs: the run of `b` fails, in the task that has queued `a`. -/
def sampleWork : List (Choice DrainLabel (Except Unit Unit)) :=
  [.start (.enqueueAndDrain "a" .normal), .start (.enqueueAndDrain "b" .high),
    .start (.enqueueAndDrain "a" .normal), .act 0 (.ok ()), .act 1 (.ok ()), .act 2 (.ok ()),
    .act 0 (.ok ()), .act 0 (.ok ()), .act 1 (.ok ()), .act 0 (.error ()), .act 1 (.ok ()),
    .act 0 (.ok ()), .act 1 (.ok ()), .act 1 (.ok ()), .resume 1, .act 1 (.ok ())]

/-- Its end. -/
def sampleEnd : DrainConfig Unit :=
  (workers Unit).after noWorkers sampleWork

/-- Both jobs have run, although one of their tasks is lost. -/
theorem drained_of_finished_sample :
    (workers Unit).Finished sampleEnd ∧ sampleEnd.shared.began = ["a", "b"] ∧
      sampleEnd.shared.began.Perm sampleEnd.shared.accepted ∧
      sampleEnd.shared.queue.pendingCount = 0 ∧ sampleEnd.shared.queue.inFlightCount = 0 := by
  have hprograms : sampleEnd.tasks.map (·.program) = [.raise (), .ret .done, .ret .done] := rfl
  have hdone : (workers Unit).Finished sampleEnd := by
    rw [System.finished_iff, hprograms]
    simp [workers]
  have hdrained := drained_of_finished (System.reaches_after noWorkers sampleWork)
  exact ⟨hdone, rfl, hdrained.2 hdone⟩

end Earth2Sandbox
