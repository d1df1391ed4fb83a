import Earth2Sandbox.Queue.Adapter
import Earth2Sandbox.Queue.Redis

/-!
# The Redis queue as an adapter

`RedisForecastQueue` is a `ForecastQueue` (`redisForecastQueue`): every operation takes effect at
the one request that runs its script.  Before any request some leases may have expired.

The adapter's own requests keep the keys of the queue in good order (`Sound`): the sorted set names
the pending items, payloads are encoded items under their own keys, and no key is both pending and
in flight.
-/

namespace Earth2Sandbox

lemma encodeItem_injective : Function.Injective encodeItem := by
  intro item item' h
  have hdecoded := decodeItem_encodeItem item
  rw [h, decodeItem_encodeItem] at hdecoded
  exact (Option.some.inj (Except.ok.inj hdecoded)).symm

/-- A request of the adapter: an item is enqueued under its own key. -/
def RedisCall.Proper : RedisCall → Prop
  | .evalEnqueue key payload _ => ∃ item, itemKey item = key ∧ payload = encodeItem item
  | _ => True

namespace RedisQueueState

/-- The keys of a queue are in good order. -/
structure Sound (state : RedisQueueState) : Prop where
  members : ∀ key, (∃ m ∈ state.pendingScores, m.member = key) ↔
    (state.pending.lookup key).isSome
  pending : ∀ key payload, state.pending.lookup key = some payload →
    ∃ item, itemKey item = key ∧ payload = encodeItem item
  inFlight : ∀ key payload, state.inFlight.lookup key = some payload →
    ∃ item, itemKey item = key ∧ payload = encodeItem item
  disjoint : ∀ key, (state.pending.lookup key).isSome → state.inFlight.lookup key = none

variable {state : RedisQueueState} {key payload : String} {score : ℕ}

lemma sound_empty : empty.Sound where
  members key := by simp [empty]
  pending key payload h := by simp [empty] at h
  inFlight key payload h := by simp [empty] at h
  disjoint key h := by simp [empty] at h

/-! ## The scripts -/

/-- Everything the script of `enqueue` can do. -/
lemma enqueueScript_cases (state : RedisQueueState) (key payload : String) (score : ℕ) :
    (∃ existing, (state.pending.lookup key = some existing ∨
        state.inFlight.lookup key = some existing) ∧
      state.enqueueScript key payload score = ((false, existing), state)) ∨
    (state.pending.lookup key = none ∧ state.inFlight.lookup key = none ∧
      state.enqueueScript key payload score =
        ((true, payload),
          { state with
            pending := state.pending.insert key payload
            pendingScores := state.pendingScores.zadd score key })) := by
  unfold enqueueScript
  cases hpending : state.pending.lookup key with
  | some existing => exact .inl ⟨existing, .inl rfl, rfl⟩
  | none =>
    cases hinFlight : state.inFlight.lookup key with
    | some existing => exact .inl ⟨existing, .inr rfl, rfl⟩
    | none => exact .inr ⟨rfl, rfl, rfl⟩

/-- Everything the script of `dequeue` can do. -/
lemma Sound.dequeueScript_cases (h : state.Sound) :
    (state.pendingScores = [] ∧ state.dequeueScript = (none, state)) ∨
    ∃ item, state.pending.lookup (itemKey item) = some (encodeItem item) ∧
      state.dequeueScript = (some (encodeItem item),
        { state with
          pendingScores := state.pendingScores.zrem (itemKey item)
          pending := state.pending.erase (itemKey item)
          inFlight := state.inFlight.insert (itemKey item) (encodeItem item) }) := by
  unfold dequeueScript
  cases hscores : state.pendingScores with
  | nil => exact .inl ⟨rfl, rfl⟩
  | cons first rest =>
    have hsome := (h.members first.member).mp ⟨first, by simp [hscores], rfl⟩
    obtain ⟨payload, hpayload⟩ := Option.isSome_iff_exists.mp hsome
    obtain ⟨item, hkey, rfl⟩ := h.pending _ _ hpayload
    refine .inr ⟨item, by rw [hkey, hpayload], ?_⟩
    simp only [hpayload, hkey]

lemma Sound.expire (h : state.Sound) (keys : List String) : (state.expire keys).Sound :=
  ⟨h.members, h.pending, h.inFlight, h.disjoint⟩

lemma Sound.enqueueScript (h : state.Sound)
    (hpayload : ∃ item, itemKey item = key ∧ payload = encodeItem item) :
    (state.enqueueScript key payload score).2.Sound := by
  rcases state.enqueueScript_cases key payload score with
    ⟨existing, -, heq⟩ | ⟨hpending, hinFlight, heq⟩
  · rw [heq]
    exact h
  · rw [heq]
    refine ⟨fun k => ?_, fun k other hk => ?_, h.inFlight, fun k hk => ?_⟩
    · simp only [SortedSet.zadd, List.mem_orderedInsert, List.mem_filter, decide_eq_true_eq]
      by_cases hkey : k = key
      · subst hkey
        simp
      · rw [AList.lookup_insert_ne hkey, ← h.members]
        constructor
        · rintro ⟨m, rfl | ⟨hm, -⟩, hmember⟩
          · exact absurd hmember (Ne.symm hkey)
          · exact ⟨m, hm, hmember⟩
        · rintro ⟨m, hm, hmember⟩
          exact ⟨m, .inr ⟨hm, fun heq => hkey (hmember.symm.trans heq)⟩, hmember⟩
    · by_cases hkey : k = key
      · subst hkey
        rw [AList.lookup_insert] at hk
        cases hk
        exact hpayload
      · rw [AList.lookup_insert_ne hkey] at hk
        exact h.pending k other hk
    · by_cases hkey : k = key
      · rw [hkey]
        exact hinFlight
      · rw [AList.lookup_insert_ne hkey] at hk
        exact h.disjoint k hk

lemma Sound.dequeueScript (h : state.Sound) : state.dequeueScript.2.Sound := by
  rcases h.dequeueScript_cases with ⟨-, heq⟩ | ⟨item, hitem, heq⟩
  · rw [heq]
    exact h
  · rw [heq]
    refine ⟨fun k => ?_, fun k other hk => ?_, fun k other hk => ?_, fun k hk => ?_⟩
    · simp only [SortedSet.zrem, List.mem_filter, decide_eq_true_eq]
      by_cases hkey : k = itemKey item
      · rw [hkey, AList.lookup_erase]
        simp
      · rw [AList.lookup_erase_ne hkey, ← h.members]
        refine exists_congr fun m => ?_
        constructor
        · rintro ⟨⟨hm, -⟩, hmember⟩
          exact ⟨hm, hmember⟩
        · rintro ⟨hm, hmember⟩
          exact ⟨⟨hm, fun heq => hkey (hmember.symm.trans heq)⟩, hmember⟩
    · by_cases hkey : k = itemKey item
      · rw [hkey, AList.lookup_erase] at hk
        cases hk
      · rw [AList.lookup_erase_ne hkey] at hk
        exact h.pending k other hk
    · by_cases hkey : k = itemKey item
      · rw [hkey, AList.lookup_insert] at hk
        cases hk
        exact ⟨item, hkey.symm, rfl⟩
      · rw [AList.lookup_insert_ne hkey] at hk
        exact h.inFlight k other hk
    · by_cases hkey : k = itemKey item
      · rw [hkey, AList.lookup_erase] at hk
        cases hk
      · rw [AList.lookup_erase_ne hkey] at hk
        rw [AList.lookup_insert_ne hkey]
        exact h.disjoint k hk

/-- The requests of the adapter keep the order. -/
lemma Sound.perform (h : state.Sound) {c : RedisCall} (hc : c.Proper) :
    (c.perform state).2.Sound := by
  cases c with
  | evalEnqueue key payload score => exact h.enqueueScript hc
  | evalDequeue => exact h.dequeueScript
  | release key =>
    refine ⟨h.members, h.pending, fun k other hk => ?_, fun k hk => ?_⟩
    · by_cases hkey : k = key
      · rw [hkey] at hk
        simp [RedisCall.perform] at hk
      · rw [RedisCall.perform, AList.lookup_erase_ne hkey] at hk
        exact h.inFlight k other hk
    · by_cases hkey : k = key
      · rw [hkey]
        simp [RedisCall.perform]
      · rw [RedisCall.perform, AList.lookup_erase_ne hkey]
        exact h.disjoint k hk
  | _ => exact ⟨h.members, h.pending, h.inFlight, h.disjoint⟩

/-! ## What can be seen -/

/-- The item that a payload is made from. -/
def payloadItem (payload : String) : Option ForecastQueueItem :=
  match decodeItem (some payload) with
  | .ok item => item
  | .error _ => none

@[simp] lemma payloadItem_encodeItem (item : ForecastQueueItem) :
    payloadItem (encodeItem item) = some item := by
  simp [payloadItem]

/-- What can be seen of the queue. -/
def view (state : RedisQueueState) : QueueView where
  pending := state.pending.keySet
  inFlight := state.inFlight.keySet
  items key := ((state.pending.lookup key).or (state.inFlight.lookup key)).bind payloadItem

lemma Sound.enqueues (h : state.Sound) (item : ForecastQueueItem) (score : ℕ) :
    ∃ returned, decodeItem (some (state.enqueueScript (itemKey item) (encodeItem item) score).1.2) =
        .ok (some returned) ∧
      Enqueues item ⟨returned, (state.enqueueScript (itemKey item) (encodeItem item) score).1.1⟩
        state.view (state.enqueueScript (itemKey item) (encodeItem item) score).2.view := by
  rcases state.enqueueScript_cases (itemKey item) (encodeItem item) score with
    ⟨existing, hexisting, heq⟩ | ⟨hpending, hinFlight, heq⟩
  · obtain ⟨returned, -, rfl⟩ : ∃ returned, itemKey returned = itemKey item ∧
        existing = encodeItem returned :=
      hexisting.elim (h.pending _ _) (h.inFlight _ _)
    have hitem : (state.pending.lookup (itemKey item)).or (state.inFlight.lookup (itemKey item)) =
        some (encodeItem returned) := by
      rcases hexisting with hpending | hinFlight
      · simp [hpending]
      · -- what is in flight is not pending
        cases hpending : state.pending.lookup (itemKey item) with
        | none => simp [hinFlight]
        | some payload =>
          rw [h.disjoint (itemKey item) (by simp [hpending])] at hinFlight
          cases hinFlight
    rw [heq]
    refine ⟨returned, decodeItem_encodeItem returned, ?_⟩
    simp only [Enqueues, Bool.false_eq_true, if_false, view, Dict.mem_keySet, hitem,
      Option.bind_some, payloadItem_encodeItem, and_true]
    exact hexisting.imp (fun hsome => by simp [hsome]) fun hsome => by simp [hsome]
  · rw [heq]
    refine ⟨item, decodeItem_encodeItem item, ?_⟩
    simp only [Enqueues, if_true, view, Dict.mem_keySet, hpending, hinFlight, Option.isSome_none,
      Bool.false_eq_true, not_false_eq_true, true_and, Dict.keySet_insert, QueueView.mk.injEq]
    funext key
    by_cases hkey : key = itemKey item
    · subst hkey
      simp
    · simp [AList.lookup_insert_ne hkey, Function.update_of_ne hkey]

lemma Sound.dequeues (h : state.Sound) :
    ∃ result, decodeItem state.dequeueScript.1 = .ok result ∧
      Dequeues result state.view state.dequeueScript.2.view := by
  rcases h.dequeueScript_cases with ⟨hscores, heq⟩ | ⟨item, hitem, heq⟩
  · rw [heq]
    refine ⟨none, rfl, Finset.eq_empty_of_forall_notMem fun key hkey => ?_, rfl⟩
    obtain ⟨m, hm, -⟩ := (h.members key).mpr (Dict.mem_keySet.mp hkey)
    rw [hscores] at hm
    cases hm
  · rw [heq]
    refine ⟨some item, decodeItem_encodeItem item, ?_, ?_, ?_⟩
    · simp [view, hitem]
    · simp [view, hitem]
    · simp only [view, Dict.keySet_erase, Dict.keySet_insert, QueueView.mk.injEq, true_and]
      funext key
      by_cases hkey : key = itemKey item
      · subst hkey
        simp [hitem]
      · simp [AList.lookup_erase_ne hkey, AList.lookup_insert_ne hkey]

lemma releases (item : ForecastQueueItem) :
    Releases item () state.view ((RedisCall.release (itemKey item)).perform state).2.view := by
  simp only [Releases, RedisCall.perform, view, Dict.keySet_erase, Dict.mem_keySet,
    QueueView.mk.injEq, true_and]
  funext key
  by_cases hkey : key = itemKey item
  · subst hkey
    cases hpending : state.pending.lookup (itemKey item) with
    | some payload => simp [hpending]
    | none => simp
  · split <;> simp [AList.lookup_erase_ne hkey, Function.update_of_ne hkey]

/-- The keys of a queue, in good order. -/
abbrev Orderly := { state : RedisQueueState // state.Sound }

/-- No key exists. -/
def Orderly.empty : Orderly := ⟨.empty, sound_empty⟩

/-- Some leases expire. -/
def Orderly.expire (state : Orderly) (keys : List String) : Orderly :=
  ⟨state.1.expire keys, state.2.expire keys⟩

/-- A request, after some leases have expired. -/
def Orderly.perform (state : Orderly) (expired : List String) (c : { c : RedisCall // c.Proper }) :
    RedisReply c.1 × Orderly :=
  ((c.1.perform (state.expire expired).1).1,
    ⟨(c.1.perform (state.expire expired).1).2, (state.expire expired).2.perform c.2⟩)

end RedisQueueState

/-! ## The operations -/

lemma redisEnqueue_only (jobId : String) (priority : ForecastJobPriority) (key : Option String) :
    (redisEnqueue jobId priority key).Only RedisCall.Proper :=
  ⟨trivial, fun _ => ⟨⟨queueItem jobId priority key, itemKey_queueItem .., rfl⟩, fun _ =>
    (Program.only_ofExcept _ _).bind fun _ => trivial⟩⟩

lemma redisDequeue_only : redisDequeue.Only RedisCall.Proper :=
  ⟨trivial, fun _ => (Program.only_ofExcept _ _).bind fun
    | none => trivial
    | some _ => ⟨trivial, fun _ => trivial⟩⟩

lemma redisMarkCompleted_only (item : ForecastQueueItem) :
    (redisMarkCompleted item).Only RedisCall.Proper := ⟨trivial, fun _ => trivial⟩

lemma redisMarkFailed_only (item : ForecastQueueItem) (requeue : Bool) :
    (redisMarkFailed item requeue).Only RedisCall.Proper := by
  refine ⟨trivial, fun _ => ?_⟩
  cases requeue with
  | false => trivial
  | true => exact (redisEnqueue_only ..).bind fun _ => trivial

def redisForecastQueue : ForecastQueue where
  State := RedisQueueState.Orderly
  Call := { c : RedisCall // c.Proper }
  Reply c := RedisReply c.1
  Input := List String
  perform := RedisQueueState.Orderly.perform
  enqueue jobId priority key := (redisEnqueue jobId priority key).restrict (redisEnqueue_only ..)
  dequeue := redisDequeue.restrict redisDequeue_only
  markCompleted item := (redisMarkCompleted item).restrict (redisMarkCompleted_only item)
  markFailed item requeue := (redisMarkFailed item requeue).restrict (redisMarkFailed_only ..)
  view state := state.1.view
  enqueue_linearizes jobId priority key := by
    rintro s s₁ - n s₂ ⟨expired, hnumber⟩
    obtain ⟨-, rfl⟩ := Prod.mk.inj hnumber
    refine ⟨none, .inl ⟨rfl, rfl⟩, ?_⟩
    rintro s₃ - r s₄ ⟨expired', hscript⟩
    have hsound := s₃.2.expire expired'
    obtain ⟨returned, hreturned, heffect⟩ := hsound.enqueues (queueItem jobId priority key)
      (priorityRank priority * scoreFactor + n)
    rw [itemKey_queueItem] at hreturned heffect
    cases hscript
    refine ⟨some _, .inr ⟨_, rfl, rfl, heffect⟩, ?_⟩
    exact Program.safe_restrict _ (Program.ofExcept_bind hreturned _) fun _ => ⟨_, rfl, rfl⟩
  dequeue_linearizes := by
    rintro s s₁ - r s₂ ⟨expired, hscript⟩
    obtain ⟨result, hresult, heffect⟩ := (s₁.2.expire expired).dequeues
    cases hscript
    refine ⟨some result, .inr ⟨_, rfl, rfl, heffect⟩, ?_⟩
    refine Program.safe_restrict _ (Program.ofExcept_bind hresult _) fun _ => ?_
    cases result with
    | none => exact ⟨_, rfl, rfl⟩
    | some item =>
      -- the lease cannot be seen
      rintro s₃ - r s₄ ⟨expired', hlease⟩
      cases hlease
      exact ⟨_, .inl ⟨rfl, rfl⟩, _, rfl, rfl⟩
  markCompleted_linearizes item := by
    rintro s s₁ - r s₂ ⟨expired, hrelease⟩
    cases hrelease
    exact ⟨some (), .inr ⟨_, rfl, rfl, RedisQueueState.releases item⟩, _, rfl, rfl⟩
  markFailed_linearizes item := by
    rintro s s₁ - r s₂ ⟨expired, hrelease⟩
    cases hrelease
    exact ⟨some (), .inr ⟨_, rfl, rfl, RedisQueueState.releases item⟩, _, rfl, rfl⟩

end Earth2Sandbox
