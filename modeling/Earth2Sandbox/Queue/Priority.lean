import Earth2Sandbox.Framework.RelyGuarantee
import Earth2Sandbox.Queue.Retention

/-!
# The order in which the Redis queue hands out its items

An enqueue draws its number with one request and is accepted with another one, so when clients
interleave, items need not be accepted in the order of their numbers.  What is handed out is still
the most urgent of the pending items and, among those of one priority, the one whose enqueue has
drawn the least number (`hands_out_first`): no item overtakes one that was accepted before it drew
its number.  As for a single client, this holds as long as the numbers keep the ranks apart.
-/

namespace Earth2Sandbox

/-! ## Numbers -/

/-- The request draws no number into a score, or a number up to `sequence`. -/
def RedisCall.Numbered (sequence : ℕ) : RedisCall → Prop
  | .evalEnqueue key payload score => ∃ (item : ForecastQueueItem) (n : ℕ), itemKey item = key ∧
      payload = encodeItem item ∧ score = priorityRank item.priority * scoreFactor + n ∧
        0 < n ∧ n ≤ sequence
  | _ => True

/-- The request is no enqueue. -/
def RedisCall.Plain (c : RedisCall) : Prop := ∀ sequence, c.Numbered sequence

/-- The sequence never goes back. -/
lemma RedisCall.sequence_le (c : RedisCall) (state : RedisQueueState) :
    state.sequence ≤ (c.perform state).2.sequence := by
  cases c with
  | incrSequence => exact Nat.le_succ _
  | evalEnqueue key payload score =>
    rcases state.enqueueScript_cases key payload score with ⟨existing, -, heq⟩ | ⟨-, -, heq⟩ <;>
      simp [RedisCall.perform, heq]
  | evalDequeue =>
    simp only [RedisCall.perform, RedisQueueState.dequeueScript]
    split <;> exact Nat.le_refl _
  | _ => exact Nat.le_refl _

/-- A client enqueues with a number that was drawn before. -/
def numbering : Contract (RedisQueueState × List Served) Unit JobError RedisCall RedisReply
    QueueReply where
  rely _ s s' := s.1.sequence ≤ s'.1.sequence
  guar _ s c _ s' _ := c.Numbered s.1.sequence ∧ s.1.sequence ≤ s'.1.sequence
  post _ _ _ := True

section Numbering

variable {i : ℕ} {op : QueueOp} {s s' : RedisQueueState × List Served} {c : RedisCall}

lemma sequence_le_of_exec {r : RedisReply c} (h : queueClients.exec i op s c r s') :
    s.1.sequence ≤ s'.1.sequence := by
  obtain ⟨expired, hperform⟩ := h
  obtain ⟨-, rfl⟩ := Prod.mk.inj (Option.some.inj hperform)
  exact c.sequence_le (s.1.expire expired)

lemma safe_of_plain {p : RedisProgram QueueReply} (h : p.Only RedisCall.Plain) (g : Unit) :
    p.Safe numbering (queueClients.exec i op) g s := by
  induction p generalizing s with
  | ret a => trivial
  | raise e => trivial
  | call c next ih =>
    exact fun s₁ _ r s₂ hexec => ⟨g, ⟨h.1 _, sequence_le_of_exec hexec⟩, ih r (h.2 r)⟩

/-- Between the two requests of an enqueue the number stays good. -/
lemma safe_redisEnqueue_bind (jobId : String) (priority : ForecastJobPriority)
    (key : Option String) {f : ForecastQueueEnqueueResult → RedisProgram QueueReply}
    (hf : ∀ result, (f result).Only RedisCall.Plain) (g : Unit) :
    (redisEnqueue jobId priority key >>= f).Safe numbering (queueClients.exec i op) g s := by
  rintro s₁ - n s₂ hnumber
  refine ⟨g, ⟨trivial, sequence_le_of_exec hnumber⟩, fun s₃ hrely r s₄ hscript =>
    ⟨g, ⟨⟨queueItem jobId priority key, n, itemKey_queueItem .., rfl, rfl, ?_, ?_⟩,
      sequence_le_of_exec hscript⟩, safe_of_plain ?_ g⟩⟩
  · obtain ⟨expired, hperform⟩ := hnumber
    obtain ⟨rfl, -⟩ := Prod.mk.inj (Option.some.inj hperform)
    exact Nat.succ_pos _
  · obtain ⟨expired, hperform⟩ := hnumber
    obtain ⟨rfl, rfl⟩ := Prod.mk.inj (Option.some.inj hperform)
    exact hrely
  · refine Program.Only.bind ?_ hf
    exact (Program.only_ofExcept _ _).bind fun _ => trivial

lemma onRedis_safe (op op' : QueueOp) (g : Unit) :
    op.onRedis.Safe numbering (queueClients.exec i op') g s := by
  have hdequeue : redisDequeue.Only RedisCall.Plain :=
    ⟨fun _ => trivial, fun payload => (Program.only_ofExcept _ _).bind fun
      | none => trivial
      | some item => ⟨fun _ => trivial, fun _ => trivial⟩⟩
  cases op with
  | enqueue jobId priority key =>
    exact safe_redisEnqueue_bind jobId priority key (f := fun result => .ret (.enqueued result))
      (fun result => trivial) g
  | dequeue =>
    exact safe_of_plain (hdequeue.bind (f := fun item => .ret (.dequeued item))
      fun item => trivial) g
  | markCompleted item =>
    exact safe_of_plain (p := QueueOp.onRedis (.markCompleted item))
      ⟨fun _ => trivial, fun _ => trivial⟩ g
  | markFailed item requeue =>
    rintro s₁ - r s₂ hexec
    refine ⟨g, ⟨trivial, sequence_le_of_exec hexec⟩, ?_⟩
    cases requeue with
    | false => trivial
    | true =>
      change Program.Safe numbering _ (redisEnqueue item.jobId item.priority item.idempotencyKey >>=
        (fun _ => .ret ()) >>= fun _ => .ret .done) g s₂
      rw [Program.bind_assoc]
      exact safe_redisEnqueue_bind item.jobId item.priority item.idempotencyKey
        (f := fun _ => .ret .done) (fun result => trivial) g
  | pendingCount =>
    exact safe_of_plain (p := QueueOp.onRedis .pendingCount) ⟨fun _ => trivial, fun _ => trivial⟩ g
  | inFlightCount =>
    exact safe_of_plain (p := QueueOp.onRedis .inFlightCount)
      ⟨fun _ => trivial, fun _ => trivial⟩ g

lemma numbering_verified :
    queueClients.Verified numbering (fun _ _ => True) (fun _ _ => ()) where
  rely_refl _ _ := Nat.le_refl _
  rely_trans _ _ _ _ h h' := Nat.le_trans h h'
  post_stable _ _ _ _ _ _ := trivial
  interfere _ _ _ _ _ _ _ _ _ _ _ _ _ _ hguar := hguar.2
  preserve _ _ _ _ _ _ _ _ _ _ _ := trivial
  spawned _ _ _ _ _ _ _ _ _ _ _ _ _ hl := by cases hl
  admitted _ _ op _ _ := ⟨trivial, onRedis_safe op op _⟩
  resumed _ _ _ _ _ _ h := by cases h

lemma numbered_of_reaches {cfg : Config (RedisQueueState × List Served) QueueOp JobError RedisCall
    RedisReply QueueReply} (h : queueClients.Reaches noCalls cfg) {i : ℕ} {op : QueueOp}
    {c : RedisCall} {next : RedisReply c → RedisProgram QueueReply}
    (htask : cfg.tasks[i]? = some ⟨op, .call c next⟩) : c.Numbered cfg.shared.1.sequence := by
  obtain ⟨γ, -, hlength, hsafe⟩ := numbering_verified.safe_of_reaches
    ⟨[], trivial, rfl, fun i t g ht => (by cases ht)⟩ h
  have hi := (List.getElem?_eq_some_iff.mp htask).1
  obtain ⟨g', hguar, -⟩ := hsafe i _ () htask (by simp [hlength ▸ hi]) cfg.shared (Nat.le_refl _)
    _ _ ⟨[], rfl⟩
  exact hguar.1

end Numbering

/-! ## Places -/

/-- The number in the score of an enqueue. -/
def Served.number (item : ForecastQueueItem) (r : Served) : ℕ :=
  match r.request with
  | .evalEnqueue _ _ score => score - priorityRank item.priority * scoreFactor
  | _ => 0

/-- The item is pending, and its score is made of its rank and of the number that the enqueue had
drawn with which it was last accepted. -/
structure Placed (s : RedisQueueState × List Served) (m : ScoredMember) (item : ForecastQueueItem)
    (r : Served) : Prop where
  member : itemKey item = m.member
  pending : s.1.pending.lookup m.member = some (encodeItem item)
  accepted : s.2.find? (·.accepts item) = some r
  number_pos : 0 < r.number item
  number_le : r.number item ≤ r.before.sequence
  before_le : r.before.sequence ≤ s.1.sequence
  score : m.score = priorityRank item.priority * scoreFactor + r.number item

/-- The sorted set is in order, and every member of it has its place. -/
structure AllPlaced (s : RedisQueueState × List Served) : Prop where
  sorted : s.1.pendingScores.Pairwise ScoredMember.le
  places : ∀ m ∈ s.1.pendingScores, ∃ item r, Placed s m item r

instance : Std.Total ScoredMember.le := ⟨fun a b => by
  rcases Nat.lt_trichotomy a.score b.score with h | h | h
  · exact .inl (.inl h)
  · exact (String.le_total a.member b.member).imp (fun hle => .inr ⟨h, hle⟩)
      fun hle => .inr ⟨h.symm, hle⟩
  · exact .inr (.inl h)⟩

instance : IsTrans ScoredMember ScoredMember.le := ⟨fun a b c hab hbc => by
  rcases hab with hab | ⟨hab, hmem⟩
  · rcases hbc with hbc | ⟨hbc, -⟩
    · exact .inl (hab.trans hbc)
    · exact .inl (hbc ▸ hab)
  · rcases hbc with hbc | ⟨hbc, hmem'⟩
    · exact .inl (hab ▸ hbc)
    · exact .inr ⟨hab.trans hbc, String.le_trans hmem hmem'⟩⟩

section Step

variable {s : RedisQueueState × List Served} {m : ScoredMember} {item : ForecastQueueItem}
  {r served : Served} {state' : RedisQueueState}

/-- A request that does not concern the item. -/
lemma Placed.kept (h : Placed s m item r) (haccepts : served.accepts item = false)
    (hpending : state'.pending.lookup m.member = s.1.pending.lookup m.member)
    (hsequence : s.1.sequence ≤ state'.sequence) : Placed (state', served :: s.2) m item r where
  member := h.member
  pending := hpending.trans h.pending
  accepted := by rw [List.find?_cons_of_neg (by simp [haccepts])]; exact h.accepted
  number_pos := h.number_pos
  number_le := h.number_le
  before_le := h.before_le.trans hsequence
  score := h.score

/-- A request that makes no member. -/
lemma AllPlaced.kept (h : AllPlaced s) (haccepts : ∀ item, served.accepts item = false)
    (hscores : state'.pendingScores.Sublist s.1.pendingScores)
    (hpending : ∀ m ∈ state'.pendingScores,
      state'.pending.lookup m.member = s.1.pending.lookup m.member)
    (hsequence : s.1.sequence ≤ state'.sequence) : AllPlaced (state', served :: s.2) where
  sorted := h.sorted.sublist hscores
  places m hm := by
    obtain ⟨item, r, hplaced⟩ := h.places m (hscores.subset hm)
    exact ⟨item, r, hplaced.kept (haccepts item) (hpending m hm) hsequence⟩

/-- An item that is accepted gets its place. -/
lemma AllPlaced.accept (h : AllPlaced s) {op : QueueOp} {item : ForecastQueueItem} {n : ℕ}
    (hpos : 0 < n) (hn : n ≤ s.1.sequence) (hbound : s.1.sequence ≤ 10 * scoreFactor)
    (hpending : s.1.pending.lookup (itemKey item) = none)
    (hinFlight : s.1.inFlight.lookup (itemKey item) = none) {leases : Dict String} :
    AllPlaced ((RedisQueueState.enqueueScript { s.1 with leases := leases } (itemKey item)
        (encodeItem item) (priorityRank item.priority * scoreFactor + n)).2,
      ⟨op, .evalEnqueue (itemKey item) (encodeItem item)
        (priorityRank item.priority * scoreFactor + n), { s.1 with leases := leases }⟩ :: s.2) := by
  have haccepts (other : ForecastQueueItem) : Served.accepts other
      ⟨op, .evalEnqueue (itemKey item) (encodeItem item)
        (priorityRank item.priority * scoreFactor + n), { s.1 with leases := leases }⟩ =
        decide (item = other) := by
    by_cases heq : item = other
    · subst heq
      simp [Served.accepts, RedisQueueState.enqueueScript, hpending, hinFlight]
    · have hencode : encodeItem item ≠ encodeItem other := encodeItem_injective.ne heq
      simp [Served.accepts, heq, hencode]
  simp only [RedisQueueState.enqueueScript, hpending, hinFlight]
  refine ⟨(h.sorted.sublist List.filter_sublist).orderedInsert _ _, fun m hm => ?_⟩
  rcases (List.mem_orderedInsert _).mp hm with rfl | hm
  · refine ⟨item, _, rfl, ?_, List.find?_cons_of_pos (by simp [haccepts]), ?_, ?_, Nat.le_refl _,
      ?_⟩
    · simp
    · simpa [Served.number] using hpos
    · simpa [Served.number] using hn
    · simp [Served.number, Agrees.toDouble_score (hn.trans hbound)]
  · obtain ⟨hm, hne⟩ := List.mem_filter.mp hm
    have hne : m.member ≠ itemKey item := of_decide_eq_true hne
    obtain ⟨other, r, hplaced⟩ := h.places m hm
    refine ⟨other, r, hplaced.kept ?_ (AList.lookup_insert_ne hne) (Nat.le_refl _)⟩
    rw [haccepts, decide_eq_false_iff_not]
    rintro rfl
    exact hne hplaced.member.symm

lemma AllPlaced.perform (h : AllPlaced s) (hsound : s.1.Sound) {c : RedisCall}
    (hnumbered : c.Numbered s.1.sequence) (hbound : s.1.sequence ≤ 10 * scoreFactor)
    (op : QueueOp) (expired : List String) :
    AllPlaced ((c.perform (s.1.expire expired)).2, ⟨op, c, s.1.expire expired⟩ :: s.2) := by
  cases c with
  | evalEnqueue key payload score =>
    obtain ⟨item, n, rfl, rfl, rfl, hpos, hn⟩ := hnumbered
    rcases (s.1.expire expired).enqueueScript_cases (itemKey item) (encodeItem item)
        (priorityRank item.priority * scoreFactor + n) with
      ⟨existing, -, heq⟩ | ⟨hpending, hinFlight, -⟩
    · rw [RedisCall.perform, heq]
      exact h.kept (fun other => by simp [Served.accepts, heq]) (List.Sublist.refl _)
        (fun _ _ => rfl) (Nat.le_refl _)
    · exact h.accept hpos hn hbound hpending hinFlight
  | evalDequeue =>
    rcases (hsound.expire expired).dequeueScript_cases with ⟨-, heq⟩ | ⟨first, -, heq⟩
    · rw [RedisCall.perform, heq]
      exact h.kept (fun other => rfl) (List.Sublist.refl _) (fun _ _ => rfl) (Nat.le_refl _)
    · rw [RedisCall.perform, heq]
      refine h.kept (fun other => rfl) List.filter_sublist (fun m hm => ?_) (Nat.le_refl _)
      exact AList.lookup_erase_ne (of_decide_eq_true (List.mem_filter.mp hm).2)
  | incrSequence =>
    exact h.kept (fun other => rfl) (List.Sublist.refl _) (fun _ _ => rfl) (Nat.le_succ _)
  | _ => exact h.kept (fun other => rfl) (List.Sublist.refl _) (fun _ _ => rfl) (Nat.le_refl _)

end Step

/-- Every run keeps the places, as long as the numbers keep the ranks apart. -/
lemma allPlaced_of_reaches {cfg : Config (RedisQueueState × List Served) QueueOp JobError RedisCall
    RedisReply QueueReply} (h : queueClients.Reaches noCalls cfg)
    (hbound : cfg.shared.1.sequence ≤ 10 * scoreFactor) : AllPlaced cfg.shared := by
  refine System.Reaches.invariant (P := fun c => c.shared.1.sequence ≤ 10 * scoreFactor →
    AllPlaced c.shared) h (fun _ => ⟨.nil, fun m hm => (by cases hm)⟩)
    (fun c₁ c₂ ch hreach ih hstep hbound => ?_) hbound
  rcases queueClients.step_cases hstep with
    ⟨l, -, -, rfl⟩ | ⟨i, expired, op, request, next, r, s, -, htask, hperform, rfl⟩ |
    ⟨i, l, a, l', -, -, -, rfl⟩
  · exact ih hbound
  · obtain ⟨-, rfl⟩ := Prod.mk.inj (Option.some.inj hperform)
    have hbefore := (request.sequence_le (c₁.shared.1.expire expired)).trans hbound
    exact (ih hbefore).perform (retains_of_reaches hreach).sound
      (numbered_of_reaches hreach htask) hbefore op expired
  · exact ih hbound

/-! ## What is handed out -/

/-- The numbers do not make up for a rank. -/
lemma urgent_of_score_le {p p' : ForecastJobPriority} {n n' : ℕ} (hpos : 0 < n)
    (hn' : n' ≤ 10 * scoreFactor)
    (hle : priorityRank p * scoreFactor + n ≤ priorityRank p' * scoreFactor + n') :
    priorityRank p < priorityRank p' ∨ p = p' ∧ n ≤ n' := by
  unfold scoreFactor at *
  cases p <;> cases p' <;>
    simp only [priorityRank, reduceCtorEq, false_and, true_and, or_false] at * <;> omega

/-- **Most urgent first, then first come first served.**  However the requests of the clients
interleave: an item that is handed out while another is pending is the more urgent one; or they are
equally urgent, and it has drawn the smaller number, and has drawn it before the other one was
accepted. -/
theorem hands_out_first {cfg : Config (RedisQueueState × List Served) QueueOp JobError RedisCall
    RedisReply QueueReply} (h : queueClients.Reaches noCalls cfg)
    (hbound : cfg.shared.1.sequence ≤ 10 * scoreFactor) {first other : ForecastQueueItem}
    (hfirst : cfg.shared.1.dequeueScript.1 = some (encodeItem first))
    (hother : cfg.shared.1.pending.lookup (itemKey other) = some (encodeItem other)) :
    priorityRank first.priority < priorityRank other.priority ∨
      first.priority = other.priority ∧ ∃ rf ro,
        cfg.shared.2.find? (·.accepts first) = some rf ∧
          cfg.shared.2.find? (·.accepts other) = some ro ∧
            rf.number first ≤ ro.number other ∧ rf.number first ≤ ro.before.sequence := by
  have hallPlaced := allPlaced_of_reaches h hbound
  have hsorted := hallPlaced.sorted
  obtain ⟨m', hm', hmember⟩ := ((retains_of_reaches h).sound.members (itemKey other)).mpr
    (by simp [hother])
  obtain ⟨other', ro, hplaced'⟩ := hallPlaced.places m' hm'
  obtain rfl : other' = other := by
    have hpending := hplaced'.pending
    rw [hmember, hother] at hpending
    exact (encodeItem_injective (Option.some.inj hpending)).symm
  unfold RedisQueueState.dequeueScript at hfirst
  cases hscores : cfg.shared.1.pendingScores with
  | nil => simp [hscores] at hfirst
  | cons m rest =>
    simp only [hscores] at hfirst
    obtain ⟨first', rf, hplaced⟩ := hallPlaced.places m (by simp [hscores])
    obtain rfl : first' = first := by
      have hpending := hplaced.pending
      rw [hfirst] at hpending
      exact (encodeItem_injective (Option.some.inj hpending)).symm
    have hle : m.score ≤ m'.score := by
      rw [hscores] at hm' hsorted
      rcases List.mem_cons.mp hm' with rfl | hmem
      · exact Nat.le_refl _
      · rcases (List.pairwise_cons.mp hsorted).1 m' hmem with hlt | ⟨heq, -⟩
        · exact hlt.le
        · exact heq.le
    rw [hplaced.score, hplaced'.score] at hle
    have hnumber' := hplaced'.number_le.trans (hplaced'.before_le.trans hbound)
    refine (urgent_of_score_le hplaced.number_pos hnumber' hle).imp_right
      fun ⟨hpriority, hle⟩ => ⟨hpriority, rf, ro, hplaced.accepted, hplaced'.accepted, hle, ?_⟩
    exact hle.trans hplaced'.number_le

/-- A client draws a number; another one enqueues an item of the same priority, and only then the
first one's is accepted.  Before it an urgent one is taken. -/
def lateAcceptance : List (Choice QueueOp (List String)) :=
  [.start (.enqueue "slow" .normal none), .act 0 [], .start (.enqueue "urgent" .high none),
    .act 1 [], .act 1 [], .start (.enqueue "usual" .normal none), .act 2 [], .act 2 [], .act 0 [],
    .start .dequeue, .act 3 []]

theorem hands_out_first_late : ∃ rf ro,
    (queueClients.after noCalls lateAcceptance).shared.2.find?
        (·.accepts (queueItem "slow" .normal none)) = some rf ∧
      (queueClients.after noCalls lateAcceptance).shared.2.find?
          (·.accepts (queueItem "usual" .normal none)) = some ro ∧
        rf.number (queueItem "slow" .normal none) ≤ ro.number (queueItem "usual" .normal none) ∧
          rf.number (queueItem "slow" .normal none) ≤ ro.before.sequence :=
  ((hands_out_first (queueClients.reaches_after noCalls lateAcceptance) (by decide +kernel)
    (by decide +kernel) (by decide +kernel)).resolve_left (by decide)).2

end Earth2Sandbox
