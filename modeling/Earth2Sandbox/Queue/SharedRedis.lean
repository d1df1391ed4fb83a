import Earth2Sandbox.Queue.Equivalence
import Earth2Sandbox.Runtime.Http
import Earth2Sandbox.Runtime.RedisDatabase

/-!
# Queues on one Redis

The requests of a named queue as commands on the keys of a database that it shares with others.  A
request fails when one of its keys has a value of another type.

`Holds name db state` says that the keys of the queue, its leases apart, have the values of `state`.
Then its calls return what they return on `state`, where the queue is alone (`Holds.serve`): the
model of one queue by a `RedisQueueState` is faithful as long as nobody else touches its keys.
-/

namespace Earth2Sandbox

def normalizeQueueName (queueName : String) : String :=
  String.ofList ((stripText queueName).toList.reverse.dropWhile (· = ':')).reverse

/-! ## Requests as scripts -/

namespace RedisScript

variable (queueName : String)

/-- `_ENQUEUE_SCRIPT`. -/
def enqueue (key payload : String) (score : ℕ) : RedisScript (Bool × String) := do
  match ← redisCall (.hget (pendingHashKey queueName) key) with
  | some existing => return (false, existing)
  | none =>
    match ← redisCall (.hget (inFlightHashKey queueName) key) with
    | some existing => return (false, existing)
    | none =>
      redisCall (.hset (pendingHashKey queueName) key payload)
      redisCall (.zadd (pendingZsetKey queueName) score key)
      return (true, payload)

/-- `_DEQUEUE_SCRIPT`. -/
def dequeue : RedisScript (Option String) := do
  match ← redisCall (.zrangeFirst (pendingZsetKey queueName)) with
  | none => return none
  | some key =>
    let payload ← redisCall (.hget (pendingHashKey queueName) key)
    redisCall (.zrem (pendingZsetKey queueName) key)
    redisCall (.hdel (pendingHashKey queueName) key)
    match payload with
    | none => return none
    | some payload =>
      redisCall (.hset (inFlightHashKey queueName) key payload)
      return some payload

/-- The transaction: both commands run, and the first failure is raised afterwards. -/
def release (key : String) : RedisScript Unit :=
  .call (.hdel (inFlightHashKey queueName) key) fun hdel =>
    .call (.del (leaseKey queueName key)) fun del => .ofExcept do
      hdel
      del

end RedisScript

/-- A request of the adapter of a named queue. -/
def RedisCall.script (queueName : String) : (c : RedisCall) → RedisScript (RedisReply c)
  | .incrSequence => redisCall (.incr (sequenceKey queueName))
  | .evalEnqueue key payload score => RedisScript.enqueue queueName key payload score
  | .evalDequeue => RedisScript.dequeue queueName
  | .setLease key jobId => redisCall (.setEx (leaseKey queueName key) jobId)
  | .release key => RedisScript.release queueName key
  | .hlenPending => redisCall (.hlen (pendingHashKey queueName))
  | .hlenInFlight => redisCall (.hlen (inFlightHashKey queueName))

/-- A part of the adapter on the database; before its `n`-th request the keys `expired n` expire, if
they are set to.  A request that fails raises. -/
def RedisProgram.runOn (queueName : String) (expired : ℕ → List String) {α : Type} :
    RedisProgram α → ℕ → RedisDatabase → Except (JobError ⊕ RedisError) α × RedisDatabase
  | .ret a, _, db => (.ok a, db)
  | .raise e, _, db => (.error (.inl e), db)
  | .call c next, n, db =>
    match (c.script queueName).exec (db.expire (expired n)) with
    | (.ok reply, db') => runOn queueName expired (next reply) (n + 1) db'
    | (.error e, db') => (.error (.inr e), db')

/-- After its last request a program leaves what the request leaves. -/
lemma RedisProgram.runOn_call_ret {α : Type} (queueName : String) (expired : ℕ → List String)
    (c : RedisCall) (f : RedisReply c → α) (n : ℕ) (db : RedisDatabase) :
    (runOn queueName expired (.call c fun reply => .ret (f reply)) n db).2 =
      ((c.script queueName).exec (db.expire (expired n))).2 := by
  rw [runOn]
  split
  · next reply db' hexec =>
    rw [hexec]
    rfl
  · next e db' hexec => rw [hexec]

/-! ## Calls -/

/-- A call of a queue adapter. -/
inductive NamedQueueOp where
  | port (op : QueueOp)
  | clear

/-- The pattern under which `clear` looks for leases. -/
def leasePattern (queueName : String) : String := queueName ++ ":lease:*"

/-- `clear`. -/
def redisClear (queueName : String) (expired : ℕ → List String) (db : RedisDatabase) :
    RedisDatabase :=
  let keys := queueKeys queueName ++ (db.expire (expired 0)).scan (leasePattern queueName)
  ((db.expire (expired 0)).expire (expired 1)).delete keys

/-- A call on a named queue. -/
def NamedQueueOp.serve (queueName : String) (expired : ℕ → List String) :
    NamedQueueOp → RedisDatabase → Except (JobError ⊕ RedisError) QueueReply × RedisDatabase
  | port op, db => RedisProgram.runOn queueName expired op.onRedis 0 db
  | clear, db => (.ok .done, redisClear queueName expired db)

/-- A call on a queue that is alone. -/
def NamedQueueOp.alone :
    NamedQueueOp → RedisQueueState → Except (JobError ⊕ RedisError) QueueReply × RedisQueueState
  | port op, state =>
    let result := op.onRedis.run RedisCall.perform state
    (result.1.mapError .inl, result.2)
  | clear, _ => (.ok .done, .empty)

/-! ## What a queue's keys hold -/

/-- The keys of the queue have these values. -/
structure Holds (queueName : String) (db : RedisDatabase) (state : RedisQueueState) : Prop where
  pending : db.lookup (pendingHashKey queueName) = RedisValue.ofHash state.pending
  inFlight : db.lookup (inFlightHashKey queueName) = RedisValue.ofHash state.inFlight
  scores : db.lookup (pendingZsetKey queueName) = RedisValue.ofZset state.pendingScores
  sequence : db.lookup (sequenceKey queueName) =
    if state.sequence = 0 then none else some (.string (Nat.repr state.sequence) false)

namespace Holds

variable {queueName : String} {db : RedisDatabase} {state : RedisQueueState}

lemma of_lookup_eq {db' : RedisDatabase} (h : Holds queueName db state)
    (heq : ∀ key ∈ queueKeys queueName, db'.lookup key = db.lookup key) :
    Holds queueName db' state := by
  simp only [queueKeys, List.forall_mem_cons] at heq
  obtain ⟨hpending, hinFlight, hscores, hsequence, -⟩ := heq
  exact ⟨hpending.trans h.pending, hinFlight.trans h.inFlight, hscores.trans h.scores,
    hsequence.trans h.sequence⟩

lemma empty (queueName : String) : Holds queueName ∅ .empty :=
  ⟨rfl, rfl, rfl, rfl⟩

lemma expire (h : Holds queueName db state) (keys : List String) :
    Holds queueName (db.expire keys) state := by
  refine h.of_lookup_eq fun key hkey => db.lookup_expire keys fun text => ?_
  simp only [queueKeys, List.mem_cons, List.not_mem_nil, or_false] at hkey
  rcases hkey with rfl | rfl | rfl | rfl
  · rw [h.pending, RedisValue.ofHash]
    split <;> simp
  · rw [h.inFlight, RedisValue.ofHash]
    split <;> simp
  · rw [h.scores, RedisValue.ofZset]
    split <;> simp
  · rw [h.sequence]
    split <;> simp

lemma keys_ne (queueName : String) :
    pendingHashKey queueName ≠ inFlightHashKey queueName ∧
      pendingHashKey queueName ≠ pendingZsetKey queueName ∧
      pendingHashKey queueName ≠ sequenceKey queueName ∧
      inFlightHashKey queueName ≠ pendingZsetKey queueName ∧
      inFlightHashKey queueName ≠ sequenceKey queueName ∧
      pendingZsetKey queueName ≠ sequenceKey queueName := by
  have hnodup := queueKeys_nodup queueName
  simp only [queueKeys, List.nodup_cons, List.mem_cons, List.not_mem_nil, or_false, not_or,
    not_false_eq_true, List.nodup_nil, and_true] at hnodup
  tauto

lemma put_pending (h : Holds queueName db state) (fields : Dict String) :
    Holds queueName (db.put (pendingHashKey queueName) (RedisValue.ofHash fields))
      { state with pending := fields } := by
  obtain ⟨h₁, h₂, h₃, -, -, -⟩ := keys_ne queueName
  exact ⟨db.lookup_put .., (db.lookup_put_ne h₁.symm _).trans h.inFlight,
    (db.lookup_put_ne h₂.symm _).trans h.scores, (db.lookup_put_ne h₃.symm _).trans h.sequence⟩

lemma put_inFlight (h : Holds queueName db state) (fields : Dict String) :
    Holds queueName (db.put (inFlightHashKey queueName) (RedisValue.ofHash fields))
      { state with inFlight := fields } := by
  obtain ⟨h₁, -, -, h₄, h₅, -⟩ := keys_ne queueName
  exact ⟨(db.lookup_put_ne h₁ _).trans h.pending, db.lookup_put ..,
    (db.lookup_put_ne h₄.symm _).trans h.scores, (db.lookup_put_ne h₅.symm _).trans h.sequence⟩

lemma put_scores (h : Holds queueName db state) (members : SortedSet) :
    Holds queueName (db.put (pendingZsetKey queueName) (RedisValue.ofZset members))
      { state with pendingScores := members } := by
  obtain ⟨-, h₂, -, h₄, -, h₆⟩ := keys_ne queueName
  exact ⟨(db.lookup_put_ne h₂ _).trans h.pending, (db.lookup_put_ne h₄ _).trans h.inFlight,
    db.lookup_put .., (db.lookup_put_ne h₆.symm _).trans h.sequence⟩

lemma put_sequence (h : Holds queueName db state) (n : ℕ) :
    Holds queueName (db.put (sequenceKey queueName) (some (.string (Nat.repr (n + 1)) false)))
      { state with sequence := n + 1 } := by
  obtain ⟨-, -, h₃, -, h₅, h₆⟩ := keys_ne queueName
  exact ⟨(db.lookup_put_ne h₃ _).trans h.pending, (db.lookup_put_ne h₅ _).trans h.inFlight,
    (db.lookup_put_ne h₆ _).trans h.scores, db.lookup_put ..⟩

lemma put_lease (h : Holds queueName db state) (key : String) (value : Option RedisValue)
    (leases : Dict String) :
    Holds queueName (db.put (leaseKey queueName key) value) { state with leases := leases } :=
  have hother : Holds queueName (db.put (leaseKey queueName key) value) state :=
    h.of_lookup_eq fun _ hother => db.lookup_put_ne
      (ne_of_mem_of_not_mem hother (leaseKey_not_mem queueName key)) value
  ⟨hother.pending, hother.inFlight, hother.scores, hother.sequence⟩

end Holds

/-! ## Scripts on a queue's keys -/

/-- From `state` the script returns `a`, and leaves the keys of the queue as in `state'`. -/
def Runs {α : Type} (queueName : String) (script : RedisScript α) (state : RedisQueueState) (a : α)
    (state' : RedisQueueState) : Prop :=
  ∀ db, Holds queueName db state →
    ∃ db', script.exec db = (.ok a, db') ∧ Holds queueName db' state'

section Runs

variable {queueName : String} {state state' : RedisQueueState}

lemma runs_ret {α : Type} (a : α) : Runs queueName (.ret a) state a state :=
  fun db h => ⟨db, rfl, h⟩

lemma Runs.bind {α β : Type} {script : RedisScript α} {next : α → RedisScript β} {a : α} {b : β}
    {state'' : RedisQueueState} (h : Runs queueName script state a state')
    (hnext : Runs queueName (next a) state' b state'') :
    Runs queueName (script >>= next) state b state'' := by
  intro db hdb
  obtain ⟨db', hrun, hdb'⟩ := h db hdb
  obtain ⟨db'', hrun', hdb''⟩ := hnext db' hdb'
  exact ⟨db'', (Program.run_bind_of_ok hrun).trans hrun', hdb''⟩

lemma runs_call {c : RedisCommand} {answer : c.Answer}
    (h : ∀ db, Holds queueName db state →
      (RedisDatabase.perform c db).1 = .ok answer ∧
        Holds queueName (RedisDatabase.perform c db).2 state') :
    Runs queueName (redisCall c) state answer state' := by
  intro db hdb
  obtain ⟨hanswer, hdb'⟩ := h db hdb
  refine ⟨_, ?_, hdb'⟩
  rw [RedisScript.exec, redisCall, Program.run_call, hanswer]
  rfl

lemma runs_pending {c : RedisCommand} {f : Dict String → c.Answer × Dict String}
    (hkey : c.key = pendingHashKey queueName) (happly : ∀ v, c.apply v = RedisValue.withHash f v) :
    Runs queueName (redisCall c) state (f state.pending).1
      { state with pending := (f state.pending).2 } := by
  refine runs_call fun db h => ?_
  rw [RedisDatabase.perform, happly, hkey, h.pending, RedisValue.withHash_ofHash]
  exact ⟨rfl, h.put_pending _⟩

lemma runs_inFlight {c : RedisCommand} {f : Dict String → c.Answer × Dict String}
    (hkey : c.key = inFlightHashKey queueName)
    (happly : ∀ v, c.apply v = RedisValue.withHash f v) :
    Runs queueName (redisCall c) state (f state.inFlight).1
      { state with inFlight := (f state.inFlight).2 } := by
  refine runs_call fun db h => ?_
  rw [RedisDatabase.perform, happly, hkey, h.inFlight, RedisValue.withHash_ofHash]
  exact ⟨rfl, h.put_inFlight _⟩

lemma runs_scores {c : RedisCommand} {f : SortedSet → c.Answer × SortedSet}
    (hkey : c.key = pendingZsetKey queueName)
    (happly : ∀ v, c.apply v = RedisValue.withZset f v) :
    Runs queueName (redisCall c) state (f state.pendingScores).1
      { state with pendingScores := (f state.pendingScores).2 } := by
  refine runs_call fun db h => ?_
  rw [RedisDatabase.perform, happly, hkey, h.scores, RedisValue.withZset_ofZset]
  exact ⟨rfl, h.put_scores _⟩

lemma runs_incr : Runs queueName (redisCall (.incr (sequenceKey queueName))) state
    (state.sequence + 1) { state with sequence := state.sequence + 1 } := by
  refine runs_call fun db h => ?_
  have hincr : RedisValue.incr (db.lookup (sequenceKey queueName)) =
      (.ok (state.sequence + 1), some (.string (Nat.repr (state.sequence + 1)) false)) := by
    rw [h.sequence]
    by_cases hzero : state.sequence = 0
    · rw [if_pos hzero, hzero]
      rfl
    · rw [if_neg hzero, RedisValue.incr_repr]
  refine ⟨congrArg Prod.fst hincr, ?_⟩
  exact (congrArg (fun r => Holds queueName (db.put (sequenceKey queueName) r.2) _) hincr).mpr
    (h.put_sequence _)

lemma runs_enqueue (key payload : String) (score : ℕ) :
    Runs queueName (RedisScript.enqueue queueName key payload score) state
      (state.enqueueScript key payload score).1 (state.enqueueScript key payload score).2 := by
  refine (runs_pending (c := .hget _ key) (f := fun d => (d.lookup key, d)) rfl
    fun _ => rfl).bind ?_
  unfold RedisQueueState.enqueueScript
  cases hpending : state.pending.lookup key with
  | some existing => exact runs_ret _
  | none =>
    refine (runs_inFlight (c := .hget _ key) (f := fun d => (d.lookup key, d)) rfl
      fun _ => rfl).bind ?_
    cases hinFlight : state.inFlight.lookup key with
    | some existing => exact runs_ret _
    | none =>
      refine (runs_pending (c := .hset _ key payload) (f := fun d => ((), d.insert key payload))
        rfl fun _ => rfl).bind ?_
      exact (runs_scores (c := .zadd _ score key) (f := fun z => ((), z.zadd score key)) rfl
        fun _ => rfl).bind (runs_ret _)

lemma runs_dequeue : Runs queueName (RedisScript.dequeue queueName) state state.dequeueScript.1
    state.dequeueScript.2 := by
  obtain ⟨sequence, pending, inFlight, scores, leases⟩ := state
  refine (runs_scores (c := .zrangeFirst _) (f := fun z => (z.head?.map (·.member), z)) rfl
    fun _ => rfl).bind ?_
  cases scores with
  | nil => exact runs_ret _
  | cons first rest =>
    refine (runs_pending (c := .hget _ first.member) (f := fun d => (d.lookup first.member, d)) rfl
      fun _ => rfl).bind ?_
    refine (runs_scores (c := .zrem _ first.member) (f := fun z => ((), z.zrem first.member)) rfl
      fun _ => rfl).bind ?_
    refine (runs_pending (c := .hdel _ first.member) (f := fun d => ((), d.erase first.member)) rfl
      fun _ => rfl).bind ?_
    unfold RedisQueueState.dequeueScript
    dsimp only
    cases hpayload : pending.lookup first.member with
    | none => exact runs_ret _
    | some payload =>
      exact (runs_inFlight (c := .hset _ first.member payload)
        (f := fun d => ((), d.insert first.member payload)) rfl fun _ => rfl).bind (runs_ret _)

/-- The transaction; both commands succeed. -/
lemma runs_release (key : String) : Runs queueName (RedisScript.release queueName key) state ()
    { state with inFlight := state.inFlight.erase key, leases := state.leases.erase key } := by
  intro db h
  have hdel : RedisDatabase.perform (.hdel (inFlightHashKey queueName) key) db =
      (.ok (), db.put (inFlightHashKey queueName)
        (RedisValue.ofHash (state.inFlight.erase key))) := by
    rw [RedisDatabase.perform, RedisCommand.key, h.inFlight, RedisCommand.apply,
      RedisValue.withHash_ofHash]
  refine ⟨_, ?_, (h.put_inFlight (state.inFlight.erase key)).put_lease key none _⟩
  rw [RedisScript.exec, RedisScript.release, Program.run_call, hdel]
  rfl

/-- A request on the keys of the queue does what it does when the queue is alone. -/
lemma runs_script (c : RedisCall) :
    Runs queueName (c.script queueName) state (c.perform state).1 (c.perform state).2 := by
  cases c with
  | incrSequence => exact runs_incr
  | evalEnqueue key payload score => exact runs_enqueue key payload score
  | evalDequeue => exact runs_dequeue
  | setLease key jobId => exact runs_call fun db h =>
    ⟨rfl, h.put_lease key (some (.string jobId true)) (state.leases.insert key jobId)⟩
  | release key => exact runs_release key
  | hlenPending =>
    exact runs_pending (c := .hlen _) (f := fun d => (d.len, d)) rfl fun _ => rfl
  | hlenInFlight =>
    exact runs_inFlight (c := .hlen _) (f := fun d => (d.len, d)) rfl fun _ => rfl

end Runs

/-! ## Calls on a queue's keys -/

variable {queueName : String} {db : RedisDatabase} {state : RedisQueueState}

lemma Holds.runOn (h : Holds queueName db state) {α : Type} (p : RedisProgram α)
    (expired : ℕ → List String) (n : ℕ) :
    (RedisProgram.runOn queueName expired p n db).1 =
        (p.run RedisCall.perform state).1.mapError .inl ∧
      Holds queueName (RedisProgram.runOn queueName expired p n db).2
        (p.run RedisCall.perform state).2 := by
  induction p generalizing n db state with
  | ret a => exact ⟨rfl, h⟩
  | raise e => exact ⟨rfl, h⟩
  | call c next ih =>
    obtain ⟨db', hexec, hdb'⟩ := runs_script c _ (h.expire (expired n))
    rw [RedisProgram.runOn, hexec]
    exact ih _ hdb' (n + 1)

/-- A call on the keys of the queue returns what it returns when the queue is alone. -/
theorem Holds.serve (h : Holds queueName db state) (op : NamedQueueOp)
    (expired : ℕ → List String) :
    (op.serve queueName expired db).1 = (op.alone state).1 ∧
      Holds queueName (op.serve queueName expired db).2 (op.alone state).2 := by
  cases op with
  | port op => exact h.runOn op.onRedis expired 0
  | clear =>
    refine ⟨rfl, (Holds.empty queueName).of_lookup_eq fun key hkey => ?_⟩
    rw [NamedQueueOp.serve, redisClear, RedisDatabase.lookup_delete,
      if_pos (List.mem_append_left _ hkey)]
    rfl

end Earth2Sandbox
