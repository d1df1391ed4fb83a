import Earth2Sandbox.Queue.Port
import Mathlib.Data.List.Sort
import Mathlib.Data.String.Basic

/-!
# Redis

The data types of Redis that the queue adapter uses, and the keys of one queue.  A hash is a
dictionary; a sorted set keeps its members ordered by score, equal scores by member; a score is
an IEEE double.  Every command, every Lua script and every `MULTI`/`EXEC` block is atomic.

The keys of a queue are kept as the fields of a `RedisQueueState`, which is right because their
names are distinct (`queueKeys_nodup`, `leaseKey_not_mem`).
-/

namespace Earth2Sandbox

/-! ## Scores -/

/-- The double nearest to a natural number, ties to even: 53 significant bits are kept. -/
def toDouble (n : ℕ) : ℕ :=
  let unit := 2 ^ (Nat.log2 n - 52)
  let quotient := n / unit
  let remainder := n % unit
  if unit < 2 * remainder ∨ unit = 2 * remainder ∧ quotient % 2 = 1 then (quotient + 1) * unit
  else quotient * unit

/-- Small numbers are doubles. -/
lemma toDouble_of_lt {n : ℕ} (h : n < 2 ^ 53) : toDouble n = n := by
  have hlog : Nat.log2 n - 52 = 0 := by
    by_cases hn : n = 0
    · rw [hn]
      rfl
    · have hlt : Nat.log2 n < 53 := (Nat.log2_lt hn).mpr h
      omega
  simp [toDouble, hlog, Nat.mod_one]

/-- A member of a sorted set. -/
structure ScoredMember where
  member : String
  score : ℕ
  deriving DecidableEq

/-- The order of a sorted set. -/
def ScoredMember.le (a b : ScoredMember) : Prop :=
  a.score < b.score ∨ a.score = b.score ∧ a.member ≤ b.member

instance : DecidableRel ScoredMember.le := fun a b => by
  unfold ScoredMember.le
  infer_instance

/-- A sorted set, in order. -/
abbrev SortedSet := List ScoredMember

def SortedSet.zadd (zset : SortedSet) (score : ℕ) (member : String) : SortedSet :=
  (zset.filter (·.member ≠ member)).orderedInsert ScoredMember.le ⟨member, toDouble score⟩

def SortedSet.zrem (zset : SortedSet) (member : String) : SortedSet :=
  zset.filter (·.member ≠ member)

/-! ## The keys of a queue -/

def pendingHashKey (queueName : String) : String := queueName ++ ":pending"

def inFlightHashKey (queueName : String) : String := queueName ++ ":in-flight"

def pendingZsetKey (queueName : String) : String := queueName ++ ":pending:score"

def sequenceKey (queueName : String) : String := queueName ++ ":sequence"

def leaseKey (queueName key : String) : String := queueName ++ ":lease:" ++ key

/-- The keys of a queue other than its leases. -/
def queueKeys (queueName : String) : List String :=
  [pendingHashKey queueName, inFlightHashKey queueName, pendingZsetKey queueName,
    sequenceKey queueName]

lemma append_inj_iff (queueName a b : String) : queueName ++ a = queueName ++ b ↔ a = b := by
  rw [← String.toList_inj, String.toList_append, String.toList_append, List.append_cancel_left_eq,
    String.toList_inj]

lemma queueKeys_nodup (queueName : String) : (queueKeys queueName).Nodup := by
  simp only [queueKeys, pendingHashKey, inFlightHashKey, pendingZsetKey, sequenceKey,
    List.nodup_cons, List.mem_cons, List.not_mem_nil, or_false, append_inj_iff]
  decide

lemma leaseKey_not_mem (queueName key : String) : leaseKey queueName key ∉ queueKeys queueName := by
  have hkey : ∀ suffix : String, suffix.toList.take 2 ≠ [':', 'l'] →
      leaseKey queueName key ≠ queueName ++ suffix := by
    intro suffix hsuffix heq
    rw [leaseKey, String.append_assoc, append_inj_iff] at heq
    rw [← heq, String.toList_append] at hsuffix
    exact hsuffix rfl
  simp only [queueKeys, List.mem_cons, List.not_mem_nil, or_false, not_or]
  exact ⟨hkey _ (by decide), hkey _ (by decide), hkey _ (by decide), hkey _ (by decide)⟩

/-! ## The state of a queue -/

/-- The values of the queue's keys; a lease is kept under the queue key it belongs to. -/
structure RedisQueueState where
  sequence : ℕ
  pending : Dict String
  inFlight : Dict String
  pendingScores : SortedSet
  leases : Dict String

namespace RedisQueueState

/-- No key exists. -/
def empty : RedisQueueState := ⟨0, ∅, ∅, [], ∅⟩

/-- The leases under these keys expire. -/
def expire (state : RedisQueueState) (keys : List String) : RedisQueueState :=
  { state with leases := keys.foldl (fun leases key => leases.erase key) state.leases }

def enqueueScript (state : RedisQueueState) (key payload : String) (score : ℕ) :
    (Bool × String) × RedisQueueState :=
  match state.pending.lookup key with
  | some existing => ((false, existing), state)
  | none =>
    match state.inFlight.lookup key with
    | some existing => ((false, existing), state)
    | none =>
      ((true, payload),
        { state with
          pending := state.pending.insert key payload
          pendingScores := state.pendingScores.zadd score key })

def dequeueScript (state : RedisQueueState) : Option String × RedisQueueState :=
  match state.pendingScores with
  | [] => (none, state)
  | first :: _ =>
    let payload := state.pending.lookup first.member
    (payload,
      { state with
        pendingScores := state.pendingScores.zrem first.member
        pending := state.pending.erase first.member
        inFlight := match payload with
          | none => state.inFlight
          | some payload => state.inFlight.insert first.member payload })

end RedisQueueState

/-- The requests of the queue adapter. -/
inductive RedisCall where
  | incrSequence
  | evalEnqueue (key payload : String) (score : ℕ)
  | evalDequeue
  | setLease (key jobId : String)
  /-- `MULTI; HDEL in-flight key; DEL lease; EXEC`. -/
  | release (key : String)
  | hlenPending
  | hlenInFlight
  deriving DecidableEq

/-- The replies. -/
abbrev RedisReply : RedisCall → Type
  | .incrSequence | .hlenPending | .hlenInFlight => ℕ
  | .evalEnqueue .. => Bool × String
  | .evalDequeue => Option String
  | .setLease .. | .release _ => Unit

/-- One request. -/
def RedisCall.perform : (c : RedisCall) → RedisQueueState → RedisReply c × RedisQueueState
  | .incrSequence, state => (state.sequence + 1, { state with sequence := state.sequence + 1 })
  | .evalEnqueue key payload score, state => state.enqueueScript key payload score
  | .evalDequeue, state => state.dequeueScript
  | .setLease key jobId, state => ((), { state with leases := state.leases.insert key jobId })
  | .release key, state =>
    ((), { state with inFlight := state.inFlight.erase key, leases := state.leases.erase key })
  | .hlenPending, state => (state.pending.len, state)
  | .hlenInFlight, state => (state.inFlight.len, state)

end Earth2Sandbox
