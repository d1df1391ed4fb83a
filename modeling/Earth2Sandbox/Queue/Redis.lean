import Earth2Sandbox.Framework.FlatJson
import Earth2Sandbox.Framework.Program
import Earth2Sandbox.Runtime.Redis

/-!
# The Redis queue adapter

`RedisForecastQueue` as programs over Redis requests.  Pending items are payloads in a hash,
ordered by a sorted set whose scores combine the priority rank with a sequence number; items in
flight are payloads in a second hash.  A lease is set after a dequeue and deleted with the
item, and never read.
-/

namespace Earth2Sandbox

/-- A part of the adapter. -/
abbrev RedisProgram (α : Type) := Program JobError RedisCall RedisReply α

def scoreFactor : ℕ := 1000000000000

/-! ## Payloads -/

def encodeItem (item : ForecastQueueItem) : String :=
  FlatJson.dumps [("idempotency_key", item.idempotencyKey), ("job_id", some item.jobId),
    ("priority", some item.priority.text)]

/-- The priority that a payload names; an unknown one counts as the default. -/
def decodePriority : Option FlatJson.Value → ForecastJobPriority
  | some (some "low") => .low
  | some (some "normal") => .normal
  | some (some "high") => .high
  | _ => defaultForecastJobPriority

/-- `_decode_item`; the error stands for `json.loads` raising and for a missing job id.  Among
repeated members the last one counts. -/
def decodeItem : Option String → Except JobError (Option ForecastQueueItem)
  | none => .ok none
  | some payload =>
    match FlatJson.loads payload with
    | none => .error .malformedPayload
    | some members =>
      let data := members.reverse
      match data.lookup "job_id" with
      | some (some jobId) =>
        .ok (some ⟨jobId, decodePriority (data.lookup "priority"),
          (data.lookup "idempotency_key").join⟩)
      | _ => .error .malformedPayload

@[simp] lemma decodePriority_text (priority : ForecastJobPriority) :
    decodePriority (some (some priority.text)) = priority := by
  cases priority <;> rfl

@[simp] lemma decodeItem_encodeItem (item : ForecastQueueItem) :
    decodeItem (some (encodeItem item)) = .ok (some item) := by
  simp [decodeItem, encodeItem, FlatJson.loads_dumps, List.lookup_cons]

/-! ## Operations -/

/-- `enqueue`. -/
def redisEnqueue (jobId : String) (priority : ForecastJobPriority)
    (idempotencyKey : Option String) : RedisProgram ForecastQueueEnqueueResult := do
  let sequence ← .call .incrSequence .ret
  let item := queueItem jobId priority idempotencyKey
  let score := priorityRank priority * scoreFactor + sequence
  let result ← .call
    (.evalEnqueue (queueKey jobId idempotencyKey) (encodeItem item) score) .ret
  let returnedItem ← .ofExcept (decodeItem (some result.2))
  return ⟨returnedItem.getD item, result.1⟩

/-- `dequeue`. -/
def redisDequeue : RedisProgram (Option ForecastQueueItem) := do
  let payload ← .call .evalDequeue .ret
  match ← .ofExcept (decodeItem payload) with
  | none => return none
  | some item =>
    .call (.setLease (itemKey item) item.jobId) .ret
    return some item

/-- `mark_completed`, and the transaction of `mark_failed`. -/
def redisMarkCompleted (item : ForecastQueueItem) : RedisProgram Unit :=
  .call (.release (itemKey item)) .ret

/-- `mark_failed`. -/
def redisMarkFailed (item : ForecastQueueItem) (requeue : Bool) : RedisProgram Unit := do
  redisMarkCompleted item
  if requeue then
    let _ ← redisEnqueue item.jobId item.priority item.idempotencyKey

/-- `pending_count`. -/
def redisPendingCount : RedisProgram ℕ := .call .hlenPending .ret

/-- `in_flight_count`. -/
def redisInFlightCount : RedisProgram ℕ := .call .hlenInFlight .ret

end Earth2Sandbox
