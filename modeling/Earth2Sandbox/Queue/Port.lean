import Earth2Sandbox.Domain.Jobs
import Mathlib.Data.List.AList

/-!
# The forecast queue port

Items, enqueue results and keys, as in `application/ports/forecast_queue.py` and the key
functions both adapters share.  A Python dictionary with string keys is Mathlib's `AList`.
-/

namespace Earth2Sandbox

/-- A `dict[str, α]`. -/
abbrev Dict (α : Type) := AList fun _ : String => α

/-- `len(d)`. -/
def Dict.len {α : Type} (d : Dict α) : ℕ := d.entries.length

lemma Dict.len_eq_zero {α : Type} {d : Dict α} (h : ∀ key, d.lookup key = none) : d.len = 0 := by
  rw [Dict.len, List.length_eq_zero_iff]
  refine List.eq_nil_iff_forall_not_mem.mpr fun entry hentry => ?_
  have hlookup := AList.mem_lookup_iff.mpr hentry
  rw [h entry.1] at hlookup
  cases hlookup

structure ForecastQueueItem where
  jobId : String
  priority : ForecastJobPriority := defaultForecastJobPriority
  idempotencyKey : Option String := none
  deriving DecidableEq

structure ForecastQueueEnqueueResult where
  item : ForecastQueueItem
  enqueued : Bool
  deriving DecidableEq

/-- `idempotency_key or job_id`: an empty key counts as none. -/
def keyOr (idempotencyKey : Option String) (jobId : String) : String :=
  match idempotencyKey with
  | none => jobId
  | some key => if key = "" then jobId else key

def queueKey (jobId : String) (idempotencyKey : Option String) : String :=
  keyOr idempotencyKey jobId

def itemKey (item : ForecastQueueItem) : String := keyOr item.idempotencyKey item.jobId

/-- The item that an enqueue makes. -/
def queueItem (jobId : String) (priority : ForecastJobPriority)
    (idempotencyKey : Option String) : ForecastQueueItem :=
  { jobId := jobId, priority := priority, idempotencyKey := some (queueKey jobId idempotencyKey) }

@[simp] lemma itemKey_queueItem (jobId : String) (priority : ForecastJobPriority)
    (idempotencyKey : Option String) :
    itemKey (queueItem jobId priority idempotencyKey) = queueKey jobId idempotencyKey := by
  unfold itemKey queueItem queueKey keyOr
  cases idempotencyKey with
  | none => by_cases h : jobId = "" <;> simp [h]
  | some key => by_cases h : key = "" <;> simp [h]

end Earth2Sandbox
