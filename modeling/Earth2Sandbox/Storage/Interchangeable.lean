import Earth2Sandbox.Storage.MemoryJobStore
import Earth2Sandbox.Storage.StoreCalls
import Mathlib.Data.Countable.Basic
import Mathlib.Data.Rat.Encodable
import Mathlib.Logic.Equiv.List
import Mathlib.Tactic.DeriveCountable

/-!
# The file job store and the in-memory job store are interchangeable

Both stores implement the same functions on `Records`, so started empty they answer every
sequence of calls alike (`fileResults_eq_memoryResults`), in whatever order the directory lists
its files, and the file store keeps to its root directory.
-/

namespace Earth2Sandbox

section Stores

variable [Runtime]

/-! ## Sequences of calls -/

namespace StoreOp

/-- The call on the in-memory store. -/
def onMemory (store : InMemoryForecastJobStore) :
    StoreOp → Except JobError StoreReply × InMemoryForecastJobStore
  | create latitude longitude parentJobId attempt now newId =>
    let result := store.create latitude longitude parentJobId attempt now newId
    (result.1.map .job, result.2)
  | get jobId => ((store.get jobId).map .job, store)
  | update job now => ((store.update job now).1.map .job, (store.update job now).2)
  | updateIfStatus job expectedStatuses now =>
    let result := store.updateIfStatus job expectedStatuses now
    (result.1.map .job, result.2)
  | listRecent limit status => (.ok (.jobs (store.listRecent limit status)), store)
  | listActive => (.ok (.jobs store.listActive), store)
  | deleteOlderThan cutoff statuses =>
    let result := store.deleteOlderThan cutoff statuses
    (.ok (.deleted result.1), result.2)

end StoreOp

/-- The results of the in-memory store. -/
def memoryResults : List StoreOp → InMemoryForecastJobStore → List (Except JobError StoreReply)
  | [], _ => []
  | op :: ops, store => (op.onMemory store).1 :: memoryResults ops (op.onMemory store).2

namespace FileForecastJobStore

variable (store : FileForecastJobStore) (env : ℕ → FileSystem → FileSystem)

/-- The results of the file store; `env n` is what happens to the files before call `n`. -/
def results : List StoreOp → ℕ → FileSystem → List (Except JobError StoreReply)
  | [], _, _ => []
  | op :: ops, n, fs =>
    let result := (op.onFiles store).eval FileCall.perform env n fs
    result.1 :: results ops result.2.1 result.2.2

/-- The file calls that the file store makes. -/
def fileCalls : List StoreOp → ℕ → FileSystem → List FileCall
  | [], _, _ => []
  | op :: ops, n, fs =>
    let result := (op.onFiles store).eval FileCall.perform env n fs
    (op.onFiles store).calls FileCall.perform env n fs ++ fileCalls ops result.2.1 result.2.2

/-- The root directory is empty or missing, and nothing is in the way of creating it. -/
def Vacant (fs : FileSystem) : Prop :=
  (∀ path ∈ fs.files, ¬ store.root <+: path ∧ ¬ path <+: store.root) ∧
    ∀ path ∈ fs.directories, store.root <+: path → path = store.root

lemma holds_of_vacant {fs : FileSystem} (h : store.Vacant fs) : store.Holds fs fun _ => none where
  recordFiles k := by
    refine AList.lookup_eq_none.mpr fun hmem => ?_
    exact (h.1 _ hmem).1 (List.prefix_append _ _)
  others path hpath hroot := absurd hroot (h.1 path hpath).1
  canonical k text htext := by cases htext
  ids k text job htext := by cases htext
  directories := h.2
  ancestors path hpath := (h.1 path hpath).2
  rootExists k text htext := by cases htext

end FileForecastJobStore

/-! ## One call -/

omit [Runtime] in
lemma Records.Enumerates.eq_of_id_eq {recs : Records} {xs : List ForecastJob}
    (hxs : recs.Enumerates xs) : ∀ a ∈ xs, ∀ b ∈ xs, a.id = b.id → a = b := by
  intro a ha b hb hid
  have hjob := (hxs.mem_iff a).mp ha
  rw [hid, (hxs.mem_iff b).mp hb] at hjob
  exact (Option.some_inj.mp hjob).symm

/-! ## Records as texts -/

/-- The texts that pydantic writes for the records. -/
def Records.dumped (recs : Records) (codec : JobCodec) : Texts :=
  fun k => (recs k).map codec.modelDumpJson

namespace Records

variable {recs : Records} {codec : JobCodec}

/-- Every record can be written as JSON. -/
def Serializable (recs : Records) : Prop := ∀ k job, recs k = some job → job.serializable = true

omit [Runtime] in
lemma Serializable.validate_dump (h : recs.Serializable) {k : String} {job : ForecastJob}
    (hjob : recs k = some job) : codec.modelValidateJson (codec.modelDumpJson job) = some job :=
  codec.validate_dump job (h k job hjob)

omit [Runtime] in
lemma Serializable.update (h : recs.Serializable) {job : ForecastJob}
    (hjob : job.serializable = true) : Serializable (Function.update recs job.id (some job)) := by
  intro k job' hk
  by_cases heq : k = job.id
  · rw [heq, Function.update_self, Option.some_inj] at hk
    rwa [← hk]
  · rw [Function.update_of_ne heq] at hk
    exact h k job' hk

omit [Runtime] in
lemma put_dumped (recs : Records) (codec : JobCodec) (job : ForecastJob) :
    (recs.dumped codec).put codec job =
      dumped (Function.update recs job.id (some job)) codec := by
  funext k
  by_cases heq : k = job.id
  · simp [Texts.put, dumped, heq]
  · simp [Texts.put, dumped, heq]

omit [Runtime] in
/-- The texts are read back as the records. -/
lemma records_dumped (h : recs.Serializable) : (recs.dumped codec).records codec = recs := by
  funext k
  unfold Texts.records dumped
  cases hjob : recs k with
  | none => rfl
  | some job => exact h.validate_dump hjob

lemma get_dumped (h : recs.Serializable) (jobId : String) :
    (recs.dumped codec).get codec jobId = recs.get jobId := by
  unfold Texts.get Records.get dumped
  cases normalizeJobId jobId with
  | error e => rfl
  | ok k =>
    cases hjob : recs k with
    | none => simp [hjob, bind, Except.bind]
    | some job => simp [hjob, h.validate_dump hjob, bind, Except.bind]

lemma create_dumped (recs : Records) (codec : JobCodec) (latitude longitude : PyFloat)
    (parentJobId : Option String) (attempt : ℤ) (now : Time) (newId : String) :
    (recs.dumped codec).create codec latitude longitude parentJobId attempt now newId =
      ((recs.create latitude longitude parentJobId attempt now newId).1,
        (recs.create latitude longitude parentJobId attempt now newId).2.dumped codec) := by
  unfold Texts.create Records.create
  cases buildNewJob latitude longitude parentJobId attempt now newId with
  | error e => rfl
  | ok job => exact Prod.ext rfl (put_dumped recs codec job)

lemma updateIfStatus_dumped (h : recs.Serializable) (job : ForecastJob)
    (expectedStatuses : Finset ForecastJobStatus) (now : Time) :
    (recs.dumped codec).updateIfStatus codec job expectedStatuses now =
      ((recs.updateIfStatus job expectedStatuses now).1,
        (recs.updateIfStatus job expectedStatuses now).2.dumped codec) := by
  unfold Texts.updateIfStatus Records.updateIfStatus
  cases prepareJobForUpdate job now with
  | error e => rfl
  | ok nextJob =>
    dsimp only
    cases hcurrent : recs nextJob.id with
    | none => simp [dumped, hcurrent]
    | some current =>
      simp only [dumped, hcurrent, Option.map_some, h.validate_dump hcurrent]
      cases ensureTransitionAllowed current expectedStatuses with
      | error e => rfl
      | ok _ => exact Prod.ext rfl (put_dumped recs codec nextJob)

omit [Runtime] in
lemma deleteOlderThan_dumped (h : recs.Serializable) (cutoff : Time)
    (statuses : Finset ForecastJobTerminalStatus) :
    (recs.dumped codec).deleteOlderThan codec cutoff statuses =
      (recs.deleteOlderThan cutoff statuses).dumped codec := by
  funext k
  change Option.filter _ ((recs k).map codec.modelDumpJson) =
    ((recs k).filter fun job => !job.shouldCleanup cutoff statuses).map codec.modelDumpJson
  cases hjob : recs k with
  | none => rfl
  | some job =>
    cases hclean : job.shouldCleanup cutoff statuses with
    | true => simp [Option.filter, Texts.eligible, h.validate_dump hjob, hclean]
    | false => simp [Option.filter, Texts.eligible, h.validate_dump hjob, hclean]

/-! ### Records that stay serializable -/

lemma Serializable.create (h : recs.Serializable) (latitude longitude : PyFloat)
    (parentJobId : Option String) (attempt : ℤ) (now : Time) (newId : String) :
    (recs.create latitude longitude parentJobId attempt now newId).2.Serializable := by
  unfold Records.create
  cases hjob : buildNewJob latitude longitude parentJobId attempt now newId with
  | error e => exact h
  | ok job => exact h.update (FileForecastJobStore.buildNewJob_valid hjob).2

lemma Serializable.updateIfStatus (h : recs.Serializable) {job : ForecastJob}
    (hjob : job.serializable = true) (expectedStatuses : Finset ForecastJobStatus) (now : Time) :
    (recs.updateIfStatus job expectedStatuses now).2.Serializable := by
  obtain ⟨e, heq⟩ | ⟨k, current, -, -, -, heq⟩ := recs.updateIfStatus_cases job expectedStatuses now
  · rw [heq]
    exact h
  · rw [heq]
    have hwritten : ({ job with id := k, updatedAt := now } : ForecastJob).serializable = true :=
      hjob
    exact h.update hwritten

omit [Runtime] in
lemma Serializable.deleteOlderThan (h : recs.Serializable) (cutoff : Time)
    (statuses : Finset ForecastJobTerminalStatus) :
    (recs.deleteOlderThan cutoff statuses).Serializable := by
  intro k job hjob
  exact h k job (Option.filter_eq_some_iff.mp hjob).1

end Records

section Step

variable {store : FileForecastJobStore} {fs : FileSystem} {memory : InMemoryForecastJobStore}

/-- The directory holds the texts of the in-memory store's records. -/
structure Mirrors (store : FileForecastJobStore) (fs : FileSystem)
    (memory : InMemoryForecastJobStore) : Prop where
  holds : store.Holds fs (memory.records.dumped store.codec)
  serializable : memory.records.Serializable

/-- A guarded write does to both what `Records.updateIfStatus` does. -/
lemma mirrors_updateIfStatus {fs' : FileSystem} {o : Except JobError StoreReply}
    (h : Mirrors store fs memory) {job : ForecastJob} (hjob : job.serializable = true)
    {expectedStatuses : Finset ForecastJobStatus} {now : Time}
    (hholds : store.Holds fs' ((memory.records.dumped store.codec).updateIfStatus store.codec job
      expectedStatuses now).2)
    (hanswer : o = ((memory.records.dumped store.codec).updateIfStatus store.codec job
      expectedStatuses now).1.map .job) :
    Mirrors store fs' (memory.updateIfStatus job expectedStatuses now).2 ∧
      o = (memory.updateIfStatus job expectedStatuses now).1.map .job := by
  have heq := memory.updateIfStatus_eq job expectedStatuses now
  have hserializable := h.serializable.updateIfStatus hjob expectedStatuses now
  rw [Records.updateIfStatus_dumped h.serializable, ← heq] at hholds hanswer
  rw [← heq] at hserializable
  exact ⟨⟨hholds, hserializable⟩, hanswer⟩

/-- What a call of the file store returns is what the same call of the in-memory store returns,
and the two hold the same records again. -/
lemma safe_onMemory (h : Mirrors store fs memory) (op : StoreOp) (hop : op.serializable = true) :
    (op.onFiles store).Safe
      ((callContract store (memory.records.dumped store.codec) op).withPost fun _ fs' o =>
        Mirrors store fs' (op.onMemory memory).2 ∧ o = (op.onMemory memory).1)
      FileForecastJobStore.fileExec () fs := by
  have hvalues := memory.enumerates_values
  have hid : op.KeepsId store.codec := by
    cases op with
    | update job now | updateIfStatus job expectedStatuses now =>
      intro k
      have hwritten : ({ job with id := k, updatedAt := now } : ForecastJob).serializable = true :=
        hop
      exact FileForecastJobStore.validate_id_of_serializable hwritten
    | _ => trivial
  refine (safe_onFiles h.holds op hid).mono ?_
  rintro - fs' o ⟨hholds, hanswer⟩
  cases op with
  | create latitude longitude parentJobId attempt now newId =>
    have heq := memory.create_eq latitude longitude parentJobId attempt now newId
    have hserializable := h.serializable.create latitude longitude parentJobId attempt now newId
    simp only [StoreOp.after, StoreOp.Answer, Records.create_dumped, ← heq] at hholds hanswer
    rw [← heq] at hserializable
    exact ⟨⟨hholds, hserializable⟩, hanswer⟩
  | get jobId =>
    simp only [StoreOp.after, StoreOp.Answer, Records.get_dumped h.serializable] at hholds hanswer
    exact ⟨⟨hholds, h.serializable⟩, hanswer⟩
  | update job now => exact mirrors_updateIfStatus h hop hholds hanswer
  | updateIfStatus job expectedStatuses now => exact mirrors_updateIfStatus h hop hholds hanswer
  | listRecent limit status =>
    obtain ⟨jobs, henum, rfl⟩ := hanswer
    rw [Records.records_dumped h.serializable] at henum
    refine ⟨⟨hholds, h.serializable⟩, ?_⟩
    rw [sortAndFilterJobs_eq_of_perm (henum.perm hvalues) henum.eq_of_id_eq]
    rfl
  | listActive =>
    obtain ⟨jobs, henum, rfl⟩ := hanswer
    rw [Records.records_dumped h.serializable] at henum
    refine ⟨⟨hholds, h.serializable⟩, ?_⟩
    rw [sortJobs_eq_of_perm ((henum.perm hvalues).filter _) fun a ha b hb =>
      henum.eq_of_id_eq a (List.mem_of_mem_filter ha) b (List.mem_of_mem_filter hb)]
    rfl
  | deleteOlderThan cutoff statuses =>
    obtain ⟨jobs, henum, rfl⟩ := hanswer
    have hserializable := h.serializable.deleteOlderThan cutoff statuses
    rw [Records.records_dumped h.serializable] at henum
    simp only [StoreOp.after, Records.deleteOlderThan_dumped h.serializable,
      ← memory.deleteOlderThan_records] at hholds
    rw [← memory.deleteOlderThan_records] at hserializable
    refine ⟨⟨hholds, hserializable⟩, ?_⟩
    simp only [StoreOp.onMemory, InMemoryForecastJobStore.deleteOlderThan, List.length_map,
      ((henum.perm hvalues).filter _).length_eq]

end Step

/-! ## All calls -/

section Run

variable (store : FileForecastJobStore) (env : ℕ → FileSystem → FileSystem)

/-- From a directory that holds the in-memory store's records on, the results are the same and
the file calls stay within the root. -/
theorem results_eq_of_holds (henv : ∀ n (fs : FileSystem), fs.Reordered (env n fs))
    (ops : List StoreOp) (hops : ∀ op ∈ ops, op.serializable = true) (n : ℕ) (fs : FileSystem)
    (memory : InMemoryForecastJobStore) (h : Mirrors store fs memory) :
    store.results env ops n fs = memoryResults ops memory ∧
      ∀ c ∈ store.fileCalls env ops n fs, c.Within store.root := by
  induction ops generalizing n fs memory with
  | nil => exact ⟨rfl, by simp [FileForecastJobStore.fileCalls]⟩
  | cons op ops ih =>
    have hop := safe_onMemory h op (hops op List.mem_cons_self)
    obtain ⟨⟨_, hholds, hresult⟩, hcalls⟩ :=
      hop.eval FileCall.perform env (fun _ => henv)
        (fun _ _ _ _ _ _ (hguar : _ ∧ _) => hguar.1) n
    obtain ⟨hrest, hrestCalls⟩ := ih (fun op' hop' => hops op' (List.mem_cons_of_mem _ hop'))
      ((op.onFiles store).eval FileCall.perform env n fs).2.1 _ _ hholds
    constructor
    · unfold FileForecastJobStore.results memoryResults
      rw [← hrest, ← hresult]
    · intro c hc
      rcases List.mem_append.mp hc with hc | hc
      · exact hcalls c hc
      · exact hrestCalls c hc

/-- **Interchangeability.**  Started empty, the two stores return equal results or raise equal
errors at every step of every sequence of calls, and the file store touches only files directly
inside its root. -/
theorem fileResults_eq_memoryResults (henv : ∀ n (fs : FileSystem), fs.Reordered (env n fs))
    (ops : List StoreOp) (hops : ∀ op ∈ ops, op.serializable = true) (fs : FileSystem)
    (hvacant : store.Vacant fs) :
    store.results env ops 0 fs = memoryResults ops .empty ∧
      ∀ c ∈ store.fileCalls env ops 0 fs, c.Within store.root := by
  refine results_eq_of_holds store env henv ops hops 0 fs .empty ⟨?_, ?_⟩
  · rw [InMemoryForecastJobStore.records_empty]
    exact store.holds_of_vacant hvacant
  · rw [InMemoryForecastJobStore.records_empty]
    exact fun k job hjob => by cases hjob

end Run

end Stores

/-! ## A directory with one record -/

instance countableChar : Countable Char :=
  Function.Injective.countable fun _ _ h => Char.ext (UInt32.toNat_inj.mp h)

instance countableString : Countable String :=
  Function.Injective.countable fun _ _ => String.toList_inj.mp

deriving instance Countable for PyFloat, ForecastProviderName, ForecastRunMode,
  ForecastCondition, ForecastSignalLevel, ForecastJobStatus

deriving instance Countable for ForecastMetric, ForecastModelInfo, ForecastWindow,
  ForecastTimelineStep, ForecastSignal, ForecastJobDiagnostics, ForecastJobEvent

deriving instance Countable for ForecastSummary

deriving instance Countable for ForecastJob

/-- A new record. -/
def sampleJob : ForecastJob where
  id := StrictRuntime.sampleId
  status := .queued
  latitude := 37
  longitude := 127
  createdAt := 0
  updatedAt := 0
  diagnostics := some { message := some "Waiting for forecast worker." }
  events := [⟨0, .queued, "Forecast job accepted."⟩]

/-- The text that pydantic writes for it. -/
def sampleText : String :=
  "\x7b" ++ String.intercalate "\n" [
    "",
    "  \"id\": \"6f1d3c2a-0b5e-4c8d-9a7f-0123456789ab\",",
    "  \"status\": \"queued\",",
    "  \"latitude\": 37.0,",
    "  \"longitude\": 127.0,",
    "  \"parent_job_id\": null,",
    "  \"attempt\": 1,",
    "  \"created_at\": \"1970-01-01T00:00:00Z\",",
    "  \"updated_at\": \"1970-01-01T00:00:00Z\",",
    "  \"started_at\": null,",
    "  \"completed_at\": null,",
    "  \"forecast\": null,",
    "  \"diagnostics\": \x7b",
    "    \"provider\": null,",
    "    \"response_source\": null,",
    "    \"cache_status\": null,",
    "    \"cached_artifact_id\": null,",
    "    \"nvcf_request_id\": null,",
    "    \"nvcf_status\": null,",
    "    \"poll_attempts\": 0,",
    "    \"response_reference_present\": false,",
    "    \"byte_length\": null,",
    "    \"sha256\": null,",
    "    \"message\": \"Waiting for forecast worker.\"",
    "  \x7d,",
    "  \"events\": [",
    "    \x7b",
    "      \"occurred_at\": \"1970-01-01T00:00:00Z\",",
    "      \"status\": \"queued\",",
    "      \"message\": \"Forecast job accepted.\"",
    "    \x7d",
    "  ],",
    "  \"error\": null,",
    "  \"links\": \x7b\x7d",
    "\x7d"]

/-- Any other record is written as its number in some enumeration. -/
noncomputable def numberedText (job : ForecastJob) : String :=
  String.ofList (List.replicate ((exists_injective_nat ForecastJob).choose job) '#')

lemma numberedText_injective : Function.Injective numberedText := by
  intro a b h
  have hlength := congrArg (fun text : String => text.toList.length) h
  simp only [numberedText, String.toList_ofList, List.length_replicate] at hlength
  exact (exists_injective_nat ForecastJob).choose_spec hlength

lemma numberedText_ne_sampleText (job : ForecastJob) : numberedText job ≠ sampleText := by
  intro h
  have hmem : '\x7b' ∈ sampleText.toList := by
    rw [sampleText, String.toList_append]
    exact List.mem_append_left _ (by decide)
  rw [← h, numberedText, String.toList_ofList] at hmem
  have heq := List.eq_of_mem_replicate hmem
  exact absurd heq (by decide)

open Classical in
/-- A codec that treats the sample record as pydantic does. -/
noncomputable def sampleCodec : JobCodec where
  modelDumpJson job := if job = sampleJob then sampleText else numberedText job
  modelValidateJson text :=
    if text = sampleText then some sampleJob
    else if h : ∃ job, numberedText job = text then some h.choose else none
  validate_dump job _ := by
    by_cases hjob : job = sampleJob
    · rw [if_pos hjob, if_pos rfl, hjob]
    · have hnumber : ∃ job', numberedText job' = numberedText job := ⟨job, rfl⟩
      rw [if_neg hjob, if_neg (numberedText_ne_sampleText job), dif_pos hnumber,
        numberedText_injective hnumber.choose_spec]

open StrictRuntime in
/-- A record is created, read, listed and left by a cleanup, and a spelling that is no id is
refused. -/
theorem fileResults_eq_memoryResults_created :
    let store : FileForecastJobStore := ⟨sampleCodec, ["srv", "jobs"], by decide⟩
    let fs : FileSystem := ⟨∅, [[], ["srv"]]⟩
    let ops := [.create 37 127 none 1 0 sampleId, .get sampleId, .get "..", .listRecent 10 none,
      .listActive, .deleteOlderThan 1 {.failed}]
    store.results (fun _ fs => fs) ops 0 fs = memoryResults ops .empty ∧
      ∀ c ∈ store.fileCalls (fun _ fs => fs) ops 0 fs, c.Within store.root :=
  have hlength : ∀ path ∈ [[], ["srv"]], ¬ ["srv", "jobs"] <+: path := by decide
  fileResults_eq_memoryResults _ _ (fun _ fs => .refl fs) _ (by decide) _
    ⟨fun path h => absurd h (AList.notMem_empty path), fun path h hroot =>
      absurd hroot (hlength path h)⟩

end Earth2Sandbox
