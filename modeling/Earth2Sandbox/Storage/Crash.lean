import Earth2Sandbox.Framework.Crash
import Earth2Sandbox.Storage.Interchangeable

/-!
# The file job store and a process that dies

Whenever the process dies in a call of the file store, the directory still is one from which the
store serves its records: those from before a write or those from after it, and after a cleanup
those from before it without some that the policy removes (`crash_atomic`).  A temporary file
that is left behind is no record, and the next write of the same record takes its place.
-/

namespace Earth2Sandbox

section Stores

variable [Runtime]

namespace FileForecastJobStore

variable (store : FileForecastJobStore)

/-- The contents of the record files. -/
def texts (fs : FileSystem) : Texts := fun k =>
  (fs.files.lookup (store.recordPath k)).bind decodeUtf8

/-- A call is made and returns or raises. -/
def Completes (op : StoreOp) (fs : FileSystem) (o : Except JobError StoreReply)
    (fs' : FileSystem) : Prop :=
  (op.onFiles store).Completes FileSystem.Reordered fileExec fs o fs'

/-- A call is made, and the process dies in it. -/
def Dies (op : StoreOp) (fs fs' : FileSystem) : Prop :=
  (op.onFiles store).Dies FileSystem.Reordered fileExec FileCall.Torn fs fs'

/-- The directories that processes can leave, one after the other, each with calls of its own up
to its end. -/
inductive Leaves : FileSystem → Prop where
  | vacant {fs : FileSystem} : store.Vacant fs → Leaves fs
  | completed {fs fs' : FileSystem} {op : StoreOp} {o : Except JobError StoreReply} :
    Leaves fs → store.Completes op fs o fs' → Leaves fs'
  | died {fs fs' : FileSystem} {op : StoreOp} : Leaves fs → store.Dies op fs fs' → Leaves fs'

/-- A new store on the directory completes every call, with the answer that the contents of the
record files call for, and leaves the contents that it calls for. -/
def Serves (fs : FileSystem) : Prop :=
  ∀ op, (∃ o fs', store.Completes op fs o fs') ∧
    ∀ o fs', store.Completes op fs o fs' → op.Answer store.codec (store.texts fs) o ∧
      store.texts fs' = op.after store.codec (store.texts fs)

variable {store} {fs fs' : FileSystem} {texts : Texts}

omit [Runtime] in
lemma fileExec_total (fs : FileSystem) (c : FileCall) : ∃ r fs', fileExec fs c r fs' :=
  ⟨(c.perform fs).1, (c.perform fs).2, rfl⟩

/-- The texts of the invariant are the contents of the files. -/
lemma Holds.texts_eq (h : store.Holds fs texts) : store.texts fs = texts := by
  funext k
  unfold FileForecastJobStore.texts
  rw [h.recordFiles]
  cases texts k with
  | none => rfl
  | some text => exact decodeUtf8_encodeUtf8 text

section Step

variable (hids : ∀ job job', store.codec.modelValidateJson (store.codec.modelDumpJson job) =
  some job' → job'.id = job.id)
include hids

omit [Runtime] in
lemma keepsId (op : StoreOp) : op.KeepsId store.codec := by
  cases op with
  | update job now | updateIfStatus job expectedStatuses now =>
    exact fun k => hids { job with id := k, updatedAt := now }
  | _ => trivial

lemma Holds.completes (h : store.Holds fs texts) {op : StoreOp}
    {o : Except JobError StoreReply} (hop : store.Completes op fs o fs') :
    store.Holds fs' (op.after store.codec texts) ∧ op.Answer store.codec texts o := by
  obtain ⟨_, hpost⟩ :=
    (safe_onFiles h op (keepsId hids op)).completes (fun _ _ _ hrely => hrely) hop
  exact hpost

lemma Holds.dies (h : store.Holds fs texts) {op : StoreOp} (hop : store.Dies op fs fs') :
    ∃ texts', store.Holds fs' texts' ∧ op.Cut store.codec texts texts' := by
  have hcovered : (∃ texts', store.Holds fs' texts' ∧ op.Cut store.codec texts texts') ∨
      ∃ g' o, (callContract store texts op).post g' fs' o :=
    (safe_onFiles h op (keepsId hids op)).dies (fun _ _ _ hrely => hrely) fileExec_total
      (fun _ _ _ _ _ _ (hguar : _ ∧ _) => hguar.2) hop
  rcases hcovered with hcrash | ⟨_, o, hpost⟩
  · exact hcrash
  · exact ⟨_, hpost.1, StoreOp.cut_after store.codec texts op⟩

/-- Every directory that processes can leave holds some texts. -/
lemma Leaves.holds (h : store.Leaves fs) : ∃ texts, store.Holds fs texts := by
  induction h with
  | vacant hvacant => exact ⟨_, store.holds_of_vacant hvacant⟩
  | completed _ hop ih =>
    obtain ⟨texts, htexts⟩ := ih
    exact ⟨_, (htexts.completes hids hop).1⟩
  | died _ hop ih =>
    obtain ⟨texts, htexts⟩ := ih
    obtain ⟨texts', htexts', -⟩ := htexts.dies hids hop
    exact ⟨texts', htexts'⟩

lemma Holds.serves (h : store.Holds fs texts) : store.Serves fs := by
  intro op
  refine ⟨Program.exists_completes FileSystem.Reordered.refl fileExec_total _ fs,
    fun o fs' hop => ?_⟩
  obtain ⟨h', hanswer⟩ := h.completes hids hop
  rw [h.texts_eq, h'.texts_eq]
  exact ⟨hanswer, rfl⟩

end Step

/-- **Crashes are atomic.**  In whatever way earlier processes have left the directory, when the
process dies in a call, a new store serves what was there before the call or what the call leaves
when it completes, or, for a cleanup, what was there without some records that it removes. -/
theorem crash_atomic (store : FileForecastJobStore)
    (hids : ∀ job job', store.codec.modelValidateJson (store.codec.modelDumpJson job) =
      some job' → job'.id = job.id)
    {fs fs' : FileSystem} (hleaves : store.Leaves fs) {op : StoreOp}
    (hdies : store.Dies op fs fs') :
    store.Serves fs ∧ store.Serves fs' ∧
      op.Cut store.codec (store.texts fs) (store.texts fs') := by
  obtain ⟨texts, h⟩ := hleaves.holds hids
  obtain ⟨texts', h', hcut⟩ := h.dies hids hdies
  refine ⟨h.serves hids, h'.serves hids, ?_⟩
  rwa [h.texts_eq, h'.texts_eq]

end FileForecastJobStore

end Stores

/-! ## A write that is cut short -/

open StrictRuntime

/-- A file store in a directory that does not exist yet. -/
noncomputable def sampleStore : FileForecastJobStore := ⟨sampleCodec, ["srv", "jobs"], by decide⟩

/-- The surroundings of the directory. -/
def sampleFiles : FileSystem := ⟨∅, [[], ["srv"]]⟩

lemma buildNewJob_sample : buildNewJob 37 127 none 1 0 sampleId = .ok sampleJob := by
  decide +kernel

lemma sampleCodec_id (job job' : ForecastJob)
    (h : sampleCodec.modelValidateJson (sampleCodec.modelDumpJson job) = some job') :
    job'.id = job.id := by
  by_cases hjob : job = sampleJob
  · simp only [sampleCodec, hjob, if_true, Option.some_inj] at h
    rw [hjob, h]
  · have hnumber : ∃ job', numberedText job' = numberedText job := ⟨job, rfl⟩
    simp only [sampleCodec, if_neg hjob, if_neg (numberedText_ne_sampleText job), dif_pos hnumber,
      Option.some_inj] at h
    rw [← h, numberedText_injective hnumber.choose_spec]

lemma sampleStore_dies :
    sampleStore.Dies (.create 37 127 none 1 0 sampleId) sampleFiles
      ((sampleFiles.addDirectories ["srv", "jobs"]).put
        (sampleStore.temporaryPath sampleId) []) := by
  have hpath : sampleStore.path sampleId = .ok (sampleStore.recordPath sampleId) := by
    rw [FileForecastJobStore.path_eq, normalizeJobId_canonical (if_pos (by decide))]
    rfl
  have hjob : sampleJob.id = sampleId := rfl
  have hmkdir : sampleFiles.mkdir ["srv", "jobs"] =
      (.ok (), sampleFiles.addDirectories ["srv", "jobs"]) := if_pos (by decide)
  unfold FileForecastJobStore.Dies
  simp only [StoreOp.onFiles, FileForecastJobStore.create, FileForecastJobStore.write,
    buildNewJob_sample, FileProgram.mkdir, Program.ofExcept_ok, Program.ret_bind,
    Program.call_bind]
  -- the directory is created
  refine ⟨_, .refl _, .inr (.inr ⟨.ok (), _, hmkdir, ?_⟩)⟩
  simp only [FileProgram.ofReply, FileProgram.writeText, hjob, hpath, Program.ofExcept_ok,
    Program.ret_bind, Program.call_bind]
  -- the temporary file is begun
  refine ⟨_, .refl _, .inr (.inl ⟨?_, [], List.nil_prefix, ?_⟩)⟩
  · rw [sampleStore.withSuffix_recordPath (by decide)]
    decide
  · rw [sampleStore.withSuffix_recordPath (by decide)]

/-- The directory with an empty temporary file in it is served as an empty directory. -/
theorem crash_atomic_created :
    sampleStore.Serves sampleFiles ∧
      sampleStore.Serves ((sampleFiles.addDirectories ["srv", "jobs"]).put
        (sampleStore.temporaryPath sampleId) []) ∧
      StoreOp.Cut sampleCodec (sampleStore.texts sampleFiles)
        (.create 37 127 none 1 0 sampleId)
        (sampleStore.texts ((sampleFiles.addDirectories ["srv", "jobs"]).put
          (sampleStore.temporaryPath sampleId) [])) :=
  FileForecastJobStore.crash_atomic sampleStore sampleCodec_id
    (.vacant ⟨fun path h => absurd h (AList.notMem_empty path), by decide⟩) sampleStore_dies

end Earth2Sandbox
