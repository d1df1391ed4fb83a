import Earth2Sandbox.Storage.FileContents

/-!
# The calls of the store port on a directory

A call of the port is a `StoreOp`.  On the texts of a directory it has an `Answer` and leaves the
texts `after` it; cut short, it leaves texts that `Cut` describes: those from before or after a
write, or those from before a cleanup without some that the policy removes.  `safe_onFiles`
says so of the programs.
-/

namespace Earth2Sandbox

section Stores

variable [Runtime]

/-- A call of the store port, with the clock reading and the generated id it gets. -/
inductive StoreOp where
  | create (latitude longitude : PyFloat) (parentJobId : Option String) (attempt : ℤ)
      (now : Time) (newId : String)
  | get (jobId : String)
  | update (job : ForecastJob) (now : Time)
  | updateIfStatus (job : ForecastJob) (expectedStatuses : Finset ForecastJobStatus)
      (now : Time)
  | listRecent (limit : ℤ) (status : Option ForecastJobStatus)
  | listActive
  | deleteOlderThan (cutoff : Time) (statuses : Finset ForecastJobTerminalStatus)

/-- What a call returns. -/
inductive StoreReply where
  | job (job : ForecastJob)
  | jobs (jobs : List ForecastJob)
  | deleted (n : ℕ)
  deriving DecidableEq

namespace StoreOp

/-- The records that the call is given can be written as JSON. -/
def serializable : StoreOp → Bool
  | update job _ | updateIfStatus job _ _ => job.serializable
  | _ => true

/-- The call on the file store. -/
def onFiles (store : FileForecastJobStore) : StoreOp → FileProgram JobError StoreReply
  | create latitude longitude parentJobId attempt now newId => do
    return .job (← store.create latitude longitude parentJobId attempt now newId)
  | get jobId => do return .job (← store.get jobId)
  | update job now => do return .job (← store.update job now)
  | updateIfStatus job expectedStatuses now => do
    return .job (← store.updateIfStatus job expectedStatuses now)
  | listRecent limit status => do return .jobs (← store.listRecent limit status)
  | listActive => do return .jobs (← store.listActive)
  | deleteOlderThan cutoff statuses => do
    return .deleted (← store.deleteOlderThan cutoff statuses)

/-! ## Calls on texts -/

/-- The texts after the call. -/
def after (codec : JobCodec) : StoreOp → Texts → Texts
  | create latitude longitude parentJobId attempt now newId, texts =>
    (texts.create codec latitude longitude parentJobId attempt now newId).2
  | update job now, texts => (texts.updateIfStatus codec job allJobStatuses now).2
  | updateIfStatus job expectedStatuses now, texts =>
    (texts.updateIfStatus codec job expectedStatuses now).2
  | deleteOlderThan cutoff statuses, texts => texts.deleteOlderThan codec cutoff statuses
  | _, texts => texts

/-- What the call returns or raises.  A listing and the count of a cleanup are about the records
that can be read, each once. -/
def Answer (codec : JobCodec) (texts : Texts) : StoreOp → Except JobError StoreReply → Prop
  | create latitude longitude parentJobId attempt now newId, o =>
    o = (texts.create codec latitude longitude parentJobId attempt now newId).1.map .job
  | get jobId, o => o = (texts.get codec jobId).map .job
  | update job now, o => o = (texts.updateIfStatus codec job allJobStatuses now).1.map .job
  | updateIfStatus job expectedStatuses now, o =>
    o = (texts.updateIfStatus codec job expectedStatuses now).1.map .job
  | listRecent limit status, o => ∃ jobs, (texts.records codec).Enumerates jobs ∧
    o = .ok (.jobs (sortAndFilterJobs jobs limit status))
  | listActive, o => ∃ jobs, (texts.records codec).Enumerates jobs ∧
    o = .ok (.jobs (sortJobs (jobs.filter fun job => job.status ∈ activeJobStatuses)))
  | deleteOlderThan cutoff statuses, o => ∃ jobs, (texts.records codec).Enumerates jobs ∧
    o = .ok (.deleted (jobs.filter fun job => job.shouldCleanup cutoff statuses).length)

/-- The texts that the call leaves when it is cut short. -/
def Cut (codec : JobCodec) (texts : Texts) : StoreOp → Texts → Prop
  | deleteOlderThan cutoff statuses, texts' => ∀ k, texts' k = texts k ∨
    texts' k = none ∧ (texts k).any (Texts.eligible codec cutoff statuses) = true
  | op, texts' => texts' = texts ∨ texts' = op.after codec texts

/-- What is written for a record that the call is given is not read as another record. -/
def KeepsId (codec : JobCodec) : StoreOp → Prop
  | update job now | updateIfStatus job _ now => ∀ k job', codec.modelValidateJson
      (codec.modelDumpJson { job with id := k, updatedAt := now }) = some job' → job'.id = k
  | _ => True

lemma Cut.refl (codec : JobCodec) (texts : Texts) (op : StoreOp) : op.Cut codec texts texts := by
  cases op with
  | deleteOlderThan cutoff statuses => exact fun k => .inl rfl
  | _ => exact .inl rfl

omit [Runtime] in
/-- What a filter leaves of an optional text. -/
lemma filter_not_cases (p : String → Bool) (text : Option String) :
    text.filter (fun t => !p t) = text ∨
      text.filter (fun t => !p t) = none ∧ text.any p = true := by
  cases text with
  | none => exact .inl rfl
  | some t =>
    cases hp : p t with
    | true => exact .inr ⟨by simp [Option.filter, hp], hp⟩
    | false => exact .inl (by simp [Option.filter, hp])

omit [Runtime] in
lemma cut_cleaned (codec : JobCodec) (texts : Texts) (cutoff : Time)
    (statuses : Finset ForecastJobTerminalStatus) (ks : List String) (k : String) :
    texts.cleaned codec cutoff statuses ks k = texts k ∨
      texts.cleaned codec cutoff statuses ks k = none ∧
        (texts k).any (Texts.eligible codec cutoff statuses) = true := by
  unfold Texts.cleaned
  split
  · exact filter_not_cases _ (texts k)
  · exact .inl rfl

/-- A call that is complete may be taken for one that was cut short at its end. -/
lemma cut_after (codec : JobCodec) (texts : Texts) (op : StoreOp) :
    op.Cut codec texts (op.after codec texts) := by
  cases op with
  | deleteOlderThan cutoff statuses => exact fun k => filter_not_cases _ (texts k)
  | _ => exact .inr rfl

end StoreOp

section Step

variable {store : FileForecastJobStore} {fs : FileSystem} {texts : Texts}

/-- The contract of a call. -/
abbrev callContract (store : FileForecastJobStore) (texts : Texts) (op : StoreOp) :
    Contract FileSystem Unit JobError FileCall FileReply StoreReply :=
  store.contract (fun fs' => ∃ texts', store.Holds fs' texts' ∧ op.Cut store.codec texts texts')
    fun fs' o => store.Holds fs' (op.after store.codec texts) ∧ op.Answer store.codec texts o

omit [Runtime] in
/-- Wrapping the result of an operation. -/
lemma safe_map {β : Type} {p : FileProgram JobError β} {crash : FileSystem → Prop}
    {post : FileSystem → Except JobError β → Prop}
    {post' : FileSystem → Except JobError StoreReply → Prop} (f : β → StoreReply)
    (hp : p.Safe (store.contract crash post) FileForecastJobStore.fileExec () fs)
    (hpost : ∀ fs' o, post fs' o → post' fs' (o.map f)) :
    (p >>= fun b => .ret (f b)).Safe (store.contract crash post') FileForecastJobStore.fileExec
      () fs := by
  refine Program.Safe.bind hp ?_ ?_
  · rintro b - fs' hfs'
    exact hpost fs' _ hfs'
  · rintro e - fs' hfs'
    exact hpost fs' _ hfs'

/-- A call on the directory is the call on the texts. -/
lemma safe_onFiles (h : store.Holds fs texts) (op : StoreOp) (hid : op.KeepsId store.codec) :
    (op.onFiles store).Safe (callContract store texts op) FileForecastJobStore.fileExec () fs := by
  have hcrash : ∀ fs', store.Holds fs' texts →
      ∃ texts', store.Holds fs' texts' ∧ op.Cut store.codec texts texts' :=
    fun fs' hfs' => ⟨texts, hfs', StoreOp.Cut.refl _ _ _⟩
  cases op with
  | create latitude longitude parentJobId attempt now newId =>
    refine safe_map .job (FileForecastJobStore.safe_create h hcrash latitude longitude parentJobId
      attempt now newId) ?_
    rintro fs' o ⟨hfs', rfl⟩
    exact ⟨hfs', rfl⟩
  | get jobId =>
    refine safe_map .job (FileForecastJobStore.safe_get h hcrash jobId) ?_
    rintro fs' o ⟨hfs', rfl⟩
    exact ⟨hfs', rfl⟩
  | update job now =>
    refine safe_map .job (FileForecastJobStore.safe_updateIfStatus h hcrash hid) ?_
    rintro fs' o ⟨hfs', rfl⟩
    exact ⟨hfs', rfl⟩
  | updateIfStatus job expectedStatuses now =>
    refine safe_map .job (FileForecastJobStore.safe_updateIfStatus h hcrash hid) ?_
    rintro fs' o ⟨hfs', rfl⟩
    exact ⟨hfs', rfl⟩
  | listRecent limit status =>
    refine safe_map .jobs (FileForecastJobStore.safe_listRecent h hcrash limit status) ?_
    rintro fs' o ⟨hfs', jobs, henum, rfl⟩
    exact ⟨hfs', jobs, henum, rfl⟩
  | listActive =>
    refine safe_map .jobs (FileForecastJobStore.safe_listActive h hcrash) ?_
    rintro fs' o ⟨hfs', jobs, henum, rfl⟩
    exact ⟨hfs', jobs, henum, rfl⟩
  | deleteOlderThan cutoff statuses =>
    have hcut : ∀ fs' done, store.Holds fs' (texts.cleaned store.codec cutoff statuses done) →
        ∃ texts', store.Holds fs' texts' ∧
          (StoreOp.deleteOlderThan cutoff statuses).Cut store.codec texts texts' :=
      fun fs' done hdone => ⟨_, hdone, StoreOp.cut_cleaned store.codec texts cutoff statuses done⟩
    refine safe_map .deleted (FileForecastJobStore.safe_deleteOlderThan h cutoff statuses hcut) ?_
    rintro fs' o ⟨hfs', jobs, henum, rfl⟩
    exact ⟨hfs', jobs, henum, rfl⟩

end Step

end Stores

end Earth2Sandbox
