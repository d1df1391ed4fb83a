import Earth2Sandbox.Framework.RelyGuarantee
import Earth2Sandbox.Storage.FileJobStore
import Mathlib.Data.Set.List

/-!
# What the directory of a file job store holds

`Texts` is what the record files of a directory contain, and the `Texts.*` functions are what
the calls of the store do to it.  `Holds` relates a file system to the texts; it allows for
temporary files that an interrupted write has left behind.

Every operation is verified against its function on `Texts`: it is `Safe` for
`FileForecastJobStore.contract`, whose guarantee keeps every call within the root directory and
says which states a process that dies before or inside the call leaves, and which tolerates that
directories are listed in any order.
-/

namespace Earth2Sandbox

/-! ## Texts -/

/-- The contents of the record files, by the id in the name of the file. -/
abbrev Texts := String → Option String

namespace Texts

/-- The records that can be read. -/
def records (texts : Texts) (codec : JobCodec) : Records :=
  fun k => (texts k).bind codec.modelValidateJson

/-- The texts after a record was written. -/
def put (texts : Texts) (codec : JobCodec) (job : ForecastJob) : Texts :=
  Function.update texts job.id (some (codec.modelDumpJson job))

section Operations

variable [Runtime] (texts : Texts) (codec : JobCodec)

def get (jobId : String) : Except JobError ForecastJob :=
  match normalizeJobId jobId with
  | .error e => .error e
  | .ok k =>
    match texts k with
    | none => .error (.notFound jobId)
    | some text =>
      match codec.modelValidateJson text with
      | none => .error .validation
      | some job => .ok job

def create (latitude longitude : PyFloat) (parentJobId : Option String) (attempt : ℤ) (now : Time)
    (newId : String) : Except JobError ForecastJob × Texts :=
  match buildNewJob latitude longitude parentJobId attempt now newId with
  | .error e => (.error e, texts)
  | .ok job => (.ok job, texts.put codec job)

def updateIfStatus (job : ForecastJob) (expectedStatuses : Finset ForecastJobStatus) (now : Time) :
    Except JobError ForecastJob × Texts :=
  match prepareJobForUpdate job now with
  | .error e => (.error e, texts)
  | .ok nextJob =>
    match texts nextJob.id with
    | none => (.error (.notFound nextJob.id), texts)
    | some text =>
      match codec.modelValidateJson text with
      | none => (.error .validation, texts)
      | some current =>
        match ensureTransitionAllowed current expectedStatuses with
        | .error e => (.error e, texts)
        | .ok () => (.ok nextJob, texts.put codec nextJob)

omit [Runtime] in
/-- The text is a record that the cleanup policy removes. -/
def eligible (cutoff : Time) (statuses : Finset ForecastJobTerminalStatus) (text : String) : Bool :=
  (codec.modelValidateJson text).any fun job => job.shouldCleanup cutoff statuses

omit [Runtime] in
/-- `delete_older_than`, without the count. -/
def deleteOlderThan (cutoff : Time) (statuses : Finset ForecastJobTerminalStatus) : Texts :=
  fun k => (texts k).filter fun text => !eligible codec cutoff statuses text

end Operations

/-- `texts` without the texts of `ks` that the cleanup policy removes. -/
def cleaned (texts : Texts) (codec : JobCodec) (cutoff : Time)
    (statuses : Finset ForecastJobTerminalStatus) (ks : List String) : Texts :=
  fun k => if k ∈ ks then texts.deleteOlderThan codec cutoff statuses k else texts k

section Cleaned

variable {texts : Texts} {codec : JobCodec} {cutoff : Time}
  {statuses : Finset ForecastJobTerminalStatus} {k text : String} {ks : List String}

@[simp] lemma cleaned_nil : texts.cleaned codec cutoff statuses [] = texts := by
  funext k
  simp [cleaned]

lemma cleaned_cons_of_eligible (htext : texts k = some text)
    (h : eligible codec cutoff statuses text = true) :
    Texts.cleaned (Function.update texts k none) codec cutoff statuses ks =
      texts.cleaned codec cutoff statuses (k :: ks) := by
  funext k'
  unfold cleaned deleteOlderThan
  by_cases heq : k' = k
  · subst heq
    simp [htext, Option.filter, h]
  · simp [heq]

lemma cleaned_cons_of_not_eligible (htext : texts k = some text)
    (h : eligible codec cutoff statuses text = false) :
    texts.cleaned codec cutoff statuses ks = texts.cleaned codec cutoff statuses (k :: ks) := by
  funext k'
  unfold cleaned deleteOlderThan
  by_cases heq : k' = k
  · subst heq
    simp [htext, Option.filter, h]
  · simp [heq]

/-- The texts of all keys are cleaned. -/
lemma cleaned_eq (hks : ∀ k, k ∈ ks ↔ (texts k).isSome) :
    texts.cleaned codec cutoff statuses ks = texts.deleteOlderThan codec cutoff statuses := by
  funext k
  unfold cleaned
  by_cases hk : k ∈ ks
  · rw [if_pos hk]
  · have hnone : texts k = none := by
      rw [hks, Option.not_isSome_iff_eq_none] at hk
      exact hk
    rw [if_neg hk, deleteOlderThan, hnone]
    rfl

end Cleaned

end Texts

/-- The records listed by their keys. -/
lemma Records.enumerates_filterMap {recs : Records} {ks : List String}
    (hid : ∀ k job, recs k = some job → job.id = k) (hnodup : ks.Nodup)
    (hks : ∀ k, (recs k).isSome → k ∈ ks) : recs.Enumerates (ks.filterMap recs) := by
  constructor
  · have hids : ((ks.filterMap recs).map ForecastJob.id).Sublist ks := by
      clear hnodup hks
      induction ks with
      | nil => exact List.Sublist.refl []
      | cons k ks ih =>
        cases hjob : recs k with
        | none =>
          rw [List.filterMap_cons_none hjob]
          exact ih.cons k
        | some job =>
          rw [List.filterMap_cons_some hjob, List.map_cons, hid k job hjob]
          exact ih.cons_cons k
    exact hnodup.sublist hids
  · intro job
    rw [List.mem_filterMap]
    constructor
    · rintro ⟨k, -, hjob⟩
      rwa [hid k job hjob]
    · intro hjob
      exact ⟨job.id, hks _ (by rw [hjob]; rfl), hjob⟩

namespace FileForecastJobStore

variable [Runtime] (store : FileForecastJobStore)

/-- The directory of the store holds these texts and, next to them, temporary files only. -/
structure Holds (fs : FileSystem) (texts : Texts) : Prop where
  recordFiles : ∀ k, fs.files.lookup (store.recordPath k) = (texts k).map encodeUtf8
  others : ∀ path ∈ fs.files, store.root <+: path →
    ∃ k, path = store.recordPath k ∨ path = store.temporaryPath k
  canonical : ∀ k text, texts k = some text → Runtime.parseUuid k = some k
  ids : ∀ k text job, texts k = some text → store.codec.modelValidateJson text = some job →
    job.id = k
  directories : ∀ path ∈ fs.directories, store.root <+: path → path = store.root
  ancestors : ∀ path ∈ fs.files, ¬ path <+: store.root
  rootExists : ∀ k text, texts k = some text → store.root ∈ fs.directories

/-- An operation may rely on the files being left alone and keeps to the root directory; when it
is cut short, the files satisfy `crash`. -/
def contract {α : Type} (crash : FileSystem → Prop) (post : FileSystem → Except JobError α → Prop) :
    Contract FileSystem Unit JobError FileCall FileReply α where
  rely _ := FileSystem.Reordered
  guar _ fs c _ _ _ := c.Within store.root ∧ crash fs ∧ ∀ fs', c.Torn fs fs' → crash fs'
  post _ := post

/-- The effects of file calls. -/
def fileExec (fs : FileSystem) (c : FileCall) (r : FileReply c) (fs' : FileSystem) : Prop :=
  c.perform fs = (r, fs')

variable {store} {fs fs' : FileSystem} {texts : Texts}

namespace Holds

lemma reordered (h : store.Holds fs texts) (hfs : fs.Reordered fs') : store.Holds fs' texts where
  recordFiles k := by
    rw [← hfs.lookup]
    exact h.recordFiles k
  others path hpath := by
    refine h.others path ?_
    rw [AList.mem_keys] at hpath ⊢
    exact (hfs.files.map Sigma.fst).mem_iff.mpr hpath
  canonical := h.canonical
  ids := h.ids
  directories path hpath := h.directories path (hfs.directories.mem_iff.mpr hpath)
  ancestors path hpath := by
    refine h.ancestors path ?_
    rw [AList.mem_keys] at hpath ⊢
    exact (hfs.files.map Sigma.fst).mem_iff.mpr hpath
  rootExists k text htext := hfs.directories.mem_iff.mp (h.rootExists k text htext)

/-- The name of a file of the store is not taken by a directory. -/
lemma not_directory (h : store.Holds fs texts) {path : Path}
    (hpath : path.DirectlyInside store.root) : path ∉ fs.directories := by
  obtain ⟨name, rfl⟩ := hpath
  intro hmem
  have hroot := h.directories _ hmem (List.prefix_append _ _)
  have hlength := congrArg List.length hroot
  simp at hlength

lemma pathExists_recordPath (h : store.Holds fs texts) (k : String) :
    fs.pathExists (store.recordPath k) = (texts k).isSome := by
  have hdirectory : store.recordPath k ∉ fs.directories := h.not_directory ⟨_, rfl⟩
  rw [FileSystem.pathExists_of_not_mem hdirectory, h.recordFiles, Option.isSome_map]

lemma readText_recordPath (h : store.Holds fs texts) {k text : String}
    (htext : texts k = some text) :
    fs.readText (store.recordPath k) = .ok text := by
  unfold FileSystem.readText
  rw [h.recordFiles, htext, Option.map_some]
  dsimp only
  rw [decodeUtf8_encodeUtf8]

lemma clear (h : store.Holds fs texts) : fs.clear store.root = true :=
  FileSystem.clear_eq_true.mpr h.ancestors

/-- The directory without one record. -/
lemma unlink (h : store.Holds fs texts) (k : String) :
    store.Holds (fs.remove (store.recordPath k)) (Function.update texts k none) where
  recordFiles k' := by
    by_cases hk : k' = k
    · subst hk
      rw [Function.update_self]
      exact AList.lookup_erase ..
    · rw [Function.update_of_ne hk, ← h.recordFiles]
      exact AList.lookup_erase_ne (store.recordPath_injective.ne hk)
  others path hpath := h.others path (AList.mem_erase.mp hpath).2
  canonical k' text htext := by
    by_cases hk : k' = k
    · simp [hk] at htext
    · exact h.canonical k' text (by rwa [Function.update_of_ne hk] at htext)
  ids k' text job htext := by
    by_cases hk : k' = k
    · simp [hk] at htext
    · exact h.ids k' text job (by rwa [Function.update_of_ne hk] at htext)
  directories := h.directories
  ancestors path hpath := h.ancestors path (AList.mem_erase.mp hpath).2
  rootExists k' text htext := by
    by_cases hk : k' = k
    · simp [hk] at htext
    · exact h.rootExists k' text (by rwa [Function.update_of_ne hk] at htext)

/-- The directory, or some of those above it, exist. -/
lemma addDirectories (h : store.Holds fs texts) {outer : Path} (houter : outer <+: store.root) :
    store.Holds (fs.addDirectories outer) texts where
  recordFiles := h.recordFiles
  others := h.others
  canonical := h.canonical
  ids := h.ids
  directories path hpath hroot := by
    rcases FileSystem.mem_addDirectories.mp hpath with hstart | hmem
    · exact (List.IsPrefix.eq_of_length_le hroot (hstart.trans houter).length_le).symm
    · exact h.directories path hmem hroot
  ancestors := h.ancestors
  rootExists k text htext := FileSystem.mem_addDirectories.mpr (.inr (h.rootExists k text htext))

omit [Runtime] in
lemma not_prefix_root (store : FileForecastJobStore) (name : String) :
    ¬ store.root ++ [name] <+: store.root := by
  intro hstart
  have hlength := hstart.length_le
  simp at hlength

/-- A temporary file changes no record. -/
lemma putTemporary (h : store.Holds fs texts) (k : String) (content : Bytes) :
    store.Holds (fs.put (store.temporaryPath k) content) texts where
  recordFiles k' := by
    refine (AList.lookup_insert_ne ?_).trans (h.recordFiles k')
    exact (store.temporaryPath_ne_recordPath k k').symm
  others path hpath hroot := by
    rcases (AList.mem_insert _).mp hpath with rfl | hmem
    · exact ⟨k, .inr rfl⟩
    · exact h.others path hmem hroot
  canonical := h.canonical
  ids := h.ids
  directories := h.directories
  ancestors path hpath := by
    rcases (AList.mem_insert _).mp hpath with rfl | hmem
    · exact not_prefix_root store _
    · exact h.ancestors path hmem
  rootExists := h.rootExists

/-- The directory after a temporary file was renamed to the file of its record. -/
lemma replace (h : store.Holds fs texts) {k text : String} (hk : Runtime.parseUuid k = some k)
    (hid : ∀ job, store.codec.modelValidateJson text = some job → job.id = k)
    (hroot : store.root ∈ fs.directories) :
    store.Holds ((fs.remove (store.temporaryPath k)).put (store.recordPath k) (encodeUtf8 text))
      (Function.update texts k (some text)) where
  recordFiles k' := by
    by_cases hk' : k' = k
    · subst hk'
      rw [Function.update_self]
      exact AList.lookup_insert ..
    · rw [Function.update_of_ne hk', ← h.recordFiles]
      exact (AList.lookup_insert_ne (store.recordPath_injective.ne hk')).trans
        (AList.lookup_erase_ne (store.temporaryPath_ne_recordPath k k').symm)
  others path hpath hstart := by
    rcases (AList.mem_insert _).mp hpath with rfl | hmem
    · exact ⟨k, .inl rfl⟩
    · exact h.others path (AList.mem_erase.mp hmem).2 hstart
  canonical k' text' htext' := by
    by_cases hk' : k' = k
    · rwa [hk']
    · exact h.canonical k' text' (by rwa [Function.update_of_ne hk'] at htext')
  ids k' text' job htext' hjob := by
    by_cases hk' : k' = k
    · subst hk'
      rw [Function.update_self, Option.some_inj] at htext'
      exact hid job (htext' ▸ hjob)
    · exact h.ids k' text' job (by rwa [Function.update_of_ne hk'] at htext') hjob
  directories := h.directories
  ancestors path hpath := by
    rcases (AList.mem_insert _).mp hpath with rfl | hmem
    · exact not_prefix_root store _
    · exact h.ancestors path (AList.mem_erase.mp hmem).2
  rootExists _ _ _ := hroot

omit [Runtime] in
lemma matchesSuffix_recordPath (store : FileForecastJobStore) (k : String) :
    (store.recordPath k).matchesSuffix ".json" = true := by
  simp only [Path.matchesSuffix, recordPath, List.getLast?_append, List.getLast?_singleton,
    Option.some_or, Option.any_some, List.isSuffixOf_iff_suffix, String.toList_append]
  exact List.suffix_append _ _

omit [Runtime] in
lemma matchesSuffix_temporaryPath (store : FileForecastJobStore) (k : String) :
    (store.temporaryPath k).matchesSuffix ".json" = false := by
  simp only [Path.matchesSuffix, temporaryPath, List.getLast?_append, List.getLast?_singleton,
    Option.some_or, Option.any_some, Bool.eq_false_iff, ne_eq, List.isSuffixOf_iff_suffix,
    String.toList_append]
  rintro ⟨front, hfront⟩
  have hlast := congrArg List.getLast? hfront
  simp at hlast

lemma mem_glob (h : store.Holds fs texts) (path : Path) :
    path ∈ fs.glob store.root ".json" ↔ ∃ k, (texts k).isSome ∧ path = store.recordPath k := by
  unfold FileSystem.glob
  rw [List.mem_filter, List.mem_append, decide_eq_true_eq]
  constructor
  · rintro ⟨hmem, hne, hroot, hsuffix⟩
    have hpath : path = store.root ++ [path.getLast hne] := by
      rw [← hroot, List.dropLast_append_getLast]
    rcases hmem with hfile | hdirectory
    · obtain ⟨k, rfl | rfl⟩ :=
        h.others path (AList.mem_keys.mpr hfile) (hpath ▸ List.prefix_append _ _)
      · refine ⟨k, ?_, rfl⟩
        have hsome := AList.lookup_isSome.mpr (AList.mem_keys.mpr hfile)
        rwa [h.recordFiles, Option.isSome_map] at hsome
      · -- a temporary file does not match
        rw [matchesSuffix_temporaryPath] at hsuffix
        cases hsuffix
    · exact absurd hdirectory (h.not_directory ⟨_, hpath⟩)
  · rintro ⟨k, hk, rfl⟩
    have hfile : store.recordPath k ∈ fs.files := by
      rw [← AList.lookup_isSome, h.recordFiles, Option.isSome_map, hk]
    refine ⟨.inl (AList.mem_keys.mp hfile), ?_, ?_, matchesSuffix_recordPath store k⟩
    · simp [recordPath]
    · simp [recordPath]

/-- The files that a listing finds. -/
lemma glob (h : store.Holds fs texts) :
    ∃ ks : List String, ks.Nodup ∧ (∀ k, k ∈ ks ↔ (texts k).isSome) ∧
      fs.glob store.root ".json" = ks.map store.recordPath := by
  have hrange : fs.glob store.root ".json" ∈ Set.range (List.map store.recordPath) := by
    rw [Set.range_list_map]
    intro path hpath
    obtain ⟨k, -, rfl⟩ := (h.mem_glob path).mp hpath
    exact ⟨k, rfl⟩
  obtain ⟨ks, hks⟩ := hrange
  have hnodup : (fs.glob store.root ".json").Nodup := by
    unfold FileSystem.glob
    rw [List.filter_append]
    have hdirectories : (fs.directories.filter fun path : Path =>
        path ≠ [] ∧ path.dropLast = store.root ∧ path.matchesSuffix ".json") = [] := by
      refine List.filter_eq_nil_iff.mpr fun path hpath => ?_
      rw [decide_eq_true_eq]
      rintro ⟨hne, hroot, -⟩
      refine h.not_directory ⟨path.getLast hne, ?_⟩ hpath
      rw [← hroot, List.dropLast_append_getLast]
    rw [hdirectories, List.append_nil]
    exact fs.files.nodupKeys.filter _
  refine ⟨ks, ?_, fun k => ?_, hks.symm⟩
  · rw [← hks] at hnodup
    exact hnodup.of_map _
  · rw [← List.mem_map_of_injective store.recordPath_injective, hks, h.mem_glob]
    constructor
    · rintro ⟨k', hk', heq⟩
      rwa [store.recordPath_injective heq]
    · intro hk
      exact ⟨k, hk, rfl⟩

/-- The records that can be read, listed by the files. -/
lemma enumerates (h : store.Holds fs texts) {ks : List String} (hnodup : ks.Nodup)
    (hks : ∀ k, k ∈ ks ↔ (texts k).isSome) :
    (texts.records store.codec).Enumerates (ks.filterMap (texts.records store.codec)) := by
  refine Records.enumerates_filterMap (fun k job hjob => ?_) hnodup fun k hk => (hks k).mpr ?_
  · obtain ⟨text, htext, hvalid⟩ := Option.bind_eq_some_iff.mp hjob
    exact h.ids k text job htext hvalid
  · obtain ⟨job, hjob⟩ := Option.isSome_iff_exists.mp hk
    obtain ⟨text, htext, -⟩ := Option.bind_eq_some_iff.mp hjob
    rw [htext]
    rfl

end Holds

/-! ## The calls -/

section Calls

variable {α : Type} {crash : FileSystem → Prop} {post : FileSystem → Except JobError α → Prop}

/-- The proof rule of a call that leaves the texts alone when it is cut short.  The files may be
reordered before it. -/
lemma safe_call (h : store.Holds fs texts) (hcrash : ∀ fs', store.Holds fs' texts → crash fs')
    {c : FileCall} {next : FileReply c → FileProgram JobError α} (hwithin : c.Within store.root)
    (htorn : ∀ fs' fs'', store.Holds fs' texts → c.Torn fs' fs'' → store.Holds fs'' texts)
    (hnext : ∀ fs', fs.Reordered fs' → store.Holds fs' texts →
      (next (c.perform fs').1).Safe (store.contract crash post) fileExec () (c.perform fs').2) :
    (Program.call c next).Safe (store.contract crash post) fileExec () fs := by
  intro fs₁ hfs r fs₂ hexec
  have h₁ := h.reordered hfs
  have hreply : c.perform fs₁ = (r, fs₂) := hexec
  have hsafe := hnext fs₁ hfs h₁
  rw [hreply] at hsafe
  exact ⟨(), ⟨hwithin, hcrash fs₁ h₁, fun fs' ht => hcrash fs' (htorn fs₁ fs' h₁ ht)⟩, hsafe⟩

lemma safe_readText {k text : String} {f : String → FileProgram JobError α}
    (h : store.Holds fs texts) (hcrash : ∀ fs', store.Holds fs' texts → crash fs')
    (htext : texts k = some text)
    (hf : ∀ fs', store.Holds fs' texts →
      (f text).Safe (store.contract crash post) fileExec () fs') :
    (FileProgram.readText (store.recordPath k) >>= f).Safe (store.contract crash post) fileExec ()
      fs := by
  refine safe_call h hcrash ⟨_, rfl⟩ (fun _ _ _ => False.elim) fun fs' _ h' => ?_
  simp only [FileCall.perform, h'.readText_recordPath htext]
  exact hf fs' h'

lemma safe_readJob {k text : String} {f : Option ForecastJob → FileProgram JobError α}
    (h : store.Holds fs texts) (hcrash : ∀ fs', store.Holds fs' texts → crash fs')
    (htext : texts k = some text)
    (hf : ∀ fs', store.Holds fs' texts →
      (f (store.codec.modelValidateJson text)).Safe (store.contract crash post) fileExec () fs') :
    (store.readJob (store.recordPath k) >>= f).Safe (store.contract crash post) fileExec () fs := by
  refine safe_call h hcrash ⟨_, rfl⟩ (fun _ _ _ => False.elim) fun fs' _ h' => ?_
  simp only [FileCall.perform, h'.readText_recordPath htext]
  exact hf fs' h'

lemma safe_pathExists {k : String} {f : Bool → FileProgram JobError α} (h : store.Holds fs texts)
    (hcrash : ∀ fs', store.Holds fs' texts → crash fs')
    (hf : ∀ fs', store.Holds fs' texts →
      (f (texts k).isSome).Safe (store.contract crash post) fileExec () fs') :
    (FileProgram.pathExists (store.recordPath k) >>= f).Safe (store.contract crash post) fileExec ()
      fs := by
  refine safe_call h hcrash (.inr ⟨_, rfl⟩) (fun _ _ _ => False.elim) fun fs' _ h' => ?_
  simp only [FileCall.perform, h'.pathExists_recordPath]
  exact hf fs' h'

lemma safe_rootExists {f : Bool → FileProgram JobError α} (h : store.Holds fs texts)
    (hcrash : ∀ fs', store.Holds fs' texts → crash fs')
    (hf : ∀ found fs', store.Holds fs' texts → (found = false → ∀ k, texts k = none) →
      (f found).Safe (store.contract crash post) fileExec () fs') :
    (FileProgram.pathExists store.root >>= f).Safe (store.contract crash post) fileExec () fs := by
  refine safe_call h hcrash (.inl rfl) (fun _ _ _ => False.elim) fun fs' _ h' => ?_
  refine hf _ fs' h' fun hfound k => ?_
  refine Option.eq_none_iff_forall_ne_some.mpr fun text htext => ?_
  have hroot := h'.rootExists k text htext
  have hmissing : fs'.pathExists store.root = false := hfound
  simp [FileSystem.pathExists, hroot] at hmissing

lemma safe_glob {f : List Path → FileProgram JobError α} (h : store.Holds fs texts)
    (hcrash : ∀ fs', store.Holds fs' texts → crash fs')
    (hf : ∀ (ks : List String) fs', store.Holds fs' texts → ks.Nodup →
      (∀ k, k ∈ ks ↔ (texts k).isSome) →
      (f (ks.map store.recordPath)).Safe (store.contract crash post) fileExec () fs') :
    (FileProgram.glob store.root ".json" >>= f).Safe (store.contract crash post)
      fileExec () fs := by
  refine safe_call h hcrash rfl (fun _ _ _ => False.elim) fun fs' _ h' => ?_
  obtain ⟨ks, hnodup, hks, hglob⟩ := h'.glob
  simp only [FileCall.perform, hglob]
  exact hf ks fs' h' hnodup hks

lemma safe_unlink {k : String} {f : Unit → FileProgram JobError α} (h : store.Holds fs texts)
    (hcrash : ∀ fs', store.Holds fs' texts → crash fs') (hk : (texts k).isSome)
    (hf : ∀ fs', store.Holds fs' (Function.update texts k none) →
      (f ()).Safe (store.contract crash post) fileExec () fs') :
    (FileProgram.unlink (store.recordPath k) >>= f).Safe (store.contract crash post) fileExec ()
      fs := by
  refine safe_call h hcrash ⟨_, rfl⟩ (fun _ _ _ => False.elim) fun fs' _ h' => ?_
  have hfile : store.recordPath k ∈ fs'.files := by
    rw [← AList.lookup_isSome, h'.recordFiles, Option.isSome_map, hk]
  simp only [FileCall.perform, FileSystem.unlink, if_pos hfile]
  exact hf _ (h'.unlink k)

/-- A file may be written directly inside the root once it exists. -/
lemma Holds.writable (h : store.Holds fs texts) (hroot : store.root ∈ fs.directories)
    {path : Path} (hpath : path.DirectlyInside store.root) : fs.writable path = true := by
  have hfree := h.not_directory hpath
  obtain ⟨name, rfl⟩ := hpath
  simp [FileSystem.writable, hfree, hroot]

/-- `_write` puts the text into the directory.  Whenever it is cut short, the directory still
holds the texts from before. -/
lemma safe_write (job : ForecastJob) {f : Unit → FileProgram JobError α} (h : store.Holds fs texts)
    (hcrash : ∀ fs', store.Holds fs' texts → crash fs')
    (hk : Runtime.parseUuid job.id = some job.id)
    (hid : ∀ job', store.codec.modelValidateJson (store.codec.modelDumpJson job) = some job' →
      job'.id = job.id)
    (hf : ∀ fs', store.Holds fs' (texts.put store.codec job) →
      (f ()).Safe (store.contract crash post) fileExec () fs') :
    (store.write job >>= f).Safe (store.contract crash post) fileExec () fs := by
  have hpath : store.path job.id = .ok (store.recordPath job.id) := by
    rw [path_eq, normalizeJobId_canonical hk]
    rfl
  unfold write
  rw [hpath]
  -- the directory is created
  refine safe_call h hcrash rfl ?_ fun fs₁ _ h₁ => ?_
  · rintro fs' fs'' h' ⟨-, outer, houter, rfl⟩
    exact h'.addDirectories houter
  have hroot₁ : store.root ∈ (fs₁.addDirectories store.root).directories :=
    FileSystem.mem_addDirectories.mpr (.inl (List.prefix_refl _))
  replace h₁ := h₁.addDirectories (List.prefix_refl _)
  have hmkdir : fs₁.mkdir store.root = (.ok (), fs₁.addDirectories store.root) := if_pos h₁.clear
  simp only [FileCall.perform, hmkdir, FileProgram.ofReply, Program.ofExcept_ok, Program.ret_bind,
    store.withSuffix_recordPath (Runtime.parseUuid_canonical hk)]
  -- the temporary file is written
  refine safe_call h₁ hcrash ⟨_, rfl⟩ ?_ fun fs₂ hfs₂ h₂ => ?_
  · rintro fs' fs'' h' ⟨-, part, -, rfl⟩
    exact h'.putTemporary job.id part
  have hroot₂ := hfs₂.directories.mem_iff.mp hroot₁
  have hwrite : fs₂.writeBytes (store.temporaryPath job.id)
      (encodeUtf8 (store.codec.modelDumpJson job)) = (.ok (), fs₂.put (store.temporaryPath job.id)
        (encodeUtf8 (store.codec.modelDumpJson job))) :=
    if_pos (h₂.writable hroot₂ ⟨_, rfl⟩)
  simp only [FileCall.perform, hwrite, FileProgram.ofReply]
  -- and renamed
  refine safe_call (h₂.putTemporary job.id _) hcrash ⟨⟨_, rfl⟩, _, rfl⟩ (fun _ _ _ => False.elim)
    fun fs₃ hfs₃ h₃ => ?_
  have hroot₃ := hfs₃.directories.mem_iff.mp hroot₂
  have hwritten : fs₃.files.lookup (store.temporaryPath job.id) =
      some (encodeUtf8 (store.codec.modelDumpJson job)) := by
    rw [← hfs₃.lookup]
    exact AList.lookup_insert _
  have hreplace : fs₃.replace (store.temporaryPath job.id) (store.recordPath job.id) =
      (.ok (), (fs₃.remove (store.temporaryPath job.id)).put (store.recordPath job.id)
        (encodeUtf8 (store.codec.modelDumpJson job))) := by
    unfold FileSystem.replace
    rw [hwritten]
    exact if_pos (h₃.writable hroot₃ ⟨_, rfl⟩)
  simp only [FileCall.perform, hreplace, FileProgram.ofReply]
  exact hf _ (h₃.replace hk hid hroot₃)

end Calls

/-! ## The operations -/

section Operations

variable {crash : FileSystem → Prop}

omit [Runtime] in
/-- Numbers within bounds are finite. -/
lemma isFinite_of_between {x : PyFloat} {a b : ℚ}
    (hx : PyFloat.between (.finite a) (.finite b) x = true) : x.isFinite = true := by
  cases x with
  | finite q => rfl
  | negZero => rfl
  | nan => simp [PyFloat.between, PyFloat.le] at hx
  | negInf => simp [PyFloat.between, PyFloat.le] at hx
  | posInf => simp [PyFloat.between, PyFloat.le] at hx

/-- A new record has a canonical id and a representation in JSON. -/
lemma buildNewJob_valid {latitude longitude : PyFloat} {parentJobId : Option String}
    {attempt : ℤ} {now : Time} {newId : String} {job : ForecastJob}
    (hjob : buildNewJob latitude longitude parentJobId attempt now newId = .ok job) :
    Runtime.parseUuid job.id = some job.id ∧ job.serializable = true := by
  obtain ⟨coordinates, jobAttempt, identity, -, -, rfl, rfl, rfl, -, rfl⟩ := buildNewJob_ok hjob
  have hlatitude : PyFloat.between (-90) 90 coordinates.latitude = true :=
    coordinates.latitude_ok
  have hlongitude : PyFloat.between (-180) 180 coordinates.longitude = true :=
    coordinates.longitude_ok
  have hfinite : coordinates.latitude.isFinite = true ∧ coordinates.longitude.isFinite = true :=
    ⟨isFinite_of_between hlatitude, isFinite_of_between hlongitude⟩
  refine ⟨identity.canonical, ?_⟩
  simp [ForecastJob.serializable, ForecastJob.isInstance, ForecastJob.hasFiniteFloats, hlatitude,
    hlongitude, hfinite, jobAttempt.positive]

omit [Runtime] in
lemma validate_id_of_serializable {job : ForecastJob} (hjson : job.serializable = true) :
    ∀ job', store.codec.modelValidateJson (store.codec.modelDumpJson job) = some job' →
      job'.id = job.id := by
  intro job' hjob'
  rw [store.codec.validate_dump job hjson, Option.some_inj] at hjob'
  rw [hjob']

lemma safe_create (h : store.Holds fs texts)
    (hcrash : ∀ fs', store.Holds fs' texts → crash fs') (latitude longitude : PyFloat)
    (parentJobId : Option String) (attempt : ℤ) (now : Time) (newId : String) :
    (store.create latitude longitude parentJobId attempt now newId).Safe
      (store.contract crash fun fs' o =>
        store.Holds fs'
          (texts.create store.codec latitude longitude parentJobId attempt now newId).2 ∧
        o = (texts.create store.codec latitude longitude parentJobId attempt now newId).1)
      fileExec () fs := by
  unfold create Texts.create
  cases hjob : buildNewJob latitude longitude parentJobId attempt now newId with
  | error e => exact ⟨h, rfl⟩
  | ok job =>
    obtain ⟨hk, hjson⟩ := buildNewJob_valid hjob
    exact safe_write job h hcrash hk (validate_id_of_serializable hjson) fun fs' hfs' => ⟨hfs', rfl⟩

lemma safe_get (h : store.Holds fs texts)
    (hcrash : ∀ fs', store.Holds fs' texts → crash fs') (jobId : String) :
    (store.get jobId).Safe
      (store.contract crash fun fs' o => store.Holds fs' texts ∧ o = texts.get store.codec jobId)
      fileExec () fs := by
  unfold get Texts.get
  rw [path_eq]
  cases hk : normalizeJobId jobId with
  | error e => exact ⟨h, rfl⟩
  | ok k =>
    refine safe_pathExists h hcrash fun fs₁ h₁ => ?_
    dsimp only
    cases htext : texts k with
    | none => exact ⟨h₁, rfl⟩
    | some text =>
      refine safe_readText h₁ hcrash htext fun fs₂ h₂ => ?_
      unfold validate
      dsimp only
      cases store.codec.modelValidateJson text with
      | none => exact ⟨h₂, rfl⟩
      | some job => exact ⟨h₂, rfl⟩

lemma safe_updateIfStatus (h : store.Holds fs texts)
    (hcrash : ∀ fs', store.Holds fs' texts → crash fs') {job : ForecastJob}
    {expectedStatuses : Finset ForecastJobStatus} {now : Time}
    (hid : ∀ k job', store.codec.modelValidateJson
      (store.codec.modelDumpJson { job with id := k, updatedAt := now }) = some job' →
        job'.id = k) :
    (store.updateIfStatus job expectedStatuses now).Safe
      (store.contract crash fun fs' o =>
        store.Holds fs' (texts.updateIfStatus store.codec job expectedStatuses now).2 ∧
        o = (texts.updateIfStatus store.codec job expectedStatuses now).1)
      fileExec () fs := by
  unfold updateIfStatus Texts.updateIfStatus
  cases hnext : prepareJobForUpdate job now with
  | error e => exact ⟨h, rfl⟩
  | ok nextJob =>
    obtain ⟨k, hk, rfl⟩ := prepareJobForUpdate_eq_ok.mp hnext
    have hcanonical := parseUuid_of_normalize hk
    have hpath : store.path k = .ok (store.recordPath k) := by
      rw [path_eq, normalizeJobId_canonical hcanonical]
      rfl
    dsimp only [Program.ofExcept_ok, Program.ret_bind]
    rw [hpath]
    refine safe_pathExists h hcrash fun fs₁ h₁ => ?_
    cases htext : texts k with
    | none => exact ⟨h₁, rfl⟩
    | some text =>
      refine safe_readText h₁ hcrash htext fun fs₂ h₂ => ?_
      unfold validate
      dsimp only
      cases store.codec.modelValidateJson text with
      | none => exact ⟨h₂, rfl⟩
      | some current =>
        dsimp only [Program.ofExcept_ok, Program.ret_bind]
        cases hallowed : ensureTransitionAllowed current expectedStatuses with
        | error e => exact ⟨h₂, rfl⟩
        | ok _ =>
          exact safe_write { job with id := k, updatedAt := now } h₂ hcrash hcanonical (hid k)
            fun fs' hfs' => ⟨hfs', rfl⟩

/-- The listing loop returns the records of the files that can be read. -/
lemma safe_readLoop {ks : List String} (h : store.Holds fs texts)
    (hcrash : ∀ fs', store.Holds fs' texts → crash fs') (hks : ∀ k ∈ ks, (texts k).isSome) :
    (store.readLoop (ks.map store.recordPath)).Safe
      (store.contract crash fun fs' o =>
        store.Holds fs' texts ∧ o = .ok (ks.filterMap (texts.records store.codec)))
      fileExec () fs := by
  induction ks generalizing fs with
  | nil => exact ⟨h, rfl⟩
  | cons k ks ih =>
    obtain ⟨text, htext⟩ := Option.isSome_iff_exists.mp (hks k List.mem_cons_self)
    refine safe_readJob h hcrash htext fun fs₁ h₁ => ?_
    refine Program.Safe.bind (ih h₁ fun k' hk' => hks k' (List.mem_cons_of_mem _ hk')) ?_ ?_
    · rintro jobs - fs₂ ⟨h₂, hjobs⟩
      cases hjobs
      refine ⟨h₂, ?_⟩
      have hrecord : texts.records store.codec k = store.codec.modelValidateJson text := by
        rw [Texts.records, htext]
        rfl
      cases hjob : store.codec.modelValidateJson text with
      | none =>
        rw [List.filterMap_cons_none (hrecord.trans hjob)]
        rfl
      | some job =>
        rw [List.filterMap_cons_some (hrecord.trans hjob)]
        rfl
    · rintro e - fs₂ ⟨-, hjobs⟩
      cases hjobs

/-- `_read_all_unlocked` returns the records that can be read, each once. -/
lemma safe_readAllUnlocked (h : store.Holds fs texts)
    (hcrash : ∀ fs', store.Holds fs' texts → crash fs') :
    store.readAllUnlocked.Safe
      (store.contract crash fun fs' o =>
        store.Holds fs' texts ∧ ∃ jobs, (texts.records store.codec).Enumerates jobs ∧ o = .ok jobs)
      fileExec () fs := by
  refine safe_rootExists h hcrash fun found fs₁ h₁ hmissing => ?_
  cases found with
  | false =>
    refine ⟨h₁, [], ⟨List.nodup_nil, fun job => ?_⟩, rfl⟩
    simp [Texts.records, hmissing rfl]
  | true =>
    refine safe_glob h₁ hcrash fun ks fs₂ h₂ hnodup hks => ?_
    refine (safe_readLoop h₂ hcrash fun k hk => (hks k).mp hk).mono fun _ fs₃ o ho => ?_
    exact ⟨ho.1, _, h.enumerates hnodup hks, ho.2⟩

lemma safe_listRecent (h : store.Holds fs texts)
    (hcrash : ∀ fs', store.Holds fs' texts → crash fs') (limit : ℤ)
    (status : Option ForecastJobStatus) :
    (store.listRecent limit status).Safe
      (store.contract crash fun fs' o => store.Holds fs' texts ∧
        ∃ jobs, (texts.records store.codec).Enumerates jobs ∧
          o = .ok (sortAndFilterJobs jobs limit status)) fileExec () fs := by
  refine Program.Safe.bind (safe_readAllUnlocked h hcrash) ?_ ?_
  · rintro jobs - fs₁ ⟨h₁, jobs', henum, hjobs⟩
    cases hjobs
    exact ⟨h₁, jobs, henum, rfl⟩
  · rintro e - fs₁ ⟨-, jobs', -, hjobs⟩
    cases hjobs

lemma safe_listActive (h : store.Holds fs texts)
    (hcrash : ∀ fs', store.Holds fs' texts → crash fs') :
    store.listActive.Safe
      (store.contract crash fun fs' o => store.Holds fs' texts ∧
        ∃ jobs, (texts.records store.codec).Enumerates jobs ∧
          o = .ok (sortJobs (jobs.filter fun job => job.status ∈ activeJobStatuses)))
      fileExec () fs := by
  refine Program.Safe.bind (safe_readAllUnlocked h hcrash) ?_ ?_
  · rintro jobs - fs₁ ⟨h₁, jobs', henum, hjobs⟩
    cases hjobs
    exact ⟨h₁, jobs, henum, rfl⟩
  · rintro e - fs₁ ⟨-, jobs', -, hjobs⟩
    cases hjobs

/-- The cleanup loop removes the texts that the policy selects, and counts them.  Whenever it is
cut short, it has removed some of them. -/
lemma safe_deleteLoop {ks : List String} (h : store.Holds fs texts) (hnodup : ks.Nodup)
    (hks : ∀ k ∈ ks, (texts k).isSome) (cutoff : Time)
    (statuses : Finset ForecastJobTerminalStatus) (n : ℕ)
    (hcrash : ∀ fs' done, store.Holds fs' (texts.cleaned store.codec cutoff statuses done) →
      crash fs') :
    (store.deleteLoop cutoff statuses (ks.map store.recordPath) n).Safe
      (store.contract crash fun fs' o =>
        store.Holds fs' (texts.cleaned store.codec cutoff statuses ks) ∧
        o = .ok (n + ((ks.filterMap (texts.records store.codec)).filter
          fun job => job.shouldCleanup cutoff statuses).length)) fileExec () fs := by
  induction ks generalizing fs texts n with
  | nil => exact ⟨by rwa [Texts.cleaned_nil], rfl⟩
  | cons k ks ih =>
    have hcrash₀ : ∀ fs', store.Holds fs' texts → crash fs' := fun fs' hfs' =>
      hcrash fs' [] (by rwa [Texts.cleaned_nil])
    obtain ⟨text, htext⟩ := Option.isSome_iff_exists.mp (hks k List.mem_cons_self)
    obtain ⟨hk, hnodup⟩ := List.nodup_cons.mp hnodup
    have hsome : ∀ k' ∈ ks, (texts k').isSome := fun k' hk' => hks k' (List.mem_cons_of_mem _ hk')
    have hrecord : texts.records store.codec k = store.codec.modelValidateJson text := by
      rw [Texts.records, htext]
      rfl
    -- a file that stays
    have hkept (hclean : Texts.eligible store.codec cutoff statuses text = false) {fs₁ : FileSystem}
        (h₁ : store.Holds fs₁ texts) :
        (store.deleteLoop cutoff statuses (ks.map store.recordPath) n).Safe
          (store.contract crash fun fs' o =>
            store.Holds fs' (texts.cleaned store.codec cutoff statuses (k :: ks)) ∧
            o = .ok (n + ((ks.filterMap (texts.records store.codec)).filter
              fun job => job.shouldCleanup cutoff statuses).length)) fileExec () fs₁ := by
      rw [← Texts.cleaned_cons_of_not_eligible htext hclean]
      exact ih h₁ hnodup hsome n hcrash
    refine safe_readJob h hcrash₀ htext fun fs₁ h₁ => ?_
    unfold Texts.eligible at hkept
    cases hjob : store.codec.modelValidateJson text with
    | none =>
      rw [List.filterMap_cons_none (hrecord.trans hjob)]
      exact hkept (by rw [hjob]; rfl) h₁
    | some job =>
      rw [List.filterMap_cons_some (hrecord.trans hjob)]
      dsimp only
      cases hclean : job.shouldCleanup cutoff statuses with
      | false =>
        rw [List.filter_cons_of_neg (by simp [hclean])]
        exact hkept (by rw [hjob]; exact hclean) h₁
      | true =>
        have heligible : Texts.eligible store.codec cutoff statuses text = true := by
          rw [Texts.eligible, hjob]
          exact hclean
        refine safe_unlink h₁ hcrash₀ (hks k List.mem_cons_self) fun fs₂ h₂ => ?_
        have hrest : ∀ k' ∈ ks, Function.update texts k none k' = texts k' := by
          intro k' hk'
          have hne : k' ≠ k := fun heq => hk (heq ▸ hk')
          exact Function.update_of_ne hne ..
        refine (ih h₂ hnodup (fun k' hk' => by rw [hrest k' hk']; exact hsome k' hk') (n + 1)
          fun fs' done hdone => hcrash fs' (k :: done) ?_).mono ?_
        · rwa [Texts.cleaned_cons_of_eligible htext heligible] at hdone
        · rintro - fs₃ o ⟨h₃, rfl⟩
          rw [Texts.cleaned_cons_of_eligible htext heligible] at h₃
          have hrecords : ∀ k' ∈ ks, Texts.records (Function.update texts k none) store.codec k' =
              texts.records store.codec k' := fun k' hk' => by
            rw [Texts.records, hrest k' hk', Texts.records]
          refine ⟨h₃, ?_⟩
          rw [List.filter_cons_of_pos (by simpa using hclean), List.length_cons,
            List.filterMap_congr hrecords, Nat.add_right_comm, Nat.add_assoc]

lemma safe_deleteOlderThan (h : store.Holds fs texts) (cutoff : Time)
    (statuses : Finset ForecastJobTerminalStatus)
    (hcrash : ∀ fs' done, store.Holds fs' (texts.cleaned store.codec cutoff statuses done) →
      crash fs') :
    (store.deleteOlderThan cutoff statuses).Safe
      (store.contract crash fun fs' o =>
        store.Holds fs' (texts.deleteOlderThan store.codec cutoff statuses) ∧
        ∃ jobs, (texts.records store.codec).Enumerates jobs ∧
          o = .ok (jobs.filter fun job => job.shouldCleanup cutoff statuses).length)
      fileExec () fs := by
  have hcrash₀ : ∀ fs', store.Holds fs' texts → crash fs' := fun fs' hfs' =>
    hcrash fs' [] (by rwa [Texts.cleaned_nil])
  refine safe_rootExists h hcrash₀ fun found fs₁ h₁ hmissing => ?_
  cases found with
  | false =>
    have hempty : texts.deleteOlderThan store.codec cutoff statuses = texts := by
      funext k
      rw [Texts.deleteOlderThan, hmissing rfl]
      rfl
    refine ⟨by rwa [hempty], [], ⟨List.nodup_nil, fun job => ?_⟩, rfl⟩
    simp [Texts.records, hmissing rfl]
  | true =>
    refine safe_glob h₁ hcrash₀ fun ks fs₂ h₂ hnodup hks => ?_
    refine (safe_deleteLoop h₂ hnodup (fun k hk => (hks k).mp hk) cutoff statuses 0 hcrash).mono ?_
    rintro - fs₃ o ⟨h₃, rfl⟩
    rw [Texts.cleaned_eq hks] at h₃
    exact ⟨h₃, _, h.enumerates hnodup hks, by rw [Nat.zero_add]⟩

end Operations

end FileForecastJobStore

end Earth2Sandbox
