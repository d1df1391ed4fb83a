import Earth2Sandbox.Storage.DamagedEntries

/-!
# Artifacts that come back

An artifact is saved, others are saved before and afterwards, and then it is loaded.  The files of
different keys never meet, so nothing but the artifact itself decides what comes back.  Its metadata
do: the caller's members override the digest and the content type of the document, while the record
that `save` returns has the right ones.  `roundTrips_iff` says which metadata leave them alone.
-/

namespace Earth2Sandbox

namespace LocalArtifactStore

section Library

variable [Library] {store : LocalArtifactStore}

omit [Library] in
/-- The arguments of a `save` with a safe key and metadata that `json.dumps` writes. -/
structure SaveCall where
  key : String
  artifact : SavedArtifact
  key_safe : isSafeArtifactKey key = true
  serializable : Json.MembersHaveLiterals artifact.metadata

/-- The call. -/
def SaveCall.program (call : SaveCall) (store : LocalArtifactStore) :
    FileProgram ArtifactError ArtifactRecord :=
  store.save call.key call.artifact.content call.artifact.contentType call.artifact.metadata
    call.artifact.createdAt

/-- Calls one after the other. -/
def saveAll (store : LocalArtifactStore) : List SaveCall → FileProgram ArtifactError Unit
  | [] => return ()
  | call :: calls => do
    let _ ← call.program store
    saveAll store calls

/-- An artifact is saved and loaded, with other calls of `save` before and in between. -/
def saveThenLoad (store : LocalArtifactStore) (earlier : List SaveCall) (saved : SaveCall)
    (later : List SaveCall) : FileProgram ArtifactError (Option (Bytes × ArtifactRecord)) := do
  saveAll store earlier
  let _ ← saved.program store
  saveAll store later
  store.load saved.key

omit [Library] in
/-- The artifacts by key after the calls. -/
def afterSaves (artifacts : String → Option SavedArtifact) :
    List SaveCall → String → Option SavedArtifact
  | [] => artifacts
  | call :: calls => afterSaves (Function.update artifacts call.key (some call.artifact)) calls

omit [Library] in
lemma afterSaves_of_ne {artifacts : String → Option SavedArtifact} {calls : List SaveCall}
    {key : String} (h : ∀ call ∈ calls, call.key ≠ key) :
    afterSaves artifacts calls key = artifacts key := by
  induction calls generalizing artifacts with
  | nil => rfl
  | cons call calls ih =>
    obtain ⟨hfirst, hrest⟩ := List.forall_mem_cons.mp h
    rw [afterSaves, ih hrest, Function.update_of_ne hfirst.symm]

/-- What the calls leave in the directory. -/
lemma run_saveAll (hsuffix : store.SuffixInUse) (calls : List SaveCall) {fs : FileSystem}
    {artifacts : String → Option SavedArtifact} (hkeeps : store.Keeps fs artifacts) :
    ∃ fs', (saveAll store calls).run FileCall.perform fs = (.ok (), fs') ∧
      store.Keeps fs' (afterSaves artifacts calls) := by
  induction calls generalizing fs artifacts with
  | nil => exact ⟨fs, rfl, hkeeps⟩
  | cons call calls ih =>
    obtain ⟨fs₁, hrun, hkeeps₁⟩ := run_save hsuffix hkeeps call.key_safe call.artifact
      call.serializable
    obtain ⟨fs₂, hrun₂, hkeeps₂⟩ := ih hkeeps₁
    refine ⟨fs₂, ?_, hkeeps₂⟩
    rw [saveAll, SaveCall.program, Program.run_bind_of_ok hrun, hrun₂]

/-- Whatever is saved before and under other keys afterwards, `load` makes the same of an
artifact. -/
lemma run_saveThenLoad (hsuffix : store.SuffixInUse) {fs : FileSystem}
    {artifacts : String → Option SavedArtifact} (hkeeps : store.Keeps fs artifacts)
    (earlier : List SaveCall) (saved : SaveCall) (later : List SaveCall)
    (hother : ∀ call ∈ later, call.key ≠ saved.key) :
    ((saveThenLoad store earlier saved later).run FileCall.perform fs).1 =
      .ok (saved.artifact.loaded saved.key) := by
  obtain ⟨fs₁, hrun₁, hkeeps₁⟩ := run_saveAll hsuffix earlier hkeeps
  obtain ⟨fs₂, hrun₂, hkeeps₂⟩ := run_save hsuffix hkeeps₁ saved.key_safe saved.artifact
    saved.serializable
  obtain ⟨fs₃, hrun₃, hkeeps₃⟩ := run_saveAll hsuffix later hkeeps₂
  rw [saveThenLoad, Program.run_bind_of_ok hrun₁, SaveCall.program, Program.run_bind_of_ok hrun₂,
    Program.run_bind_of_ok hrun₃, run_load hsuffix hkeeps₃ saved.key_safe,
    afterSaves_of_ne hother, Function.update_self]
  rfl

/-! ## What comes back -/

/-- The artifact comes back with its content, content type, length and digest. -/
def RoundTrips (artifact : SavedArtifact)
    (result : Except ArtifactError (Option (Bytes × ArtifactRecord))) : Prop :=
  ∃ record, result = .ok (some (artifact.content, record)) ∧
    record.contentType = artifact.contentType ∧ record.byteLength = artifact.content.length ∧
    record.sha256 = Library.sha256 artifact.content

/-- The caller's members give the digest and the content type of the artifact, if they give any. -/
structure LeavesAlone (artifact : SavedArtifact) : Prop where
  sha256 : ∀ value, artifact.metadata.lookup "sha256" = some value →
    value = .str (Library.sha256 artifact.content)
  contentType : ∀ value, artifact.metadata.lookup "content_type" = some value →
    textOr (some value.sortKeys) "application/octet-stream" = artifact.contentType

lemma get?_document (artifact : SavedArtifact) (key name : String) :
    (artifact.document key).sortKeys.get? name =
      ((artifact.metadata.lookup name).or ((ownMembers key artifact.content artifact.contentType
        artifact.createdAt).lookup name)).map Json.sortKeys := by
  rw [Json.get?_sortKeys]
  change Option.map _ (List.lookup name (artifact.metadata ++ _)) = _
  rw [List.lookup_append]

omit [Library] in
lemma sortKeys_eq_str {value : Json} {s : String} : value.sortKeys = .str s ↔ value = .str s := by
  cases value <;> simp [Json.sortKeys]

/-- `load` returns the artifact when the document gives its digest and its content type. -/
lemma roundTrips_loaded (artifact : SavedArtifact) (key : String) :
    RoundTrips artifact (.ok (artifact.loaded key)) ↔
      (artifact.document key).sortKeys.get? "sha256" =
          some (.str (Library.sha256 artifact.content)) ∧
        textOr ((artifact.document key).sortKeys.get? "content_type") "application/octet-stream" =
          artifact.contentType := by
  unfold RoundTrips SavedArtifact.loaded
  dsimp only
  generalize (artifact.document key).sortKeys = metadata
  cases hrecorded : metadata.get? "sha256" with
  | none => simp
  | some recorded =>
    cases recorded with
    | str recorded =>
      by_cases hdigest : recorded = Library.sha256 artifact.content
      · simp [hdigest]
      · simp [hdigest]
    | null | bool _ | number _ | array _ | object _ => simp

/-- The artifact comes back exactly when the caller's members leave these two alone. -/
lemma roundTrips_loaded_iff {artifact : SavedArtifact} (htype : artifact.contentType ≠ "")
    (key : String) :
    RoundTrips artifact (.ok (artifact.loaded key)) ↔ LeavesAlone artifact := by
  have hsha256 : (artifact.document key).sortKeys.get? "sha256" =
        some (.str (Library.sha256 artifact.content)) ↔
      ∀ value, artifact.metadata.lookup "sha256" = some value →
        value = .str (Library.sha256 artifact.content) := by
    have hown : (ownMembers key artifact.content artifact.contentType
        artifact.createdAt).lookup "sha256" = some (.str (Library.sha256 artifact.content)) := rfl
    rw [get?_document, hown]
    cases artifact.metadata.lookup "sha256" with
    | none => simp [Json.sortKeys]
    | some value => simp [sortKeys_eq_str]
  have hcontentType : textOr ((artifact.document key).sortKeys.get? "content_type")
        "application/octet-stream" = artifact.contentType ↔
      ∀ value, artifact.metadata.lookup "content_type" = some value →
        textOr (some value.sortKeys) "application/octet-stream" = artifact.contentType := by
    have hown : (ownMembers key artifact.content artifact.contentType
        artifact.createdAt).lookup "content_type" = some (.str artifact.contentType) := rfl
    rw [get?_document, hown]
    cases artifact.metadata.lookup "content_type" with
    | none => simp [Json.sortKeys, textOr, Json.truthy, htype, Library.str_str]
    | some value => simp
  rw [roundTrips_loaded, hsha256, hcontentType]
  exact ⟨fun h => ⟨h.1, h.2⟩, fun h => ⟨h.sha256, h.contentType⟩⟩

/-- **An artifact comes back exactly when its metadata leave the digest and the type alone.**  It is
saved into a directory that was empty at first, with any other calls before and with calls under
other keys afterwards. -/
theorem roundTrips_iff (store : LocalArtifactStore) (hsuffix : store.SuffixInUse) (fs : FileSystem)
    (hvacant : store.Vacant fs) (earlier : List SaveCall) (saved : SaveCall)
    (later : List SaveCall) (hother : ∀ call ∈ later, call.key ≠ saved.key)
    (htype : saved.artifact.contentType ≠ "") :
    RoundTrips saved.artifact
        ((saveThenLoad store earlier saved later).run FileCall.perform fs).1 ↔
      LeavesAlone saved.artifact := by
  rw [run_saveThenLoad hsuffix (keeps_of_vacant hvacant) earlier saved later hother]
  exact roundTrips_loaded_iff htype saved.key

end Library

section Sample

open SampleCrash

/-- A content of type `application/x-tar`, saved with the caller's members. -/
def savedWith (metadata : List (String × Json)) (h : Json.MembersHaveLiterals metadata) :
    SaveCall where
  key := "key"
  artifact := ⟨[1, 2, 3], "application/x-tar", "2026-05-31T00:00:00+00:00", metadata⟩
  key_safe := by decide
  serializable := h

/-- The digest of the upstream's own file among the members. -/
def upstreamDigest : SaveCall := savedWith [("sha256", .str "upstream")] ⟨trivial, trivial⟩

lemma suffixInUse_sample : sampleStore.SuffixInUse := by
  show ".tar" ∈ _
  decide

lemma vacant_root : sampleStore.Vacant ⟨∅, []⟩ := ⟨by simp, by simp⟩

/-- The upstream's digest makes the artifact unreadable. -/
theorem upstreamDigest_lost :
    ((saveThenLoad sampleStore [] upstreamDigest []).run FileCall.perform ⟨∅, []⟩).1 = .ok none ∧
      ¬ RoundTrips upstreamDigest.artifact
        ((saveThenLoad sampleStore [] upstreamDigest []).run FileCall.perform ⟨∅, []⟩).1 := by
  have hloaded : upstreamDigest.artifact.loaded upstreamDigest.key = none := by
    have hget : (upstreamDigest.artifact.document upstreamDigest.key).sortKeys.get? "sha256" =
        some (.str "upstream") := get?_document ..
    simp only [SavedArtifact.loaded, hget]
    exact if_pos (by decide +kernel)
  have hnone : ((saveThenLoad sampleStore [] upstreamDigest []).run FileCall.perform
      ⟨∅, []⟩).1 = .ok none := by
    rw [run_saveThenLoad suffixInUse_sample (keeps_of_vacant vacant_root) [] upstreamDigest []
      (by simp), hloaded]
  refine ⟨hnone, ?_⟩
  rintro ⟨record, hresult, -⟩
  rw [hnone] at hresult
  cases hresult

/-- Without such a member it comes back. -/
theorem roundTrips_iff_sample :
    RoundTrips (savedWith [] trivial).artifact
      ((saveThenLoad sampleStore [] (savedWith [] trivial) []).run FileCall.perform ⟨∅, []⟩).1 :=
  (roundTrips_iff sampleStore suffixInUse_sample ⟨∅, []⟩ vacant_root [] (savedWith [] trivial) []
    (by simp) (by decide)).mpr ⟨by simp [savedWith], by simp [savedWith]⟩

end Sample

end LocalArtifactStore

end Earth2Sandbox
