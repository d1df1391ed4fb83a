import Earth2Sandbox.Framework.Crash
import Earth2Sandbox.Storage.LocalArtifactStore

/-!
# Damaged entries of the artifact store

`LocalArtifactStore.load` on any two files under a key.  It checks that both exist and that the
digest of the content is the recorded one; it does not check that the document is a JSON object.
`load_of_files_iff` says when it keeps its promise, whatever the interpreter's `json.loads` refuses,
and `load_after_crash_fails` that a crash inside `save` can leave a document with which it does not.
-/

namespace Earth2Sandbox

namespace LocalArtifactStore

section Library

variable [Library]

/-- The bytes of a document are a text in UTF-8 that is read as a JSON object. -/
def IsObjectText (loads : String → Option Json) (bytes : Bytes) : Prop :=
  ∃ text members, decodeUtf8 bytes = some text ∧ loads text = some (.object members)

/-- The digest that a document records. -/
def recordedDigest (loads : String → Option Json) (bytes : Bytes) : Option Json :=
  (decodeUtf8 bytes).bind fun text => (loads text).bind (·.get? "sha256")

section Load

variable {store : LocalArtifactStore} {fs : FileSystem} {key : String} {content bytes : Bytes}
  (loads : String → Option Json)
  (hsuffix : store.SuffixInUse) (hkey : isSafeArtifactKey key = true)
  (hcontentDir : store.contentFile key ∉ fs.directories)
  (hmetadataDir : store.metadataFile key ∉ fs.directories)
include hsuffix hkey hcontentDir hmetadataDir

lemma run_load_missing (h : fs.files.lookup (store.contentFile key) = none ∨
    fs.files.lookup (store.metadataFile key) = none) :
    (store.load key loads).run FileCall.perform fs = (.ok none, fs) := by
  unfold load
  rw [contentPath_of_isSafeArtifactKey hsuffix hkey, metadataPath_of_isSafeArtifactKey hkey,
    Program.ofExcept_ok, Program.ofExcept_ok, Program.ret_bind, Program.ret_bind,
    Program.run_bind_of_ok FileProgram.run_pathExists,
    FileSystem.pathExists_of_not_mem hcontentDir]
  cases hcontent : fs.files.lookup (store.contentFile key) with
  | none => rfl
  | some content =>
    have hmetadata : fs.files.lookup (store.metadataFile key) = none := by
      simpa [hcontent] using h
    simp only [Option.isSome_some, Bool.not_true, Bool.false_eq_true, if_false]
    rw [Program.run_bind_of_ok FileProgram.run_pathExists,
      FileSystem.pathExists_of_not_mem hmetadataDir, hmetadata]
    rfl

/-- With both files, everything depends on the document. -/
lemma run_load_present (hcontent : fs.files.lookup (store.contentFile key) = some content)
    (hmetadata : fs.files.lookup (store.metadataFile key) = some bytes) :
    (IsObjectText loads bytes → ∃ result,
      (store.load key loads).run FileCall.perform fs = (.ok result, fs) ∧
        ∀ loaded record, result = some (loaded, record) →
          recordedDigest loads bytes = some (.str (Library.sha256 loaded))) ∧
    (¬ IsObjectText loads bytes →
      ∃ e, (store.load key loads).run FileCall.perform fs = (.error e, fs)) := by
  unfold load
  rw [contentPath_of_isSafeArtifactKey hsuffix hkey, metadataPath_of_isSafeArtifactKey hkey,
    Program.ofExcept_ok, Program.ofExcept_ok, Program.ret_bind, Program.ret_bind,
    Program.run_bind_of_ok FileProgram.run_pathExists,
    FileSystem.pathExists_of_not_mem hcontentDir, hcontent]
  simp only [Option.isSome_some, Bool.not_true, Bool.false_eq_true, if_false]
  rw [Program.run_bind_of_ok FileProgram.run_pathExists,
    FileSystem.pathExists_of_not_mem hmetadataDir, hmetadata]
  simp only [Option.isSome_some, Bool.not_true, Bool.false_eq_true, if_false]
  rw [Program.run_bind_of_ok (FileProgram.run_readBytes hcontent)]
  cases htext : decodeUtf8 bytes with
  | none =>
    rw [Program.run_bind_of_error (FileProgram.run_readText_undecodable hmetadata htext)]
    refine ⟨fun ⟨_, _, hdecode, _⟩ => ?_, fun _ => ⟨_, rfl⟩⟩
    cases htext.symm.trans hdecode
  | some text =>
    rw [Program.run_bind_of_ok (FileProgram.run_readText_of_decode hmetadata htext)]
    have hobject : IsObjectText loads bytes ↔ ∃ members, loads text = some (.object members) := by
      simp [IsObjectText, htext]
    rw [hobject]
    cases hloads : loads text with
    | none => exact ⟨fun ⟨_, hnone⟩ => (by cases hnone), fun _ => ⟨_, rfl⟩⟩
    | some metadata =>
      cases metadata with
      | object members =>
        refine ⟨fun _ => ?_, fun hnot => absurd ⟨members, rfl⟩ hnot⟩
        have hrecorded : recordedDigest loads bytes = members.lookup "sha256" := by
          simp [recordedDigest, htext, hloads, Json.get?]
        have hget (name : String) : metadataGet (.object members) name =
            .ret (members.lookup name) := rfl
        simp only [hget, Program.ret_bind, hrecorded]
        cases members.lookup "sha256" with
        | none => exact ⟨none, rfl, by simp⟩
        | some recorded =>
          cases recorded with
          | str recorded =>
            dsimp only
            split
            · exact ⟨none, rfl, by simp⟩
            · next hdigest =>
              refine ⟨_, rfl, ?_⟩
              rintro loaded record ⟨⟩
              rw [not_not.mp hdigest]
          | null | bool _ | number _ | array _ | object _ => exact ⟨none, rfl, by simp⟩
      | null | bool _ | number _ | str _ | array _ =>
        exact ⟨fun ⟨_, hother⟩ => (by cases hother), fun _ => ⟨_, rfl⟩⟩

/-- **Any two files.**  `load` returns nothing or a content with the recorded digest exactly when a
file is missing or `json.loads` reads the document as an object. -/
theorem load_of_files_iff :
    (∃ result, (store.load key loads).run FileCall.perform fs = (.ok result, fs) ∧
      ∀ loaded record, result = some (loaded, record) →
        ∃ bytes, fs.files.lookup (store.metadataFile key) = some bytes ∧
          recordedDigest loads bytes = some (.str (Library.sha256 loaded))) ↔
      fs.files.lookup (store.contentFile key) = none ∨
        fs.files.lookup (store.metadataFile key) = none ∨
        ∃ bytes, fs.files.lookup (store.metadataFile key) = some bytes ∧
          IsObjectText loads bytes := by
  have hmissing := run_load_missing loads hsuffix hkey hcontentDir hmetadataDir
  cases hcontent : fs.files.lookup (store.contentFile key) with
  | none => exact iff_of_true ⟨none, hmissing (.inl hcontent), by simp⟩ (.inl rfl)
  | some content =>
    cases hmetadata : fs.files.lookup (store.metadataFile key) with
    | none => exact iff_of_true ⟨none, hmissing (.inr hmetadata), by simp⟩ (.inr (.inl rfl))
    | some bytes =>
      obtain ⟨hobject, hother⟩ :=
        run_load_present loads hsuffix hkey hcontentDir hmetadataDir hcontent hmetadata
      simp only [reduceCtorEq, false_or, Option.some.injEq, exists_eq_left']
      by_cases h : IsObjectText loads bytes
      · exact iff_of_true (hobject h) h
      · obtain ⟨e, he⟩ := hother h
        refine iff_of_false ?_ h
        rintro ⟨result, hresult, -⟩
        cases he.symm.trans hresult

end Load

end Library

/-! ## A crash inside `save` -/

namespace SampleCrash

scoped instance library : Library := .ofDigests []

def sampleStore : LocalArtifactStore where
  root := ["srv", "artifacts"]
  root_resolved := by decide
  contentSuffix := ".tar"

/-- The process dies after it has opened the document for writing. -/
def afterCrash : FileSystem where
  files := (AList.singleton ["srv", "artifacts", "key.tar"] [1, 2, 3]).insert
    ["srv", "artifacts", "key.json"] []
  directories := [[], ["srv"], ["srv", "artifacts"]]

/-- The state that `save` leaves when it is cut short there. -/
lemma dies_save :
    (sampleStore.save "key" [1, 2, 3] "application/x-tar" [] "2026-05-31T00:00:00+00:00").Dies Eq
      (fun fs c r fs' => FileCall.perform c fs = (r, fs')) FileCall.Torn ⟨∅, []⟩ afterCrash := by
  -- `mkdir` and the write of the content are complete, the write of the document is not
  refine ⟨_, rfl, .inr (.inr ⟨_, _, rfl, ?_⟩)⟩
  refine ⟨_, rfl, .inr (.inr ⟨_, _, rfl, ?_⟩)⟩
  exact ⟨_, rfl, .inr (.inl ⟨by decide, [], List.nil_prefix, rfl⟩)⟩

/-- With the document that a crash leaves empty, `load` raises. -/
theorem load_after_crash_fails :
    (sampleStore.save "key" [1, 2, 3] "application/x-tar" [] "2026-05-31T00:00:00+00:00").Dies Eq
        (fun fs c r fs' => FileCall.perform c fs = (r, fs')) FileCall.Torn ⟨∅, []⟩ afterCrash ∧
      ¬ ∃ result, (sampleStore.load "key").run FileCall.perform afterCrash =
          (.ok result, afterCrash) ∧
        ∀ loaded record, result = some (loaded, record) →
          ∃ bytes, afterCrash.files.lookup (sampleStore.metadataFile "key") = some bytes ∧
            recordedDigest Json.loads bytes = some (.str (Library.sha256 loaded)) := by
  refine ⟨dies_save, ?_⟩
  rintro ⟨result, hrun, -⟩
  have herror : (sampleStore.load "key").run FileCall.perform afterCrash =
      (.error .jsonDecode, afterCrash) := by
    rfl
  cases herror.symm.trans hrun

/-- The document is an object that records no digest. -/
def withoutDigest : FileSystem where
  files := (AList.singleton ["srv", "artifacts", "key.tar"] [1, 2, 3]).insert
    ["srv", "artifacts", "key.json"] [0x7b, 0x7d]
  directories := [[], ["srv"], ["srv", "artifacts"]]

/-- With such a document it does what it says. -/
theorem load_of_files_iff_sample :
    ∃ result, (sampleStore.load "key" Json.loads).run FileCall.perform withoutDigest =
        (.ok result, withoutDigest) ∧
      ∀ loaded record, result = some (loaded, record) →
        ∃ bytes, withoutDigest.files.lookup (sampleStore.metadataFile "key") = some bytes ∧
          recordedDigest Json.loads bytes = some (.str (Library.sha256 loaded)) := by
  have hsuffix : sampleStore.SuffixInUse := by
    unfold SuffixInUse
    decide
  have hobject : IsObjectText Json.loads [0x7b, 0x7d] :=
    ⟨"\x7b\x7d", [], by decide +kernel, rfl⟩
  exact (load_of_files_iff Json.loads hsuffix (by decide) (by decide) (by decide)).mpr
    (.inr (.inr ⟨[0x7b, 0x7d], rfl, hobject⟩))

end SampleCrash

end LocalArtifactStore

end Earth2Sandbox
