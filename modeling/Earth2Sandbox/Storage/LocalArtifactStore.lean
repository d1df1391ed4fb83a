import Earth2Sandbox.Runtime.FileSystem
import Earth2Sandbox.Runtime.Http
import Earth2Sandbox.Runtime.JsonValues

/-!
# The local artifact store

`LocalArtifactStore` keeps two files for a key: the content, and a JSON document with its digest
and what the caller wants to be remembered of it.  The caller's members come before the store's
own.  A content whose digest is not the one in the document is not returned.

`Keeps` relates the files to the contents and documents under the keys; `run_load` and `run_save`
are what the operations do to it.
-/

namespace Earth2Sandbox

/-- What the artifact store raises: an `OSError`, a `UnicodeDecodeError`, a `JSONDecodeError`, a
`ValueError` with its message, a `TypeError` of `json.dumps`, or an `AttributeError` of metadata
that is no dictionary. -/
inductive ArtifactError where
  | osError
  | undecodable
  | jsonDecode
  | value (message : String)
  | notSerializable
  | attribute
  deriving DecidableEq

instance artifactErrorRaises : RaisesFileError ArtifactError where
  ofFileError
    | .osError => .osError
    | .undecodable => .undecodable

/-- The truth value of a JSON value in Python. -/
def Json.truthy : Json → Bool
  | .null => false
  | .bool b => b
  | .number literal =>
    literal ∈ ["NaN", "Infinity", "-Infinity"] ||
      (literal.toList.takeWhile fun c => c ≠ 'e' ∧ c ≠ 'E').any fun c => c.isDigit && c ≠ '0'
  | .str s => s ≠ ""
  | .array items => !items.isEmpty
  | .object members => !members.isEmpty

structure ArtifactRecord where
  key : String
  byteLength : ℕ
  sha256 : String
  contentType : String
  createdAt : String
  metadata : Json

/-- A `LocalArtifactStore`, with its root directory resolved. -/
structure LocalArtifactStore where
  root : Path
  root_resolved : root.resolve = root
  contentSuffix : String := ".artifact"

/-- `^[A-Za-z0-9._-]+$` matches the whole key. -/
def isSafeArtifactKey (key : String) : Bool :=
  key ≠ "" && key.toList.all fun c => c.isAlphanum || c ∈ ['.', '_', '-']

namespace LocalArtifactStore

variable (store : LocalArtifactStore)

def safePath (key suffix : String) : Except ArtifactError Path :=
  if isSafeArtifactKey key then
    let root := store.root.resolve
    let target := (root.join (key ++ suffix)).resolve
    if root <+: target then .ok target
    else .error (.value "Artifact key resolved outside artifact root.")
  else .error (.value "Artifact key must be path-safe.")

def contentPath (key : String) : Except ArtifactError Path := store.safePath key store.contentSuffix

def metadataPath (key : String) : Except ArtifactError Path := store.safePath key ".json"

section Library

variable [Library]

omit [Library] in
/-- `metadata.get(name)` of what was read. -/
def metadataGet (metadata : Json) (name : String) : FileProgram ArtifactError (Option Json) :=
  match metadata with
  | .object members => .ret (members.lookup name)
  | _ => .raise .attribute

/-- `str(value or default)`. -/
def textOr (value : Option Json) (default : String) : String :=
  match value with
  | none => default
  | some value => if value.truthy then Library.str value else default

/-- `load`.  `loads` is `json.loads`, or `none` when it raises; an interpreter may refuse what
`Json.loads` reads. -/
def load (key : String) (loads : String → Option Json := Json.loads) :
    FileProgram ArtifactError (Option (Bytes × ArtifactRecord)) := do
  let contentPath ← .ofExcept (store.contentPath key)
  let metadataPath ← .ofExcept (store.metadataPath key)
  if !(← FileProgram.pathExists contentPath) then return none
  else if !(← FileProgram.pathExists metadataPath) then return none
  else
    let content ← FileProgram.readBytes contentPath
    let text ← FileProgram.readText metadataPath
    match loads text with
    | none => .raise .jsonDecode
    | some metadata =>
      let digest := Library.sha256 content
      match ← metadataGet metadata "sha256" with
      | some (.str recorded) =>
        if recorded ≠ digest then return none
        else
          let contentType ← metadataGet metadata "content_type"
          let createdAt ← metadataGet metadata "created_at"
          return some (content,
            { key := key
              byteLength := content.length
              sha256 := digest
              contentType := textOr contentType "application/octet-stream"
              createdAt := textOr createdAt ""
              metadata := metadata })
      | _ => return none

/-- The store's own members of a document. -/
def ownMembers (key : String) (content : Bytes) (contentType createdAt : String) :
    List (String × Json) :=
  [("key", .str key),
    ("created_at", .str createdAt),
    ("content_type", .str contentType),
    ("byte_length", .number (toString content.length)),
    ("sha256", .str (Library.sha256 content))]

/-- The document that `save` writes: the caller's members override the store's. -/
def document (key : String) (content : Bytes) (contentType createdAt : String)
    (metadata : List (String × Json)) : Json :=
  .object (metadata ++ ownMembers key content contentType createdAt)

/-- `save`; `createdAt` is the clock's reading in ISO format. -/
def save (key : String) (content : Bytes) (contentType : String)
    (metadata : List (String × Json)) (createdAt : String) :
    FileProgram ArtifactError ArtifactRecord := do
  FileProgram.mkdir store.root
  let document := document key content contentType createdAt metadata
  FileProgram.writeBytes (← .ofExcept (store.contentPath key)) content
  FileProgram.writeText (← .ofExcept (store.metadataPath key)) (Json.dumps Json.indented document)
  return {
    key := key
    byteLength := content.length
    sha256 := Library.sha256 content
    contentType := contentType
    createdAt := createdAt
    metadata := document }

end Library

/-! ## Paths -/

/-- The content suffixes in use. -/
def SuffixInUse : Prop := store.contentSuffix ∈ [".artifact", ".tar"]

/-- The file of a content. -/
def contentFile (key : String) : Path := store.root ++ [key ++ store.contentSuffix]

/-- The file of a document. -/
def metadataFile (key : String) : Path := store.root ++ [key ++ ".json"]

section Paths

variable {store} {key key' suffix : String}

lemma slash_not_mem_of_isSafeArtifactKey (h : isSafeArtifactKey key = true) :
    '/' ∉ key.toList := by
  intro hmem
  simp only [isSafeArtifactKey, Bool.and_eq_true, List.all_eq_true] at h
  have hslash : ('/'.isAlphanum || '/' ∈ ['.', '_', '-']) = false := by decide
  cases hslash.symm.trans (h.2 '/' hmem)

/-- A safe key does not leave the root directory. -/
lemma safePath_of_isSafeArtifactKey (hkey : isSafeArtifactKey key = true)
    (hslash : '/' ∉ suffix.toList) (hlong : 2 < suffix.toList.length) :
    store.safePath key suffix = .ok (store.root ++ [key ++ suffix]) := by
  have hname : '/' ∉ (key ++ suffix).toList := by
    rw [String.toList_append, List.mem_append]
    exact not_or.mpr ⟨slash_not_mem_of_isSafeArtifactKey hkey, hslash⟩
  have hlength : 2 < (key ++ suffix).toList.length := by
    rw [String.toList_append, List.length_append]
    omega
  have htarget : ((store.root.resolve).join (key ++ suffix)).resolve =
      store.root ++ [key ++ suffix] := by
    rw [store.root_resolved, Path.join_of_not_mem hname, Path.resolve_append_name hlength,
      store.root_resolved]
  have hinside : store.root.resolve <+: store.root ++ [key ++ suffix] := by
    rw [store.root_resolved]
    exact List.prefix_append _ _
  simp only [safePath, hkey, if_true, htarget, if_pos hinside]

lemma contentPath_of_isSafeArtifactKey (hsuffix : store.SuffixInUse)
    (hkey : isSafeArtifactKey key = true) :
    store.contentPath key = .ok (store.contentFile key) := by
  have hall : ∀ suffix ∈ [".artifact", ".tar"], '/' ∉ suffix.toList ∧ 2 < suffix.toList.length := by
    decide
  exact safePath_of_isSafeArtifactKey hkey (hall _ hsuffix).1 (hall _ hsuffix).2

lemma metadataPath_of_isSafeArtifactKey (hkey : isSafeArtifactKey key = true) :
    store.metadataPath key = .ok (store.metadataFile key) :=
  safePath_of_isSafeArtifactKey hkey (by decide) (by decide)

lemma contentFile_inj : store.contentFile key = store.contentFile key' ↔ key = key' := by
  simp [contentFile, String.ext_iff, String.toList_append]

lemma metadataFile_inj : store.metadataFile key = store.metadataFile key' ↔ key = key' := by
  simp [metadataFile, String.ext_iff, String.toList_append]

lemma contentFile_ne_metadataFile (hsuffix : store.SuffixInUse) :
    store.contentFile key ≠ store.metadataFile key' := by
  intro heq
  have hlast := congrArg (fun path => path.getLast?.bind fun name => name.toList.getLast?) heq
  have hall : ∀ suffix ∈ [".artifact", ".tar"],
      suffix.toList ≠ [] ∧ suffix.toList.getLast? ≠ some 'n' := by decide
  obtain ⟨hne, hn⟩ := hall _ hsuffix
  have hjson : ".json".toList.getLast? = some 'n' := by decide
  simp only [contentFile, metadataFile, List.getLast?_append, List.getLast?_singleton,
    Option.some_or, Option.bind_some, String.toList_append, hjson] at hlast
  rw [List.getLast?_eq_some_getLast hne] at hlast hn
  exact hn hlast

end Paths

/-! ## What the directory holds -/

/-- What was saved under a key. -/
structure SavedArtifact where
  content : Bytes
  contentType : String
  createdAt : String
  metadata : List (String × Json)

section Library

variable [Library]

namespace SavedArtifact

/-- The document that was saved. -/
def document (artifact : SavedArtifact) (key : String) : Json :=
  LocalArtifactStore.document key artifact.content artifact.contentType artifact.createdAt
    artifact.metadata

/-- The record that `save` returned. -/
def record (artifact : SavedArtifact) (key : String) : ArtifactRecord where
  key := key
  byteLength := artifact.content.length
  sha256 := Library.sha256 artifact.content
  contentType := artifact.contentType
  createdAt := artifact.createdAt
  metadata := artifact.document key

/-- What `load` makes of it. -/
def loaded (artifact : SavedArtifact) (key : String) : Option (Bytes × ArtifactRecord) :=
  let metadata := (artifact.document key).sortKeys
  let digest := Library.sha256 artifact.content
  match metadata.get? "sha256" with
  | some (.str recorded) =>
    if recorded ≠ digest then none
    else some (artifact.content,
      { key := key
        byteLength := artifact.content.length
        sha256 := digest
        contentType := textOr (metadata.get? "content_type") "application/octet-stream"
        createdAt := textOr (metadata.get? "created_at") ""
        metadata := metadata })
  | _ => none

end SavedArtifact

/-- The root directory is empty or missing, and nothing is in the way of creating it. -/
def Vacant (fs : FileSystem) : Prop :=
  (∀ path ∈ fs.files, ¬ store.root <+: path ∧ ¬ path <+: store.root) ∧
    ∀ path ∈ fs.directories, store.root <+: path → path = store.root

/-- The directory holds exactly these artifacts, by key. -/
structure Keeps (fs : FileSystem) (artifacts : String → Option SavedArtifact) : Prop where
  clear : fs.clear store.root = true
  no_directory : ∀ key, isSafeArtifactKey key = true →
    store.contentFile key ∉ fs.directories ∧ store.metadataFile key ∉ fs.directories
  content : ∀ key, isSafeArtifactKey key = true →
    fs.files.lookup (store.contentFile key) = (artifacts key).map (·.content)
  metadata : ∀ key, isSafeArtifactKey key = true →
    fs.files.lookup (store.metadataFile key) =
      (artifacts key).map fun artifact =>
        encodeUtf8 (Json.dumps Json.indented (artifact.document key))
  literals : ∀ key artifact, artifacts key = some artifact →
    Json.MembersHaveLiterals artifact.metadata

section Runs

variable {store} {fs : FileSystem} {artifacts : String → Option SavedArtifact} {key : String}

/-- A vacant directory holds nothing. -/
lemma keeps_of_vacant (h : store.Vacant fs) : store.Keeps fs fun _ => none where
  clear := FileSystem.clear_eq_true.mpr fun file hfile => (h.1 file hfile).2
  no_directory key _ := by
    have hname (name : String) : store.root ++ [name] ∉ fs.directories := by
      intro hmem
      have hroot := h.2 _ hmem (List.prefix_append _ _)
      simp at hroot
    exact ⟨hname _, hname _⟩
  content key _ := AList.lookup_eq_none.mpr fun hmem => (h.1 _ hmem).1 (List.prefix_append _ _)
  metadata key _ := AList.lookup_eq_none.mpr fun hmem => (h.1 _ hmem).1 (List.prefix_append _ _)
  literals key artifact h := by cases h

/-- An artifact is returned as it was saved when its metadata does not override what `load`
reads. -/
lemma SavedArtifact.loaded_eq {artifact : SavedArtifact}
    (hplain : ∀ name ∈ ["sha256", "content_type", "created_at"],
      artifact.metadata.lookup name = none) (htype : artifact.contentType ≠ "") :
    artifact.loaded key = some (artifact.content,
      { artifact.record key with metadata := (artifact.document key).sortKeys }) := by
  have hget (name : String) (value : Json) (hname : name ∈ ["sha256", "content_type", "created_at"])
      (hvalue : (ownMembers key artifact.content artifact.contentType
        artifact.createdAt).lookup name = some value) :
      (artifact.document key).sortKeys.get? name = some value.sortKeys := by
    have hlookup : (artifact.document key).get? name = some value := by
      change List.lookup name (artifact.metadata ++ ownMembers key artifact.content
        artifact.contentType artifact.createdAt) = _
      rw [List.lookup_append, hplain name hname, Option.none_or, hvalue]
    rw [Json.get?_sortKeys, hlookup, Option.map_some]
  have htext (text default : String) (h : text = "" → default = "") :
      textOr (some (Json.str text)) default = text := by
    by_cases hempty : text = ""
    · simp [textOr, Json.truthy, hempty, h]
    · simp [textOr, Json.truthy, hempty, Library.str_str]
  have htypeText : textOr (some (Json.str artifact.contentType)) "application/octet-stream" =
      artifact.contentType :=
    htext _ _ fun h => absurd h htype
  have hcreatedText : textOr (some (Json.str artifact.createdAt)) "" = artifact.createdAt :=
    htext _ _ fun _ => rfl
  simp only [loaded, hget "sha256" _ (by decide) rfl, hget "content_type" _ (by decide) rfl,
    hget "created_at" _ (by decide) rfl, Json.sortKeys, htypeText, hcreatedText, ne_eq, not_true,
    if_false]
  rfl

lemma SavedArtifact.hasLiterals_document {artifact : SavedArtifact}
    (h : Json.MembersHaveLiterals artifact.metadata) :
    (artifact.document key).HasLiterals := by
  refine Json.membersHaveLiterals_iff.mpr (List.forall_mem_append.mpr ⟨?_, ?_⟩)
  · exact Json.membersHaveLiterals_iff.mp h
  · refine Json.membersHaveLiterals_iff.mp ⟨trivial, trivial, trivial, ?_, trivial, trivial⟩
    exact isNumberLiteral_natCast _

/-- `load` returns what is kept under the key and changes nothing. -/
lemma run_load (hsuffix : store.SuffixInUse) (hkeeps : store.Keeps fs artifacts)
    (hkey : isSafeArtifactKey key = true) :
    (store.load key).run FileCall.perform fs =
      (.ok ((artifacts key).bind (·.loaded key)), fs) := by
  obtain ⟨hcontentDir, hmetadataDir⟩ := hkeeps.no_directory key hkey
  have hcontent := hkeeps.content key hkey
  have hmetadata := hkeeps.metadata key hkey
  unfold load
  rw [contentPath_of_isSafeArtifactKey hsuffix hkey, metadataPath_of_isSafeArtifactKey hkey,
    Program.ofExcept_ok, Program.ofExcept_ok, Program.ret_bind, Program.ret_bind,
    Program.run_bind_of_ok FileProgram.run_pathExists,
    FileSystem.pathExists_of_not_mem hcontentDir, hcontent]
  cases hartifact : artifacts key with
  | none => rfl
  | some artifact =>
    rw [hartifact, Option.map_some] at hcontent hmetadata
    have hliterals : (artifact.document key).HasLiterals :=
      SavedArtifact.hasLiterals_document (hkeeps.literals key artifact hartifact)
    have hloads : Json.loads (Json.dumps Json.indented (artifact.document key)) =
        some (artifact.document key).sortKeys := Json.loads_dumps Json.indented hliterals
    simp only [Option.map_some, Option.isSome_some, Bool.not_true, Bool.false_eq_true, if_false]
    rw [Program.run_bind_of_ok FileProgram.run_pathExists,
      FileSystem.pathExists_of_not_mem hmetadataDir, hmetadata]
    simp only [Option.isSome_some, Bool.not_true, Bool.false_eq_true, if_false]
    rw [Program.run_bind_of_ok (FileProgram.run_readBytes hcontent),
      Program.run_bind_of_ok (FileProgram.run_readText hmetadata), hloads]
    have hget : ∀ name, metadataGet (artifact.document key).sortKeys name =
        .ret ((artifact.document key).sortKeys.get? name) := fun _ => rfl
    simp only [hget, Program.ret_bind, Option.bind_some, SavedArtifact.loaded]
    cases (artifact.document key).sortKeys.get? "sha256" with
    | none => rfl
    | some recorded =>
      cases recorded with
      | str recorded =>
        dsimp only
        split <;> rfl
      | null | bool _ | number _ | array _ | object _ => rfl

omit [Library] in
/-- No file of the directory is above it. -/
lemma not_prefix_root (name : String) : ¬ store.root ++ [name] <+: store.root := by
  intro hprefix
  have hlength := hprefix.length_le
  simp at hlength

omit [Library] in
/-- After `mkdir` a file may be written in the root directory. -/
lemma writable_addDirectories {name : String} (h : store.root ++ [name] ∉ fs.directories) :
    (fs.addDirectories store.root).writable (store.root ++ [name]) = true := by
  simp [FileSystem.writable, FileSystem.mem_addDirectories, not_prefix_root, h]

/-- The files that `save` writes keep the artifact. -/
lemma Keeps.put (hsuffix : store.SuffixInUse) (hkeeps : store.Keeps fs artifacts)
    (hkey : isSafeArtifactKey key = true) {artifact : SavedArtifact}
    (hliterals : Json.MembersHaveLiterals artifact.metadata) :
    store.Keeps (((fs.addDirectories store.root).put (store.contentFile key) artifact.content).put
        (store.metadataFile key) (encodeUtf8 (Json.dumps Json.indented (artifact.document key))))
      (Function.update artifacts key (some artifact)) where
  clear := by
    rw [FileSystem.clear_eq_true]
    intro file hfile
    rcases (AList.mem_insert _).mp hfile with rfl | hfile
    · exact not_prefix_root _
    rcases (AList.mem_insert _).mp hfile with rfl | hfile
    · exact not_prefix_root _
    · exact FileSystem.clear_eq_true.mp hkeeps.clear file hfile
  no_directory key' hkey' := by
    obtain ⟨hcontent, hmetadata⟩ := hkeeps.no_directory key' hkey'
    change _ ∉ (fs.addDirectories store.root).directories ∧
      _ ∉ (fs.addDirectories store.root).directories
    rw [FileSystem.mem_addDirectories, FileSystem.mem_addDirectories]
    exact ⟨not_or.mpr ⟨not_prefix_root _, hcontent⟩, not_or.mpr ⟨not_prefix_root _, hmetadata⟩⟩
  content key' hkey' := by
    have hother : store.contentFile key' ≠ store.metadataFile key :=
      contentFile_ne_metadataFile hsuffix
    refine (AList.lookup_insert_ne hother).trans ?_
    by_cases heq : key' = key
    · subst heq
      rw [Function.update_self]
      exact AList.lookup_insert _
    · rw [Function.update_of_ne heq, ← hkeeps.content key' hkey']
      exact AList.lookup_insert_ne fun hfile => heq (contentFile_inj.mp hfile)
  metadata key' hkey' := by
    by_cases heq : key' = key
    · subst heq
      rw [Function.update_self]
      exact AList.lookup_insert _
    · rw [Function.update_of_ne heq, ← hkeeps.metadata key' hkey']
      have hother : store.metadataFile key' ≠ store.contentFile key :=
        (contentFile_ne_metadataFile hsuffix).symm
      exact (AList.lookup_insert_ne fun hfile => heq (metadataFile_inj.mp hfile)).trans
        (AList.lookup_insert_ne hother)
  literals key' artifact' h := by
    by_cases heq : key' = key
    · subst heq
      rw [Function.update_self, Option.some.injEq] at h
      exact h ▸ hliterals
    · rw [Function.update_of_ne heq] at h
      exact hkeeps.literals key' artifact' h

/-- `save` keeps the artifact under its key and returns its record. -/
lemma run_save (hsuffix : store.SuffixInUse) (hkeeps : store.Keeps fs artifacts)
    (hkey : isSafeArtifactKey key = true) (artifact : SavedArtifact)
    (hliterals : Json.MembersHaveLiterals artifact.metadata) :
    ∃ fs', (store.save key artifact.content artifact.contentType artifact.metadata
        artifact.createdAt).run FileCall.perform fs = (.ok (artifact.record key), fs') ∧
      store.Keeps fs' (Function.update artifacts key (some artifact)) := by
  obtain ⟨hcontentDir, hmetadataDir⟩ := hkeeps.no_directory key hkey
  have hcontentPath : store.contentPath key = .ok (store.contentFile key) :=
    contentPath_of_isSafeArtifactKey hsuffix hkey
  have hmetadataPath : store.metadataPath key = .ok (store.metadataFile key) :=
    metadataPath_of_isSafeArtifactKey hkey
  have hwrite : (fs.addDirectories store.root).writable (store.contentFile key) = true :=
    writable_addDirectories hcontentDir
  have hwriteMetadata : ((fs.addDirectories store.root).put (store.contentFile key)
      artifact.content).writable (store.metadataFile key) = true :=
    writable_addDirectories hmetadataDir
  refine ⟨_, ?_, hkeeps.put hsuffix hkey hliterals⟩
  unfold save
  rw [Program.run_bind_of_ok (FileProgram.run_mkdir hkeeps.clear), hcontentPath,
    Program.ofExcept_ok, Program.ret_bind, hmetadataPath, Program.ofExcept_ok, Program.ret_bind,
    Program.run_bind_of_ok (FileProgram.run_writeBytes hwrite _),
    Program.run_bind_of_ok (FileProgram.run_writeText hwriteMetadata _)]
  rfl

end Runs

end Library

end LocalArtifactStore

end Earth2Sandbox
