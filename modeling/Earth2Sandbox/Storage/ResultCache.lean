import Earth2Sandbox.Schemas.FourCastNet
import Earth2Sandbox.Storage.LocalArtifactStore

/-!
# The result cache

`FourCastNetResultCache` keeps the tar responses of hosted inference in a `LocalArtifactStore`.
The key of a response is the digest of the request payload and the accepted content type, written
as one JSON object with sorted members.  A result without raw content or with another content
type is refused.

`run_load` and `run_save` are the operations over a directory that keeps artifacts.
-/

namespace Earth2Sandbox

structure FourCastNetCacheRecord where
  key : String
  path : Path
  metadataPath : Path
  byteLength : ℕ
  sha256 : String
  contentType : String
  createdAt : String

/-- A `FourCastNetResultCache` over a `LocalArtifactStore`. -/
structure FourCastNetResultCache where
  root : Path
  root_resolved : root.resolve = root

/-- An optional string as a JSON value. -/
def Json.ofText : Option String → Json
  | none => .null
  | some s => .str s

namespace FourCastNetResultCache

variable (cache : FourCastNetResultCache)

/-- The artifact store of the cache. -/
def artifactStore : LocalArtifactStore where
  root := cache.root
  root_resolved := cache.root_resolved
  contentSuffix := ".tar"

/-- The cache admits tar responses only. -/
def isTar (contentType : String) : Bool := containsText (lowerText contentType) "tar"

section Operations

variable [Library] [FloatRepr]

omit [Library] in
/-- The payload as `json.dumps` sees it. -/
def payloadMembers (payload : PyDict) : Except ArtifactError (List (String × Json)) :=
  match payload.toJson with
  | none => .error .notSerializable
  | some members => .ok members

omit [Library] [FloatRepr] in
/-- The text that the key is the digest of. -/
def serialized (accept : String) (members : List (String × Json)) : String :=
  Json.dumps Json.compact (.object [("accept", .str accept), ("request_payload", .object members)])

def key (payload : PyDict) (accept : String) : Except ArtifactError String := do
  let members ← payloadMembers payload
  return Library.sha256 (encodeUtf8 (serialized accept members))

omit [Library] [FloatRepr] in
def cacheRecordFromArtifact (record : ArtifactRecord) :
    Except ArtifactError FourCastNetCacheRecord := do
  let path ← cache.artifactStore.contentPath record.key
  let metadataPath ← cache.artifactStore.metadataPath record.key
  return {
    key := record.key
    path := path
    metadataPath := metadataPath
    byteLength := record.byteLength
    sha256 := record.sha256
    contentType := record.contentType
    createdAt := record.createdAt }

def load (payload : PyDict) (accept : String) :
    FileProgram ArtifactError (Option (Bytes × FourCastNetCacheRecord)) := do
  let key ← .ofExcept (key payload accept)
  match ← cache.artifactStore.load key with
  | none => return none
  | some (content, record) =>
    let record ← .ofExcept (cache.cacheRecordFromArtifact record)
    return some (content, record)

omit [Library] [FloatRepr] in
/-- What the cache wants to be remembered of a result. -/
def metadata (members : List (String × Json)) (result : FourCastNetHostedInferenceResult) :
    List (String × Json) :=
  [("request_payload", .object members),
    ("source", .str result.responseSource.text),
    ("nvcf_request_id", .ofText result.nvcfRequestId),
    ("nvcf_status", .ofText result.nvcfStatus)]

/-- `save`; `createdAt` is the clock's reading in ISO format. -/
def save (payload : PyDict) (accept : String) (result : FourCastNetHostedInferenceResult)
    (createdAt : String) : FileProgram ArtifactError (Option FourCastNetCacheRecord) :=
  match result.rawContent with
  | none => return none
  | some content =>
    if !isTar result.contentType then return none
    else do
      let key ← .ofExcept (key payload accept)
      let members ← .ofExcept (payloadMembers payload)
      let record ← cache.artifactStore.save key content result.contentType
        (metadata members result) createdAt
      let record ← .ofExcept (cache.cacheRecordFromArtifact record)
      return some record

/-! ## Keys -/

omit [Library] in
/-- The two payloads are the same JSON object. -/
def JsonIdentical (payload payload' : PyDict) : Prop :=
  ∃ members members', payload.toJson = some members ∧ payload'.toJson = some members' ∧
    ∀ name, members.lookup name = members'.lookup name

section Keys

variable {accept accept' : String} {members members' : List (String × Json)}
  {payload payload' : PyDict} {k : String}

omit [Library] in
/-- The text of a key determines the request. -/
lemma serialized_eq_iff (h : payload.toJson = some members) (h' : payload'.toJson = some members') :
    serialized accept members = serialized accept' members' ↔
      accept = accept' ∧ ∀ name, members.lookup name = members'.lookup name := by
  obtain ⟨hliterals, hsorted⟩ := PyDict.of_toJson h
  obtain ⟨hliterals', hsorted'⟩ := PyDict.of_toJson h'
  have hmembers : (Json.object members).sortKeys = (Json.object members').sortKeys ↔
      ∀ name, members.lookup name = members'.lookup name := by
    rw [Json.sortKeys, Json.sortKeys, hsorted, hsorted', Json.object.injEq,
      Dictionary.sortedEntries_eq_iff]
  have hkey (accept : String) {members : List (String × Json)}
      (hliterals : Json.MembersHaveLiterals members) :
      (Json.object [("accept", .str accept), ("request_payload", .object members)]).HasLiterals :=
    show Json.MembersHaveLiterals _ from ⟨trivial, hliterals, trivial⟩
  rw [serialized, serialized, Json.dumps_eq_iff Json.compact (hkey accept hliterals)
    (hkey accept' hliterals'), ← hmembers]
  constructor
  · intro heq
    have haccept := congrArg (Json.get? "accept") heq
    have hpayload := congrArg (Json.get? "request_payload") heq
    rw [Json.get?_sortKeys, Json.get?_sortKeys] at haccept hpayload
    exact ⟨Json.str.inj (Option.some.inj haccept), Option.some.inj hpayload⟩
  · rintro ⟨rfl, heq⟩
    simp only [Json.sortKeys, Json.sortMembers] at heq ⊢
    rw [heq]

lemma key_eq_ok_iff :
    key payload accept = .ok k ↔
      ∃ members, payload.toJson = some members ∧
        k = Library.sha256 (encodeUtf8 (serialized accept members)) := by
  unfold key payloadMembers
  cases payload.toJson with
  | none => simp [bind, Except.bind]
  | some members => simp [bind, Except.bind, pure, Except.pure, eq_comm]

lemma isSafeArtifactKey_key (h : key payload accept = .ok k) : isSafeArtifactKey k = true := by
  obtain ⟨members, -, rfl⟩ := key_eq_ok_iff.mp h
  have hdigest := Library.isHexDigest_sha256 (encodeUtf8 (serialized accept members))
  generalize Library.sha256 (encodeUtf8 (serialized accept members)) = digest at hdigest
  simp only [isHexDigest, Bool.and_eq_true, decide_eq_true_eq, List.all_eq_true] at hdigest
  simp only [isSafeArtifactKey, Bool.and_eq_true, decide_eq_true_eq, List.all_eq_true]
  refine ⟨?_, fun c hc => ?_⟩
  · rintro rfl
    simp at hdigest
  · rcases Bool.or_eq_true _ _ ▸ hdigest.2 c hc with hdigit | hletter
    · simp [Char.isAlphanum, hdigit]
    · have hlower : c.isLower = true := by
        simp only [Bool.and_eq_true, decide_eq_true_eq] at hletter
        have hupper : c ≤ 'z' := hletter.2.trans (by decide)
        exact Bool.and_eq_true _ _ ▸ ⟨decide_eq_true hletter.1, decide_eq_true hupper⟩
      have halpha : c.isAlpha = true := by
        show (c.isUpper || c.isLower) = true
        rw [hlower, Bool.or_true]
      simp [Char.isAlphanum, halpha]

end Keys

/-! ## Runs -/

/-- A result that `save` does not refuse, and the clock's reading. -/
structure SavedResult where
  result : FourCastNetHostedInferenceResult
  content : Bytes
  createdAt : String
  content_eq : result.rawContent = some content
  tar : isTar result.contentType = true

/-- The result as `save` hands it to the artifact store, unless it refuses. -/
def admitted (result : FourCastNetHostedInferenceResult) (createdAt : String) :
    Option SavedResult :=
  match hcontent : result.rawContent with
  | none => none
  | some content =>
    if htar : isTar result.contentType = true then
      some ⟨result, content, createdAt, hcontent, htar⟩
    else none

omit [Library] [FloatRepr] in
lemma admitted_eq_none_iff {result : FourCastNetHostedInferenceResult} {createdAt : String} :
    admitted result createdAt = none ↔
      result.rawContent = none ∨ isTar result.contentType = false := by
  unfold admitted
  split
  · next h => simp [h]
  · next content h => by_cases htar : isTar result.contentType = true <;> simp [h, htar]

omit [Library] [FloatRepr] in
lemma of_admitted {result : FourCastNetHostedInferenceResult} {createdAt : String}
    {saved : SavedResult} (h : admitted result createdAt = some saved) :
    saved.result = result ∧ saved.createdAt = createdAt := by
  unfold admitted at h
  split at h
  · cases h
  · split at h
    · cases h
      exact ⟨rfl, rfl⟩
    · cases h

namespace SavedResult

/-- What the artifact store keeps of it. -/
def artifact (saved : SavedResult) (members : List (String × Json)) :
    LocalArtifactStore.SavedArtifact where
  content := saved.content
  contentType := saved.result.contentType
  createdAt := saved.createdAt
  metadata := metadata members saved.result

/-- The record of it under a key. -/
def record (cache : FourCastNetResultCache) (saved : SavedResult) (k : String) :
    FourCastNetCacheRecord where
  key := k
  path := cache.artifactStore.contentFile k
  metadataPath := cache.artifactStore.metadataFile k
  byteLength := saved.content.length
  sha256 := Library.sha256 saved.content
  contentType := saved.result.contentType
  createdAt := saved.createdAt

omit [Library] [FloatRepr] in
lemma contentType_ne (saved : SavedResult) : saved.result.contentType ≠ "" := by
  intro hempty
  have htar := saved.tar
  rw [hempty] at htar
  revert htar
  decide

omit [FloatRepr] in
lemma loaded_artifact (saved : SavedResult) (members : List (String × Json)) (k : String) :
    (saved.artifact members).loaded k = some (saved.content,
      { (saved.artifact members).record k with
        metadata := ((saved.artifact members).document k).sortKeys }) := by
  refine LocalArtifactStore.SavedArtifact.loaded_eq ?_ saved.contentType_ne
  intro name hname
  simp only [List.mem_cons, List.not_mem_nil, or_false] at hname
  rcases hname with rfl | rfl | rfl <;> rfl

end SavedResult

/-- The cache holds these results by key, each with the members of the payload it is for. -/
def Keeps (fs : FileSystem) (entries : String → Option (List (String × Json) × SavedResult)) :
    Prop :=
  cache.artifactStore.Keeps fs fun k => (entries k).map fun entry => entry.2.artifact entry.1

section Runs

variable {cache} {fs : FileSystem}
  {entries : String → Option (List (String × Json) × SavedResult)} {payload : PyDict}
  {accept k createdAt : String} {result : FourCastNetHostedInferenceResult} {saved : SavedResult}

omit [Library] [FloatRepr] in
lemma suffixInUse : cache.artifactStore.SuffixInUse := by
  change ".tar" ∈ _
  decide

omit [Library] [FloatRepr] in
lemma cacheRecordFromArtifact_eq {record : ArtifactRecord}
    (h : isSafeArtifactKey record.key = true) :
    cache.cacheRecordFromArtifact record = .ok
      { key := record.key
        path := cache.artifactStore.contentFile record.key
        metadataPath := cache.artifactStore.metadataFile record.key
        byteLength := record.byteLength
        sha256 := record.sha256
        contentType := record.contentType
        createdAt := record.createdAt } := by
  rw [cacheRecordFromArtifact, LocalArtifactStore.contentPath_of_isSafeArtifactKey suffixInUse h,
    LocalArtifactStore.metadataPath_of_isSafeArtifactKey h]
  rfl

/-- `load` returns what is kept for the request and changes nothing. -/
lemma run_load (hkeeps : cache.Keeps fs entries) :
    (cache.load payload accept).run FileCall.perform fs =
      ((key payload accept).map fun k =>
        (entries k).map fun entry => (entry.2.content, entry.2.record cache k), fs) := by
  unfold load
  cases hkey : key payload accept with
  | error e => rfl
  | ok k =>
    have hsafe := isSafeArtifactKey_key hkey
    rw [Program.ofExcept_ok, Program.ret_bind,
      Program.run_bind_of_ok (LocalArtifactStore.run_load suffixInUse hkeeps hsafe), Except.map]
    cases entries k with
    | none => rfl
    | some entry =>
      rw [Option.map_some, Option.bind_some, entry.2.loaded_artifact]
      dsimp only
      rw [cacheRecordFromArtifact_eq hsafe]
      rfl

lemma run_save_of_refused (h : admitted result createdAt = none) :
    (cache.save payload accept result createdAt).run FileCall.perform fs = (.ok none, fs) := by
  unfold save
  rcases admitted_eq_none_iff.mp h with hcontent | htar
  · rw [hcontent]
    rfl
  · split
    · rfl
    · rw [htar]
      rfl

/-- What `save` does with a result that it does not refuse. -/
lemma save_eq (h : admitted result createdAt = some saved) :
    cache.save payload accept result createdAt = (do
      let k ← .ofExcept (key payload accept)
      let members ← .ofExcept (payloadMembers payload)
      let artifact := saved.artifact members
      let record ← cache.artifactStore.save k artifact.content artifact.contentType
        artifact.metadata artifact.createdAt
      let record ← .ofExcept (cache.cacheRecordFromArtifact record)
      return some record) := by
  obtain ⟨rfl, rfl⟩ := of_admitted h
  unfold save
  rw [saved.content_eq, saved.tar]
  rfl

/-- A request without a key is an error. -/
lemma run_save_of_error (h : admitted result createdAt = some saved) {e : ArtifactError}
    (hkey : key payload accept = .error e) :
    (cache.save payload accept result createdAt).run FileCall.perform fs = (.error e, fs) := by
  rw [save_eq h, hkey]
  rfl

/-- A result that is admitted is kept for its request. -/
lemma run_save (hkeeps : cache.Keeps fs entries) (h : admitted result createdAt = some saved)
    {members : List (String × Json)} (hmembers : payload.toJson = some members)
    (hkey : key payload accept = .ok k) :
    ∃ fs', (cache.save payload accept result createdAt).run FileCall.perform fs =
        (.ok (some (saved.record cache k)), fs') ∧
      cache.Keeps fs' (Function.update entries k (some (members, saved))) := by
  have hsafe := isSafeArtifactKey_key hkey
  have htext (text : Option String) : (Json.ofText text).HasLiterals := by
    cases text <;> trivial
  have hliterals : Json.MembersHaveLiterals (metadata members saved.result) :=
    ⟨(PyDict.of_toJson hmembers).1, trivial, htext _, htext _, trivial⟩
  obtain ⟨fs', hrun, hkeeps'⟩ := LocalArtifactStore.run_save suffixInUse hkeeps hsafe
    (saved.artifact members) hliterals
  refine ⟨fs', ?_, ?_⟩
  · have hpayload : payloadMembers payload = .ok members := by
      rw [payloadMembers, hmembers]
    rw [save_eq h, hkey, hpayload, Program.ofExcept_ok, Program.ret_bind, Program.ofExcept_ok,
      Program.ret_bind, Program.run_bind_of_ok hrun, cacheRecordFromArtifact_eq hsafe]
    rfl
  · let artifactOf (entry : List (String × Json) × SavedResult) := entry.2.artifact entry.1
    have hentries := Function.comp_update (Option.map artifactOf) entries k (some (members, saved))
    have hkept : cache.artifactStore.Keeps fs'
        (Option.map artifactOf ∘ Function.update entries k (some (members, saved))) := by
      rw [hentries]
      exact hkeeps'
    exact hkept

end Runs

end Operations

end FourCastNetResultCache

end Earth2Sandbox
