import Earth2Sandbox.Nvidia.Provider

/-!
# The result cache is a map

A sequence of calls of a `FourCastNetResultCache` over a directory of its own is a map from
requests to results: a request is a payload, up to the order of its members, and an accepted
content type, and the result is the one of the latest `save` that was not refused.  `latestSave`
is that map; `cache_faithful` says that the files of the cache never tell anything else.

SHA-256 is a parameter of the model, and of its values it is only assumed that they tell the
requests of the sequence apart.
-/

namespace Earth2Sandbox

namespace FourCastNetResultCache

/-- A call of the cache. -/
inductive CacheCall where
  | load (payload : PyDict) (accept : String)
  | save (payload : PyDict) (accept : String) (result : FourCastNetHostedInferenceResult)
    (createdAt : String)

/-- The payload and the content type that a call is about. -/
def CacheCall.request : CacheCall → PyDict × String
  | load payload accept => (payload, accept)
  | save payload accept _ _ => (payload, accept)

section Library

variable [Library] [FloatRepr]

/-- The files after a call. -/
def CacheCall.files (cache : FourCastNetResultCache) (fs : FileSystem) : CacheCall → FileSystem
  | load payload accept => ((cache.load payload accept).run FileCall.perform fs).2
  | save payload accept result createdAt =>
    ((cache.save payload accept result createdAt).run FileCall.perform fs).2

/-- The files after a sequence of calls. -/
def filesAfter (cache : FourCastNetResultCache) (fs : FileSystem) (calls : List CacheCall) :
    FileSystem :=
  calls.foldl (CacheCall.files cache) fs

/-! ## The map -/

open Classical in
omit [Library] in
/-- What a call saves for a request. -/
noncomputable def CacheCall.savedFor (payload : PyDict) (accept : String) :
    CacheCall → Option SavedResult
  | load .. => none
  | save payload' accept' result createdAt =>
    if accept' = accept ∧ JsonIdentical payload' payload then admitted result createdAt else none

omit [Library] in
/-- What the latest `save` for a request has saved, of those that were not refused. -/
noncomputable def latestSave (payload : PyDict) (accept : String) (calls : List CacheCall) :
    Option SavedResult :=
  calls.reverse.findSome? (CacheCall.savedFor payload accept)

/-- The digests tell the texts of these requests apart. -/
def DigestsDistinguish (requests : List (PyDict × String)) : Prop :=
  ∀ request ∈ requests, ∀ request' ∈ requests, ∀ members members',
    request.1.toJson = some members → request'.1.toJson = some members' →
    Library.sha256 (encodeUtf8 (serialized request.2 members)) =
      Library.sha256 (encodeUtf8 (serialized request'.2 members')) →
    serialized request.2 members = serialized request'.2 members'

/-! ## What the directory holds -/

/-- What a call keeps under a key. -/
def CacheCall.keptUnder (k : String) : CacheCall → Option (List (String × Json) × SavedResult)
  | load .. => none
  | save payload accept result createdAt =>
    match payload.toJson with
    | none => none
    | some members =>
      if Library.sha256 (encodeUtf8 (serialized accept members)) = k then
        (admitted result createdAt).map fun saved => (members, saved)
      else none

section KeptUnder

variable {payload : PyDict} {accept k createdAt : String}
  {result : FourCastNetHostedInferenceResult}

lemma keptUnder_save_of_none (h : payload.toJson = none) :
    (CacheCall.save payload accept result createdAt).keptUnder k = none := by
  rw [CacheCall.keptUnder, h]

lemma keptUnder_save_of_some {members : List (String × Json)} (h : payload.toJson = some members) :
    (CacheCall.save payload accept result createdAt).keptUnder k =
      if Library.sha256 (encodeUtf8 (serialized accept members)) = k then
        (admitted result createdAt).map fun saved => (members, saved)
      else none := by
  rw [CacheCall.keptUnder, h]

end KeptUnder

/-- What the latest call that keeps something under a key keeps. -/
def kept (calls : List CacheCall) (k : String) : Option (List (String × Json) × SavedResult) :=
  calls.reverse.findSome? (CacheCall.keptUnder k)

variable {cache : FourCastNetResultCache} {fs : FileSystem}

lemma kept_append (calls : List CacheCall) (call : CacheCall) (k : String) :
    kept (calls ++ [call]) k = (call.keptUnder k).or (kept calls k) := by
  unfold kept
  rw [List.reverse_append, List.reverse_singleton, List.singleton_append, List.findSome?_cons]
  cases call.keptUnder k <;> rfl

lemma kept_append_of_none {calls : List CacheCall} {call : CacheCall}
    (h : ∀ k, call.keptUnder k = none) : kept (calls ++ [call]) = kept calls := by
  funext k
  rw [kept_append, h, Option.none_or]

/-- **Step.**  A call does to the directory what it does to the map. -/
lemma keeps_files {calls : List CacheCall} (h : cache.Keeps fs (kept calls)) (call : CacheCall) :
    cache.Keeps (call.files cache fs) (kept (calls ++ [call])) := by
  cases call with
  | load payload accept =>
    rw [kept_append_of_none fun _ => rfl]
    dsimp only [CacheCall.files]
    rw [run_load h]
    exact h
  | save payload accept result createdAt =>
    dsimp only [CacheCall.files]
    cases hmembers : payload.toJson with
    | none =>
      have hkey : key payload accept = .error .notSerializable := by
        rw [key, payloadMembers, hmembers]
        rfl
      rw [kept_append_of_none fun k => keptUnder_save_of_none hmembers]
      cases hadmitted : admitted result createdAt with
      | none =>
        rw [run_save_of_refused hadmitted]
        exact h
      | some saved =>
        rw [run_save_of_error hadmitted hkey]
        exact h
    | some members =>
      have hkey : key payload accept =
          .ok (Library.sha256 (encodeUtf8 (serialized accept members))) :=
        key_eq_ok_iff.mpr ⟨members, hmembers, rfl⟩
      cases hadmitted : admitted result createdAt with
      | none =>
        rw [run_save_of_refused hadmitted, kept_append_of_none fun k => by
          simp [keptUnder_save_of_some hmembers, hadmitted]]
        exact h
      | some saved =>
        obtain ⟨fs', hrun, hkeeps⟩ := run_save h hadmitted hmembers hkey
        have hentries : kept (calls ++ [.save payload accept result createdAt]) =
            Function.update (kept calls) (Library.sha256 (encodeUtf8 (serialized accept members)))
              (some (members, saved)) := by
          funext k
          rw [kept_append, keptUnder_save_of_some hmembers, hadmitted]
          by_cases hk : Library.sha256 (encodeUtf8 (serialized accept members)) = k
          · rw [if_pos hk, hk, Function.update_self]
            rfl
          · rw [if_neg hk, Function.update_of_ne (Ne.symm hk), Option.none_or]
        rw [hrun, hentries]
        exact hkeeps

/-- **Run.**  The directory holds what the calls have kept. -/
lemma keeps_filesAfter (hvacant : cache.artifactStore.Vacant fs) (calls : List CacheCall) :
    cache.Keeps (filesAfter cache fs calls) (kept calls) := by
  induction calls using List.reverseRecOn with
  | nil => exact LocalArtifactStore.keeps_of_vacant hvacant
  | append_singleton calls call ih =>
    rw [filesAfter, List.foldl_append]
    exact keeps_files ih call

/-- Under the key of a request the map has the latest save for it. -/
lemma kept_key {calls : List CacheCall} {payload : PyDict} {accept k : String}
    (hdigests : DigestsDistinguish ((payload, accept) :: calls.map CacheCall.request))
    (hkey : key payload accept = .ok k) :
    (kept calls k).map Prod.snd = latestSave payload accept calls := by
  obtain ⟨members, hmembers, rfl⟩ := key_eq_ok_iff.mp hkey
  have hcall : ∀ call ∈ calls.reverse,
      (call.keptUnder (Library.sha256 (encodeUtf8 (serialized accept members)))).map Prod.snd =
        call.savedFor payload accept := by
    intro call hcall
    cases call with
    | load payload' accept' => rfl
    | save payload' accept' result createdAt =>
      have hsame : ∀ members', payload'.toJson = some members' →
          (Library.sha256 (encodeUtf8 (serialized accept' members')) =
            Library.sha256 (encodeUtf8 (serialized accept members)) ↔
              accept' = accept ∧ JsonIdentical payload' payload) := by
        intro members' hmembers'
        constructor
        · intro hdigest
          have hmem : (payload', accept') ∈ (payload, accept) :: calls.map CacheCall.request :=
            List.mem_cons_of_mem _ (List.mem_map_of_mem (List.mem_reverse.mp hcall))
          have htext := hdigests _ hmem _ List.mem_cons_self members' members hmembers' hmembers
            hdigest
          obtain ⟨haccept, hlookup⟩ := (serialized_eq_iff hmembers' hmembers).mp htext
          exact ⟨haccept, members', members, hmembers', hmembers, hlookup⟩
        · rintro ⟨rfl, members₁, members₂, h₁, h₂, hlookup⟩
          obtain rfl := Option.some.inj (hmembers'.symm.trans h₁)
          obtain rfl := Option.some.inj (hmembers.symm.trans h₂)
          rw [(serialized_eq_iff h₁ h₂).mpr ⟨rfl, hlookup⟩]
      rw [CacheCall.savedFor]
      cases hmembers' : payload'.toJson with
      | none =>
        have hother : ¬ JsonIdentical payload' payload := by
          rintro ⟨members', _, h, -⟩
          rw [hmembers'] at h
          cases h
        rw [keptUnder_save_of_none hmembers', if_neg fun h : accept' = accept ∧ _ => hother h.2]
        rfl
      | some members' =>
        rw [keptUnder_save_of_some hmembers']
        by_cases h : accept' = accept ∧ JsonIdentical payload' payload
        · rw [if_pos ((hsame members' hmembers').mpr h), if_pos h, Option.map_map]
          exact Option.map_id'
        · rw [if_neg (mt (hsame members' hmembers').mp h), if_neg h]
          rfl
  rw [kept, latestSave, List.map_findSome?, ← List.head?_filterMap, ← List.head?_filterMap]
  exact congrArg List.head? (List.filterMap_congr hcall)

/-- The digests tell fewer requests apart, too. -/
lemma DigestsDistinguish.mono {requests requests' : List (PyDict × String)}
    (h : DigestsDistinguish requests') (hsub : requests ⊆ requests') :
    DigestsDistinguish requests :=
  fun request hrequest request' hrequest' =>
    h request (hsub hrequest) request' (hsub hrequest')

lemma run_load_filesAfter (hvacant : cache.artifactStore.Vacant fs) {calls : List CacheCall}
    {payload : PyDict} {accept : String}
    (hdigests : DigestsDistinguish ((payload, accept) :: calls.map CacheCall.request)) :
    (cache.load payload accept).run FileCall.perform (filesAfter cache fs calls) =
      ((key payload accept).map fun k => (latestSave payload accept calls).map fun saved =>
        (saved.content, saved.record cache k), filesAfter cache fs calls) := by
  rw [run_load (keeps_filesAfter hvacant calls)]
  cases hkey : key payload accept with
  | error e => rfl
  | ok k =>
    rw [← kept_key hdigests hkey]
    dsimp only [Except.map]
    rw [Option.map_map]
    rfl

variable [ArchiveReader]

/-- **The cache is a map.**  After every sequence of calls, `load` returns the content, the content
type, the length and the digest of the latest save for a payload that is the same JSON object and
the same content type, of those that were not refused, and nothing when there was none; it
changes no file.  A payload of values that JSON has is never an error.  A call that saves nothing
for the request does not change what `load` returns, and a refused `save` changes no file.  The
forecast that is built from what `load` returns is the one that is built from the saved result. -/
theorem cache_faithful (hvacant : cache.artifactStore.Vacant fs) (calls : List CacheCall)
    (payload : PyDict) (accept : String)
    (hdigests : DigestsDistinguish ((payload, accept) :: calls.map CacheCall.request)) :
    (cache.load payload accept).run FileCall.perform (filesAfter cache fs calls) =
        ((key payload accept).map fun k => (latestSave payload accept calls).map fun saved =>
          (saved.content, saved.record cache k), filesAfter cache fs calls) ∧
      ((∀ entry ∈ payload, ∀ b, entry.2 ≠ .object b) → ∃ k, key payload accept = .ok k) ∧
      (∀ before call after, calls = before ++ call :: after →
        call.savedFor payload accept = none →
        ((cache.load payload accept).run FileCall.perform
            (filesAfter cache fs (before ++ [call]))).1 =
          ((cache.load payload accept).run FileCall.perform (filesAfter cache fs before)).1) ∧
      (∀ payload' accept' result createdAt, admitted result createdAt = none →
        (cache.save payload' accept' result createdAt).run FileCall.perform
          (filesAfter cache fs calls) = (.ok none, filesAfter cache fs calls)) ∧
      ∀ (provider : FourCastNetForecastProvider) (request : FourCastNetHostedInferenceRequest)
        (latitude longitude : ℚ) (generatedAt : Time) (content : Bytes)
        (record : FourCastNetCacheRecord),
        ((cache.load payload accept).run FileCall.perform (filesAfter cache fs calls)).1 =
          .ok (some (content, record)) →
        ∃ saved, latestSave payload accept calls = some saved ∧
          FourCastNetPostProcessor.buildForecastSummaryFromHostedResult
              (provider.cachedResult payload content record) request latitude longitude
              generatedAt =
            FourCastNetPostProcessor.buildForecastSummaryFromHostedResult saved.result request
              latitude longitude generatedAt := by
  refine ⟨run_load_filesAfter hvacant hdigests, fun hscalars => ?_, ?_, ?_, ?_⟩
  · obtain ⟨members, hmembers⟩ := PyDict.exists_toJson hscalars
    exact ⟨_, key_eq_ok_iff.mpr ⟨members, hmembers, rfl⟩⟩
  · intro before call after hcalls hnone
    have hsplit : calls = before ++ [call] ++ after := by
      rw [hcalls, List.append_assoc, List.singleton_append]
    have hsub : (before ++ [call]).map CacheCall.request ⊆ calls.map CacheCall.request := by
      rw [hsplit]
      exact List.map_subset _ (List.subset_append_left _ _)
    have hbefore : before.map CacheCall.request ⊆ (before ++ [call]).map CacheCall.request :=
      List.map_subset _ (List.subset_append_left _ _)
    have hlatest : latestSave payload accept (before ++ [call]) =
        latestSave payload accept before := by
      unfold latestSave
      rw [List.reverse_append, List.reverse_singleton, List.singleton_append, List.findSome?_cons,
        hnone]
    rw [run_load_filesAfter hvacant (hdigests.mono (List.cons_subset_cons _ hsub)),
      run_load_filesAfter hvacant
        (hdigests.mono (List.cons_subset_cons _ (List.Subset.trans hbefore hsub))),
      hlatest]
  · intro payload' accept' result createdAt hrefused
    exact run_save_of_refused hrefused
  · intro provider request latitude longitude generatedAt content record hloaded
    rw [run_load_filesAfter hvacant hdigests] at hloaded
    cases hkey : key payload accept with
    | error e =>
      rw [hkey] at hloaded
      cases hloaded
    | ok k =>
      rw [hkey] at hloaded
      obtain ⟨saved, hlatest, hentry⟩ := Option.map_eq_some_iff.mp (Except.ok.inj hloaded)
      obtain ⟨rfl, rfl⟩ := Prod.mk.inj hentry
      refine ⟨saved, hlatest, ?_⟩
      have htar : isTar (provider.cachedResult payload saved.content
          (saved.record cache k)).contentType = true := saved.tar
      rw [FourCastNetForecastProvider.buildForecastSummary_of_isTar htar rfl,
        FourCastNetForecastProvider.buildForecastSummary_of_isTar saved.tar saved.content_eq]

end Library

/-! ## A cache with two requests -/

namespace SampleCache

/-- The content of a response. -/
def sampleContent : Bytes := [116, 97, 114]

/-- The digest of the request with `input_id` 0. -/
def sampleKey : String := "6a21e5a0177a2796aefe94ef8d4493b8991dad54081e06740bc54b8418f7908b"

/-- The digest of the request with `input_id` 1. -/
def otherKey : String := "13b9f303372b362c97bb3a8684d9944b76c042dcc63db1453b1fa9f682cf9884"

/-- The request with an `input_id`, as a payload. -/
def samplePayload (inputId : ℤ) : PyDict :=
  [("input_id", .int inputId), ("variables", .str "w10m,t2m,msl,tcwv,z500"),
    ("simulation_length", .int 4), ("ensemble_size", .int 1), ("noise_amplitude", .int 0)]

/-- The members of such a payload. -/
def sampleMembers (inputId : ℤ) : List (String × Json) :=
  [("input_id", .number (toString inputId)), ("variables", .str "w10m,t2m,msl,tcwv,z500"),
    ("simulation_length", .number "4"), ("ensemble_size", .number "1"),
    ("noise_amplitude", .number "0")]

/-- What the key of such a request is the digest of. -/
def sampleBytes (inputId : ℤ) : Bytes :=
  encodeUtf8 (serialized "application/x-tar" (sampleMembers inputId))

/-- The digests of what occurs in the example. -/
scoped instance library : Library :=
  .ofDigests [(sampleBytes 0, sampleKey), (sampleBytes 1, otherKey),
    (sampleContent, "90aebae315675cbf04612de4f7d5874850f48e0b8dd82becbeaa47ca93f5ebfb")]

scoped instance floatRepr : FloatRepr := .ofTexts []

scoped instance archiveReader : ArchiveReader := .ofArchives []

/-- A response of the hosted API. -/
def sampleResult (content : Bytes) : FourCastNetHostedInferenceResult where
  endpoint := "https://climate.api.nvidia.com/v1/nvidia/fourcastnet"
  statusCode := 200
  contentType := "application/x-tar"
  byteLength := content.length
  sha256 := Library.sha256 content
  requestPayload := samplePayload 0
  rawContent := some content

/-- The response as it is saved. -/
def sampleSaved : SavedResult where
  result := sampleResult sampleContent
  content := sampleContent
  createdAt := "2026-05-31T00:00:00+00:00"
  content_eq := rfl
  tar := by decide

def sampleCache : FourCastNetResultCache where
  root := ["srv", "cache"]
  root_resolved := by decide

/-- Two responses are saved, each for a request of its own. -/
def sampleCalls : List CacheCall :=
  [.save (samplePayload 0) "application/x-tar" (sampleResult sampleContent)
      "2026-05-31T00:00:00+00:00",
    .save (samplePayload 1) "application/x-tar" (sampleResult []) "2026-05-31T00:00:01+00:00"]

lemma toJson_samplePayload (inputId : ℤ) :
    (samplePayload inputId).toJson = some (sampleMembers inputId) := rfl

lemma toJson_reverse :
    PyDict.toJson (samplePayload 0).reverse = some (sampleMembers 0).reverse := rfl

lemma lookup_reverse (name : String) :
    (sampleMembers 0).reverse.lookup name = (sampleMembers 0).lookup name := by
  refine (Dictionary.lookup_of_perm (List.reverse_perm _).symm ?_ name).symm
  decide

lemma serialized_reverse (accept : String) :
    serialized accept (sampleMembers 0).reverse = serialized accept (sampleMembers 0) :=
  (serialized_eq_iff toJson_reverse (toJson_samplePayload 0)).mpr ⟨rfl, lookup_reverse⟩

lemma jsonIdentical_sample_iff (inputId : ℤ) :
    JsonIdentical (samplePayload inputId) (samplePayload 0).reverse ↔
      toString inputId = "0" := by
  constructor
  · rintro ⟨members, members', h, h', hlookup⟩
    cases h
    cases h'
    exact Json.number.inj (Option.some.inj (hlookup "input_id"))
  · intro h
    refine ⟨_, _, toJson_samplePayload inputId, toJson_reverse, fun name => ?_⟩
    rw [lookup_reverse]
    simp only [sampleMembers, h]
    rfl

lemma sampleBytes_ne : sampleBytes 1 ≠ sampleBytes 0 := by
  intro heq
  have htext := encodeUtf8_injective heq
  obtain ⟨-, hlookup⟩ :=
    (serialized_eq_iff (toJson_samplePayload 1) (toJson_samplePayload 0)).mp htext
  have hnumber := Json.number.inj (Option.some.inj (hlookup "input_id"))
  revert hnumber
  decide

lemma sha256_sampleBytes_zero : Library.sha256 (sampleBytes 0) = sampleKey := by
  change (List.lookup (sampleBytes 0) _).getD _ = _
  rw [List.lookup_cons_self]
  rfl

lemma sha256_sampleBytes_one : Library.sha256 (sampleBytes 1) = otherKey := by
  change (List.lookup (sampleBytes 1) _).getD _ = _
  rw [List.lookup_cons, beq_false_of_ne sampleBytes_ne]
  dsimp only
  rw [List.lookup_cons_self]
  rfl

/-- The requests of the example. -/
def sampleRequests : List (PyDict × String) :=
  ((samplePayload 0).reverse, "application/x-tar") :: sampleCalls.map CacheCall.request

lemma serialized_sampleRequests {request : PyDict × String} (hrequest : request ∈ sampleRequests)
    {members : List (String × Json)} (h : PyDict.toJson request.1 = some members) :
    encodeUtf8 (serialized request.2 members) ∈ [sampleBytes 0, sampleBytes 1] := by
  have hcases : request = ((samplePayload 0).reverse, "application/x-tar") ∨
      request = (samplePayload 0, "application/x-tar") ∨
      request = (samplePayload 1, "application/x-tar") := by
    simpa [sampleRequests, sampleCalls, CacheCall.request] using hrequest
  rcases hcases with rfl | rfl | rfl
  · obtain rfl := Option.some.inj (toJson_reverse.symm.trans h)
    rw [serialized_reverse]
    exact List.mem_cons_self
  · obtain rfl := Option.some.inj ((toJson_samplePayload 0).symm.trans h)
    exact List.mem_cons_self
  · obtain rfl := Option.some.inj ((toJson_samplePayload 1).symm.trans h)
    exact List.mem_cons_of_mem _ List.mem_cons_self

lemma sampleRequests_distinguish : DigestsDistinguish sampleRequests := by
  intro request hrequest request' hrequest' members members' h h' hdigest
  refine encodeUtf8_injective ?_
  have htext := serialized_sampleRequests hrequest h
  have htext' := serialized_sampleRequests hrequest' h'
  simp only [List.mem_cons, List.not_mem_nil, or_false] at htext htext'
  have hkeys : sampleKey ≠ otherKey := by decide
  rcases htext with htext | htext <;> rcases htext' with htext' | htext'
  · rw [htext, htext']
  · rw [htext, htext', sha256_sampleBytes_zero, sha256_sampleBytes_one] at hdigest
    exact absurd hdigest hkeys
  · rw [htext, htext', sha256_sampleBytes_zero, sha256_sampleBytes_one] at hdigest
    exact absurd hdigest.symm hkeys
  · rw [htext, htext']

/-- The first response is found again when its request is written in another order. -/
theorem cache_faithful_reordered :
    ((sampleCache.load (samplePayload 0).reverse "application/x-tar").run FileCall.perform
        (filesAfter sampleCache ⟨∅, []⟩ sampleCalls)).1 =
      .ok (some (sampleContent, sampleSaved.record sampleCache sampleKey)) := by
  have hvacant : sampleCache.artifactStore.Vacant ⟨∅, []⟩ :=
    ⟨fun path h => absurd h (AList.notMem_empty path), by decide⟩
  have hrun := (cache_faithful hvacant sampleCalls _ _ sampleRequests_distinguish).1
  have hkey : key (samplePayload 0).reverse "application/x-tar" = .ok sampleKey := by
    refine key_eq_ok_iff.mpr ⟨_, toJson_reverse, ?_⟩
    rw [serialized_reverse]
    exact sha256_sampleBytes_zero.symm
  have hlatest : latestSave (samplePayload 0).reverse "application/x-tar" sampleCalls =
      some sampleSaved := by
    have hother : ¬ JsonIdentical (samplePayload 1) (samplePayload 0).reverse := by
      rw [jsonIdentical_sample_iff]
      decide
    have hsame : JsonIdentical (samplePayload 0) (samplePayload 0).reverse := by
      rw [jsonIdentical_sample_iff]
      decide
    change List.findSome? _
      [CacheCall.save (samplePayload 1) _ _ _, .save (samplePayload 0) _ _ _] = _
    rw [List.findSome?_cons, CacheCall.savedFor, if_neg fun h => hother h.2]
    dsimp only
    rw [List.findSome?_cons, CacheCall.savedFor, if_pos ⟨rfl, hsame⟩]
    rfl
  rw [hrun, hkey, hlatest]
  rfl

end SampleCache

end FourCastNetResultCache

end Earth2Sandbox
