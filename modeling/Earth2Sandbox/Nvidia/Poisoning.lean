import Earth2Sandbox.Nvidia.CacheMap

/-!
# Bad responses and the cache

Point forecasts all make the same request, so that the cache of a provider has at most one
response for them: the first one that was not refused.  It is served from then on, whether or not
the post-processor can make anything of it.

`NotPoisoned` is what one would like of a run of point forecasts: a response that the
post-processor can make nothing of, at any coordinates, is never served to a later call, and the
next call contacts the hosted API again.  `notPoisoned_iff` says when this is so: no call but the
last may receive such a response with a tar content type, which is all that the cache looks at.
-/

namespace Earth2Sandbox

/-- A call of `get_point_forecast_with_diagnostics`, with the readings of the clocks. -/
structure PointCall where
  latitude : ℚ
  longitude : ℚ
  generatedAt : Time
  createdAt : String

namespace FourCastNetForecastProvider

section Library

variable [Library] [FloatRepr] [ArchiveReader] (provider : FourCastNetForecastProvider)
  (server : HostedServer)

/-- How a call ends, and the world after it. -/
def performPoint (world : ProviderWorld) (call : PointCall) :
    Except ProviderFailure ForecastProviderResult × ProviderWorld :=
  (provider.getPointForecastWithDiagnostics call.latitude call.longitude call.generatedAt
    call.createdAt).run (performProviderCall server) world

/-- The world after a sequence of calls. -/
def worldAfter (world : ProviderWorld) (calls : List PointCall) : ProviderWorld :=
  calls.foldl (fun world call => (provider.performPoint server world call).2) world

/-! ## Bad responses -/

/-- The call sends a request to the server. -/
def Contacts (world : ProviderWorld) (call : PointCall) : Prop :=
  (provider.performPoint server world call).2.log ≠ world.log

/-- The call contacts the hosted API, and this result comes of it. -/
def Receives (world : ProviderWorld) (call : PointCall)
    (result : FourCastNetHostedInferenceResult) : Prop :=
  provider.Contacts server world call ∧
    ((provider.client.runHostedInference pointRequest).dialogue server world.log).1 = .ok result

omit [Library] in
/-- The post-processor fails on the result for all coordinates. -/
def Unusable (result : FourCastNetHostedInferenceResult) : Prop :=
  ∀ latitude longitude : ℚ, -90 ≤ latitude → latitude ≤ 90 → -180 ≤ longitude → longitude ≤ 180 →
    ∀ generatedAt, ∃ error, FourCastNetPostProcessor.buildForecastSummaryFromHostedResult result
      pointRequest latitude longitude generatedAt = .error error

omit [Library] in
/-- The result can be decoded for the coordinates of the call. -/
def Decodable (result : FourCastNetHostedInferenceResult) (call : PointCall) : Prop :=
  ∃ forecast, forecastOf call.latitude call.longitude call.generatedAt result = .ok forecast

omit [ArchiveReader] in
/-- The cache serves the result to a point forecast. -/
def Serves (cache : FourCastNetResultCache) (world : ProviderWorld)
    (result : FourCastNetHostedInferenceResult) : Prop :=
  ∃ content record, ((cache.load (FourCastNetNimClient.buildHostedInferencePayload pointRequest)
      pointRequest.accept.text).run FileCall.perform world.files).1 = .ok (some (content, record)) ∧
    result.rawContent = some content ∧ record.contentType = result.contentType

/-- A result that the post-processor fails on for all coordinates is not served to a later call;
the next call contacts the hosted API, and succeeds when it receives something decodable. -/
def NotPoisoned (cache : FourCastNetResultCache) (world : ProviderWorld) (calls : List PointCall) :
    Prop :=
  ∀ before call after result, calls = before ++ call :: after →
    provider.Receives server (provider.worldAfter server world before) call result →
    Unusable result →
    (∀ between later rest, after = between ++ later :: rest →
      ¬ Serves cache (provider.worldAfter server world (before ++ call :: between)) result) ∧
    ∀ later rest, after = later :: rest →
      let world' := provider.worldAfter server world (before ++ [call])
      provider.Contacts server world' later ∧
        ∀ response, provider.Receives server world' later response → Decodable response later →
          ∃ forecast, (provider.performPoint server world' later).1 = .ok forecast

/-! ## What the cache holds -/

omit [Library] [ArchiveReader] in
/-- The payload of a point forecast as `json.dumps` sees it. -/
def pointMembers : List (String × Json) :=
  (PyDict.toJson (FourCastNetNimClient.buildHostedInferencePayload pointRequest)).getD []

omit [ArchiveReader] in
/-- The key of point forecasts. -/
def pointKey : String :=
  Library.sha256 (encodeUtf8
    (FourCastNetResultCache.serialized pointRequest.accept.text pointMembers))

omit [ArchiveReader] in
/-- The cache has this response for point forecasts, and no other response. -/
def Holds (cache : FourCastNetResultCache) (world : ProviderWorld)
    (latest : Option FourCastNetResultCache.SavedResult) : Prop :=
  cache.Keeps world.files
    (Function.update (fun _ => none) pointKey (latest.map fun saved => (pointMembers, saved)))

section Steps

variable {provider server} {cache : FourCastNetResultCache} {world : ProviderWorld}
  {latest : Option FourCastNetResultCache.SavedResult} {call : PointCall}

omit [Library] [ArchiveReader] in
lemma toJson_pointPayload :
    PyDict.toJson (FourCastNetNimClient.buildHostedInferencePayload pointRequest) =
      some pointMembers := by
  have hscalars : ∀ entry ∈ FourCastNetNimClient.buildHostedInferencePayload pointRequest,
      ∀ b, entry.2 ≠ .object b := by
    simp [FourCastNetNimClient.buildHostedInferencePayload, pointRequest]
  obtain ⟨members, hmembers⟩ := PyDict.exists_toJson hscalars
  rw [pointMembers, hmembers]
  rfl

omit [ArchiveReader] in
lemma key_pointPayload :
    FourCastNetResultCache.key (FourCastNetNimClient.buildHostedInferencePayload pointRequest)
      pointRequest.accept.text = .ok pointKey :=
  FourCastNetResultCache.key_eq_ok_iff.mpr ⟨_, toJson_pointPayload, rfl⟩

omit [ArchiveReader] in
lemma holds_of_vacant (h : cache.artifactStore.Vacant world.files) : Holds cache world none := by
  have hnone : Function.update (fun _ => none) pointKey
      ((none : Option FourCastNetResultCache.SavedResult).map fun saved => (pointMembers, saved)) =
      fun _ => none :=
    Function.update_eq_self (f := fun _ => none) pointKey
  rw [Holds, hnone]
  exact LocalArtifactStore.keeps_of_vacant h

omit [ArchiveReader] in
lemma Holds.load (h : Holds cache world latest) :
    (cache.load (FourCastNetNimClient.buildHostedInferencePayload pointRequest)
        pointRequest.accept.text).run FileCall.perform world.files =
      (.ok (latest.map fun saved => (saved.content, saved.record cache pointKey)),
        world.files) := by
  rw [FourCastNetResultCache.run_load h, key_pointPayload]
  dsimp only [Except.map]
  rw [Function.update_self, Option.map_map]
  rfl

/-! ## What a call does -/

omit [Library] [FloatRepr] [ArchiveReader] in
/-- Point forecasts are supported: the API is hosted and has a key. -/
def Supported (provider : FourCastNetForecastProvider) : Prop :=
  provider.client.mode = .hosted ∧ orText provider.client.apiKey none ≠ none

omit [Library] [FloatRepr] [ArchiveReader] in
lemma run_getStatus_of_supported (h : provider.Supported) (server : HostedServer)
    (world : ProviderWorld) :
    ∃ status, provider.getStatus.run (performProviderCall server) world = (.ok status, world) ∧
      status.supportsPointForecast = true := by
  obtain ⟨hmode, hkey⟩ := h
  unfold getStatus FourCastNetNimClient.getReadinessStatus
  rw [if_pos hmode]
  exact ⟨_, rfl, by simp [hmode, hkey]⟩

omit [FloatRepr] [ArchiveReader] in
lemma not_receives_of_not_supported (h : ¬ provider.Supported) {log : HostedExchange}
    {request : FourCastNetHostedInferenceRequest} {result : FourCastNetHostedInferenceResult} :
    ((provider.client.runHostedInference request).dialogue server log).1 ≠ .ok result := by
  unfold FourCastNetNimClient.runHostedInference
  split
  · intro heq
    cases heq
  · next hmode =>
    split
    · intro heq
      cases heq
    · next hkey => exact absurd ⟨not_not.mp hmode, by simp [hkey]⟩ h

omit [FloatRepr] [ArchiveReader] in
lemma length_lt_dialogue (h : provider.Supported) (server : HostedServer) (log : HostedExchange)
    (request : FourCastNetHostedInferenceRequest) :
    log.length <
      ((provider.client.runHostedInference request).dialogue server log).2.length := by
  obtain ⟨hmode, hkey⟩ := h
  unfold FourCastNetNimClient.runHostedInference
  rw [if_neg (not_not.mpr hmode)]
  split
  · next hnone => exact absurd hnone hkey
  · unfold FourCastNetNimClient.hostedExchange FourCastNetNimClient.send
    simp only [Program.call_bind, Program.mapError, Program.dialogue]
    exact (Program.dialogue_suffix server _ (_ :: log)).length_le

/-- What a supported call does after it has the result of the exchange. -/
lemma performPoint_of_supported (h : provider.Supported) :
    provider.performPoint server world call =
      let run := (provider.runHostedInferenceWithCache pointRequest call.createdAt).run
        (performProviderCall server) world
      ((run.1.bind (forecastOf call.latitude call.longitude call.generatedAt)).mapError
        asUnavailable, run.2) := by
  obtain ⟨status, hstatus, hsupports⟩ := run_getStatus_of_supported h server world
  unfold performPoint getPointForecastWithDiagnostics
  rw [Program.run_bind_of_ok hstatus, hsupports]
  dsimp only
  rw [if_neg (by decide), Program.run_mapError, Program.run_bind_ofExcept]

/-! ## What a call does to the cache -/

omit [ArchiveReader] in
/-- What the cache has is returned, and nothing changes. -/
lemma run_cached (hcache : provider.resultCache = some cache)
    {saved : FourCastNetResultCache.SavedResult} (h : Holds cache world (some saved))
    (createdAt : String) :
    (provider.runHostedInferenceWithCache pointRequest createdAt).run (performProviderCall server)
        world =
      (.ok (provider.cachedResult (FourCastNetNimClient.buildHostedInferencePayload pointRequest)
        saved.content (saved.record cache pointKey)), world) := by
  unfold runHostedInferenceWithCache
  rw [hcache]
  dsimp only
  rw [Program.run_bind_of_ok (run_files_of_ok server world h.load)]
  rfl

omit [ArchiveReader] in
/-- An exchange that fails leaves the cache empty. -/
lemma run_failed (hcache : provider.resultCache = some cache) (h : Holds cache world none)
    {error : FourCastNetInferenceError}
    (herror : ((provider.client.runHostedInference pointRequest).dialogue server world.log).1 =
      .error error) (createdAt : String) :
    (provider.runHostedInferenceWithCache pointRequest createdAt).run (performProviderCall server)
        world =
      (.error (.inference error),
        { world with
          log := ((provider.client.runHostedInference pointRequest).dialogue server
            world.log).2 }) := by
  unfold runHostedInferenceWithCache
  rw [hcache]
  dsimp only
  rw [Program.run_bind_of_ok (run_files_of_ok server world h.load)]
  exact Program.run_bind_of_error (run_hosted_of_error server world herror)

omit [ArchiveReader] in
/-- A result is returned, and the cache has it unless it was refused. -/
lemma run_received (hcache : provider.resultCache = some cache) (h : Holds cache world none)
    {result : FourCastNetHostedInferenceResult}
    (hresult : ((provider.client.runHostedInference pointRequest).dialogue server world.log).1 =
      .ok result) (createdAt : String) :
    ∃ files status id,
      (provider.runHostedInferenceWithCache pointRequest createdAt).run
          (performProviderCall server) world =
        (.ok { result with cacheStatus := status, cachedArtifactId := id },
          ⟨files, ((provider.client.runHostedInference pointRequest).dialogue server
            world.log).2⟩) ∧
      Holds cache ⟨files, ((provider.client.runHostedInference pointRequest).dialogue server
        world.log).2⟩ (FourCastNetResultCache.admitted result createdAt) := by
  unfold runHostedInferenceWithCache
  rw [hcache]
  dsimp only
  rw [Program.run_bind_of_ok (run_files_of_ok server world h.load)]
  dsimp only [Option.map]
  rw [Program.run_bind_of_ok (run_hosted_of_ok server world hresult)]
  cases hadmitted : FourCastNetResultCache.admitted result createdAt with
  | none =>
    refine ⟨world.files, .miss, result.cachedArtifactId, ?_, h⟩
    rw [Program.run_bind_of_ok (run_files_of_ok server _
      (FourCastNetResultCache.run_save_of_refused hadmitted))]
    rfl
  | some saved =>
    obtain ⟨files, hsave, hkeeps⟩ :=
      FourCastNetResultCache.run_save h hadmitted toJson_pointPayload key_pointPayload
    refine ⟨files, .stored, some pointKey, ?_, ?_⟩
    · have hstored := run_files_of_ok server
        { world with
          log := ((provider.client.runHostedInference pointRequest).dialogue server
            world.log).2 } hsave
      rw [Program.run_bind_of_ok hstored]
      rfl
    · rw [Function.update_idem] at hkeeps
      exact hkeeps

omit [Library] in
/-- The marks of the cache on a result do not matter to the post-processor. -/
lemma decodable_marked {result : FourCastNetHostedInferenceResult} (h : Decodable result call)
    (status : FourCastNetCacheStatus) (id : Option String) :
    Decodable { result with cacheStatus := status, cachedArtifactId := id } call := by
  obtain ⟨forecast, hforecast⟩ := h
  unfold forecastOf at hforecast
  split at hforecast
  · cases hforecast
  · next hmessage =>
    split at hforecast
    · cases hforecast
    · next summary hsummary =>
      let marked := { result with cacheStatus := status, cachedArtifactId := id }
      refine ⟨⟨summary, buildResultDiagnostics marked⟩, ?_⟩
      have hmarked : FourCastNetPostProcessor.buildForecastSummaryFromHostedResult marked
          pointRequest call.latitude call.longitude call.generatedAt = .ok summary := hsummary
      unfold forecastOf
      rw [if_neg hmessage, hmarked]

/-- A call that the cache answers changes nothing. -/
lemma performPoint_cached (hsupported : provider.Supported)
    (hcache : provider.resultCache = some cache) {saved : FourCastNetResultCache.SavedResult}
    (h : Holds cache world (some saved)) : (provider.performPoint server world call).2 = world := by
  rw [performPoint_of_supported hsupported, run_cached hcache h]

/-- A call that the cache does not answer goes through an exchange. -/
lemma log_performPoint (hsupported : provider.Supported)
    (hcache : provider.resultCache = some cache) (h : Holds cache world none) :
    (provider.performPoint server world call).2.log =
      ((provider.client.runHostedInference pointRequest).dialogue server world.log).2 := by
  rw [performPoint_of_supported hsupported]
  cases hend : ((provider.client.runHostedInference pointRequest).dialogue server world.log).1 with
  | error error => rw [run_failed hcache h hend]
  | ok result =>
    obtain ⟨files, status, id, hrun, -⟩ := run_received hcache h hend call.createdAt
    rw [hrun]

/-- The hosted API is contacted exactly when the cache has nothing. -/
lemma contacts_iff (hsupported : provider.Supported) (hcache : provider.resultCache = some cache)
    (h : Holds cache world latest) : provider.Contacts server world call ↔ latest = none := by
  unfold Contacts
  cases latest with
  | none =>
    have hlonger := length_lt_dialogue hsupported server world.log pointRequest
    rw [log_performPoint hsupported hcache h]
    simp only [ne_eq, iff_true]
    intro heq
    rw [heq] at hlonger
    exact lt_irrefl _ hlonger
  | some saved => simp [performPoint_cached hsupported hcache h]

/-- What a call receives, the cache has, unless it is refused. -/
lemma holds_of_receives (hsupported : provider.Supported)
    (hcache : provider.resultCache = some cache) (h : Holds cache world none)
    {result : FourCastNetHostedInferenceResult}
    (hresult : ((provider.client.runHostedInference pointRequest).dialogue server world.log).1 =
      .ok result) (call : PointCall) :
    Holds cache (provider.performPoint server world call).2
      (FourCastNetResultCache.admitted result call.createdAt) := by
  obtain ⟨files, status, id, hrun, hholds⟩ := run_received hcache h hresult call.createdAt
  rw [performPoint_of_supported hsupported, hrun]
  exact hholds

/-- **Step.**  The cache has at most one response for point forecasts. -/
lemma exists_holds (hsupported : provider.Supported) (hcache : provider.resultCache = some cache)
    (h : Holds cache world latest) :
    ∃ latest', Holds cache (provider.performPoint server world call).2 latest' := by
  cases latest with
  | some saved =>
    rw [performPoint_cached hsupported hcache h]
    exact ⟨_, h⟩
  | none =>
    cases hend : ((provider.client.runHostedInference pointRequest).dialogue server
        world.log).1 with
    | error error =>
      rw [performPoint_of_supported hsupported, run_failed hcache h hend]
      exact ⟨none, h⟩
    | ok result => exact ⟨_, holds_of_receives hsupported hcache h hend call⟩

/-- **Run.**  So it is in every world of a run. -/
lemma exists_holds_worldAfter (hsupported : provider.Supported)
    (hcache : provider.resultCache = some cache) (hvacant : cache.artifactStore.Vacant world.files)
    (server : HostedServer) (calls : List PointCall) :
    ∃ latest, Holds cache (provider.worldAfter server world calls) latest := by
  induction calls using List.reverseRecOn with
  | nil => exact ⟨none, holds_of_vacant hvacant⟩
  | append_singleton calls call ih =>
    obtain ⟨latest, h⟩ := ih
    rw [worldAfter, List.foldl_append]
    exact exists_holds hsupported hcache h

end Steps

/-! ## When the cache is not poisoned -/

/-- Every call but the last that receives a result that the post-processor fails on for all
coordinates receives one that the cache refuses. -/
def RefusesUnusable (world : ProviderWorld) (calls : List PointCall) : Prop :=
  ∀ before call after result, calls = before ++ call :: after → after ≠ [] →
    provider.Receives server (provider.worldAfter server world before) call result →
    Unusable result →
    result.rawContent = none ∨ FourCastNetResultCache.isTar result.contentType = false

section Iff

variable {provider server} {cache : FourCastNetResultCache} {world : ProviderWorld}
  {calls : List PointCall}

lemma worldAfter_concat (before : List PointCall) (call : PointCall) :
    provider.worldAfter server world (before ++ [call]) =
      (provider.performPoint server (provider.worldAfter server world before) call).2 := by
  rw [worldAfter, List.foldl_append]
  rfl

omit [ArchiveReader] in
/-- What is served was admitted. -/
lemma not_serves_of_refused {latest : Option FourCastNetResultCache.SavedResult}
    (h : Holds cache world latest) {result : FourCastNetHostedInferenceResult}
    (hrefused : result.rawContent = none ∨
      FourCastNetResultCache.isTar result.contentType = false) : ¬ Serves cache world result := by
  rintro ⟨content, record, hload, hcontent, htype⟩
  rw [h.load] at hload
  obtain ⟨saved, -, hsaved⟩ := Option.map_eq_some_iff.mp (Except.ok.inj hload)
  obtain ⟨-, rfl⟩ := Prod.mk.inj hsaved
  rcases hrefused with hnone | htar
  · rw [hnone] at hcontent
    cases hcontent
  · rw [← htype] at htar
    exact Bool.false_ne_true (htar.symm.trans saved.tar)

/-- What a call receives means that point forecasts are supported and the cache was empty. -/
lemma holds_none_of_receives (hcache : provider.resultCache = some cache)
    (hvacant : cache.artifactStore.Vacant world.files) {before : List PointCall} {call : PointCall}
    {result : FourCastNetHostedInferenceResult}
    (h : provider.Receives server (provider.worldAfter server world before) call result) :
    provider.Supported ∧ Holds cache (provider.worldAfter server world before) none := by
  have hsupported : provider.Supported := by
    by_contra hnot
    exact not_receives_of_not_supported hnot h.2
  obtain ⟨latest, hholds⟩ := exists_holds_worldAfter hsupported hcache hvacant server before
  obtain rfl := (contacts_iff hsupported hcache hholds).mp h.1
  exact ⟨hsupported, hholds⟩

/-- An admitted result is not forgotten. -/
lemma refusesUnusable_of_notPoisoned (hcache : provider.resultCache = some cache)
    (hvacant : cache.artifactStore.Vacant world.files)
    (h : provider.NotPoisoned server cache world calls) :
    provider.RefusesUnusable server world calls := by
  intro before call after result hsplit hafter hreceives hunusable
  obtain ⟨later, rest, rfl⟩ := List.exists_cons_of_ne_nil hafter
  obtain ⟨hsupported, hholds⟩ := holds_none_of_receives hcache hvacant hreceives
  obtain ⟨hcontacts, -⟩ := (h before call _ result hsplit hreceives hunusable).2 later rest rfl
  rw [worldAfter_concat] at hcontacts
  have hnext := holds_of_receives hsupported hcache hholds hreceives.2 call
  exact FourCastNetResultCache.admitted_eq_none_iff.mp
    ((contacts_iff hsupported hcache hnext).mp hcontacts)

/-- Where unusable results are refused, the cache is as empty after one as before. -/
lemma notPoisoned_of_refusesUnusable (hcache : provider.resultCache = some cache)
    (hvacant : cache.artifactStore.Vacant world.files)
    (h : provider.RefusesUnusable server world calls) :
    provider.NotPoisoned server cache world calls := by
  intro before call after result hsplit hreceives hunusable
  obtain ⟨hsupported, hholds⟩ := holds_none_of_receives hcache hvacant hreceives
  have hrefused (hafter : after ≠ []) :=
    h before call after result hsplit hafter hreceives hunusable
  constructor
  · rintro between later rest rfl
    obtain ⟨latest, hlatest⟩ := exists_holds_worldAfter hsupported hcache hvacant server
      (before ++ call :: between)
    exact not_serves_of_refused hlatest (hrefused (by simp))
  · rintro later rest rfl world'
    have hnext : Holds cache world' none := by
      have hkept := holds_of_receives hsupported hcache hholds hreceives.2 call
      rw [FourCastNetResultCache.admitted_eq_none_iff.mpr (hrefused (by simp))] at hkept
      rw [← worldAfter_concat] at hkept
      exact hkept
    refine ⟨(contacts_iff hsupported hcache hnext).mpr rfl, fun response hresponse hdecodable => ?_⟩
    obtain ⟨files, status, id, hrun, -⟩ := run_received hcache hnext hresponse.2 later.createdAt
    obtain ⟨forecast, hforecast⟩ := decodable_marked hdecodable status id
    refine ⟨forecast, ?_⟩
    rw [performPoint_of_supported hsupported, hrun]
    dsimp only [Except.bind]
    rw [hforecast]
    rfl

end Iff

/-- **When the cache is not poisoned.**  A run of point forecasts, with any server, is as one would
like it exactly when each unusable result before its last call is refused by the cache, which looks
at the content type only. -/
theorem notPoisoned_iff {cache : FourCastNetResultCache} {world : ProviderWorld}
    (hcache : provider.resultCache = some cache)
    (hvacant : cache.artifactStore.Vacant world.files) (calls : List PointCall) :
    provider.NotPoisoned server cache world calls ↔
      provider.RefusesUnusable server world calls :=
  ⟨refusesUnusable_of_notPoisoned hcache hvacant, notPoisoned_of_refusesUnusable hcache hvacant⟩

end Library

/-! ## A poisoned cache -/

namespace SamplePoisoning

open FourCastNetResultCache.SampleCache

/-- A provider with a cache. -/
def sampleProvider : FourCastNetForecastProvider where
  client := exampleClient
  resultCache := some sampleCache

/-- Nothing is in the cache yet. -/
def sampleWorld : ProviderWorld where
  files := ⟨∅, []⟩
  log := []

/-- The server answers with a content that is no archive. -/
def brokenServer : HostedServer := fun _ _ => .ok
  { statusCode := 200
    headers := [("content-type", "application/x-tar")]
    content := sampleContent }

/-- What the first call receives. -/
def brokenResult : FourCastNetHostedInferenceResult :=
  exampleClient.buildHostedResult
    { statusCode := 200
      headers := [("content-type", "application/x-tar")]
      content := sampleContent }
    (FourCastNetNimClient.buildHostedInferencePayload pointRequest) none none 0 .inline false none

/-- A call for one location. -/
def sampleCall : PointCall := ⟨37, 127, 0, "2026-05-31T00:00:00+00:00"⟩

lemma brokenServer_answer :
    ((exampleClient.runHostedInference pointRequest).dialogue brokenServer []).1 =
      .ok brokenResult := by
  unfold FourCastNetNimClient.runHostedInference exampleClient FourCastNetNimClient.hostedExchange
    FourCastNetNimClient.resolveHostedResponse
  simp only [FourCastNetNimClient.send, orText, Program.mapError, Program.dialogue, brokenServer,
    ne_eq, not_true_eq_false, String.reduceEq, if_false, Program.call_bind, Program.ret_bind]
  rw [pollHosted_answered (by decide)]
  simp only [Program.ret_bind, FourCastNetNimClient.resolvePolled]
  rw [if_neg (by decide), if_neg (by decide)]
  rfl

lemma brokenResult_unusable : Unusable brokenResult := by
  intro latitude longitude _ _ _ _ generatedAt
  refine ⟨.postProcessing "No decodable FourCastNet NumPy arrays found.", ?_⟩
  have htar : FourCastNetResultCache.isTar brokenResult.contentType = true := by decide
  rw [buildForecastSummary_of_isTar htar rfl]
  rfl

lemma sampleWorld_vacant : sampleCache.artifactStore.Vacant sampleWorld.files :=
  ⟨fun path h => absurd h (AList.notMem_empty path), by decide⟩

lemma sampleProvider_supported : sampleProvider.Supported :=
  ⟨rfl, by decide⟩

/-- The first call receives something unusable, and the second one is answered from the cache. -/
theorem sampleProvider_poisoned :
    ¬ sampleProvider.NotPoisoned brokenServer sampleCache sampleWorld [sampleCall, sampleCall] := by
  intro h
  have hreceives : sampleProvider.Receives brokenServer sampleWorld sampleCall brokenResult :=
    ⟨(contacts_iff sampleProvider_supported rfl (holds_of_vacant sampleWorld_vacant)).mpr rfl,
      brokenServer_answer⟩
  have hrefused := refusesUnusable_of_notPoisoned rfl sampleWorld_vacant h [] sampleCall
    [sampleCall] brokenResult rfl (by decide) hreceives brokenResult_unusable
  have hadmitted : ¬ (brokenResult.rawContent = none ∨
      FourCastNetResultCache.isTar brokenResult.contentType = false) := by decide
  exact hadmitted hrefused

/-- The run of the example as a case of the equivalence. -/
theorem notPoisoned_iff_sample :
    sampleProvider.NotPoisoned brokenServer sampleCache sampleWorld [sampleCall, sampleCall] ↔
      sampleProvider.RefusesUnusable brokenServer sampleWorld [sampleCall, sampleCall] :=
  notPoisoned_iff sampleProvider brokenServer rfl sampleWorld_vacant _

end SamplePoisoning

end FourCastNetForecastProvider

end Earth2Sandbox
