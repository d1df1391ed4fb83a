import Earth2Sandbox.Commands.Calls
import Earth2Sandbox.Nvidia.Decoder
import Earth2Sandbox.Nvidia.Exchange
import Earth2Sandbox.Storage.ResultCache

/-!
# The FourCastNet provider

`FourCastNetForecastProvider` answers a point forecast from the result cache, and from the hosted
API when the cache has nothing for the request.  It is a program over file calls and requests; a
world is the files and the exchange with a server so far.

`run_files` and `run_hosted` say what its two parts do to a world.
-/

namespace Earth2Sandbox

/-! ## Calls -/

/-- A file call or a request. -/
inductive ProviderCall where
  | file (call : FileCall)
  | hosted (request : HostedRequest)

/-- The reply to a call. -/
abbrev ProviderReply : ProviderCall → Type
  | .file call => FileReply call
  | .hosted request => HostedReply request

/-- What leaves the provider or a part of it: a `ForecastProviderUnavailableError`, an error that
becomes one, or any other exception of the decoder or the cache. -/
inductive ProviderFailure where
  | unavailable (message : String) (diagnostics : PyDict)
  | inference (error : FourCastNetInferenceError)
  | decoder (error : DecoderFailure)
  | cache (error : ArtifactError)

/-- The provider or a part of it. -/
abbrev ProviderProgram (α : Type) := Program ProviderFailure ProviderCall ProviderReply α

/-- A server that sees the whole exchange so far. -/
abbrev HostedServer := HostedExchange → (request : HostedRequest) → HostedReply request

namespace ProviderProgram

/-- A part of the cache. -/
def files {α : Type} (p : FileProgram ArtifactError α) : ProviderProgram α :=
  p.embed .cache .file fun _ r => r

/-- A part of the client. -/
def hosted {α : Type} (p : Program FourCastNetInferenceError HostedRequest HostedReply α) :
    ProviderProgram α :=
  p.embed .inference .hosted fun _ r => r

end ProviderProgram

/-- The files and the exchange with the hosted API. -/
structure ProviderWorld where
  files : FileSystem
  log : HostedExchange

/-- One call, with this server. -/
def performProviderCall (server : HostedServer) :
    (c : ProviderCall) → ProviderWorld → ProviderReply c × ProviderWorld
  | .file call, world =>
    ((call.perform world.files).1, { world with files := (call.perform world.files).2 })
  | .hosted request, world =>
    (server world.log request,
      { world with log := ⟨request, server world.log request⟩ :: world.log })

section Run

variable {α : Type} (server : HostedServer) (world : ProviderWorld)

/-- The cache touches the files only. -/
lemma run_files (p : FileProgram ArtifactError α) :
    (ProviderProgram.files p).run (performProviderCall server) world =
      ((p.run FileCall.perform world.files).1.mapError .cache,
        { world with files := (p.run FileCall.perform world.files).2 }) := by
  refine Program.run_embed FileCall.perform (fun files => { world with files := files }) ?_ p
    world.files
  exact fun _ _ => ⟨rfl, rfl⟩

/-- The client touches the exchange only. -/
lemma run_hosted (p : Program FourCastNetInferenceError HostedRequest HostedReply α) :
    (ProviderProgram.hosted p).run (performProviderCall server) world =
      ((p.dialogue server world.log).1.mapError .inference,
        { world with log := (p.dialogue server world.log).2 }) := by
  rw [Program.dialogue_eq_run]
  refine Program.run_embed _ (fun log => { world with log := log }) ?_ p world.log
  exact fun _ _ => ⟨rfl, rfl⟩

lemma run_files_of_ok {p : FileProgram ArtifactError α} {a : α} {files : FileSystem}
    (h : p.run FileCall.perform world.files = (.ok a, files)) :
    (ProviderProgram.files p).run (performProviderCall server) world =
      (.ok a, { world with files := files }) := by
  rw [run_files, h]
  rfl

lemma run_hosted_of_ok {p : Program FourCastNetInferenceError HostedRequest HostedReply α} {a : α}
    (h : (p.dialogue server world.log).1 = .ok a) :
    (ProviderProgram.hosted p).run (performProviderCall server) world =
      (.ok a, { world with log := (p.dialogue server world.log).2 }) := by
  rw [run_hosted, h]
  rfl

lemma run_hosted_of_error {p : Program FourCastNetInferenceError HostedRequest HostedReply α}
    {e : FourCastNetInferenceError} (h : (p.dialogue server world.log).1 = .error e) :
    (ProviderProgram.hosted p).run (performProviderCall server) world =
      (.error (.inference e), { world with log := (p.dialogue server world.log).2 }) := by
  rw [run_hosted, h]
  rfl

end Run

/-! ## The provider -/

structure FourCastNetNimStatus where
  mode : FourCastNetEndpointMode
  endpoint : String
  ready : Bool
  configured : Bool
  statusCode : Option ℕ := none
  detail : String := ""

structure ForecastProviderStatus where
  provider : ForecastProviderName
  mode : FourCastNetEndpointMode
  configured : Bool
  ready : Bool
  supportsPointForecast : Bool
  endpoint : Option String := none
  detail : String

def FourCastNetNimClient.getReadinessStatus (client : FourCastNetNimClient) :
    ProviderProgram FourCastNetNimStatus :=
  if client.mode = .hosted then
    let configured := orText client.apiKey none ≠ none
    .ret { mode := client.mode
           endpoint := client.baseUrl
           ready := configured
           configured := configured
           detail := if configured then "Hosted FourCastNet API key is configured."
             else "Hosted FourCastNet API key is missing." }
  else
    let url := rstripSlash client.baseUrl ++ "/v1/health/ready"
    .call (.hosted { method := .get, url := url, headers := [("accept", "application/json")] }) fun
      | .ok response => .ret
        { mode := client.mode
          endpoint := url
          ready := response.statusCode = 200
          configured := true
          statusCode := some response.statusCode
          detail := if response.statusCode = 200 then "Self-hosted FourCastNet NIM is ready."
            else "Self-hosted FourCastNet NIM returned " ++ toString response.statusCode ++ "." }
      | .error error => .ret
        { mode := client.mode
          endpoint := url
          ready := false
          configured := true
          detail := "Self-hosted FourCastNet NIM readiness check failed: " ++ error.message }

structure FourCastNetForecastProvider where
  client : FourCastNetNimClient
  resultCache : Option FourCastNetResultCache := none

namespace FourCastNetForecastProvider

variable (provider : FourCastNetForecastProvider)

def getStatus : ProviderProgram ForecastProviderStatus := do
  let status ← provider.client.getReadinessStatus
  let supportsPointForecast := status.mode = .hosted && status.ready
  let detailSuffix :=
    if supportsPointForecast then
      "Hosted point forecast sampling is configured; run inference to verify output."
    else "Point forecast sampling requires the hosted API path and a configured API key."
  return {
    provider := .fourcastnet
    mode := status.mode
    configured := status.configured
    ready := status.ready
    supportsPointForecast := supportsPointForecast
    endpoint := some status.endpoint
    detail := stripText (status.detail ++ " " ++ detailSuffix) }

def buildResultDiagnostics (result : FourCastNetHostedInferenceResult) : PyDict :=
  [("provider", .str "fourcastnet"),
    ("response_source", .str result.responseSource.text),
    ("cache_status", .str result.cacheStatus.text),
    ("cached_artifact_id", .ofText result.cachedArtifactId),
    ("nvcf_request_id", .ofText result.nvcfRequestId),
    ("nvcf_status", .ofText result.nvcfStatus),
    ("poll_attempts", .int result.pollAttempts),
    ("response_reference_present", .bool result.responseReferencePresent),
    ("byte_length", .int result.byteLength),
    ("sha256", .str result.sha256)]

/-- The value under a key, or a default in place of a missing or false one. -/
def valueOr (d : PyDict) (key default : String) : PyValue :=
  match d.lookup key with
  | none => .str default
  | some value => if value.truthy then value else .str default

/-- `_build_error_diagnostics` of an error that carries diagnostics. -/
def buildErrorDiagnostics (message : String) (diagnostics : PyDict) : PyDict :=
  (diagnostics.override "provider" (valueOr diagnostics "provider" "fourcastnet")).override
    "message" (valueOr diagnostics "message" message)

/-- The handler of `get_point_forecast_with_diagnostics`. -/
def asUnavailable : ProviderFailure → ProviderFailure
  | .inference error =>
    .unavailable error.message (buildErrorDiagnostics error.message error.diagnostics)
  | .decoder (.postProcessing message) =>
    .unavailable message [("provider", .str "fourcastnet"), ("message", .str message)]
  | failure => failure

section Library

variable [Library] [FloatRepr]

omit [Library] [FloatRepr] in
/-- The result that stands for what the cache has returned. -/
def cachedResult (requestPayload : PyDict) (content : Bytes) (record : FourCastNetCacheRecord) :
    FourCastNetHostedInferenceResult where
  endpoint := provider.client.baseUrl
  statusCode := 200
  contentType := record.contentType
  byteLength := record.byteLength
  sha256 := record.sha256
  requestPayload := requestPayload
  responseSource := .cache
  cacheStatus := .hit
  cachedArtifactId := some record.key
  rawContent := some content

def runHostedInferenceWithCache (request : FourCastNetHostedInferenceRequest)
    (createdAt : String) : ProviderProgram FourCastNetHostedInferenceResult :=
  let requestPayload := FourCastNetNimClient.buildHostedInferencePayload request
  match provider.resultCache with
  | none => do
    let result ← .hosted (provider.client.runHostedInference request)
    return { result with cacheStatus := .disabled }
  | some cache => do
    match ← .files (cache.load requestPayload request.accept.text) with
    | some (content, record) => return provider.cachedResult requestPayload content record
    | none =>
      let result ← .hosted (provider.client.runHostedInference request)
      match ← .files (cache.save requestPayload request.accept.text result createdAt) with
      | some record =>
        return { result with cacheStatus := .stored, cachedArtifactId := some record.key }
      | none => return { result with cacheStatus := .miss }

variable [ArchiveReader]

/-- The request of every point forecast. -/
def pointRequest : FourCastNetHostedInferenceRequest where
  hostedVariables := fourcastnetPointVariables
  simulationLength := 4
  ensembleSize := 1
  accept := .tar
  noiseAmplitude_ok := noiseAmplitude_default_ok

/-- The result as a point forecast. -/
def forecastOf (latitude longitude : ℚ) (generatedAt : Time)
    (result : FourCastNetHostedInferenceResult) : Except ProviderFailure ForecastProviderResult :=
  if orText result.largeAssetMessage none ≠ none then
    let message := "Hosted FourCastNet returned a large asset marker instead of tar bytes. " ++
      "No downloadable responseReference or Location header was available."
    .error (.unavailable message
      ((buildResultDiagnostics result).override "message" (.str message)))
  else
    match FourCastNetPostProcessor.buildForecastSummaryFromHostedResult result pointRequest latitude
      longitude generatedAt with
    | .error error => .error (.decoder error)
    | .ok summary => .ok ⟨summary, buildResultDiagnostics result⟩

/-- `get_point_forecast_with_diagnostics`; `generatedAt` and `createdAt` are what the clocks read
that the post-processor and the cache use. -/
def getPointForecastWithDiagnostics (latitude longitude : ℚ) (generatedAt : Time)
    (createdAt : String) : ProviderProgram ForecastProviderResult := do
  let status ← provider.getStatus
  if !status.supportsPointForecast then
    let detail :=
      if status.ready then status.detail
      else "FourCastNet provider is not ready. Use mock provider until NIM is configured."
    .raise (.unavailable detail [("message", .str detail)])
  else
    Program.mapError asUnavailable (do
      let result ← provider.runHostedInferenceWithCache pointRequest createdAt
      .ofExcept (forecastOf latitude longitude generatedAt result))

omit [Library] in
lemma buildForecastSummary_of_isTar {result : FourCastNetHostedInferenceResult} {content : Bytes}
    (htar : FourCastNetResultCache.isTar result.contentType = true)
    (hcontent : result.rawContent = some content)
    (request : FourCastNetHostedInferenceRequest) (latitude longitude : ℚ) (generatedAt : Time) :
    FourCastNetPostProcessor.buildForecastSummaryFromHostedResult result request latitude longitude
        generatedAt =
      FourCastNetPostProcessor.buildForecastSummaryFromTarBytes content request latitude longitude
        generatedAt := by
  have hformat : FourCastNetPostProcessor.detectFormat result.contentType = "tar" := by
    unfold FourCastNetPostProcessor.detectFormat
    exact if_pos htar
  rw [FourCastNetPostProcessor.buildForecastSummaryFromHostedResult, if_neg (not_not.mpr hformat),
    hcontent]

end Library

end FourCastNetForecastProvider

end Earth2Sandbox
