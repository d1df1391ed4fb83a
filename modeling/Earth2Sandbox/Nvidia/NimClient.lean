import Earth2Sandbox.Schemas.FourCastNet

/-!
# The hosted FourCastNet client

`FourCastNetNimClient.run_hosted_inference` as a program over HTTP requests: a POST, then status
requests as long as the answer is 202, then the body of the answer or a download from where a
redirect or a JSON reference points.  An `httpx.HTTPError` leaves the exchange from any request
and is turned into a `FourCastNetInferenceError` at its end.
-/

namespace Earth2Sandbox

inductive FourCastNetEndpointMode where
  | selfHosted
  | hosted
  deriving DecidableEq

structure FourCastNetInferenceError where
  message : String
  diagnostics : PyDict

/-- `FourCastNetInferenceError(message, diagnostics=diagnostics)`. -/
def FourCastNetInferenceError.make (message : String) (diagnostics : Option PyDict := none) :
    FourCastNetInferenceError :=
  match diagnostics with
  | none | some [] => ⟨message, [("message", .str message)]⟩
  | some (entry :: rest) => ⟨message, entry :: rest⟩

/-- `FourCastNetNimClient`, as far as hosted inference uses it. -/
structure FourCastNetNimClient where
  baseUrl : String
  mode : FourCastNetEndpointMode := .selfHosted
  apiKey : Option String := none
  statusUrl : String := "https://api.nvcf.nvidia.com/v2/nvcf/pexec/status"
  maxPollAttempts : ℤ := 20

/-- What leaves the exchange: an `httpx.HTTPError` or an error of the client's own. -/
inductive HostedFailure where
  | http (error : HttpError)
  | inference (error : FourCastNetInferenceError)

/-- A request of the client. -/
abbrev HostedRequest := HttpRequest PyDict

/-- What comes back. -/
abbrev HostedReply (_ : HostedRequest) := Except HttpError HttpResponse

/-- A part of the exchange. -/
abbrev HostedProgram (α : Type) := Program HostedFailure HostedRequest HostedReply α

/-- An optional string in a dictionary. -/
def PyValue.ofText : Option String → PyValue
  | Option.none => .none
  | some s => .str s

/-! ## What a response says -/

/-- The first of the keys under which a dictionary has an acceptable string. -/
def firstText (accepts : String → Bool) (preview : Json) : List String → Option String
  | [] => none
  | key :: keys =>
    match preview.get? key with
    | some (.str s) => if accepts s then some s else firstText accepts preview keys
    | _ => firstText accepts preview keys

/-- `_request_id`. -/
def requestIdOf (response : HttpResponse) : Option String :=
  match orText (response.header "nvcf-reqid") none with
  | some id => some id
  | none =>
    response.json.bind fun preview =>
      firstText (· ≠ "") preview ["reqId", "requestId", "request_id", "id"]

def responseReference (preview : Option Json) : Option String :=
  preview.bind fun preview =>
    firstText (fun s => startsWithText s "http://" || startsWithText s "https://") preview
      ["responseReference", "response_reference", "downloadUrl", "download_url", "assetUrl",
        "asset_url"]

/-- `_large_asset_message`. -/
def largeAssetMessageOf (preview : Option Json) : Option String :=
  match preview.bind (·.get? "message") with
  | some (.str s) => if s = "Large asset written" then some s else none
  | _ => none

/-- `response.headers.get("content-type", "")`. -/
def contentTypeOf (response : HttpResponse) : String := (response.header "content-type").getD ""

section Library

variable [Library]

def responseErrorDetail (response : HttpResponse) : String :=
  match response.json with
  | none => if response.text = "" then "No response body." else truncateText response.text 500
  | some payload =>
    match payload.get? "detail" with
    | some detail => Library.str detail
    | none => truncateText (Library.str payload) 500

def buildErrorDiagnostics (response : HttpResponse) (requestId nvcfStatus : Option String)
    (pollAttempts : ℕ) (source : FourCastNetResponseSource) (referencePresent : Bool)
    (messagePrefix : String := "Hosted FourCastNet returned") : String × PyDict :=
  let contentType := contentTypeOf response
  let message := messagePrefix ++ " " ++ toString response.statusCode ++ ": " ++
    responseErrorDetail response
  let message := if contentType = "" then message else message ++ " content_type=" ++ contentType
  (message,
    [("provider", .str "fourcastnet"),
      ("status_code", .int response.statusCode),
      ("content_type", if contentType = "" then .none else .str contentType),
      ("response_source", .str source.text),
      ("nvcf_request_id", .ofText (orText (requestIdOf response) requestId)),
      ("nvcf_status", .ofText (orText (response.header "nvcf-status") nvcfStatus)),
      ("poll_attempts", .int pollAttempts),
      ("response_reference_present", .bool referencePresent),
      ("byte_length", .int response.content.length),
      ("sha256", if response.content = [] then .none else .str (Library.sha256 response.content)),
      ("message", .str message)])

/-- An error of the client with its diagnostics. -/
def raiseInference {α : Type} (error : String × PyDict) : HostedProgram α :=
  .raise (.inference (.make error.1 (some error.2)))

namespace FourCastNetNimClient

variable (client : FourCastNetNimClient)

/-! ## Requests -/

def buildHostedInferencePayload (request : FourCastNetHostedInferenceRequest) : PyDict :=
  [("input_id", .int request.inputId),
    ("variables", .str (",".intercalate (request.hostedVariables.map (·.text)))),
    ("simulation_length", .int request.simulationLength),
    ("ensemble_size", .int request.ensembleSize),
    ("noise_amplitude", request.noiseAmplitude)]

omit [Library] in
/-- An awaited request; an `httpx.HTTPError` is raised. -/
def send (request : HostedRequest) : HostedProgram HttpResponse :=
  .call request fun
    | .ok response => .ret response
    | .error error => .raise (.http error)

/-- The POST that begins an exchange. -/
def inferenceRequest (apiKey : String) (request : FourCastNetHostedInferenceRequest) :
    HostedRequest where
  method := .post
  url := client.baseUrl
  headers := [("Authorization", "Bearer " ++ apiKey),
    ("NVCF-POLL-SECONDS", toString request.pollSeconds), ("accept", request.accept.text),
    ("content-type", "application/json")]
  json := some (buildHostedInferencePayload request)

/-- The URL under which the status of a request is found. -/
def statusUrlOf (requestId : String) : String := rstripSlash client.statusUrl ++ "/" ++ requestId

/-- A status request. -/
def statusRequest (apiKey : String) (request : FourCastNetHostedInferenceRequest)
    (requestId : String) : HostedRequest where
  method := .get
  url := client.statusUrlOf requestId
  headers := [("Authorization", "Bearer " ++ apiKey),
    ("NVCF-POLL-SECONDS", toString request.pollSeconds), ("accept", request.accept.text)]

omit [Library] in
/-- A download from a URL that the server has named. -/
def downloadRequest (url : String) : HostedRequest where
  method := .get
  url := url
  followRedirects := true

/-! ## The exchange -/

/-- The variables of the polling loop. -/
structure PollState where
  response : HttpResponse
  requestId : Option String
  nvcfStatus : Option String
  pollAttempts : ℕ
  source : FourCastNetResponseSource

/-- The loop of `_resolve_hosted_response`. -/
def pollHosted (apiKey : String) (request : FourCastNetHostedInferenceRequest)
    (state : PollState) : HostedProgram PollState :=
  if state.response.statusCode ≠ 202 then .ret state
  else
    let requestId := orText (requestIdOf state.response) state.requestId
    let nvcfStatus := orText (state.response.header "nvcf-status") state.nvcfStatus
    match requestId with
    | none =>
      let message := "Hosted FourCastNet returned 202 without an NVCF request id."
      raiseInference (message,
        [("provider", .str "fourcastnet"),
          ("response_source", .str state.source.text),
          ("nvcf_status", .ofText nvcfStatus),
          ("poll_attempts", .int state.pollAttempts),
          ("response_reference_present", .bool false),
          ("message", .str message)])
    | some id =>
      if _h : client.maxPollAttempts ≤ state.pollAttempts then
        let message := "Hosted FourCastNet polling exceeded " ++
          toString client.maxPollAttempts ++ " attempts."
        raiseInference (message,
          [("provider", .str "fourcastnet"),
            ("response_source", .str state.source.text),
            ("nvcf_request_id", .str id),
            ("nvcf_status", .ofText nvcfStatus),
            ("poll_attempts", .int state.pollAttempts),
            ("response_reference_present", .bool false),
            ("message", .str message)])
      else
        -- the client waits for `poll_interval_seconds` before it asks
        (send (client.statusRequest apiKey request id)).bind fun response =>
          pollHosted apiKey request ⟨response, some id, nvcfStatus, state.pollAttempts + 1, .poll⟩
termination_by (client.maxPollAttempts - state.pollAttempts).toNat

def downloadUrl (url : String) : HostedProgram HttpResponse := do
  let response ← send (downloadRequest url)
  if !response.isSuccess then
    raiseInference (buildErrorDiagnostics response (requestIdOf response)
      (response.header "nvcf-status") 0 .responseReference true
      "Hosted FourCastNet large result download returned")
  else return response

def downloadLargeResponse (response : HttpResponse) : HostedProgram HttpResponse :=
  match orText (response.header "location") none with
  | none =>
    let message := "Hosted FourCastNet returned 302 without a Location header."
    raiseInference (message,
      [("provider", .str "fourcastnet"),
        ("response_source", .str FourCastNetResponseSource.redirect.text),
        ("nvcf_request_id", .ofText (requestIdOf response)),
        ("nvcf_status", .ofText (response.header "nvcf-status")),
        ("poll_attempts", .int 0),
        ("response_reference_present", .bool false),
        ("message", .str message)])
  | some location => downloadUrl location

def buildHostedResult (response : HttpResponse) (payload : PyDict)
    (requestId nvcfStatus : Option String) (pollAttempts : ℕ)
    (source : FourCastNetResponseSource) (referencePresent : Bool)
    (jsonPreview : Option Json := none) : FourCastNetHostedInferenceResult :=
  let contentType := contentTypeOf response
  let jsonPreview :=
    if jsonPreview.isNone && containsText contentType "application/json" then response.json
    else jsonPreview
  { endpoint := client.baseUrl
    statusCode := response.statusCode
    contentType := contentType
    byteLength := response.content.length
    sha256 := Library.sha256 response.content
    requestPayload := payload
    jsonPreview := jsonPreview
    nvcfRequestId := orText (response.header "nvcf-reqid") requestId
    nvcfStatus := orText (response.header "nvcf-status") nvcfStatus
    largeAssetMessage := largeAssetMessageOf jsonPreview
    pollAttempts := pollAttempts
    responseSource := source
    responseReferencePresent := referencePresent
    rawContent := some response.content }

/-- What `_resolve_hosted_response` does after the loop. -/
def resolvePolled (payload : PyDict) (state : PollState) :
    HostedProgram FourCastNetHostedInferenceResult :=
  let response := state.response
  let requestId := orText (requestIdOf response) state.requestId
  let nvcfStatus := orText (response.header "nvcf-status") state.nvcfStatus
  if response.statusCode = 302 then do
    let contentResponse ← downloadLargeResponse response
    return client.buildHostedResult contentResponse payload requestId nvcfStatus
      state.pollAttempts .redirect true
  else if !response.isSuccess then
    raiseInference (buildErrorDiagnostics response state.requestId state.nvcfStatus
      state.pollAttempts state.source false)
  else
    let jsonPreview :=
      if containsText (contentTypeOf response) "application/json" then response.json else none
    match responseReference jsonPreview with
    | some reference => do
      let contentResponse ← downloadUrl reference
      return client.buildHostedResult contentResponse payload requestId nvcfStatus
        state.pollAttempts .responseReference true
    | none =>
      return client.buildHostedResult response payload state.requestId state.nvcfStatus
        state.pollAttempts state.source false jsonPreview

def resolveHostedResponse (apiKey : String) (request : FourCastNetHostedInferenceRequest)
    (response : HttpResponse) : HostedProgram FourCastNetHostedInferenceResult := do
  let state ← client.pollHosted apiKey request
    ⟨response, requestIdOf response, response.header "nvcf-status", 0, .inline⟩
  client.resolvePolled (buildHostedInferencePayload request) state

/-- The exchange of `run_hosted_inference`. -/
def hostedExchange (apiKey : String) (request : FourCastNetHostedInferenceRequest) :
    HostedProgram FourCastNetHostedInferenceResult := do
  let response ← send (client.inferenceRequest apiKey request)
  client.resolveHostedResponse apiKey request response

omit [Library] in
/-- The handler of `run_hosted_inference` for an `httpx.HTTPError`. -/
def asInferenceError : HostedFailure → FourCastNetInferenceError
  | .http error =>
    let message := "Hosted FourCastNet request failed: " ++ error.typeName ++ ": " ++ error.message
    .make message (some
      [("provider", .str "fourcastnet"),
        ("response_source", .str FourCastNetResponseSource.inline.text),
        ("poll_attempts", .int 0),
        ("response_reference_present", .bool false),
        ("error_type", .str error.typeName),
        ("message", .str message)])
  | .inference error => error

def runHostedInference (request : FourCastNetHostedInferenceRequest) :
    Program FourCastNetInferenceError HostedRequest HostedReply
      FourCastNetHostedInferenceResult :=
  if client.mode ≠ .hosted then
    .raise (.make "Hosted inference requires fourcastnet_endpoint_mode='hosted'.")
  else
    match orText client.apiKey none with
    | none => .raise (.make "Hosted FourCastNet API key is missing.")
    | some apiKey => (client.hostedExchange apiKey request).mapError asInferenceError

end FourCastNetNimClient

end Library

end Earth2Sandbox
