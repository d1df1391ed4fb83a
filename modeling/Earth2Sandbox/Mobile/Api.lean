import Earth2Sandbox.Framework.Dictionary
import Earth2Sandbox.Http.JobEndpoints
import Earth2Sandbox.Mobile.UseForecast

/-!
# The API client

The functions of `apps/mobile/src/api/forecast.ts` for the forecast jobs, from the response on: what
is thrown when it is not ok, and which payloads the type guards accept.  An accepted payload is read
as the value that the hook goes on with (`ofPayload`).
-/

namespace Earth2Sandbox

namespace Mobile

/-! ## Values of unknown type -/

/-- A value of type `unknown`; `none` is `undefined`. -/
abbrev Unknown := Option Json

/-- The value of a property. -/
def property (value : Unknown) (key : String) : Unknown := value.bind (·.get? key)

def isNull : Unknown → Bool
  | some .null => true
  | _ => false

/-- `typeof value === "string"`. -/
def isString : Unknown → Bool
  | some (.str _) => true
  | _ => false

/-- `typeof value === "number"`. -/
def isNumber : Unknown → Bool
  | some (.number _) => true
  | _ => false

/-- `typeof value === "boolean"`. -/
def isBoolean : Unknown → Bool
  | some (.bool _) => true
  | _ => false

/-- `guard(value) || value === null`. -/
def orNull (guard : Unknown → Bool) (value : Unknown) : Bool := guard value || isNull value

/-- `Array.isArray(value) && value.every(guard)`. -/
def isArrayOf (guard : Unknown → Bool) : Unknown → Bool
  | some (.array items) => items.all fun item => guard (some item)
  | _ => false

/-- The value is one of the texts. -/
def isOneOf (texts : List String) : Unknown → Bool
  | some (.str s) => s ∈ texts
  | _ => false

/-- `isRecord`: an array is an object, too. -/
def isRecord : Unknown → Bool
  | some (.object _) | some (.array _) => true
  | _ => false

def isStringRecord : Unknown → Bool
  | some (.object members) =>
    (Dictionary.entries members).all fun member => isString (some member.2)
  | some (.array items) => items.all fun item => isString (some item)
  | _ => false

/-! ## Type guards -/

def isForecastProvider : Unknown → Bool := isOneOf ["mock", "fourcastnet"]

def isForecastCondition : Unknown → Bool := isOneOf ["clear", "breezy", "humid", "rain_watch"]

def isSignalLevel : Unknown → Bool := isOneOf ["low", "moderate", "elevated"]

def isForecastJobStatus : Unknown → Bool :=
  isOneOf ["queued", "running", "succeeded", "failed", "cancelled"]

def isForecastMetric (value : Unknown) : Bool :=
  isRecord value && isString (property value "name") && isNumber (property value "value") &&
    isString (property value "unit")

def isForecastModelInfo (value : Unknown) : Bool :=
  isRecord value && isString (property value "name") && isString (property value "version") &&
    isString (property value "resolution") && isOneOf ["mock", "nim"] (property value "run_mode")

def isForecastWindow (value : Unknown) : Bool :=
  isRecord value && isString (property value "start_at") && isString (property value "end_at") &&
    isNumber (property value "step_hours") && isArrayOf isNumber (property value "lead_hours")

def isForecastTimelineStep (value : Unknown) : Bool :=
  isRecord value && isNumber (property value "lead_time_hours") &&
    isString (property value "valid_at") && isNumber (property value "temperature_c") &&
    isNumber (property value "wind_speed_ms") && isNumber (property value "humidity_percent") &&
    isNumber (property value "precipitation_probability_percent") &&
    isNumber (property value "pressure_hpa") && isNumber (property value "confidence") &&
    isForecastCondition (property value "condition") && isString (property value "summary")

def isForecastSignal (value : Unknown) : Bool :=
  isRecord value && isString (property value "name") && isSignalLevel (property value "level") &&
    isString (property value "message")

def isForecastSummary (value : Unknown) : Bool :=
  isRecord value && isForecastProvider (property value "provider") &&
    isString (property value "generated_at") && isNumber (property value "latitude") &&
    isNumber (property value "longitude") && isString (property value "headline") &&
    isArrayOf isForecastMetric (property value "metrics") &&
    isForecastModelInfo (property value "model") &&
    isForecastWindow (property value "forecast_window") &&
    isArrayOf isForecastTimelineStep (property value "timeline") &&
    isArrayOf isForecastSignal (property value "signals")

def isForecastJobDiagnostics (value : Unknown) : Bool :=
  isRecord value && orNull isString (property value "provider") &&
    orNull isString (property value "response_source") &&
    orNull isString (property value "cache_status") &&
    orNull isString (property value "cached_artifact_id") &&
    orNull isString (property value "nvcf_request_id") &&
    orNull isString (property value "nvcf_status") && isNumber (property value "poll_attempts") &&
    isBoolean (property value "response_reference_present") &&
    orNull isNumber (property value "byte_length") && orNull isString (property value "sha256") &&
    orNull isString (property value "message")

def isForecastJobEvent (value : Unknown) : Bool :=
  isRecord value && isString (property value "occurred_at") &&
    isForecastJobStatus (property value "status") && isString (property value "message")

def isForecastJob (value : Unknown) : Bool :=
  isRecord value && isString (property value "id") &&
    isForecastJobStatus (property value "status") && isNumber (property value "latitude") &&
    isNumber (property value "longitude") && orNull isString (property value "parent_job_id") &&
    isNumber (property value "attempt") && isString (property value "created_at") &&
    isString (property value "updated_at") && orNull isString (property value "started_at") &&
    orNull isString (property value "completed_at") &&
    orNull isForecastSummary (property value "forecast") &&
    orNull isForecastJobDiagnostics (property value "diagnostics") &&
    isArrayOf isForecastJobEvent (property value "events") &&
    orNull isString (property value "error") && isStringRecord (property value "links")

def isForecastJobSummary (value : Unknown) : Bool :=
  isRecord value && isString (property value "id") &&
    isForecastJobStatus (property value "status") && isNumber (property value "latitude") &&
    isNumber (property value "longitude") && orNull isString (property value "parent_job_id") &&
    isNumber (property value "attempt") && isString (property value "created_at") &&
    isString (property value "updated_at") && orNull isString (property value "completed_at") &&
    orNull isForecastJobDiagnostics (property value "diagnostics") &&
    orNull isString (property value "error") && isStringRecord (property value "links")

def isForecastJobListResponse (value : Unknown) : Bool :=
  isRecord value && isNumber (property value "count") &&
    isArrayOf isForecastJobSummary (property value "jobs")

def isForecastJobPollResponse (value : Unknown) : Bool :=
  isRecord value && isString (property value "id") &&
    isForecastJobStatus (property value "status") && isBoolean (property value "terminal") &&
    isBoolean (property value "forecast_ready") && isString (property value "updated_at") &&
    orNull isNumber (property value "retry_after_seconds") &&
    isNumber (property value "event_count") &&
    orNull isForecastJobEvent (property value "latest_event") &&
    isStringRecord (property value "links")

/-! ## Accepted payloads -/

/-- The value of a numeral of a JSON document. -/
class Numerals where
  value : String → ℚ

def stringOf : Unknown → String
  | some (.str s) => s
  | _ => ""

def booleanOf : Unknown → Bool
  | some (.bool b) => b
  | _ => false

def itemsOf : Unknown → List Json
  | some (.array items) => items
  | _ => []

def orNullOf {α : Type} (read : Unknown → α) : Unknown → Option α
  | none | some .null => none
  | value => some (read value)

def linksOf : Unknown → List (String × String)
  | some (.object members) =>
    (Dictionary.entries members).map fun member => (member.1, stringOf (some member.2))
  | _ => []

def statusOf (value : Unknown) : ForecastJobStatus :=
  match stringOf value with
  | "running" => .running
  | "succeeded" => .succeeded
  | "failed" => .failed
  | "cancelled" => .cancelled
  | _ => .queued

def ForecastJobEvent.ofPayload (value : Unknown) : ForecastJobEvent where
  status := statusOf (property value "status")
  message := stringOf (property value "message")
  occurredAt := stringOf (property value "occurred_at")

def ForecastJobSummary.ofPayload (value : Unknown) : ForecastJobSummary where
  id := stringOf (property value "id")
  links := linksOf (property value "links")

variable [Numerals]

def numberOf : Unknown → ℚ
  | some (.number literal) => Numerals.value literal
  | _ => 0

/-- The content is the text of the payload. -/
def ForecastSummary.ofPayload (value : Unknown) : ForecastSummary where
  leadTimeHours := (itemsOf (property value "timeline")).map fun step =>
    numberOf (property (some step) "lead_time_hours")
  content := value.elim "" fun payload => String.ofList (payload.write Json.compact 0)

def ForecastJob.ofPayload (value : Unknown) : ForecastJob where
  id := stringOf (property value "id")
  status := statusOf (property value "status")
  forecast := orNullOf ForecastSummary.ofPayload (property value "forecast")
  events := (itemsOf (property value "events")).map fun event =>
    ForecastJobEvent.ofPayload (some event)
  updatedAt := stringOf (property value "updated_at")
  error := orNullOf stringOf (property value "error")
  links := linksOf (property value "links")

/-- The number of events is a natural number. -/
def ForecastJobPollResponse.ofPayload (value : Unknown) : ForecastJobPollResponse where
  id := stringOf (property value "id")
  status := statusOf (property value "status")
  terminal := booleanOf (property value "terminal")
  forecastReady := booleanOf (property value "forecast_ready")
  updatedAt := stringOf (property value "updated_at")
  retryAfterSeconds := orNullOf numberOf (property value "retry_after_seconds")
  eventCount := (numberOf (property value "event_count")).floor.toNat
  latestEvent := orNullOf ForecastJobEvent.ofPayload (property value "latest_event")
  links := linksOf (property value "links")

/-! ## Responses -/

/-- `message.includes(text)`. -/
def includes (message text : String) : Bool := text.toList <:+: message.toList

def formatActionableApiError (message : String) : String :=
  if includes message "Hosted FourCastNet returned 504" then
    "Hosted FourCastNet did not return a forecast body yet. " ++
      "The local backend is reachable, but the hosted provider needs retry or " ++
      "asset-download handling."
  else if includes message "large asset marker" then
    "Hosted FourCastNet returned a large-result marker instead of forecast bytes. " ++
      "The backend needs output asset download handling before this can be sampled on the map."
  else message

/-- A detail that is empty, or no text, is left out. -/
def formatApiError (response : ApiResponse) (label : String) : String :=
  let detail := stringOf (property response.body "detail")
  formatActionableApiError (if detail ≠ "" then
      label ++ " returned " ++ toString response.status ++ ": " ++ detail
    else label ++ " returned " ++ toString response.status ++ ".")

def readJson (response : ApiResponse) (label : String) : Except Rejection Json :=
  match response.body with
  | some payload => .ok payload
  | none => .error (.error (label ++ " returned invalid JSON."))

/-- What the request functions do with a response: they differ in the label, the guard and the
message of the rejection. -/
def parseResponse {α : Type} (label : String) (guard : Unknown → Bool) (unexpected : String)
    (read : Unknown → α) (response : ApiResponse) : Except Rejection α := do
  if 200 ≤ response.status ∧ response.status < 300 then
    let payload ← readJson response label
    if guard (some payload) then return read (some payload) else .error (.error unexpected)
  else .error (.error (formatApiError response label))

def createForecastJob : ApiResponse → Except Rejection ForecastJob :=
  parseResponse "Forecast job API" isForecastJob
    "Forecast job API returned an unexpected payload." ForecastJob.ofPayload

def fetchForecastJob : ApiResponse → Except Rejection ForecastJob :=
  parseResponse "Forecast job API" isForecastJob
    "Forecast job API returned an unexpected payload." ForecastJob.ofPayload

def retryForecastJob : ApiResponse → Except Rejection ForecastJob :=
  parseResponse "Forecast job retry API" isForecastJob
    "Forecast job API returned an unexpected payload." ForecastJob.ofPayload

def pollForecastJob : ApiResponse → Except Rejection ForecastJobPollResponse :=
  parseResponse "Forecast job poll API" isForecastJobPollResponse
    "Forecast job poll API returned an unexpected payload." ForecastJobPollResponse.ofPayload

omit [Numerals] in
/-- `listForecastJobs`, without the count. -/
def listForecastJobs : ApiResponse → Except Rejection (List ForecastJobSummary) :=
  parseResponse "Forecast job history API" isForecastJobListResponse
    "Forecast job history API returned an unexpected payload." fun value =>
      (itemsOf (property value "jobs")).map fun job => ForecastJobSummary.ofPayload (some job)

end Mobile

end Earth2Sandbox
