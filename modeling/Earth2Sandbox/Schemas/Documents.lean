import Earth2Sandbox.Runtime.JsonValues
import Earth2Sandbox.Schemas.Views

/-!
# JSON documents

What pydantic writes of the models that the API answers with: an object with a member for every
field, in the order of the fields.  A date is written as text, by a parameter; a float that JSON
cannot represent is written as `null`.
-/

namespace Earth2Sandbox

/-- The text of a date. -/
class TimeText where
  text : Time → String

/-! ## Texts -/

/-- The run mode as the source spells it. -/
def ForecastRunMode.text : ForecastRunMode → String
  | mock => "mock"
  | nim => "nim"

/-- The condition as the source spells it. -/
def ForecastCondition.text : ForecastCondition → String
  | clear => "clear"
  | breezy => "breezy"
  | humid => "humid"
  | rainWatch => "rain_watch"

/-- The level as the source spells it. -/
def ForecastSignalLevel.text : ForecastSignalLevel → String
  | low => "low"
  | moderate => "moderate"
  | elevated => "elevated"

/-! ## Values -/

/-- A field that may be missing. -/
def optionDocument {α : Type} (f : α → Json) : Option α → Json
  | none => .null
  | some a => f a

def intDocument (n : ℤ) : Json := .number (toString n)

def natDocument (n : ℕ) : Json := .number (toString n)

/-- A `dict[str, str]`. -/
def linksDocument (links : List (String × String)) : Json :=
  .object (links.map fun link => (link.1, .str link.2))

variable [FloatRepr]

def PyFloat.document : PyFloat → Json
  | nan | posInf | negInf => .null
  | negZero => .number "-0.0"
  | finite q => .number (FloatRepr.repr q)

/-! ## Forecasts -/

def ForecastMetric.document (m : ForecastMetric) : Json :=
  .object [("name", .str m.name), ("value", m.value.document), ("unit", .str m.unit)]

def ForecastModelInfo.document (m : ForecastModelInfo) : Json :=
  .object [("name", .str m.name), ("version", .str m.version), ("resolution", .str m.resolution),
    ("run_mode", .str m.runMode.text)]

def ForecastSignal.document (s : ForecastSignal) : Json :=
  .object [("name", .str s.name), ("level", .str s.level.text), ("message", .str s.message)]

variable [TimeText]

def timeDocument (t : Time) : Json := .str (TimeText.text t)

def ForecastWindow.document (w : ForecastWindow) : Json :=
  .object [("start_at", timeDocument w.startAt), ("end_at", timeDocument w.endAt),
    ("step_hours", intDocument w.stepHours), ("lead_hours", .array (w.leadHours.map intDocument))]

def ForecastTimelineStep.document (s : ForecastTimelineStep) : Json :=
  .object [("lead_time_hours", intDocument s.leadTimeHours), ("valid_at", timeDocument s.validAt),
    ("temperature_c", s.temperatureC.document), ("wind_speed_ms", s.windSpeedMs.document),
    ("humidity_percent", s.humidityPercent.document),
    ("precipitation_probability_percent", s.precipitationProbabilityPercent.document),
    ("pressure_hpa", s.pressureHpa.document), ("confidence", s.confidence.document),
    ("condition", .str s.condition.text), ("summary", .str s.summary)]

def ForecastSummary.document (s : ForecastSummary) : Json :=
  .object [("provider", .str s.provider.text), ("generated_at", timeDocument s.generatedAt),
    ("latitude", s.latitude.document), ("longitude", s.longitude.document),
    ("headline", .str s.headline), ("metrics", .array (s.metrics.map ForecastMetric.document)),
    ("model", s.model.document), ("forecast_window", s.forecastWindow.document),
    ("timeline", .array (s.timeline.map ForecastTimelineStep.document)),
    ("signals", .array (s.signals.map ForecastSignal.document))]

/-! ## Jobs -/

def ForecastJobDiagnostics.document (d : ForecastJobDiagnostics) : Json :=
  .object [("provider", optionDocument .str d.provider),
    ("response_source", optionDocument .str d.responseSource),
    ("cache_status", optionDocument .str d.cacheStatus),
    ("cached_artifact_id", optionDocument .str d.cachedArtifactId),
    ("nvcf_request_id", optionDocument .str d.nvcfRequestId),
    ("nvcf_status", optionDocument .str d.nvcfStatus),
    ("poll_attempts", intDocument d.pollAttempts),
    ("response_reference_present", .bool d.responseReferencePresent),
    ("byte_length", optionDocument intDocument d.byteLength),
    ("sha256", optionDocument .str d.sha256), ("message", optionDocument .str d.message)]

def ForecastJobEvent.document (e : ForecastJobEvent) : Json :=
  .object [("occurred_at", timeDocument e.occurredAt), ("status", .str e.status.text),
    ("message", .str e.message)]

def ForecastJob.document (job : ForecastJob) : Json :=
  .object [("id", .str job.id), ("status", .str job.status.text),
    ("latitude", job.latitude.document), ("longitude", job.longitude.document),
    ("parent_job_id", optionDocument .str job.parentJobId), ("attempt", intDocument job.attempt),
    ("created_at", timeDocument job.createdAt), ("updated_at", timeDocument job.updatedAt),
    ("started_at", optionDocument timeDocument job.startedAt),
    ("completed_at", optionDocument timeDocument job.completedAt),
    ("forecast", optionDocument ForecastSummary.document job.forecast),
    ("diagnostics", optionDocument ForecastJobDiagnostics.document job.diagnostics),
    ("events", .array (job.events.map ForecastJobEvent.document)),
    ("error", optionDocument .str job.error), ("links", linksDocument job.links)]

def ForecastJobSummary.document (job : ForecastJobSummary) : Json :=
  .object [("id", .str job.id), ("status", .str job.status.text),
    ("latitude", job.latitude.document), ("longitude", job.longitude.document),
    ("parent_job_id", optionDocument .str job.parentJobId), ("attempt", intDocument job.attempt),
    ("created_at", timeDocument job.createdAt), ("updated_at", timeDocument job.updatedAt),
    ("completed_at", optionDocument timeDocument job.completedAt),
    ("diagnostics", optionDocument ForecastJobDiagnostics.document job.diagnostics),
    ("error", optionDocument .str job.error), ("links", linksDocument job.links)]

def ForecastJobListResponse.document (r : ForecastJobListResponse) : Json :=
  .object [("count", natDocument r.count),
    ("jobs", .array (r.jobs.map ForecastJobSummary.document))]

def ForecastJobPollResponse.document (r : ForecastJobPollResponse) : Json :=
  .object [("id", .str r.id), ("status", .str r.status.text), ("terminal", .bool r.terminal),
    ("forecast_ready", .bool r.forecastReady), ("updated_at", timeDocument r.updatedAt),
    ("retry_after_seconds", optionDocument intDocument r.retryAfterSeconds),
    ("event_count", natDocument r.eventCount),
    ("latest_event", optionDocument ForecastJobEvent.document r.latestEvent),
    ("links", linksDocument r.links)]

end Earth2Sandbox
