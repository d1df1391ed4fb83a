import Earth2Sandbox.Runtime.Python

/-!
# Forecast schemas

The payload a succeeded job carries, field by field as in `schemas/forecast.py`.  Numeric
fields are `PyFloat`.  `ForecastSummary.isInstance` are the bounds that pydantic checks on the
fields; `ForecastSummary.hasFiniteFloats` is the condition under which a JSON document can
represent the summary.
-/

namespace Earth2Sandbox

inductive ForecastProviderName where
  | mock
  | fourcastnet
  deriving DecidableEq

/-- The provider name as the source spells it. -/
def ForecastProviderName.text : ForecastProviderName → String
  | mock => "mock"
  | fourcastnet => "fourcastnet"

inductive ForecastRunMode where
  | mock
  | nim
  deriving DecidableEq

inductive ForecastCondition where
  | clear
  | breezy
  | humid
  | rainWatch
  deriving DecidableEq

inductive ForecastSignalLevel where
  | low
  | moderate
  | elevated
  deriving DecidableEq

structure ForecastMetric where
  name : String
  value : PyFloat
  unit : String
  deriving DecidableEq

structure ForecastModelInfo where
  name : String
  version : String
  resolution : String
  runMode : ForecastRunMode
  deriving DecidableEq

structure ForecastWindow where
  startAt : Time
  endAt : Time
  stepHours : ℤ
  leadHours : List ℤ
  deriving DecidableEq

structure ForecastTimelineStep where
  leadTimeHours : ℤ
  validAt : Time
  temperatureC : PyFloat
  windSpeedMs : PyFloat
  humidityPercent : PyFloat
  precipitationProbabilityPercent : PyFloat
  pressureHpa : PyFloat
  confidence : PyFloat
  condition : ForecastCondition
  summary : String
  deriving DecidableEq

structure ForecastSignal where
  name : String
  level : ForecastSignalLevel
  message : String
  deriving DecidableEq

structure ForecastSummary where
  provider : ForecastProviderName
  generatedAt : Time
  latitude : PyFloat
  longitude : PyFloat
  headline : String
  metrics : List ForecastMetric
  model : ForecastModelInfo
  forecastWindow : ForecastWindow
  timeline : List ForecastTimelineStep
  signals : List ForecastSignal
  deriving DecidableEq

/-- The fields of a timeline step are within their bounds. -/
def ForecastTimelineStep.isInstance (step : ForecastTimelineStep) : Bool :=
  0 ≤ step.leadTimeHours && PyFloat.between 0 100 step.humidityPercent &&
    PyFloat.between 0 100 step.precipitationProbabilityPercent &&
    PyFloat.between 0 1 step.confidence

/-- The fields of a summary are within their bounds. -/
def ForecastSummary.isInstance (summary : ForecastSummary) : Bool :=
  PyFloat.between (-90) 90 summary.latitude && PyFloat.between (-180) 180 summary.longitude &&
    summary.timeline.all ForecastTimelineStep.isInstance

/-- Every number of a timeline step is finite. -/
def ForecastTimelineStep.hasFiniteFloats (step : ForecastTimelineStep) : Bool :=
  step.temperatureC.isFinite && step.windSpeedMs.isFinite && step.humidityPercent.isFinite &&
    step.precipitationProbabilityPercent.isFinite && step.pressureHpa.isFinite &&
    step.confidence.isFinite

/-- Every number of a summary is finite. -/
def ForecastSummary.hasFiniteFloats (summary : ForecastSummary) : Bool :=
  summary.latitude.isFinite && summary.longitude.isFinite &&
    summary.metrics.all (fun m => m.value.isFinite) &&
    summary.timeline.all ForecastTimelineStep.hasFiniteFloats

end Earth2Sandbox
