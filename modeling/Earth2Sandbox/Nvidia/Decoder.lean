import Earth2Sandbox.Framework.Dictionary
import Earth2Sandbox.Runtime.Numbers
import Earth2Sandbox.Runtime.Numpy
import Earth2Sandbox.Schemas.Forecast
import Earth2Sandbox.Schemas.FourCastNet
import Mathlib.Data.Finset.Sort
import Mathlib.Data.Prod.Lex
import Mathlib.Data.String.Basic

/-!
# Post-processing of hosted output

`FourCastNetPostProcessor`: the arrays of a tar archive are decoded, one is selected for each lead
time, each is sampled at the grid cell of a location, and the samples become the timeline of a
forecast.  Arithmetic is exact.

`DecoderFailure.postProcessing` is the error that the post-processor raises on purpose; any other
exception is `DecoderFailure.other`.
-/

namespace Earth2Sandbox

/-- A `FourCastNetPostProcessingError`, or any other exception. -/
inductive DecoderFailure where
  | postProcessing (message : String)
  | other (message : String)

structure DecodedNumpyMember where
  filename : String
  leadTimeHours : ℕ
  batchIndex : ℕ
  array : NumpyArray

/-- What is sampled of an array. -/
structure SampledValues where
  w10m : ℚ
  t2m : ℚ
  msl : ℚ
  tcwv : ℚ

def fourcastnetPointVariables : List HostedFourCastNetVariable := [.w10m, .t2m, .msl, .tcwv, .z500]

def requiredPointVariables : List HostedFourCastNetVariable := [.w10m, .t2m, .msl, .tcwv]

def forecastStepHours : ℤ := 6

namespace FourCastNetPostProcessor

def detectFormat (contentType : String) : String :=
  let normalized := lowerText contentType
  if containsText normalized "tar" then "tar"
  else if containsText normalized "json" then "json"
  else "unknown"

/-! ## Members of the archive -/

/-- What follows the last slash of a name. -/
def baseName (name : String) : String :=
  String.ofList (name.toList.reverse.takeWhile (· ≠ '/')).reverse

section Archive

variable [ArchiveReader]

/-- The number that decimal digits stand for. -/
def digitsValue (digits : List Char) : Option ℕ :=
  (digits.mapM ArchiveReader.decimalValue).map fun values =>
    values.foldl (fun n d => 10 * n + d) 0

/-- `NVIDIA_TAR_MEMBER_PATTERN`: the lead time and the batch of a file name. -/
def matchMemberName (filename : String) : Option (ℕ × ℕ) :=
  let lead := filename.toList.take 3
  let batch := (filename.toList.drop 4).take 3
  -- `$` matches before a final newline, too
  if filename.toList = lead ++ '_' :: (batch ++ ".npy".toList) ∨
      filename.toList = lead ++ '_' :: (batch ++ ".npy\n".toList) then do
    guard (lead.length = 3 ∧ batch.length = 3)
    let lead ← digitsValue lead
    let batch ← digitsValue batch
    return (lead, batch)
  else none

/-- The loop of `_load_tar_members`: the decoded members and the warnings. -/
def readMembers :
    List TarMember → Except DecoderFailure (List DecodedNumpyMember × List String)
  | [] => .ok ([], [])
  | member :: members =>
    let warn (warning : String) :=
      (readMembers members).map fun result => (result.1, warning :: result.2)
    let filename := baseName member.name
    match matchMemberName filename with
    | none => warn ("Skipping unsupported tar member name: " ++ member.name)
    | some (lead, batch) =>
      match member.loaded with
      | none => warn ("Could not extract tar member: " ++ member.name)
      | some (.error (.unreadable error)) =>
        warn ("Could not load NumPy array from " ++ member.name ++ ": " ++ error)
      | some (.error (.tar error)) =>
        -- the handler around the loop
        .ok ([], ["Could not decode FourCastNet tar archive: " ++ error])
      | some (.error (.other error)) => .error (.other error)
      | some (.ok array) =>
        (readMembers members).map fun result =>
          (⟨filename, lead, batch, array⟩ :: result.1, result.2)

/-- The key by which decoded members are sorted. -/
def sortKey (member : DecodedNumpyMember) : ℕ ×ₗ ℕ ×ₗ String :=
  toLex (member.leadTimeHours, toLex (member.batchIndex, member.filename))

def loadTarMembers (content : Bytes) :
    Except DecoderFailure (List DecodedNumpyMember × List String) :=
  match ArchiveReader.getmembers content with
  | .error (.tar error) => .ok ([], ["Could not decode FourCastNet tar archive: " ++ error])
  | .error (.unreadable error) | .error (.other error) => .error (.other error)
  | .ok members =>
    (readMembers (members.filter (·.isFile))).map fun result =>
      (result.1.insertionSort fun a b => sortKey a ≤ sortKey b, result.2)

/-- The finite elements of an array. -/
def finiteValues (array : NumpyArray) : Except DecoderFailure (List PyFloat) := do
  let elements ← (shapeIndices array.shape).mapM fun index =>
    match array.element index with
    | none => .error (.other "ufunc 'isfinite' not supported for the input types")
    | some value => .ok value
  return elements.filter (·.isFinite)

def summarizeArray (member : DecodedNumpyMember) :
    Except DecoderFailure FourCastNetDecodedArray := do
  let finite ← finiteValues member.array
  let statistics :=
    match finite with
    | [] => (none, none, none)
    | first :: rest => (some (PyFloat.minOf first rest), some (PyFloat.maxOf first rest),
        some (ArchiveReader.meanOfFinite member.array))
  return {
    filename := member.filename
    leadTimeHours := member.leadTimeHours
    batchIndex := member.batchIndex
    shape := member.array.shape
    dtype := member.array.dtype
    finiteCount := finite.length
    minValue := statistics.1
    maxValue := statistics.2.1
    meanValue := statistics.2.2 }

/-- The key by which summaries of arrays are sorted. -/
def arrayKey (array : FourCastNetDecodedArray) : ℤ ×ₗ ℤ ×ₗ String :=
  toLex (array.leadTimeHours, toLex (array.batchIndex, array.filename))

def decodeTarBytes (content : Bytes) : Except DecoderFailure FourCastNetDecodedTarSummary := do
  let (decodedMembers, warnings) ← loadTarMembers content
  let summaries ← decodedMembers.mapM summarizeArray
  let arrays := summaries.insertionSort fun a b => arrayKey a ≤ arrayKey b
  return {
    memberCount := arrays.length
    arrays := arrays
    leadTimeHours := (arrays.map (·.leadTimeHours)).toFinset.sort (· ≤ ·)
    batchIndices := (arrays.map (·.batchIndex)).toFinset.sort (· ≤ ·)
    warnings := warnings }

end Archive

def selectBatchMembers (members : List DecodedNumpyMember) : List DecodedNumpyMember :=
  match members with
  | [] => []
  | first :: _ =>
    let batchIndex := if members.any (·.batchIndex = 0) then 0 else first.batchIndex
    let selected := (members.filter (·.batchIndex = batchIndex)).map fun member =>
      (member.leadTimeHours, member)
    -- the first member of a lead time counts
    (Dictionary.sortedEntries selected).map (·.2)

/-! ## Sampling -/

/-- The cell of a grid that is nearest to a location. -/
def nearestCell (latitudeCount longitudeCount : ℕ) (latitude longitude : ℚ) : ℤ × ℤ :=
  let latitudeStep : ℚ := if 1 < latitudeCount then 180 / (latitudeCount - 1) else 180
  let longitudeStep : ℚ := 360 / longitudeCount
  let latitudeIndex :=
    if 1 < latitudeCount then roundHalfEven ((90 - latitude) / latitudeStep) else 0
  let normalizedLongitude := floorMod longitude 360
  let longitudeIndex := roundHalfEven (normalizedLongitude / longitudeStep) % longitudeCount
  (min (latitudeCount - 1) (max 0 latitudeIndex), min (longitudeCount - 1) (max 0 longitudeIndex))

def gridIndices (array : NumpyArray) (latitude longitude : ℚ) : Except DecoderFailure (ℤ × ℤ) :=
  match array.shape.reverse with
  | longitudeCount :: latitudeCount :: _ =>
    if latitudeCount = 0 ∨ longitudeCount = 0 then
      .error (.postProcessing ("Invalid grid shape " ++ tupleText array.shape ++ "."))
    else .ok (nearestCell latitudeCount longitudeCount latitude longitude)
  | _ => .error (.other "tuple index out of range")

def readGridValue (array : NumpyArray) (variableIndex latitudeIndex longitudeIndex : ℕ) :
    Except DecoderFailure ℚ :=
  let variableAxis := if array.ndim = 4 then 1 else 2
  if array.shape.getD variableAxis 0 ≤ variableIndex then
    .error (.postProcessing ("Variable index " ++ toString variableIndex ++
      " is outside FourCastNet array shape " ++ tupleText array.shape ++ "."))
  else
    let index :=
      if array.ndim = 4 then [0, variableIndex, latitudeIndex, longitudeIndex]
      else [0, 0, variableIndex, latitudeIndex, longitudeIndex]
    if ¬ array.InBounds index then .error (.other "index is out of bounds")
    else
      match array.element index with
      | none => .error (.other "only real numbers can be converted to floats")
      | some (.finite value) => .ok value
      | some .negZero => .ok 0
      | some _ =>
        .error (.postProcessing ("Sampled non-finite FourCastNet value at index " ++
          tupleText index ++ "."))

/-- The values that were read, by variable. -/
def SampledValues.ofValues (values : List (HostedFourCastNetVariable × ℚ)) : SampledValues where
  w10m := (values.lookup .w10m).getD 0
  t2m := (values.lookup .t2m).getD 0
  msl := (values.lookup .msl).getD 0
  tcwv := (values.lookup .tcwv).getD 0

def sampleMemberValues [ArchiveReader] (array : NumpyArray)
    (hostedVariables : List HostedFourCastNetVariable) (latitude longitude : ℚ) :
    Except DecoderFailure SampledValues :=
  if array.ndim ≠ 4 ∧ array.ndim ≠ 5 then
    .error (.postProcessing ("Expected 4D or 5D FourCastNet array, got shape " ++
      tupleText array.shape ++ "."))
  else do
    let (latitudeIndex, longitudeIndex) ← gridIndices array latitude longitude
    let read (hostedVariable : HostedFourCastNetVariable) :=
      (readGridValue array (hostedVariables.idxOf hostedVariable) latitudeIndex.toNat
        longitudeIndex.toNat).map fun value => (hostedVariable, value)
    let values ← (ArchiveReader.setOrder requiredPointVariables).mapM read
    return SampledValues.ofValues values

/-! ## Derived values -/

def toCelsius (value : ℚ) : ℚ := if 170 < value then value - 273.15 else value

def toHpa (value : ℚ) : ℚ := if 2000 < value then value / 100 else value

def tcwvToHumidityPercent (value : ℚ) : PyNumber :=
  (PyNumber.int 98).min ((PyNumber.int 15).max (.float (value * 1.5)))

def estimatePrecipitationProbability (humidityPercent pressureHpa windSpeedMs : ℚ) : PyNumber :=
  let pressureSignal := max 0 (1013.25 - pressureHpa) * 1.4
  let humiditySignal := max 0 (humidityPercent - 45) * 0.85
  let windSignal := min 12 (windSpeedMs * 0.8)
  (PyNumber.int 95).min
    ((PyNumber.int 2).max (.float (humiditySignal + pressureSignal + windSignal)))

/-- The confidence of a step, before it is rounded. -/
def stepConfidence (leadTimeHours warningCount : ℕ) : ℚ :=
  max 0.55 (min 0.95 (0.92 - leadTimeHours * 0.003 - warningCount * 0.03))

def chooseCondition (windSpeedMs humidityPercent precipitationProbabilityPercent : ℚ) :
    ForecastCondition :=
  if 45 ≤ precipitationProbabilityPercent then .rainWatch
  else if 8 ≤ windSpeedMs then .breezy
  else if 74 ≤ humidityPercent then .humid
  else .clear

section Timeline

variable [FloatRepr]

def buildStepSummary (condition : ForecastCondition) (temperatureC : ℚ)
    (windSpeedMs precipitationProbabilityPercent : PyNumber) : String :=
  let conditionText :=
    match condition with
    | .clear => "Stable conditions"
    | .breezy => "Breezy air flow"
    | .humid => "Elevated moisture"
    | .rainWatch => "Rain watch proxy"
  conditionText ++ ": " ++ FloatRepr.repr temperatureC ++ " C, wind " ++ windSpeedMs.text ++
    " m/s, rain proxy " ++ precipitationProbabilityPercent.text ++ "%."

/-- What `_build_timeline_step` derives from sampled values. -/
def timelineStepOf (values : SampledValues) (leadTimeHours warningCount : ℕ)
    (generatedAt : Time) : ForecastTimelineStep :=
  let temperatureC := roundTo 1 (toCelsius values.t2m)
  let windSpeedMs := ((PyNumber.int 0).max (.float values.w10m)).round 1
  let humidityPercent := (tcwvToHumidityPercent values.tcwv).round 1
  let pressureHpa := roundTo 1 (toHpa values.msl)
  let precipitationProbabilityPercent :=
    (estimatePrecipitationProbability humidityPercent.value pressureHpa windSpeedMs.value).round 1
  let confidence := roundTo 2 (stepConfidence leadTimeHours warningCount)
  let condition := chooseCondition windSpeedMs.value humidityPercent.value
    precipitationProbabilityPercent.value
  { leadTimeHours := leadTimeHours
    validAt := generatedAt + timedeltaHours leadTimeHours
    temperatureC := .finite temperatureC
    windSpeedMs := .finite windSpeedMs.value
    humidityPercent := .finite humidityPercent.value
    precipitationProbabilityPercent := .finite precipitationProbabilityPercent.value
    pressureHpa := .finite pressureHpa
    confidence := .finite confidence
    condition := condition
    summary := buildStepSummary condition temperatureC windSpeedMs
      precipitationProbabilityPercent }

def buildTimelineStep [ArchiveReader] (member : DecodedNumpyMember)
    (hostedVariables : List HostedFourCastNetVariable) (latitude longitude : ℚ)
    (generatedAt : Time) (warningCount : ℕ) : Except DecoderFailure ForecastTimelineStep := do
  let values ← sampleMemberValues member.array hostedVariables latitude longitude
  let step := timelineStepOf values member.leadTimeHours warningCount generatedAt
  if step.isInstance then return step else .error (.other "validation error")

def buildHeadline (currentStep : ForecastTimelineStep) : String :=
  match currentStep.condition with
  | .rainWatch => "Rain risk proxy is elevated in the FourCastNet sample."
  | .breezy => "FourCastNet indicates breezy near-surface winds."
  | .humid => "FourCastNet moisture proxy is elevated."
  | .clear => "FourCastNet point sample is stable for this location."

/-- `round(confidence * 100)`; the confidence of a step is a finite number. -/
def confidencePercent : PyFloat → ℤ
  | .finite confidence => roundHalfEven (confidence * 100)
  | _ => 0

def buildSignals (first : ForecastTimelineStep) (rest : List ForecastTimelineStep) :
    List ForecastSignal :=
  let maxRain := PyFloat.maxOf first.precipitationProbabilityPercent
    (rest.map (·.precipitationProbabilityPercent))
  let maxWind := PyFloat.maxOf first.windSpeedMs (rest.map (·.windSpeedMs))
  let minConfidence := PyFloat.minOf first.confidence (rest.map (·.confidence))
  [{ name := "Precipitation"
     level := if PyFloat.le 55 maxRain then .elevated
       else if PyFloat.le 35 maxRain then .moderate else .low
     message := "Peak FourCastNet rain proxy reaches " ++ maxRain.text ++ "%." },
    { name := "Wind"
      level := if PyFloat.le 9 maxWind then .moderate else .low
      message := "Peak sampled wind speed reaches " ++ maxWind.text ++ " m/s." },
    { name := "Model confidence"
      level := if PyFloat.lt minConfidence (.finite 0.78) then .moderate else .low
      message := "Lowest sampling confidence across the window is " ++
        toString (confidencePercent minConfidence) ++ "%." }]

/-- The summary of a timeline. -/
def summaryOf (first : ForecastTimelineStep) (rest : List ForecastTimelineStep)
    (latitude longitude : ℚ) (generatedAt : Time) : ForecastSummary where
  provider := .fourcastnet
  generatedAt := generatedAt
  latitude := .finite latitude
  longitude := .finite longitude
  headline := buildHeadline first
  metrics := [⟨"temperature", first.temperatureC, "celsius"⟩,
    ⟨"wind_speed", first.windSpeedMs, "m/s"⟩, ⟨"humidity", first.humidityPercent, "percent"⟩]
  model :=
    { name := "FourCastNet hosted"
      version := "hosted-api"
      resolution := "0.25 degree global latitude-longitude grid"
      runMode := .nim }
  forecastWindow :=
    { startAt := first.validAt
      endAt := ((first :: rest).getLast (List.cons_ne_nil _ _)).validAt
      stepHours := forecastStepHours
      leadHours := (first :: rest).map (·.leadTimeHours) }
  timeline := first :: rest
  signals := buildSignals first rest

variable [ArchiveReader]

def buildForecastSummaryFromTarBytes (content : Bytes)
    (request : FourCastNetHostedInferenceRequest) (latitude longitude : ℚ) (generatedAt : Time) :
    Except DecoderFailure ForecastSummary := do
  let missingVariables := requiredPointVariables.filter (· ∉ request.hostedVariables)
  if missingVariables ≠ [] then
    let missing := (missingVariables.map (·.text)).insertionSort (· ≤ ·)
    .error (.postProcessing ("Point forecast sampling requires variables: " ++
      ", ".intercalate missing ++ "."))
  else
    let (decodedMembers, warnings) ← loadTarMembers content
    match selectBatchMembers decodedMembers with
    | [] => .error (.postProcessing "No decodable FourCastNet NumPy arrays found.")
    | first :: rest =>
      let build (member : DecodedNumpyMember) :=
        buildTimelineStep member request.hostedVariables latitude longitude generatedAt
          warnings.length
      let firstStep ← build first
      let steps ← rest.mapM build
      let summary := summaryOf firstStep steps latitude longitude generatedAt
      if summary.isInstance then return summary else .error (.other "validation error")

def buildForecastSummaryFromHostedResult (result : FourCastNetHostedInferenceResult)
    (request : FourCastNetHostedInferenceRequest) (latitude longitude : ℚ) (generatedAt : Time) :
    Except DecoderFailure ForecastSummary :=
  if detectFormat result.contentType ≠ "tar" then
    if orText result.largeAssetMessage none ≠ none then
      .error (.postProcessing ("Hosted FourCastNet returned a large-asset marker without a tar " ++
        "body. A downloadable result URL or a local sample tar is required for point sampling."))
    else
      .error (.postProcessing ("Point forecast sampling requires tar output, got " ++
        ArchiveReader.reprText result.contentType ++ "."))
  else
    match result.rawContent with
    | none => .error (.postProcessing "Point forecast sampling requires raw tar bytes.")
    | some content =>
      buildForecastSummaryFromTarBytes content request latitude longitude generatedAt

end Timeline

end FourCastNetPostProcessor

end Earth2Sandbox
