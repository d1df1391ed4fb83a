import Earth2Sandbox.Runtime.Http
import Earth2Sandbox.Runtime.Python

/-!
# Schemas of hosted FourCastNet inference

`FourCastNetHostedInferenceRequest` and `FourCastNetHostedInferenceResult` of
`schemas/fourcastnet.py`.  A request carries the bounds that pydantic checks as fields.
-/

namespace Earth2Sandbox

inductive HostedFourCastNetVariable where
  | w10m
  | t2m
  | msl
  | tcwv
  | z500
  deriving DecidableEq

/-- The variable as the source spells it. -/
def HostedFourCastNetVariable.text : HostedFourCastNetVariable → String
  | w10m => "w10m"
  | t2m => "t2m"
  | msl => "msl"
  | tcwv => "tcwv"
  | z500 => "z500"

inductive HostedFourCastNetAccept where
  | json
  | tar
  deriving DecidableEq

/-- The content type as the source spells it. -/
def HostedFourCastNetAccept.text : HostedFourCastNetAccept → String
  | json => "application/json"
  | tar => "application/x-tar"

inductive FourCastNetResponseSource where
  | inline
  | poll
  | redirect
  | responseReference
  | cache
  deriving DecidableEq

/-- The source as the source code spells it. -/
def FourCastNetResponseSource.text : FourCastNetResponseSource → String
  | inline => "inline"
  | poll => "poll"
  | redirect => "redirect"
  | responseReference => "response_reference"
  | cache => "cache"

inductive FourCastNetCacheStatus where
  | disabled
  | hit
  | miss
  | stored
  deriving DecidableEq

/-- The status as the source spells it. -/
def FourCastNetCacheStatus.text : FourCastNetCacheStatus → String
  | disabled => "disabled"
  | hit => "hit"
  | miss => "miss"
  | stored => "stored"

/-- The number that an `int` or a `float` stands for. -/
def PyValue.number : PyValue → Option PyFloat
  | .int n => Option.some (.finite n)
  | .float x => Option.some x
  | _ => Option.none

/-- The double written `0.1`. -/
def oneTenth : PyFloat := .finite (3602879701896397 / 36028797018963968)

/-! Every default of a request passes its own check. -/

lemma inputId_default_ok : (0 : ℤ) ≤ 0 ∧ (0 : ℤ) ≤ 3 := by decide

lemma simulationLength_default_ok : (1 : ℤ) ≤ 4 ∧ (4 : ℤ) ≤ 40 := by decide

lemma ensembleSize_default_ok : (1 : ℤ) ≤ 1 ∧ (1 : ℤ) ≤ 4 := by decide

lemma noiseAmplitude_default_ok :
    (PyValue.int 0).number.any (PyFloat.between 0 oneTenth) = true := by
  decide +kernel

lemma pollSeconds_default_ok : (1 : ℤ) ≤ 5 ∧ (5 : ℤ) ≤ 120 := by decide

/-- `FourCastNetHostedInferenceRequest`; the default of `noise_amplitude` is an `int`. -/
structure FourCastNetHostedInferenceRequest where
  inputId : ℤ := 0
  hostedVariables : List HostedFourCastNetVariable := [.w10m, .t2m, .msl, .tcwv, .z500]
  simulationLength : ℤ := 4
  ensembleSize : ℤ := 1
  noiseAmplitude : PyValue := .int 0
  accept : HostedFourCastNetAccept := .tar
  pollSeconds : ℤ := 5
  inputId_ok : 0 ≤ inputId ∧ inputId ≤ 3 := by first | exact inputId_default_ok | decide
  simulationLength_ok : 1 ≤ simulationLength ∧ simulationLength ≤ 40 := by
    first | exact simulationLength_default_ok | decide
  ensembleSize_ok : 1 ≤ ensembleSize ∧ ensembleSize ≤ 4 := by
    first | exact ensembleSize_default_ok | decide
  noiseAmplitude_ok : noiseAmplitude.number.any (PyFloat.between 0 oneTenth) = true := by
    first | exact noiseAmplitude_default_ok | decide +kernel
  pollSeconds_ok : 1 ≤ pollSeconds ∧ pollSeconds ≤ 120 := by
    first | exact pollSeconds_default_ok | decide

structure FourCastNetDecodedArray where
  filename : String
  leadTimeHours : ℤ
  batchIndex : ℤ
  shape : List ℕ
  dtype : String
  finiteCount : ℕ
  minValue : Option PyFloat
  maxValue : Option PyFloat
  meanValue : Option PyFloat
  deriving DecidableEq

structure FourCastNetDecodedTarSummary where
  memberCount : ℕ
  arrays : List FourCastNetDecodedArray
  leadTimeHours : List ℤ
  batchIndices : List ℤ
  warnings : List String
  deriving DecidableEq

/-- `FourCastNetHostedInferenceResult`, without the two reports that only the inference endpoint
adds. -/
structure FourCastNetHostedInferenceResult where
  endpoint : String
  statusCode : ℕ
  contentType : String
  byteLength : ℕ
  sha256 : String
  requestPayload : PyDict
  jsonPreview : Option Json := none
  nvcfRequestId : Option String := none
  nvcfStatus : Option String := none
  largeAssetMessage : Option String := none
  pollAttempts : ℕ := 0
  responseSource : FourCastNetResponseSource := .inline
  responseReferencePresent : Bool := false
  cacheStatus : FourCastNetCacheStatus := .disabled
  cachedArtifactId : Option String := none
  rawContent : Option Bytes := none

end Earth2Sandbox
