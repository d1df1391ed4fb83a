import Mathlib.Algebra.Order.Floor.Ring
import Mathlib.Data.Rat.Floor

/-!
# Risk decisions

`apps/mobile/src/utils/riskDecisions.ts`: the extremes of a timeline, the rules that read a risk
level off them, and the decisions that the client shows.  Numbers are exact, and texts of numbers
are those of magnitudes below 10^21.

The `level` of a rule is `levelFromFlags` of two lists of flags; a rule has the two lists as fields.
-/

namespace Earth2Sandbox

namespace Mobile

/-! ## Numbers and texts -/

/-- `Math.round`. -/
def mathRound (value : ℚ) : ℤ := ⌊value + 1 / 2⌋

/-- `value.toFixed(1)`. -/
def toFixedOne (value : ℚ) : String :=
  let tenths := (mathRound (|value| * 10)).toNat
  (if value < 0 then "-" else "") ++ toString (tenths / 10) ++ "." ++ toString (tenths % 10)

def formatPercent (value : ℚ) : String := toString (mathRound value) ++ "%"

def formatPressure (value : ℚ) : String := toString (mathRound value) ++ " hPa"

def formatTemperature (value : ℚ) : String := toString (mathRound value) ++ " C"

def formatWind (value : ℚ) : String := toFixedOne value ++ " m/s"

/-- `formatConfidence` of `forecastFormat.ts`. -/
def formatConfidence (confidence : ℚ) : String := toString (mathRound (confidence * 100)) ++ "%"

/-! ## Profiles -/

/-- What a profile reads of a `ForecastTimelineStep`. -/
structure TimelineStep where
  temperatureC : ℚ
  windSpeedMs : ℚ
  humidityPercent : ℚ
  precipitationProbabilityPercent : ℚ
  pressureHpa : ℚ
  confidence : ℚ
  deriving DecidableEq

structure RiskProfile where
  maxHumidity : ℚ
  maxRain : ℚ
  maxTemperatureC : ℚ
  maxWind : ℚ
  minConfidence : ℚ
  minPressure : ℚ
  deriving DecidableEq

/-- `maxOf` of a timeline that is not empty. -/
def maxOf (first : TimelineStep) (rest : List TimelineStep) (selector : TimelineStep → ℚ) : ℚ :=
  rest.foldl (fun largest step => max largest (selector step)) (selector first)

/-- `minOf` of a timeline that is not empty. -/
def minOf (first : TimelineStep) (rest : List TimelineStep) (selector : TimelineStep → ℚ) : ℚ :=
  rest.foldl (fun least step => min least (selector step)) (selector first)

def buildRiskProfile (first : TimelineStep) (rest : List TimelineStep) : RiskProfile where
  maxHumidity := maxOf first rest (·.humidityPercent)
  maxRain := maxOf first rest (·.precipitationProbabilityPercent)
  maxTemperatureC := maxOf first rest (·.temperatureC)
  maxWind := maxOf first rest (·.windSpeedMs)
  minConfidence := minOf first rest (·.confidence)
  minPressure := minOf first rest (·.pressureHpa)

/-! ## Rules -/

inductive RiskLevel where
  | low
  | moderate
  | elevated
  deriving DecidableEq

def riskLevelRank (level : RiskLevel) : ℕ :=
  if level = .elevated then 2 else if level = .moderate then 1 else 0

inductive RiskGroup where
  | outdoor
  | operations
  deriving DecidableEq

/-- The group as the source spells it. -/
def RiskGroup.text : RiskGroup → String
  | outdoor => "Outdoor"
  | operations => "Operations"

def riskGroups : List RiskGroup := [.outdoor, .operations]

def levelFromFlags (elevated moderate : List Bool) : RiskLevel :=
  let elevatedCount := (elevated.filter id).length
  let moderateCount := (moderate.filter id).length
  if 0 < elevatedCount ∨ 2 ≤ moderateCount then .elevated
  else if moderateCount = 1 then .moderate
  else .low

structure RiskRule where
  action : RiskLevel → String
  driver : RiskProfile → String
  group : RiskGroup
  id : String
  label : String
  elevated : List (RiskProfile → Bool)
  moderate : List (RiskProfile → Bool)
  reason : RiskProfile → String

/-- The `level` of a rule. -/
def RiskRule.level (rule : RiskRule) (profile : RiskProfile) : RiskLevel :=
  levelFromFlags (rule.elevated.map (· profile)) (rule.moderate.map (· profile))

def hiking : RiskRule where
  action
    | .elevated => "Delay exposed ridge routes or move to a sheltered window."
    | .low => "Proceed with normal route checks."
    | .moderate => "Keep a shorter route option and monitor wind shifts."
  driver profile := formatPercent profile.maxRain ++ " rain, " ++ formatWind profile.maxWind
  group := .outdoor
  id := "hiking"
  label := "Hiking"
  elevated := [fun profile => profile.maxRain ≥ 60, fun profile => profile.maxWind ≥ 12,
    fun profile => profile.minConfidence < 0.68, fun profile => profile.maxTemperatureC ≥ 34]
  moderate := [fun profile => profile.maxRain ≥ 40, fun profile => profile.maxWind ≥ 8,
    fun profile => profile.minConfidence < 0.78, fun profile => profile.maxTemperatureC ≥ 31]
  reason profile := "Peak rain " ++ formatPercent profile.maxRain ++ " with wind up to " ++
    formatWind profile.maxWind ++ "."

def camping : RiskRule where
  action
    | .elevated => "Use a hard shelter plan and avoid exposed overnight setup."
    | .low => "Standard campsite setup is enough."
    | .moderate => "Pack extra anchoring and keep drainage in mind."
  driver profile := formatPercent profile.maxRain ++ " rain, " ++
    formatPercent profile.maxHumidity ++ " humidity"
  group := .outdoor
  id := "camping"
  label := "Camping"
  elevated := [fun profile => profile.maxRain ≥ 55, fun profile => profile.maxWind ≥ 10,
    fun profile => profile.maxHumidity ≥ 90]
  moderate := [fun profile => profile.maxRain ≥ 35, fun profile => profile.maxWind ≥ 7,
    fun profile => profile.maxHumidity ≥ 80]
  reason profile := "Rain reaches " ++ formatPercent profile.maxRain ++ " and humidity peaks at " ++
    formatPercent profile.maxHumidity ++ "."

def fishing : RiskRule where
  action
    | .elevated => "Avoid small-boat windows and keep shoreline plans flexible."
    | .low => "Proceed with normal water checks."
    | .moderate => "Favor protected water and confirm local wind before launch."
  driver profile := formatWind profile.maxWind ++ ", " ++ formatPressure profile.minPressure
  group := .outdoor
  id := "fishing"
  label := "Fishing"
  elevated := [fun profile => profile.maxWind ≥ 9, fun profile => profile.maxRain ≥ 55,
    fun profile => profile.minPressure < 1002]
  moderate := [fun profile => profile.maxWind ≥ 6, fun profile => profile.maxRain ≥ 35,
    fun profile => profile.minPressure < 1007]
  reason profile := "Wind tops " ++ formatWind profile.maxWind ++ " with pressure floor at " ++
    formatPressure profile.minPressure ++ "."

def drone : RiskRule where
  action
    | .elevated => "Do not schedule flight until wind and rain risk drops."
    | .low => "Flight window looks usable with standard site checks."
    | .moderate => "Keep flights short and verify gusts at the launch site."
  driver profile := formatWind profile.maxWind ++ ", " ++ formatPercent profile.maxRain ++ " rain"
  group := .outdoor
  id := "drone"
  label := "Drone filming"
  elevated := [fun profile => profile.maxWind ≥ 8, fun profile => profile.maxRain ≥ 35,
    fun profile => profile.minConfidence < 0.72]
  moderate := [fun profile => profile.maxWind ≥ 5.5, fun profile => profile.maxRain ≥ 20,
    fun profile => profile.minConfidence < 0.8]
  reason profile := "Wind peaks at " ++ formatWind profile.maxWind ++
    " and minimum confidence is " ++ formatConfidence profile.minConfidence ++ "."

def logistics : RiskRule where
  action
    | .elevated => "Pre-stage delay buffers and review exposed route segments."
    | .low => "Run standard dispatch monitoring."
    | .moderate => "Add slack for route timing and loading windows."
  driver profile := formatPercent profile.maxRain ++ " rain, " ++ formatWind profile.maxWind
  group := .operations
  id := "logistics"
  label := "Logistics"
  elevated := [fun profile => profile.maxRain ≥ 65, fun profile => profile.maxWind ≥ 13,
    fun profile => profile.minConfidence < 0.68]
  moderate := [fun profile => profile.maxRain ≥ 45, fun profile => profile.maxWind ≥ 9,
    fun profile => profile.minConfidence < 0.78]
  reason profile := "Operational window sees " ++ formatPercent profile.maxRain ++
    " rain risk and " ++ formatWind profile.maxWind ++ " wind."

def energy : RiskRule where
  action
    | .elevated => "Prepare escalation coverage for wind and pressure-sensitive assets."
    | .low => "Keep routine load and site monitoring."
    | .moderate => "Watch wind ramps and pressure-sensitive operations."
  driver profile := formatWind profile.maxWind ++ ", " ++ formatPressure profile.minPressure
  group := .operations
  id := "energy"
  label := "Energy sites"
  elevated := [fun profile => profile.maxWind ≥ 14, fun profile => profile.minPressure < 1002,
    fun profile => profile.minConfidence < 0.68]
  moderate := [fun profile => profile.maxWind ≥ 10, fun profile => profile.minPressure < 1007,
    fun profile => profile.minConfidence < 0.78]
  reason profile := "Wind reaches " ++ formatWind profile.maxWind ++ " and pressure drops to " ++
    formatPressure profile.minPressure ++ "."

def agriculture : RiskRule where
  action
    | .elevated => "Protect field work from soil saturation and heat stress windows."
    | .low => "Proceed with normal field monitoring."
    | .moderate => "Schedule sensitive field work around wet or hot periods."
  driver profile := formatPercent profile.maxRain ++ " rain, " ++
    formatTemperature profile.maxTemperatureC
  group := .operations
  id := "agriculture"
  label := "Agriculture"
  elevated := [fun profile => profile.maxRain ≥ 60, fun profile => profile.maxHumidity ≥ 92,
    fun profile => profile.maxTemperatureC ≥ 34]
  moderate := [fun profile => profile.maxRain ≥ 40, fun profile => profile.maxHumidity ≥ 82,
    fun profile => profile.maxTemperatureC ≥ 30]
  reason profile := "Rain peaks at " ++ formatPercent profile.maxRain ++ " with " ++
    formatTemperature profile.maxTemperatureC ++ " heat ceiling."

def construction : RiskRule where
  action
    | .elevated => "Pause lift, roof, and exposed exterior work windows."
    | .low => "Continue standard site safety checks."
    | .moderate => "Review lift plans and exterior work timing."
  driver profile := formatWind profile.maxWind ++ ", " ++ formatPercent profile.maxRain ++ " rain"
  group := .operations
  id := "construction"
  label := "Construction"
  elevated := [fun profile => profile.maxWind ≥ 12, fun profile => profile.maxRain ≥ 55,
    fun profile => profile.minConfidence < 0.68]
  moderate := [fun profile => profile.maxWind ≥ 8, fun profile => profile.maxRain ≥ 35,
    fun profile => profile.minConfidence < 0.78]
  reason profile := "Wind tops " ++ formatWind profile.maxWind ++ " and rain chance reaches " ++
    formatPercent profile.maxRain ++ "."

def riskRules : List RiskRule :=
  [hiking, camping, fishing, drone, logistics, energy, agriculture, construction]

/-! ## Decisions -/

structure RiskDecision where
  action : String
  driver : String
  group : RiskGroup
  id : String
  label : String
  level : RiskLevel
  reason : String
  deriving DecidableEq

structure RiskDecisionSection where
  decisions : List RiskDecision
  group : RiskGroup
  deriving DecidableEq

structure RiskDecisionModel where
  decisions : List RiskDecision
  profile : RiskProfile
  sections : List RiskDecisionSection
  deriving DecidableEq

/-- The decision of a rule. -/
def RiskRule.decision (rule : RiskRule) (profile : RiskProfile) : RiskDecision :=
  let level := rule.level profile
  { action := rule.action level
    driver := rule.driver profile
    group := rule.group
    id := rule.id
    label := rule.label
    level := level
    reason := rule.reason profile }

def buildRiskDecisionModel (timeline : List TimelineStep) : Option RiskDecisionModel :=
  match timeline with
  | [] => none
  | first :: rest =>
    let profile := buildRiskProfile first rest
    let decisions := riskRules.map (·.decision profile)
    some {
      decisions := decisions
      profile := profile
      sections := riskGroups.map fun group =>
        { decisions := decisions.filter (·.group = group), group := group } }

end Mobile

end Earth2Sandbox
