import Earth2Sandbox.Nvidia.Decoder

/-!
# Derived values

The bounds of what a timeline step derives from sampled values.  Each value is clamped to a range
and rounded, and rounding stays within a range whose ends have few digits.  A step is therefore
always within the bounds of its fields (`isInstance_timelineStepOf`).

Clamping and rounding keep the order, too, and so do the three signals of which the precipitation
probability is the sum.  `derived_bounds` states both for the steps that are built.
-/

namespace Earth2Sandbox

/-! ## Clamped numbers -/

namespace PyNumber

lemma value_max (x y : PyNumber) : (x.max y).value = Max.max x.value y.value := by
  unfold max
  split
  · next h => exact (max_eq_right h.le).symm
  · next h => exact (max_eq_left (not_lt.mp h)).symm

lemma value_min (x y : PyNumber) : (x.min y).value = Min.min x.value y.value := by
  unfold min
  split
  · next h => exact (min_eq_right h.le).symm
  · next h => exact (min_eq_left (not_lt.mp h)).symm

lemma value_clamp {low high : ℤ} (h : low ≤ high) (x : PyNumber) :
    (low : ℚ) ≤ ((int high).min ((int low).max x)).value ∧
      ((int high).min ((int low).max x)).value ≤ high := by
  rw [value_min, value_max]
  have hends : (low : ℚ) ≤ high := by exact_mod_cast h
  exact ⟨le_min hends (le_max_left _ _), min_le_left _ _⟩

lemma value_clamp_mono (low high : ℤ) {x y : PyNumber} (h : x.value ≤ y.value) :
    ((int high).min ((int low).max x)).value ≤ ((int high).min ((int low).max y)).value := by
  simp only [value_min, value_max]
  exact min_le_min le_rfl (max_le_max le_rfl h)

lemma value_round (digits : ℕ) (x : PyNumber) :
    (x.round digits).value = roundTo digits x.value := by
  cases x with
  | int n =>
    have hmul : (n : ℚ) * 10 ^ digits = (n * 10 ^ digits : ℤ) := by push_cast; rfl
    exact (roundTo_of_mul_eq hmul).symm
  | float q => rfl

lemma value_round_mono (digits : ℕ) {x y : PyNumber} (h : x.value ≤ y.value) :
    (x.round digits).value ≤ (y.round digits).value := by
  rw [value_round, value_round]
  exact roundTo_mono digits h

end PyNumber

/-- Rounding stays within a range whose ends have few digits. -/
lemma roundTo_mem {digits : ℕ} {low high q : ℚ} {m n : ℤ} (hlow : low * 10 ^ digits = m)
    (hhigh : high * 10 ^ digits = n) (h : low ≤ q ∧ q ≤ high) :
    low ≤ roundTo digits q ∧ roundTo digits q ≤ high := by
  constructor
  · rw [← roundTo_of_mul_eq hlow]
    exact roundTo_mono digits h.1
  · rw [← roundTo_of_mul_eq hhigh]
    exact roundTo_mono digits h.2

namespace FourCastNetPostProcessor

lemma humidity_bounds (tcwv : ℚ) :
    15 ≤ ((tcwvToHumidityPercent tcwv).round 1).value ∧
      ((tcwvToHumidityPercent tcwv).round 1).value ≤ 98 := by
  rw [PyNumber.value_round]
  exact roundTo_mem (m := 150) (n := 980) (by norm_num) (by norm_num)
    (PyNumber.value_clamp (by decide) _)

lemma precipitation_bounds (humidityPercent pressureHpa windSpeedMs : ℚ) :
    2 ≤ ((estimatePrecipitationProbability humidityPercent pressureHpa windSpeedMs).round
        1).value ∧
      ((estimatePrecipitationProbability humidityPercent pressureHpa windSpeedMs).round
        1).value ≤ 95 := by
  rw [PyNumber.value_round]
  exact roundTo_mem (m := 20) (n := 950) (by norm_num) (by norm_num)
    (PyNumber.value_clamp (by decide) _)

lemma confidence_bounds (leadTimeHours warningCount : ℕ) :
    0.55 ≤ roundTo 2 (stepConfidence leadTimeHours warningCount) ∧
      roundTo 2 (stepConfidence leadTimeHours warningCount) ≤ 0.95 := by
  refine roundTo_mem (m := 55) (n := 95) (by norm_num) (by norm_num) ⟨le_max_left _ _, ?_⟩
  exact max_le (by norm_num) (min_le_left _ _)

lemma wind_nonneg (w10m : ℚ) : 0 ≤ (((PyNumber.int 0).max (.float w10m)).round 1).value := by
  have hround := PyNumber.value_round_mono 1 (x := .int 0) (y := (PyNumber.int 0).max (.float w10m))
    (by rw [PyNumber.value_max]; exact le_max_left _ _)
  exact_mod_cast hround

lemma between_finite {low high q : ℚ} :
    PyFloat.between (.finite low) (.finite high) (.finite q) = true ↔ low ≤ q ∧ q ≤ high := by
  simp [PyFloat.between, PyFloat.le]

lemma le_finite {p q : ℚ} : PyFloat.le (.finite p) (.finite q) = true ↔ p ≤ q := by
  simp [PyFloat.le]

/-! ## The order of derived values -/

lemma humidity_mono {tcwv tcwv' : ℚ} (h : tcwv ≤ tcwv') :
    ((tcwvToHumidityPercent tcwv).round 1).value ≤
      ((tcwvToHumidityPercent tcwv').round 1).value := by
  apply PyNumber.value_round_mono
  apply PyNumber.value_clamp_mono 15 98
  change tcwv * 1.5 ≤ tcwv' * 1.5
  gcongr

/-- Each of the three signals grows with bad weather, and so does their sum. -/
lemma precipitation_mono {humidityPercent humidityPercent' pressureHpa pressureHpa' windSpeedMs
    windSpeedMs' : ℚ} (hhumidity : humidityPercent ≤ humidityPercent')
    (hpressure : pressureHpa' ≤ pressureHpa) (hwind : windSpeedMs ≤ windSpeedMs') :
    ((estimatePrecipitationProbability humidityPercent pressureHpa windSpeedMs).round 1).value ≤
      ((estimatePrecipitationProbability humidityPercent' pressureHpa' windSpeedMs').round
        1).value := by
  have hpressureSignal :
      max 0 (1013.25 - pressureHpa) * 1.4 ≤ max 0 (1013.25 - pressureHpa') * 1.4 := by
    gcongr
  have hhumiditySignal :
      max 0 (humidityPercent - 45) * 0.85 ≤ max 0 (humidityPercent' - 45) * 0.85 := by
    gcongr
  have hwindSignal : min 12 (windSpeedMs * 0.8) ≤ min 12 (windSpeedMs' * 0.8) := by
    gcongr
  apply PyNumber.value_round_mono
  apply PyNumber.value_clamp_mono 2 95
  exact add_le_add (add_le_add hhumiditySignal hpressureSignal) hwindSignal

lemma confidence_anti {leadTimeHours leadTimeHours' warningCount warningCount' : ℕ}
    (hlead : leadTimeHours ≤ leadTimeHours') (hwarnings : warningCount ≤ warningCount') :
    roundTo 2 (stepConfidence leadTimeHours' warningCount') ≤
      roundTo 2 (stepConfidence leadTimeHours warningCount) := by
  apply roundTo_mono
  unfold stepConfidence
  gcongr

/-! ## Steps -/

section Steps

variable [FloatRepr]

/-- **Steps are valid.**  Whatever was sampled, the step is within the bounds of its fields. -/
theorem isInstance_timelineStepOf (values : SampledValues) (leadTimeHours warningCount : ℕ)
    (generatedAt : Time) :
    (timelineStepOf values leadTimeHours warningCount generatedAt).isInstance = true := by
  have hhumidity := humidity_bounds values.tcwv
  have hconfidence := confidence_bounds leadTimeHours warningCount
  simp only [ForecastTimelineStep.isInstance, Bool.and_eq_true, decide_eq_true_eq]
  refine ⟨⟨⟨Int.natCast_nonneg _, between_finite.mpr ⟨?_, ?_⟩⟩, between_finite.mpr ?_⟩,
    between_finite.mpr ⟨?_, ?_⟩⟩
  · exact le_trans (by norm_num) hhumidity.1
  · exact hhumidity.2.trans (by norm_num)
  · have hprecipitation := precipitation_bounds ((tcwvToHumidityPercent values.tcwv).round 1).value
      (roundTo 1 (toHpa values.msl)) (((PyNumber.int 0).max (.float values.w10m)).round 1).value
    exact ⟨le_trans (by norm_num) hprecipitation.1, hprecipitation.2.trans (by norm_num)⟩
  · exact le_trans (by norm_num) hconfidence.1
  · exact hconfidence.2.trans (by norm_num)

/-- What a step derives is within narrower bounds than those of its fields. -/
structure DerivedWithin (step : ForecastTimelineStep) : Prop where
  humidity : PyFloat.between 15 98 step.humidityPercent = true
  precipitation : PyFloat.between 2 95 step.precipitationProbabilityPercent = true
  confidence : PyFloat.between (.finite 0.55) (.finite 0.95) step.confidence = true
  wind : PyFloat.le 0 step.windSpeedMs = true

lemma derivedWithin_timelineStepOf (values : SampledValues) (leadTimeHours warningCount : ℕ)
    (generatedAt : Time) :
    DerivedWithin (timelineStepOf values leadTimeHours warningCount generatedAt) where
  humidity := between_finite.mpr (humidity_bounds _)
  precipitation := between_finite.mpr (precipitation_bounds _ _ _)
  confidence := between_finite.mpr (confidence_bounds _ _)
  wind := le_finite.mpr (wind_nonneg _)

variable [ArchiveReader]

/-- The step is always valid. -/
lemma buildTimelineStep_eq {member : DecodedNumpyMember}
    {hostedVariables : List HostedFourCastNetVariable} {latitude longitude : ℚ}
    {generatedAt : Time} {warningCount : ℕ} :
    buildTimelineStep member hostedVariables latitude longitude generatedAt warningCount =
      sampleMemberValues member.array hostedVariables latitude longitude >>= fun values =>
        .ok (timelineStepOf values member.leadTimeHours warningCount generatedAt) := by
  unfold buildTimelineStep
  simp only [isInstance_timelineStepOf, if_true]
  rfl

/-- **Derived values.**  Building a step fails only where sampling does: the step passes the checks
of its fields, and is within narrower bounds.  Between two steps, the precipitation probability
follows humidity, wind and falling pressure, humidity follows the water of the column, and
confidence falls with the lead time and the number of warnings. -/
theorem derived_bounds :
    (∀ (member : DecodedNumpyMember) (hostedVariables : List HostedFourCastNetVariable)
      (latitude longitude : ℚ) (generatedAt : Time) (warningCount : ℕ),
      buildTimelineStep member hostedVariables latitude longitude generatedAt warningCount =
        (sampleMemberValues member.array hostedVariables latitude longitude).map fun values =>
          timelineStepOf values member.leadTimeHours warningCount generatedAt) ∧
      ∀ (values values' : SampledValues) (leadTimeHours leadTimeHours' warningCount
          warningCount' : ℕ) (generatedAt generatedAt' : Time),
        let step := timelineStepOf values leadTimeHours warningCount generatedAt
        let step' := timelineStepOf values' leadTimeHours' warningCount' generatedAt'
        step.isInstance = true ∧ DerivedWithin step ∧
          (PyFloat.le step.humidityPercent step'.humidityPercent = true →
            PyFloat.le step.windSpeedMs step'.windSpeedMs = true →
            PyFloat.le step'.pressureHpa step.pressureHpa = true →
            PyFloat.le step.precipitationProbabilityPercent
              step'.precipitationProbabilityPercent = true) ∧
          (values.tcwv ≤ values'.tcwv →
            PyFloat.le step.humidityPercent step'.humidityPercent = true) ∧
          (leadTimeHours ≤ leadTimeHours' → warningCount ≤ warningCount' →
            PyFloat.le step'.confidence step.confidence = true) := by
  constructor
  · intro member hostedVariables latitude longitude generatedAt warningCount
    rw [buildTimelineStep_eq]
    cases sampleMemberValues member.array hostedVariables latitude longitude <;> rfl
  · intro values values' leadTimeHours leadTimeHours' warningCount warningCount' generatedAt
      generatedAt'
    refine ⟨isInstance_timelineStepOf _ _ _ _, derivedWithin_timelineStepOf _ _ _ _,
      fun hhumidity hwind hpressure => ?_, fun hwater => ?_, fun hlead hwarnings => ?_⟩
    · exact le_finite.mpr (precipitation_mono (le_finite.mp hhumidity) (le_finite.mp hpressure)
        (le_finite.mp hwind))
    · exact le_finite.mpr (humidity_mono hwater)
    · exact le_finite.mpr (confidence_anti hlead hwarnings)

end Steps

end FourCastNetPostProcessor

end Earth2Sandbox
