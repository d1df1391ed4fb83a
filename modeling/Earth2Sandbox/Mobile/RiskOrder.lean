import Earth2Sandbox.Mobile.RiskDecisions
import Mathlib.Data.List.Induction
import Mathlib.Data.List.Nodup
import Mathlib.Tactic.Linarith

/-!
# Worse weather

The order of weather from better to worse, and that every risk level rises along it.  The extremes
of a timeline rise when each of its steps has a worse one in the other timeline; the flags of a rule
compare an extreme with a bound in the direction of worse weather; and more flags never give a lower
level (`riskLevels_monotone`).
-/

namespace Earth2Sandbox

namespace Mobile

/-! ## Extremes -/

section Extremes

variable {first first' : TimelineStep} {rest rest' : List TimelineStep}
  {selector : TimelineStep → ℚ}

lemma maxOf_le_iff {bound : ℚ} :
    maxOf first rest selector ≤ bound ↔ ∀ step ∈ first :: rest, selector step ≤ bound := by
  induction rest using List.reverseRecOn with
  | nil => simp [maxOf]
  | append_singleton rest step ih =>
    rw [maxOf, List.foldl_concat, max_le_iff, ← maxOf, ih, ← List.cons_append,
      List.forall_mem_append, List.forall_mem_singleton]

lemma le_minOf_iff {bound : ℚ} :
    bound ≤ minOf first rest selector ↔ ∀ step ∈ first :: rest, bound ≤ selector step := by
  induction rest using List.reverseRecOn with
  | nil => simp [minOf]
  | append_singleton rest step ih =>
    rw [minOf, List.foldl_concat, le_min_iff, ← minOf, ih, ← List.cons_append,
      List.forall_mem_append, List.forall_mem_singleton]

lemma maxOf_mono (h : ∀ step ∈ first :: rest, ∃ step' ∈ first' :: rest',
    selector step ≤ selector step') : maxOf first rest selector ≤ maxOf first' rest' selector := by
  refine maxOf_le_iff.mpr fun step hstep => ?_
  obtain ⟨step', hstep', hle⟩ := h step hstep
  exact hle.trans (maxOf_le_iff.mp le_rfl step' hstep')

lemma minOf_anti (h : ∀ step ∈ first :: rest, ∃ step' ∈ first' :: rest',
    selector step' ≤ selector step) : minOf first' rest' selector ≤ minOf first rest selector := by
  refine le_minOf_iff.mpr fun step hstep => ?_
  obtain ⟨step', hstep', hle⟩ := h step hstep
  exact (le_minOf_iff.mp le_rfl step' hstep').trans hle

end Extremes

/-! ## Worse steps, profiles and flags -/

/-- The second step has precipitation, wind, humidity and temperature at least as high, and
confidence and pressure at most as high. -/
structure TimelineStep.Worse (step step' : TimelineStep) : Prop where
  precipitation : step.precipitationProbabilityPercent ≤ step'.precipitationProbabilityPercent
  wind : step.windSpeedMs ≤ step'.windSpeedMs
  humidity : step.humidityPercent ≤ step'.humidityPercent
  temperature : step.temperatureC ≤ step'.temperatureC
  confidence : step'.confidence ≤ step.confidence
  pressure : step'.pressureHpa ≤ step.pressureHpa

lemma TimelineStep.Worse.refl (step : TimelineStep) : step.Worse step :=
  ⟨le_rfl, le_rfl, le_rfl, le_rfl, le_rfl, le_rfl⟩

/-- Each step of the first timeline has a worse one in the second. -/
def WorseTimeline (timeline timeline' : List TimelineStep) : Prop :=
  ∀ step ∈ timeline, ∃ step' ∈ timeline', step.Worse step'

lemma worseTimeline_of_subset {timeline timeline' : List TimelineStep}
    (h : timeline ⊆ timeline') : WorseTimeline timeline timeline' :=
  fun step hstep => ⟨step, h hstep, .refl step⟩

/-- The maxima of the second profile are at least as high, the minima at most as high. -/
structure RiskProfile.Worse (profile profile' : RiskProfile) : Prop where
  maxHumidity : profile.maxHumidity ≤ profile'.maxHumidity
  maxRain : profile.maxRain ≤ profile'.maxRain
  maxTemperatureC : profile.maxTemperatureC ≤ profile'.maxTemperatureC
  maxWind : profile.maxWind ≤ profile'.maxWind
  minConfidence : profile'.minConfidence ≤ profile.minConfidence
  minPressure : profile'.minPressure ≤ profile.minPressure

lemma RiskProfile.Worse.antisymm {profile profile' : RiskProfile} (h : profile.Worse profile')
    (h' : profile'.Worse profile) : profile = profile' := by
  cases profile
  cases profile'
  congr
  · exact le_antisymm h.maxHumidity h'.maxHumidity
  · exact le_antisymm h.maxRain h'.maxRain
  · exact le_antisymm h.maxTemperatureC h'.maxTemperatureC
  · exact le_antisymm h.maxWind h'.maxWind
  · exact le_antisymm h'.minConfidence h.minConfidence
  · exact le_antisymm h'.minPressure h.minPressure

/-- **Profiles.**  A worse timeline has a worse profile. -/
lemma worse_buildRiskProfile {first first' : TimelineStep} {rest rest' : List TimelineStep}
    (h : WorseTimeline (first :: rest) (first' :: rest')) :
    (buildRiskProfile first rest).Worse (buildRiskProfile first' rest') where
  maxHumidity := maxOf_mono fun step hstep =>
    (h step hstep).imp fun _ hworse => ⟨hworse.1, hworse.2.humidity⟩
  maxRain := maxOf_mono fun step hstep =>
    (h step hstep).imp fun _ hworse => ⟨hworse.1, hworse.2.precipitation⟩
  maxTemperatureC := maxOf_mono fun step hstep =>
    (h step hstep).imp fun _ hworse => ⟨hworse.1, hworse.2.temperature⟩
  maxWind := maxOf_mono fun step hstep =>
    (h step hstep).imp fun _ hworse => ⟨hworse.1, hworse.2.wind⟩
  minConfidence := minOf_anti fun step hstep =>
    (h step hstep).imp fun _ hworse => ⟨hworse.1, hworse.2.confidence⟩
  minPressure := minOf_anti fun step hstep =>
    (h step hstep).imp fun _ hworse => ⟨hworse.1, hworse.2.pressure⟩

/-- A flag that is still set in a worse profile. -/
def Rising (flag : RiskProfile → Bool) : Prop :=
  ∀ ⦃profile profile'⦄, RiskProfile.Worse profile profile' → flag profile → flag profile'

/-- **Rules.**  Every flag compares in the direction of worse weather. -/
lemma rising_of_mem_riskRules : ∀ rule ∈ riskRules,
    (∀ flag ∈ rule.elevated, Rising flag) ∧ ∀ flag ∈ rule.moderate, Rising flag := by
  simp only [riskRules, hiking, camping, fishing, drone, logistics, energy, agriculture,
    construction, List.forall_mem_cons, List.not_mem_nil, false_imp_iff, implies_true, and_true,
    Rising, decide_eq_true_eq, ge_iff_le]
  and_intros
  all_goals
    rintro _ _ ⟨hhumidity, hrain, htemperature, hwind, hconfidence, hpressure⟩ hflag
    linarith only [hhumidity, hrain, htemperature, hwind, hconfidence, hpressure, hflag]

/-! ## Levels -/

/-- More flags give no lower level. -/
lemma riskLevelRank_levelFromFlags_mono {elevated elevated' moderate moderate' : List Bool}
    (helevated : (elevated.filter id).length ≤ (elevated'.filter id).length)
    (hmoderate : (moderate.filter id).length ≤ (moderate'.filter id).length) :
    riskLevelRank (levelFromFlags elevated moderate) ≤
      riskLevelRank (levelFromFlags elevated' moderate') := by
  unfold levelFromFlags riskLevelRank
  grind

/-- A worse profile sets no fewer of the flags. -/
lemma length_filter_flags_mono {flags : List (RiskProfile → Bool)} {profile profile' : RiskProfile}
    (hrising : ∀ flag ∈ flags, Rising flag) (h : profile.Worse profile') :
    ((flags.map (· profile)).filter id).length ≤ ((flags.map (· profile')).filter id).length := by
  rw [← List.countP_eq_length_filter, ← List.countP_eq_length_filter, List.countP_map,
    List.countP_map]
  exact List.countP_mono_left fun flag hflag => hrising flag hflag h

/-- **Levels.**  A worse profile has no lower level, by any rule. -/
lemma riskLevelRank_level_mono {rule : RiskRule} (hrule : rule ∈ riskRules)
    {profile profile' : RiskProfile} (h : profile.Worse profile') :
    riskLevelRank (rule.level profile) ≤ riskLevelRank (rule.level profile') := by
  obtain ⟨helevated, hmoderate⟩ := rising_of_mem_riskRules rule hrule
  exact riskLevelRank_levelFromFlags_mono (length_filter_flags_mono helevated h)
    (length_filter_flags_mono hmoderate h)

/-! ## Decisions -/

/-- No decision of the second model has a lower level than the decision with its id in the first,
and there is one. -/
def NotLower (model model' : RiskDecisionModel) : Prop :=
  ∀ decision' ∈ model'.decisions,
    (∃ decision ∈ model.decisions, decision.id = decision'.id) ∧
      ∀ decision ∈ model.decisions, decision.id = decision'.id →
        riskLevelRank decision.level ≤ riskLevelRank decision'.level

lemma nodup_ids : (riskRules.map (·.id)).Nodup := by decide

lemma exists_model {timeline timeline' : List TimelineStep} (hne : timeline ≠ [])
    (hne' : timeline' ≠ []) (h : WorseTimeline timeline timeline') :
    ∃ model model', buildRiskDecisionModel timeline = some model ∧
      buildRiskDecisionModel timeline' = some model' ∧ NotLower model model' := by
  obtain ⟨first, rest, rfl⟩ := List.exists_cons_of_ne_nil hne
  obtain ⟨first', rest', rfl⟩ := List.exists_cons_of_ne_nil hne'
  refine ⟨_, _, rfl, rfl, fun decision' hdecision' => ?_⟩
  obtain ⟨rule, hrule, rfl⟩ := List.mem_map.mp hdecision'
  refine ⟨⟨_, List.mem_map_of_mem hrule, rfl⟩, fun decision hdecision hid => ?_⟩
  obtain ⟨rule', hrule', rfl⟩ := List.mem_map.mp hdecision
  obtain rfl : rule' = rule := List.inj_on_of_nodup_map nodup_ids hrule' hrule hid
  exact riskLevelRank_level_mono hrule (worse_buildRiskProfile h)

/-- **Worse weather.**  When each step of a timeline has one in another timeline that is at least as
bad, no decision for the other has a lower level.  So adding steps lowers no level, and the order of
the steps does not matter. -/
theorem riskLevels_monotone (timeline timeline' : List TimelineStep) :
    (timeline ≠ [] → timeline' ≠ [] → WorseTimeline timeline timeline' →
      ∃ model model', buildRiskDecisionModel timeline = some model ∧
        buildRiskDecisionModel timeline' = some model' ∧ NotLower model model') ∧
      (timeline ≠ [] → timeline ⊆ timeline' →
        ∃ model model', buildRiskDecisionModel timeline = some model ∧
          buildRiskDecisionModel timeline' = some model' ∧ NotLower model model') ∧
      (timeline.Perm timeline' →
        buildRiskDecisionModel timeline = buildRiskDecisionModel timeline') := by
  refine ⟨exists_model, fun hne hsubset => ?_, fun hperm => ?_⟩
  · refine exists_model hne ?_ (worseTimeline_of_subset hsubset)
    rintro rfl
    exact hne (List.subset_nil.mp hsubset)
  · cases timeline with
    | nil => rw [hperm.nil_eq]
    | cons first rest =>
      cases timeline' with
      | nil => exact absurd hperm.eq_nil (List.cons_ne_nil _ _)
      | cons first' rest' =>
        have hprofile : buildRiskProfile first rest = buildRiskProfile first' rest' :=
          (worse_buildRiskProfile (worseTimeline_of_subset hperm.subset)).antisymm
            (worse_buildRiskProfile (worseTimeline_of_subset hperm.symm.subset))
        rw [buildRiskDecisionModel, buildRiskDecisionModel, hprofile]

def calmStep : TimelineStep where
  temperatureC := 18
  windSpeedMs := 3
  humidityPercent := 50
  precipitationProbabilityPercent := 10
  pressureHpa := 1015
  confidence := 9 / 10

def stormyStep : TimelineStep where
  temperatureC := 36
  windSpeedMs := 16
  humidityPercent := 95
  precipitationProbabilityPercent := 90
  pressureHpa := 990
  confidence := 1 / 2

/-- A storm after a calm. -/
theorem riskLevels_monotone_storm : ∃ model model',
    buildRiskDecisionModel [calmStep] = some model ∧
      buildRiskDecisionModel [calmStep, stormyStep] = some model' ∧ NotLower model model' ∧
        (∀ decision ∈ model.decisions, decision.level = .low) ∧
          ∀ decision ∈ model'.decisions, decision.level = .elevated := by
  obtain ⟨model, model', hmodel, hmodel', hlevels⟩ :=
    (riskLevels_monotone [calmStep] [calmStep, stormyStep]).2.1 (List.cons_ne_nil _ _) (by simp)
  refine ⟨model, model', hmodel, hmodel', hlevels, ?_, ?_⟩
  · obtain rfl := Option.some.inj hmodel
    decide +kernel
  · obtain rfl := Option.some.inj hmodel'
    decide +kernel

end Mobile

end Earth2Sandbox
