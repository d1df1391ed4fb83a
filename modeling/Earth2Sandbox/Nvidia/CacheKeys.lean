import Earth2Sandbox.Nvidia.CacheMap
import Mathlib.Data.Rat.Encodable

/-!
# Cache keys

When two requests have the same cache key.  The key is the digest of a text, and the text keeps the
values of the payload apart; but a number is written as it is, and zero can be written in three
ways: as the default of `noise_amplitude`, which is an `int`, and as either zero of `float`.

`key_eq_iff_sameInference_iff` says that this is all that can go wrong.
-/

namespace Earth2Sandbox

/-- `x == y` of numbers. -/
def PyFloat.equal (x y : PyFloat) : Bool := le x y && le y x

/-- `v == w` of an `int` or a `float` each. -/
def PyValue.NumericallyEqual (v w : PyValue) : Prop :=
  ∃ x y, v.number = Option.some x ∧ w.number = Option.some y ∧ x.equal y = true

lemma PyValue.numericallyEqual_iff {v w : PyValue} {x y : PyFloat}
    (hv : v.number = Option.some x) (hw : w.number = Option.some y) :
    v.NumericallyEqual w ↔ x.equal y = true := by
  constructor
  · rintro ⟨x', y', hx, hy, h⟩
    rwa [Option.some.inj (hv.symm.trans hx), Option.some.inj (hw.symm.trans hy)]
  · exact fun h => ⟨x, y, hv, hw, h⟩

namespace FourCastNetHostedInferenceRequest

variable (request request' : FourCastNetHostedInferenceRequest)

/-- The requests agree but for the noise amplitude and the time between polls. -/
structure SameButAmplitude : Prop where
  inputId : request.inputId = request'.inputId
  hostedVariables : request.hostedVariables = request'.hostedVariables
  simulationLength : request.simulationLength = request'.simulationLength
  ensembleSize : request.ensembleSize = request'.ensembleSize
  accept : request.accept = request'.accept

/-- The requests ask for the same inference. -/
def SameInference : Prop :=
  SameButAmplitude request request' ∧
    request.noiseAmplitude.NumericallyEqual request'.noiseAmplitude

/-- The forms of zero. -/
def zeros : List PyValue := [.int 0, .float (.finite 0), .float .negZero]

/-- The requests ask for the same inference without noise, and write the zero in different ways. -/
def ZeroWrittenTwice : Prop :=
  SameButAmplitude request request' ∧ request.noiseAmplitude ∈ zeros ∧
    request'.noiseAmplitude ∈ zeros ∧ request.noiseAmplitude ≠ request'.noiseAmplitude

/-- A valid amplitude is the default or a float that is not negative. -/
lemma noiseAmplitude_cases : request.noiseAmplitude = .int 0 ∨
    request.noiseAmplitude = .float .negZero ∨
    ∃ q, 0 ≤ q ∧ request.noiseAmplitude = .float (.finite q) := by
  have hok := request.noiseAmplitude_ok
  cases hnoise : request.noiseAmplitude with
  | none | bool _ | str _ | object _ =>
    rw [hnoise] at hok
    cases hok
  | int n =>
    rw [hnoise] at hok
    have hbounds : (0 : ℚ) ≤ n ∧ (n : ℚ) ≤ 3602879701896397 / 36028797018963968 := by
      simpa [PyValue.number, PyFloat.between, PyFloat.le, oneTenth] using hok
    have hlow : 0 ≤ n := by exact_mod_cast hbounds.1
    have hhigh : n < 1 := by
      have hlt : (n : ℚ) < 1 := hbounds.2.trans_lt (by norm_num)
      exact_mod_cast hlt
    exact .inl (congrArg _ (by omega))
  | float x =>
    rw [hnoise] at hok
    cases x with
    | negZero => exact .inr (.inl rfl)
    | finite q =>
      have hbounds : 0 ≤ q ∧ q ≤ 3602879701896397 / 36028797018963968 := by
        simpa [PyValue.number, PyFloat.between, PyFloat.le, oneTenth] using hok
      exact .inr (.inr ⟨q, hbounds.1, rfl⟩)
    | nan | posInf | negInf => cases hok

/-- Amplitudes that are equal in value are equal, but for the forms of zero. -/
lemma numericallyEqual_iff :
    request.noiseAmplitude.NumericallyEqual request'.noiseAmplitude ↔
      request.noiseAmplitude = request'.noiseAmplitude ∨
        request.noiseAmplitude ∈ zeros ∧ request'.noiseAmplitude ∈ zeros := by
  rcases noiseAmplitude_cases request with h | h | ⟨q, -, h⟩ <;>
    rcases noiseAmplitude_cases request' with h' | h' | ⟨q', -, h'⟩ <;>
    rw [h, h', PyValue.numericallyEqual_iff rfl rfl]
  all_goals simp [zeros, PyFloat.equal, PyFloat.le]
  all_goals grind

end FourCastNetHostedInferenceRequest

namespace FourCastNetResultCache

open FourCastNetNimClient (buildHostedInferencePayload)
open FourCastNetHostedInferenceRequest

variable {request request' : FourCastNetHostedInferenceRequest}

/-- The names of variables have no comma in them, and different variables have different names. -/
lemma join_text_inj {hosted hosted' : List HostedFourCastNetVariable} :
    ",".intercalate (hosted.map (·.text)) = ",".intercalate (hosted'.map (·.text)) ↔
      hosted = hosted' := by
  have htext : Function.Injective HostedFourCastNetVariable.text := by
    intro a b h
    cases a <;> cases b <;> first | rfl | simp [HostedFourCastNetVariable.text] at h
  have hsplit (hosted : List HostedFourCastNetVariable) (hne : hosted ≠ []) :
      (",".intercalate (hosted.map (·.text))).toList.splitOn ',' =
        hosted.map fun hostedVariable => hostedVariable.text.toList := by
    rw [String.toList_intercalate, List.map_map]
    refine List.splitOn_intercalate ',' (fun text htext => ?_) (by simpa using hne)
    obtain ⟨hostedVariable, -, rfl⟩ := List.mem_map.mp htext
    cases hostedVariable <;> decide
  have hempty (hosted : List HostedFourCastNetVariable) (hne : hosted ≠ []) :
      ",".intercalate (hosted.map (·.text)) ≠ "" := by
    intro hjoin
    have hnil := hsplit hosted hne
    rw [hjoin] at hnil
    cases hosted with
    | nil => exact hne rfl
    | cons first rest =>
      have hfirst : first.text.toList = [] := (List.cons.inj hnil).1.symm
      cases first <;> revert hfirst <;> decide
  refine ⟨fun h => ?_, fun h => by rw [h]⟩
  rcases eq_or_ne hosted [] with rfl | hne
  · by_contra hne'
    exact hempty hosted' (Ne.symm hne') h.symm
  · rcases eq_or_ne hosted' [] with rfl | hne'
    · exact absurd h (hempty hosted hne)
    · have htexts := (hsplit hosted hne).symm.trans
        ((congrArg (fun text => text.toList.splitOn ',') h).trans (hsplit hosted' hne'))
      have htoList : Function.Injective String.toList := fun a b h => String.ext h
      exact List.map_injective_iff.mpr (htoList.comp htext) htexts

section Keys

variable [FloatRepr]

/-- The members of the payload of a request. -/
def requestMembers (request : FourCastNetHostedInferenceRequest) (amplitude : Json) :
    List (String × Json) :=
  [("input_id", .number (toString request.inputId)),
    ("variables", .str (",".intercalate (request.hostedVariables.map (·.text)))),
    ("simulation_length", .number (toString request.simulationLength)),
    ("ensemble_size", .number (toString request.ensembleSize)), ("noise_amplitude", amplitude)]

lemma toJson_payload {amplitude : Json} (h : request.noiseAmplitude.toJson = some amplitude) :
    (buildHostedInferencePayload request).toJson = some (requestMembers request amplitude) := by
  have hentries : Dictionary.entries (buildHostedInferencePayload request) =
      buildHostedInferencePayload request := Dictionary.entries_eq_self (by
      change ["input_id", "variables", "simulation_length", "ensemble_size",
        "noise_amplitude"].Nodup
      decide)
  have hint (n : ℤ) : (PyValue.int n).toJson = some (.number (toString n)) := rfl
  have hstr (s : String) : (PyValue.str s).toJson = some (.str s) := rfl
  rw [PyDict.toJson, hentries, buildHostedInferencePayload]
  simp only [List.mapM_cons, List.mapM_nil, hint, hstr, h, Option.map_some]
  rfl

omit [FloatRepr] in
/-- Two payloads have the same members only when their values are written alike. -/
lemma lookup_requestMembers_iff {amplitude amplitude' : Json} :
    (∀ name, (requestMembers request amplitude).lookup name =
        (requestMembers request' amplitude').lookup name) ↔
      request.inputId = request'.inputId ∧ request.hostedVariables = request'.hostedVariables ∧
        request.simulationLength = request'.simulationLength ∧
        request.ensembleSize = request'.ensembleSize ∧ amplitude = amplitude' := by
  have hnumber {n n' : ℤ} (h : Json.number (toString n) = .number (toString n')) : n = n' :=
    intText_injective (Json.number.inj h)
  constructor
  · intro h
    refine ⟨?_, ?_, ?_, ?_, ?_⟩
    · exact hnumber (Option.some.inj (h "input_id"))
    · exact join_text_inj.mp (Json.str.inj (Option.some.inj (h "variables")))
    · exact hnumber (Option.some.inj (h "simulation_length"))
    · exact hnumber (Option.some.inj (h "ensemble_size"))
    · exact Option.some.inj (h "noise_amplitude")
  · rintro ⟨hinput, hhosted, hlength, hsize, rfl⟩ name
    rw [requestMembers, requestMembers, hinput, hhosted, hlength, hsize]

variable [LawfulFloatRepr]

lemma toJson_noiseAmplitude_inj (h : request.noiseAmplitude.toJson =
    request'.noiseAmplitude.toJson) : request.noiseAmplitude = request'.noiseAmplitude := by
  have hinteger (q : ℚ) : FloatRepr.repr q ≠ "0" := by
    intro htext
    have hmem := LawfulFloatRepr.mem_repr q
    rw [htext] at hmem
    revert hmem
    decide
  have hsign (q : ℚ) (hq : 0 ≤ q) : FloatRepr.repr q ≠ "-0.0" := by
    intro htext
    have hhead := LawfulFloatRepr.repr_of_nonneg q hq
    rw [htext] at hhead
    exact hhead rfl
  have hzero : PyValue.toJson (.int 0) = some (.number "0") := rfl
  have hnegZero : PyValue.toJson (.float .negZero) = some (.number "-0.0") := rfl
  have hfinite (q : ℚ) :
      PyValue.toJson (.float (.finite q)) = some (.number (FloatRepr.repr q)) := rfl
  rcases noiseAmplitude_cases request with ha | ha | ⟨q, hq, ha⟩ <;>
    rcases noiseAmplitude_cases request' with ha' | ha' | ⟨q', hq', ha'⟩ <;>
    simp only [ha, ha', hzero, hnegZero, hfinite, Option.some.injEq, Json.number.injEq] at h ⊢
  · exact absurd h (by decide)
  · exact absurd h.symm (hinteger q')
  · exact absurd h (by decide)
  · exact absurd h.symm (hsign q' hq')
  · exact absurd h (hinteger q)
  · exact absurd h (hsign q hq)
  · rw [LawfulFloatRepr.repr_injective h]

variable [Library]

/-- Two requests share their key when all that is in it is equal. -/
lemma exists_key_iff (hdigests : DigestsDistinguish
    [(buildHostedInferencePayload request, request.accept.text),
      (buildHostedInferencePayload request', request'.accept.text)]) :
    (∃ k, key (buildHostedInferencePayload request) request.accept.text = .ok k ∧
        key (buildHostedInferencePayload request') request'.accept.text = .ok k) ↔
      SameButAmplitude request request' ∧ request.noiseAmplitude = request'.noiseAmplitude := by
  have hscalar (request : FourCastNetHostedInferenceRequest) (b : Bool) :
      request.noiseAmplitude ≠ .object b := by
    intro h
    have hok := request.noiseAmplitude_ok
    rw [h] at hok
    cases hok
  obtain ⟨amplitude, hamplitude⟩ := exists_toJson (hscalar request)
  obtain ⟨amplitude', hamplitude'⟩ := exists_toJson (hscalar request')
  have hmembers := toJson_payload hamplitude
  have hmembers' := toJson_payload hamplitude'
  have haccept : request.accept.text = request'.accept.text ↔ request.accept = request'.accept := by
    cases request.accept <;> cases request'.accept <;> decide
  have htexts : (∃ k, key (buildHostedInferencePayload request) request.accept.text = .ok k ∧
      key (buildHostedInferencePayload request') request'.accept.text = .ok k) ↔
      serialized request.accept.text (requestMembers request amplitude) =
        serialized request'.accept.text (requestMembers request' amplitude') := by
    constructor
    · rintro ⟨k, hk, hk'⟩
      obtain ⟨members, h, rfl⟩ := key_eq_ok_iff.mp hk
      obtain ⟨members', h', hdigest⟩ := key_eq_ok_iff.mp hk'
      obtain rfl := Option.some.inj (h.symm.trans hmembers)
      obtain rfl := Option.some.inj (h'.symm.trans hmembers')
      exact hdigests _ List.mem_cons_self _ (List.mem_cons_of_mem _ List.mem_cons_self) _ _
        hmembers hmembers' hdigest
    · intro h
      exact ⟨_, key_eq_ok_iff.mpr ⟨_, hmembers, rfl⟩,
        key_eq_ok_iff.mpr ⟨_, hmembers', by rw [h]⟩⟩
  rw [htexts, serialized_eq_iff hmembers hmembers', lookup_requestMembers_iff, haccept]
  constructor
  · rintro ⟨haccept, hinput, hhosted, hlength, hsize, rfl⟩
    exact ⟨⟨hinput, hhosted, hlength, hsize, haccept⟩,
      toJson_noiseAmplitude_inj (hamplitude.trans hamplitude'.symm)⟩
  · rintro ⟨h, hnoise⟩
    rw [hnoise] at hamplitude
    exact ⟨h.accept, h.inputId, h.hostedVariables, h.simulationLength, h.ensembleSize,
      Option.some.inj (hamplitude.symm.trans hamplitude')⟩

/-- **Keys and inferences.**  Two requests share their key exactly when they ask for the same
inference, unless they write zero in two ways. -/
theorem key_eq_iff_sameInference_iff (hdigests : DigestsDistinguish
    [(buildHostedInferencePayload request, request.accept.text),
      (buildHostedInferencePayload request', request'.accept.text)]) :
    ((∃ k, key (buildHostedInferencePayload request) request.accept.text = .ok k ∧
        key (buildHostedInferencePayload request') request'.accept.text = .ok k) ↔
      SameInference request request') ↔ ¬ ZeroWrittenTwice request request' := by
  rw [exists_key_iff hdigests, SameInference, numericallyEqual_iff, ZeroWrittenTwice]
  constructor
  · rintro h ⟨hsame, hzero, hzero', hne⟩
    exact hne (h.mpr ⟨hsame, .inr ⟨hzero, hzero'⟩⟩).2
  · intro h
    refine ⟨fun ⟨hsame, hnoise⟩ => ⟨hsame, .inl hnoise⟩, ?_⟩
    rintro ⟨hsame, hnoise | ⟨hzero, hzero'⟩⟩
    · exact ⟨hsame, hnoise⟩
    · by_contra hne
      exact h ⟨hsame, hzero, hzero', fun hnoise => hne ⟨hsame, hnoise⟩⟩

end Keys

/-! ## Zero, by default and supplied -/

namespace SampleKeys

/-- The text of a float: zero, or its code as an exponent. -/
def floatText (q : ℚ) : String :=
  if q = 0 then "0.0" else "1e" ++ toString (Encodable.encode q)

lemma toList_floatText {q : ℚ} (hq : q ≠ 0) :
    (floatText q).toList = '1' :: 'e' :: Nat.toDigits 10 (Encodable.encode q) := by
  simp [floatText, hq, Nat.repr_eq_ofList_toDigits]

lemma isNumberText_floatText (q : ℚ) : Json.isNumberText (floatText q).toList = true := by
  by_cases hq : q = 0
  · subst hq
    decide +kernel
  have hdigit : ∀ c ∈ Nat.toDigits 10 (Encodable.encode q), c.isDigit = true := fun c hc =>
    Nat.isDigit_of_mem_toDigits (by decide) (by decide) hc
  rw [toList_floatText hq]
  cases hdigits : Nat.toDigits 10 (Encodable.encode q) with
  | nil => exact absurd hdigits Nat.toDigits_ne_nil
  | cons d rest =>
    rw [hdigits, List.forall_mem_cons] at hdigit
    have hsign : Json.skipSign (d :: rest) = d :: rest := by
      unfold Json.skipSign
      split
      · next heq => exact absurd hdigit.1 (by rw [(List.cons.inj heq).1]; decide)
      · next heq => exact absurd hdigit.1 (by rw [(List.cons.inj heq).1]; decide)
      · rfl
    have hchars : ('1' :: 'e' :: d :: rest).all Json.isNumberChar = true := by
      simpa [Json.isNumberChar, hdigit.1] using fun c hc => .inl (hdigit.2 c hc)
    have hexponent : Json.skipExponent ('e' :: d :: rest) = [] := by
      rw [Json.skipExponent, if_pos (.inl rfl), hsign]
      dsimp only
      rw [if_pos hdigit.1, List.dropWhile_eq_nil_iff.mpr hdigit.2]
    rw [Json.isNumberText, hchars, Bool.true_and]
    change (decide (Json.skipExponent ('e' :: d :: rest) = [])) = true
    rw [hexponent]
    rfl

scoped instance floatRepr : FloatRepr := ⟨floatText, isNumberText_floatText⟩

instance lawfulFloatRepr : LawfulFloatRepr where
  repr_injective p q h := by
    have hlist : (floatText p).toList = (floatText q).toList := congrArg String.toList h
    by_cases hp : p = 0 <;> by_cases hq : q = 0
    · rw [hp, hq]
    · rw [hp, toList_floatText hq] at hlist
      exact absurd (List.cons.inj hlist).1 (by decide)
    · rw [hq, toList_floatText hp] at hlist
      exact absurd (List.cons.inj hlist).1 (by decide)
    · rw [toList_floatText hp, toList_floatText hq] at hlist
      have hdigits := (List.cons.inj (List.cons.inj hlist).2).2
      have hcode : Nat.repr (Encodable.encode p) = Nat.repr (Encodable.encode q) := by
        rw [Nat.repr_eq_ofList_toDigits, Nat.repr_eq_ofList_toDigits, hdigits]
      exact Encodable.encode_injective (natText_injective hcode)
  mem_repr q := by
    change '.' ∈ (floatText q).toList ∨ 'e' ∈ (floatText q).toList
    by_cases hq : q = 0
    · exact .inl (by rw [hq]; decide)
    · exact .inr (by simp [toList_floatText hq])
  repr_of_nonneg q _ := by
    change (floatText q).toList.head? ≠ some '-'
    by_cases hq : q = 0
    · rw [hq]
      decide
    · simp [toList_floatText hq]

/-- The digest of the default request with its amplitude supplied. -/
def suppliedKey : String := "f4017f5612290d948882c4992b45cb69163b7bcf5f1cb2b5262d7af006a3424e"

/-- The default request. -/
def defaultRequest : FourCastNetHostedInferenceRequest := {}

/-- The default request with `noise_amplitude=0`. -/
def suppliedRequest : FourCastNetHostedInferenceRequest := { noiseAmplitude := .float 0 }

/-- The bytes that are digested for an amplitude. -/
def amplitudeBytes (text : String) : Bytes :=
  encodeUtf8 (serialized "application/x-tar" (requestMembers defaultRequest (.number text)))

scoped instance library : Library :=
  .ofDigests [(amplitudeBytes "0", SampleCache.sampleKey), (amplitudeBytes "0.0", suppliedKey)]

lemma toJson_default : (buildHostedInferencePayload defaultRequest).toJson =
    some (requestMembers defaultRequest (.number "0")) := toJson_payload rfl

lemma toJson_supplied : (buildHostedInferencePayload suppliedRequest).toJson =
    some (requestMembers defaultRequest (.number "0.0")) := toJson_payload rfl

lemma sameInference_sample : SameInference defaultRequest suppliedRequest :=
  ⟨⟨rfl, rfl, rfl, rfl, rfl⟩, .finite 0, .finite 0, rfl, rfl, rfl⟩

lemma amplitudeBytes_ne : amplitudeBytes "0.0" ≠ amplitudeBytes "0" := by
  intro heq
  obtain ⟨-, hlookup⟩ :=
    (serialized_eq_iff toJson_supplied toJson_default).mp (encodeUtf8_injective heq)
  have htext := Json.number.inj (Option.some.inj (hlookup "noise_amplitude"))
  revert htext
  decide

lemma sha256_default : Library.sha256 (amplitudeBytes "0") = SampleCache.sampleKey := by
  change (List.lookup (amplitudeBytes "0") _).getD _ = _
  rw [List.lookup_cons_self]
  rfl

lemma sha256_supplied : Library.sha256 (amplitudeBytes "0.0") = suppliedKey := by
  change (List.lookup (amplitudeBytes "0.0") _).getD _ = _
  rw [List.lookup_cons, beq_false_of_ne amplitudeBytes_ne]
  dsimp only
  rw [List.lookup_cons_self]
  rfl

lemma sample_distinguished : DigestsDistinguish
    [(buildHostedInferencePayload defaultRequest, defaultRequest.accept.text),
      (buildHostedInferencePayload suppliedRequest, suppliedRequest.accept.text)] := by
  have hkeys : SampleCache.sampleKey ≠ suppliedKey := by decide
  have hbytes : ∀ request ∈
      [(buildHostedInferencePayload defaultRequest, defaultRequest.accept.text),
        (buildHostedInferencePayload suppliedRequest, suppliedRequest.accept.text)],
      ∀ members, PyDict.toJson request.1 = some members →
        encodeUtf8 (serialized request.2 members) = amplitudeBytes "0" ∨
          encodeUtf8 (serialized request.2 members) = amplitudeBytes "0.0" := by
    intro request hrequest members hmembers
    rcases List.mem_pair.mp hrequest with rfl | rfl
    · obtain rfl := Option.some.inj (toJson_default.symm.trans hmembers)
      exact .inl rfl
    · obtain rfl := Option.some.inj (toJson_supplied.symm.trans hmembers)
      exact .inr rfl
  intro request hrequest request' hrequest' members members' h h' hdigest
  refine encodeUtf8_injective ?_
  rcases hbytes request hrequest members h with hb | hb <;>
    rcases hbytes request' hrequest' members' h' with hb' | hb' <;> rw [hb, hb'] at hdigest ⊢
  · rw [sha256_default, sha256_supplied] at hdigest
    exact absurd hdigest hkeys
  · rw [sha256_default, sha256_supplied] at hdigest
    exact absurd hdigest.symm hkeys

/-- A request that leaves the amplitude to its default and one that supplies the same zero have
different keys. -/
theorem default_and_supplied_differ :
    DigestsDistinguish
        [(buildHostedInferencePayload defaultRequest, defaultRequest.accept.text),
          (buildHostedInferencePayload suppliedRequest, suppliedRequest.accept.text)] ∧
      ¬ ((∃ k, key (buildHostedInferencePayload defaultRequest) defaultRequest.accept.text = .ok k ∧
          key (buildHostedInferencePayload suppliedRequest) suppliedRequest.accept.text = .ok k) ↔
        SameInference defaultRequest suppliedRequest) := by
  refine ⟨sample_distinguished, fun h => ?_⟩
  have hsame := (exists_key_iff sample_distinguished).mp (h.mpr sameInference_sample)
  have hnoise : (PyValue.int 0) = .float 0 := hsame.2
  cases hnoise

/-- The law at these two requests. -/
theorem key_eq_iff_sameInference_iff_sample :
    ((∃ k, key (buildHostedInferencePayload defaultRequest) defaultRequest.accept.text = .ok k ∧
          key (buildHostedInferencePayload suppliedRequest) suppliedRequest.accept.text = .ok k) ↔
        SameInference defaultRequest suppliedRequest) ↔
      ¬ ZeroWrittenTwice defaultRequest suppliedRequest :=
  key_eq_iff_sameInference_iff sample_distinguished

end SampleKeys

end FourCastNetResultCache

end Earth2Sandbox
