import Earth2Sandbox.Mobile.Api

/-!
# The contract between client and server

What the client makes of the documents that the server writes.  The type guards accept every poll,
and a job, a summary or a list exactly when its numbers are finite (`isForecastJob_document` and its
like), so that `client_reads` says what each request of a job comes to, for any contents of the
store.  Both sides have a view of a job for its poll, and the views agree (`poll_agrees`).
-/

namespace Earth2Sandbox

namespace Mobile

variable {α : Type}

/-! ## Values -/

@[simp] lemma property_object (members : List (String × Json)) (key : String) :
    property (some (.object members)) key = members.lookup key := rfl

@[simp] lemma isRecord_object (members : List (String × Json)) :
    isRecord (some (.object members)) = true := rfl

@[simp] lemma isString_str (s : String) : isString (some (.str s)) = true := rfl

@[simp] lemma isBoolean_bool (b : Bool) : isBoolean (some (.bool b)) = true := rfl

@[simp] lemma isNumber_intDocument (n : ℤ) : isNumber (some (intDocument n)) = true := rfl

@[simp] lemma isNumber_natDocument (n : ℕ) : isNumber (some (natDocument n)) = true := rfl

@[simp] lemma isOneOf_str (texts : List String) (s : String) :
    isOneOf texts (some (.str s)) = decide (s ∈ texts) := rfl

@[simp] lemma isArrayOf_map (guard : Unknown → Bool) (f : α → Json) (xs : List α) :
    isArrayOf guard (some (.array (xs.map f))) = xs.all fun a => guard (some (f a)) := by
  simp [isArrayOf, Function.comp_def]

/-- A field that may be missing is accepted when what is in it is. -/
lemma orNull_optionDocument {guard : Unknown → Bool} {f : α → Json} {accepted : α → Bool}
    (hguard : ∀ a, guard (some (f a)) = accepted a) (hnull : ∀ a, f a ≠ .null) (o : Option α) :
    orNull guard (some (optionDocument f o)) = o.all accepted := by
  cases o with
  | none => simp [orNull, optionDocument, isNull]
  | some a =>
    have hisNull : isNull (some (f a)) = false := by
      cases hfa : f a with
      | null => exact absurd hfa (hnull a)
      | _ => rfl
    simp [orNull, optionDocument, hguard, hisNull]

lemma orNull_of_accepted {guard : Unknown → Bool} {f : α → Json}
    (hguard : ∀ a, guard (some (f a)) = true) (o : Option α) :
    orNull guard (some (optionDocument f o)) = true := by
  cases o with
  | none => simp [orNull, optionDocument, isNull]
  | some a => simp [orNull, optionDocument, hguard]

@[simp] lemma orNull_str (o : Option String) :
    orNull isString (some (optionDocument .str o)) = true := orNull_of_accepted isString_str o

@[simp] lemma orNull_int (o : Option ℤ) :
    orNull isNumber (some (optionDocument intDocument o)) = true :=
  orNull_of_accepted isNumber_intDocument o

@[simp] lemma isStringRecord_links (links : List (String × String)) :
    isStringRecord (some (linksDocument links)) = true := by
  refine List.all_eq_true.mpr fun member hmember => ?_
  obtain ⟨link, -, rfl⟩ := List.mem_map.mp (Dictionary.mem_entries hmember)
  rfl

@[simp] lemma isForecastJobStatus_text (status : ForecastJobStatus) :
    isForecastJobStatus (some (.str status.text)) = true := by
  cases status <;> decide

/-! ## What the guards accept -/

@[simp] lemma isForecastSignal_document (s : ForecastSignal) :
    isForecastSignal (some s.document) = true := by
  have hlevel : isSignalLevel (some (.str s.level.text)) = true := by
    cases s.level <;> decide
  simp [isForecastSignal, ForecastSignal.document, List.lookup_cons, hlevel]

@[simp] lemma isForecastModelInfo_document (m : ForecastModelInfo) :
    isForecastModelInfo (some m.document) = true := by
  have hrunMode : m.runMode.text ∈ ["mock", "nim"] := by
    cases m.runMode <;> decide
  simpa [isForecastModelInfo, ForecastModelInfo.document, List.lookup_cons] using hrunMode

@[simp] lemma isForecastJobDiagnostics_document (d : ForecastJobDiagnostics) :
    isForecastJobDiagnostics (some d.document) = true := by
  simp [isForecastJobDiagnostics, ForecastJobDiagnostics.document, List.lookup_cons]

section TimeText

variable [TimeText]

@[simp] lemma isString_timeDocument (t : Time) : isString (some (timeDocument t)) = true := rfl

@[simp] lemma orNull_time (o : Option Time) :
    orNull isString (some (optionDocument timeDocument o)) = true :=
  orNull_of_accepted isString_timeDocument o

@[simp] lemma isForecastWindow_document (w : ForecastWindow) :
    isForecastWindow (some w.document) = true := by
  simp [isForecastWindow, ForecastWindow.document, List.lookup_cons]

@[simp] lemma isForecastJobEvent_document (e : Earth2Sandbox.ForecastJobEvent) :
    isForecastJobEvent (some e.document) = true := by
  simp [isForecastJobEvent, Earth2Sandbox.ForecastJobEvent.document, List.lookup_cons]

lemma isForecastJobPollResponse_document (r : Earth2Sandbox.ForecastJobPollResponse) :
    isForecastJobPollResponse (some r.document) = true := by
  simp [isForecastJobPollResponse, Earth2Sandbox.ForecastJobPollResponse.document,
    List.lookup_cons, orNull_of_accepted isForecastJobEvent_document]

end TimeText

section FloatRepr

variable [FloatRepr]

@[simp] lemma isNumber_document (x : PyFloat) : isNumber (some x.document) = x.isFinite := by
  cases x <;> rfl

lemma isForecastMetric_document (m : ForecastMetric) :
    isForecastMetric (some m.document) = m.value.isFinite := by
  simp [isForecastMetric, ForecastMetric.document, List.lookup_cons]

variable [TimeText]

lemma isForecastTimelineStep_document (s : ForecastTimelineStep) :
    isForecastTimelineStep (some s.document) = s.hasFiniteFloats := by
  have hcondition : isForecastCondition (some (.str s.condition.text)) = true := by
    cases s.condition <;> decide
  simp [isForecastTimelineStep, ForecastTimelineStep.document, List.lookup_cons, hcondition,
    ForecastTimelineStep.hasFiniteFloats]

lemma isForecastSummary_document (s : Earth2Sandbox.ForecastSummary) :
    isForecastSummary (some s.document) = s.hasFiniteFloats := by
  have hprovider : isForecastProvider (some (.str s.provider.text)) = true := by
    cases s.provider <;> decide
  simp [isForecastSummary, Earth2Sandbox.ForecastSummary.document, List.lookup_cons, hprovider,
    isForecastMetric_document, isForecastTimelineStep_document,
    Earth2Sandbox.ForecastSummary.hasFiniteFloats]

/-- A job is accepted exactly when its numbers are finite. -/
lemma isForecastJob_document (job : Earth2Sandbox.ForecastJob) :
    isForecastJob (some job.document) = job.hasFiniteFloats := by
  have hforecast := orNull_optionDocument isForecastSummary_document
    (fun s => by simp [Earth2Sandbox.ForecastSummary.document]) job.forecast
  simp [isForecastJob, Earth2Sandbox.ForecastJob.document, List.lookup_cons, hforecast,
    orNull_of_accepted isForecastJobDiagnostics_document,
    Earth2Sandbox.ForecastJob.hasFiniteFloats]

lemma isForecastJobSummary_document (job : Earth2Sandbox.ForecastJobSummary) :
    isForecastJobSummary (some job.document) = job.hasFiniteFloats := by
  simp [isForecastJobSummary, Earth2Sandbox.ForecastJobSummary.document, List.lookup_cons,
    orNull_of_accepted isForecastJobDiagnostics_document,
    Earth2Sandbox.ForecastJobSummary.hasFiniteFloats]

lemma isForecastJobListResponse_document (r : ForecastJobListResponse) :
    isForecastJobListResponse (some r.document) = r.hasFiniteFloats := by
  simp [isForecastJobListResponse, ForecastJobListResponse.document, List.lookup_cons,
    isForecastJobSummary_document, ForecastJobListResponse.hasFiniteFloats]

end FloatRepr

/-! ## Requests -/

section Requests

variable {label unexpected : String} {guard : Unknown → Bool} {read : Unknown → α}

lemma parseResponse_of_not_ok {response : ApiResponse}
    (hstatus : ¬ (200 ≤ response.status ∧ response.status < 300)) :
    parseResponse label guard unexpected read response =
      .error (.error (formatApiError response label)) := if_neg hstatus

/-- A model is read when the guard accepts its document. -/
lemma parseResponse_jsonResponse [FloatPolicy] {finite : Bool} {document : Json}
    (hguard : guard (some document) = finite) {status : ℕ}
    (hstatus : 200 ≤ status ∧ status < 300) :
    parseResponse label guard unexpected read (jsonResponse status finite document) =
      if finite then .ok (read (some document))
      else .error (.error (if FloatPolicy.refuses then formatApiError internalServerError label
        else unexpected)) := by
  have hwritten : parseResponse label guard unexpected read ⟨status, some document⟩ =
      if finite then .ok (read (some document)) else .error (.error unexpected) := by
    subst hguard
    exact if_pos hstatus
  have hfailed : ¬ (200 ≤ internalServerError.status ∧ internalServerError.status < 300) := by
    decide
  unfold jsonResponse
  cases finite with
  | true => simpa using hwritten
  | false =>
    cases hrefuses : (FloatPolicy.refuses : Bool) with
    | true => simpa using parseResponse_of_not_ok hfailed
    | false => simpa using hwritten

variable [Runtime] [FloatRepr] [TimeText] [FloatPolicy] [Numerals] (S : ForecastJobStore)
  (store : S.State)

end Requests

/-! ## Two views of a job -/

/-- Integers up to `Number.MAX_SAFE_INTEGER + 1` are read as they are. -/
class LawfulNumerals [Numerals] : Prop where
  value_toString : ∀ n : ℕ, n ≤ 2 ^ 53 → Numerals.value (toString n) = n

section Views

variable [FloatRepr] [TimeText] [Numerals]

omit [FloatRepr] [TimeText] [Numerals] in
@[simp] lemma statusOf_text (status : ForecastJobStatus) :
    statusOf (some (.str status.text)) = status := by
  cases status <;> rfl

omit [FloatRepr] [TimeText] [Numerals] in
lemma orNullOf_optionDocument {β : Type} (read : Unknown → β) {f : α → Json}
    (hnull : ∀ a, f a ≠ .null) (o : Option α) :
    orNullOf read (some (optionDocument f o)) = o.map fun a => read (some (f a)) := by
  cases o with
  | none => rfl
  | some a =>
    change orNullOf read (some (f a)) = some (read (some (f a)))
    cases hfa : f a with
    | null => exact absurd hfa (hnull a)
    | _ => rfl

lemma ofPayload_document (job : Earth2Sandbox.ForecastJob) :
    (ForecastJob.ofPayload (some job.document)).id = job.id ∧
      (ForecastJob.ofPayload (some job.document)).status = job.status ∧
      (ForecastJob.ofPayload (some job.document)).forecast =
        job.forecast.map fun s => .ofPayload (some s.document) := by
  have hforecast := orNullOf_optionDocument ForecastSummary.ofPayload
    (f := Earth2Sandbox.ForecastSummary.document)
    (fun s => by simp [Earth2Sandbox.ForecastSummary.document]) job.forecast
  simp [ForecastJob.ofPayload, Earth2Sandbox.ForecastJob.document, List.lookup_cons, hforecast,
    stringOf]

omit [FloatRepr] [TimeText] [Numerals] in
lemma linksOf_linksDocument (links : List (String × String)) :
    linksOf (some (linksDocument links)) = Dictionary.entries links := by
  change (Dictionary.entries (links.map (Prod.map id Json.str))).map
    (fun member => (member.1, stringOf (some member.2))) = Dictionary.entries links
  rw [Dictionary.entries_map, List.map_map]
  exact List.map_id _

lemma links_ofPayload_document (job : Earth2Sandbox.ForecastJob) :
    (ForecastJob.ofPayload (some job.document)).links = Dictionary.entries job.links := by
  rw [← linksOf_linksDocument]
  simp [ForecastJob.ofPayload, Earth2Sandbox.ForecastJob.document, List.lookup_cons]

lemma getJobLink_self [Runtime] (job : Earth2Sandbox.ForecastJob) :
    getJobLink (ForecastJob.ofPayload (some (withJobLinks job).document)).links "self" =
      .ok (jobsPath ++ job.id) := by
  have hne : jobsPath ++ job.id ≠ "" := by
    intro h
    have hlength := congrArg (fun text : String => text.toList.length) h
    simp [jobsPath] at hlength
  rw [links_ofPayload_document]
  have hlookup : (Dictionary.entries (withJobLinks job).links).lookup "self" =
      some (jobsPath ++ job.id) := rfl
  simp only [getJobLink, hlookup, if_neg hne]

lemma read_of_jobResponse [FloatPolicy] {label unexpected : String} {status : ℕ}
    {job : Earth2Sandbox.ForecastJob} {read : ForecastJob}
    (hstatus : 200 ≤ status ∧ status < 300)
    (h : parseResponse label isForecastJob unexpected ForecastJob.ofPayload
      (jobResponse status job) = .ok read) : read = .ofPayload (some job.document) := by
  rw [jobResponse, parseResponse_jsonResponse (isForecastJob_document job) hstatus] at h
  split at h
  · exact (Except.ok.inj h).symm
  · cases h

/-- **The poll of a job.**  The view that the client makes of a job that it has read is what it
reads of the view that the server makes. -/
theorem poll_agrees [LawfulNumerals] (job : Earth2Sandbox.ForecastJob)
    (hevents : job.events.length ≤ 2 ^ 53) :
    jobToPollResponse (.ofPayload (some job.document)) =
      .ofPayload (some (toJobPollResponse job).document) := by
  have hforecast := orNullOf_optionDocument ForecastSummary.ofPayload
    (f := Earth2Sandbox.ForecastSummary.document)
    (fun s => by simp [Earth2Sandbox.ForecastSummary.document]) job.forecast
  have hlatest := orNullOf_optionDocument ForecastJobEvent.ofPayload
    (f := Earth2Sandbox.ForecastJobEvent.document)
    (fun e => by simp [Earth2Sandbox.ForecastJobEvent.document]) job.events.getLast?
  have hcount : numberOf (some (natDocument job.events.length)) = job.events.length :=
    LawfulNumerals.value_toString _ hevents
  have htwo : numberOf (some (intDocument 2)) = 2 := by
    have h := LawfulNumerals.value_toString 2 (by decide)
    exact_mod_cast h
  have hretry : orNullOf numberOf (some (optionDocument intDocument
      (if job.status = .succeeded ∨ job.status = .failed ∨ job.status = .cancelled then none
        else some 2))) =
      if job.status = .queued ∨ job.status = .running then some 2 else none := by
    rw [orNullOf_optionDocument numberOf (fun n => by simp [intDocument])]
    cases job.status <;> simp [htwo]
  have hfloor : (job.events.length : ℚ).floor.toNat = job.events.length :=
    congrArg Int.toNat (Rat.floor_intCast job.events.length)
  simp [jobToPollResponse, ForecastJob.ofPayload, ForecastJobPollResponse.ofPayload,
    Earth2Sandbox.ForecastJob.document, Earth2Sandbox.ForecastJobPollResponse.document,
    toJobPollResponse, List.lookup_cons, hforecast, hlatest, hcount, hretry, hfloor, stringOf,
    booleanOf, itemsOf, Function.comp_def]

end Views

namespace SampleContract

scoped instance floatRepr : FloatRepr :=
  .ofTexts [(37, "37.0"), (127, "127.0"), (52, "52.0"), (13, "13.0")]

scoped instance timeText : TimeText := ⟨fun _ => "2026-05-31T00:00:00Z"⟩

/-- The numerals of the natural numbers. -/
scoped instance numerals : Numerals := ⟨fun literal => Nat.ofDigitChars 10 literal.toList 0⟩

scoped instance lawfulNumerals : LawfulNumerals where
  value_toString n _ := by
    change ((Nat.ofDigitChars 10 (Nat.repr n).toList 0 : ℕ) : ℚ) = n
    rw [Nat.toList_repr, Nat.ofDigitChars_toDigits (by decide) (by decide)]

/-- A job that runs. -/
def sampleJob : Earth2Sandbox.ForecastJob where
  id := StrictRuntime.sampleId
  status := .running
  latitude := 37
  longitude := 127
  createdAt := 0
  updatedAt := 1
  startedAt := some 1
  events := [⟨0, .queued, "Forecast job accepted."⟩, ⟨1, .running, "Forecast job started."⟩]

/-- The client expects two events, and waits for two seconds. -/
theorem poll_agrees_sample :
    jobToPollResponse (.ofPayload (some sampleJob.document)) =
        .ofPayload (some (toJobPollResponse sampleJob).document) ∧
      (jobToPollResponse (.ofPayload (some sampleJob.document))).retryAfterSeconds = some 2 :=
  ⟨poll_agrees sampleJob (by decide), rfl⟩

end SampleContract

end Mobile

end Earth2Sandbox
