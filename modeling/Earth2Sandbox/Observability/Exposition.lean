import Earth2Sandbox.Framework.Exposition
import Earth2Sandbox.Observability.Metrics
import Earth2Sandbox.Runtime.Python
import Mathlib.Data.List.Count
import Mathlib.Data.List.Induction
import Mathlib.Data.List.Sort
import Mathlib.Data.Set.List
import Mathlib.Data.String.Basic

/-!
# The metrics that are exposed

`MetricsRegistry` with what it keeps of HTTP requests, and `render_prometheus`.  The methods, paths
and events are whatever a client sends.  `_escape_label_value` replaces three characters in the
whole value one after the other, which comes to the same as writing each character by itself
(`toList_escapeLabelValue`), as the backslashes are replaced first.  So each label tuple is read
back from its own line (`render_reads_back`).
-/

namespace Earth2Sandbox

/-- Floats, as far as the registry adds them up from `0.0` and prints them. -/
class Seconds (F : Type) extends Zero F, Add F where
  text : F → String
  text_line : ∀ x, '\n' ∉ (text x).toList

/-- `MetricsRegistry`, with the counts and durations of HTTP requests. -/
structure RequestMetricsRegistry (F : Type) extends MetricsRegistry where
  httpRequestCounts : AList fun _ : Labels => ℕ
  httpRequestDurationSums : AList fun _ : Labels => F

/-- `_labels(method=method.upper(), path=path, status_code=str(status_code))`; `upper` is
`str.upper`. -/
def requestLabels (upper : String → String) (method path : String) (statusCode : ℤ) : Labels :=
  [("method", upper method), ("path", path), ("status_code", toString statusCode)]

namespace RequestMetricsRegistry

variable {F : Type} [Seconds F]

/-- `MetricsRegistry()`. -/
def empty : RequestMetricsRegistry F := ⟨.empty, ∅, ∅⟩

def recordHttpRequest (registry : RequestMetricsRegistry F) (upper : String → String)
    (method path : String) (statusCode : ℤ) (durationSeconds : F) : RequestMetricsRegistry F :=
  let labels := requestLabels upper method path statusCode
  { registry with
    httpRequestCounts := registry.httpRequestCounts.insert labels
      ((registry.httpRequestCounts.lookup labels).getD 0 + 1)
    httpRequestDurationSums := registry.httpRequestDurationSums.insert labels
      ((registry.httpRequestDurationSums.lookup labels).getD 0 + durationSeconds) }

def incrementForecastJobEvent (registry : RequestMetricsRegistry F) (event : String) :
    RequestMetricsRegistry F :=
  { registry with toMetricsRegistry := registry.toMetricsRegistry.incrementForecastJobEvent event }

end RequestMetricsRegistry

/-! ## The text -/

/-- `s.replace(old, new)` of a single character. -/
def replaceChar (s : String) (old : Char) (new : String) : String :=
  String.ofList (s.toList.flatMap fun c => if c = old then new.toList else [c])

def escapeLabelValue (value : String) : String :=
  replaceChar (replaceChar (replaceChar value '\\' "\\\\") '\n' "\\n") '"' "\\\""

/-- `_sample`, with the value as a text. -/
def sample (name : String) (labels : Labels) (value : String) : String :=
  let labelText := String.intercalate "," (labels.map fun label =>
    label.1 ++ "=\"" ++ escapeLabelValue label.2 ++ "\"")
  let labelSuffix := if labelText ≠ "" then "\x7b" ++ labelText ++ "\x7d" else ""
  name ++ labelSuffix ++ " " ++ value

/-- The order of label tuples. -/
def labelsLe (labels labels' : Labels) : Prop :=
  (labels.flatMap fun label => [label.1, label.2]) ≤ labels'.flatMap fun label => [label.1, label.2]

instance : DecidableRel labelsLe := fun labels labels' => by
  unfold labelsLe
  infer_instance

/-- `sorted(d.items())`, which never compares the values of two keys. -/
def sortedItems {V : Type} (d : AList fun _ : Labels => V) : List (Labels × V) :=
  (d.entries.map fun entry => (entry.1, entry.2)).insertionSort fun item item' =>
    labelsLe item.1 item'.1

def httpRequestsTotal : String := "earth2_http_requests_total"

def httpRequestDurationSeconds : String := "earth2_http_request_duration_seconds"

def forecastJobsTotal : String := "earth2_forecast_jobs_total"

namespace RequestMetricsRegistry

variable {F : Type} [Seconds F]

/-- The lines of `render_prometheus`. -/
def lines (registry : RequestMetricsRegistry F) : List String :=
  let httpCounts := sortedItems registry.httpRequestCounts
  let durationSums := sortedItems registry.httpRequestDurationSums
  let jobCounts := sortedItems registry.forecastJobCounts
  ["# HELP earth2_http_requests_total Total HTTP requests observed by the backend.",
      "# TYPE earth2_http_requests_total counter"] ++
    (httpCounts.map fun item => sample httpRequestsTotal item.1 (toString item.2)) ++
    ["# HELP earth2_http_request_duration_seconds HTTP request duration in seconds.",
      "# TYPE earth2_http_request_duration_seconds summary"] ++
    (httpCounts.map fun item =>
      sample (httpRequestDurationSeconds ++ "_count") item.1 (toString item.2)) ++
    (durationSums.map fun item =>
      sample (httpRequestDurationSeconds ++ "_sum") item.1 (Seconds.text item.2)) ++
    ["# HELP earth2_forecast_jobs_total Total forecast job lifecycle events.",
      "# TYPE earth2_forecast_jobs_total counter"] ++
    (jobCounts.map fun item => sample forecastJobsTotal item.1 (toString item.2))

def renderPrometheus (registry : RequestMetricsRegistry F) : String :=
  String.intercalate "\n" registry.lines ++ "\n"

end RequestMetricsRegistry

/-! ## A sample -/

/-- Three replacements in the whole value write each character by itself. -/
lemma toList_escapeLabelValue (value : String) :
    (escapeLabelValue value).toList = escapeLabel value.toList := by
  simp only [escapeLabelValue, replaceChar, String.toList_ofList, List.flatMap_assoc, escapeLabel]
  refine List.flatMap_congr fun c _ => ?_
  unfold escapeLabelChar
  by_cases hbackslash : c = '\\'
  · subst hbackslash
    decide
  by_cases hnewline : c = '\n'
  · subst hnewline
    decide
  · simp [hbackslash, hnewline]

example : escapeLabelValue "a\"\\n" = "a\\\"\\\\n" := by decide

/-- A sample with labels is written by the rules. -/
lemma sample_eq (name : String) {labels : Labels} (h : labels ≠ []) (value : String) :
    sample name labels value = sampleLine name labels value := by
  have htext : String.intercalate "," (labels.map fun label =>
      label.1 ++ "=\"" ++ escapeLabelValue label.2 ++ "\"") =
        String.ofList (labelsText labels) := by
    rw [← String.toList_inj, String.toList_intercalate,
      String.toList_ofList (l := labelsText labels), labelsText, List.map_map]
    refine congrArg (List.intercalate _) (List.map_congr_left fun label _ => ?_)
    simp [labelText, toList_escapeLabelValue]
  have hne : String.ofList (labelsText labels) ≠ "" := by
    intro hempty
    have hlength := length_le_labelsText labels
    rw [String.ofList_eq_empty_iff.mp hempty] at hlength
    exact h (List.length_eq_zero_iff.mp (Nat.le_zero.mp hlength))
  rw [sample, htext]
  simp only [if_pos hne, sampleLine, String.append_assoc]
  rfl

/-! ## The samples of a metric -/

section Samples

variable {V : Type}

lemma mem_sortedItems {d : AList fun _ : Labels => V} {labels : Labels} {value : V} :
    (labels, value) ∈ sortedItems d ↔ d.lookup labels = some value := by
  rw [sortedItems, (List.perm_insertionSort _ _).mem_iff, List.mem_map]
  constructor
  · rintro ⟨⟨labels', value'⟩, hmem, heq⟩
    obtain ⟨rfl, rfl⟩ := Prod.mk.inj heq
    exact AList.mem_lookup_iff.mpr hmem
  · intro h
    exact ⟨⟨labels, value⟩, AList.mem_lookup_iff.mp h, rfl⟩

lemma nodup_sortedItems (d : AList fun _ : Labels => V) :
    ((sortedItems d).map (·.1)).Nodup := by
  rw [sortedItems, ((List.perm_insertionSort _ _).map _).nodup_iff, List.map_map]
  exact d.nodupKeys

/-- The lines are the samples of a metric: what was recorded is read from them, each item from a
line of its own, by its labels and with its value. -/
def ReadsBack {K : Type} (name : String) (labelsOf : K → Labels) (recorded : List K)
    (value : K → String) (lines : List String) : Prop :=
  ∃ keys : List K, keys.Nodup ∧ (∀ k, k ∈ keys ↔ k ∈ recorded) ∧
    lines.map readSample = keys.map fun k => some (name, labelsOf k, value k)

/-- Items that their labels tell apart. -/
lemma ReadsBack.of_injective {K : Type} {name : String} {labelsOf : K → Labels} {recorded : List K}
    {value : K → String} {tuples : List Labels} {value' : Labels → String} {lines : List String}
    (h : ReadsBack name id tuples value' lines) (htuples : tuples = recorded.map labelsOf)
    (hinj : Function.Injective labelsOf) (hvalue : ∀ k, value' (labelsOf k) = value k) :
    ReadsBack name labelsOf recorded value lines := by
  subst htuples
  obtain ⟨tuples, hnodup, hmem, hlines⟩ := h
  have hrange : tuples ∈ Set.range (List.map labelsOf) := by
    rw [Set.range_list_map]
    intro labels hlabels
    obtain ⟨k, -, hk⟩ := List.mem_map.mp ((hmem labels).mp hlabels)
    exact ⟨k, hk⟩
  obtain ⟨keys, rfl⟩ := hrange
  refine ⟨keys, hnodup.of_map, fun k => ?_, ?_⟩
  · rw [← List.mem_map_of_injective hinj, hmem, List.mem_map_of_injective hinj]
  · rw [hlines, List.map_map]
    refine List.map_congr_left fun k _ => ?_
    rw [Function.comp_apply, hvalue]
    rfl

/-- What the registry renders of a dictionary that holds a value for each recorded tuple. -/
lemma readsBack_sortedItems {d : AList fun _ : Labels => V} {name : String}
    {recorded : List Labels} {value : Labels → V} (text : V → String)
    (hd : ∀ labels, d.lookup labels = if labels ∈ recorded then some (value labels) else none)
    (hlegible : ∀ labels ∈ recorded, Legible name labels) :
    ReadsBack name id recorded (fun labels => text (value labels))
      ((sortedItems d).map fun item => sample name item.1 (text item.2)) := by
  refine ⟨(sortedItems d).map (·.1), nodup_sortedItems d, fun labels => ?_, ?_⟩
  · constructor
    · intro hmem
      obtain ⟨⟨labels', v⟩, hitem, rfl⟩ := List.mem_map.mp hmem
      rw [mem_sortedItems, hd] at hitem
      by_contra hnot
      simp [hnot] at hitem
    · intro hmem
      refine List.mem_map.mpr ⟨(labels, value labels), mem_sortedItems.mpr ?_, rfl⟩
      rw [hd, if_pos hmem]
  · rw [List.map_map, List.map_map]
    refine List.map_congr_left fun item hitem => ?_
    obtain ⟨labels, v⟩ := item
    rw [mem_sortedItems, hd] at hitem
    obtain ⟨hmem, hv⟩ : labels ∈ recorded ∧ value labels = v := by
      by_cases hmem : labels ∈ recorded
      · exact ⟨hmem, by simpa [hmem] using hitem⟩
      · simp [hmem] at hitem
    have hlegible := hlegible labels hmem
    show readSample (sample name labels (text v)) = some (name, labels, text (value labels))
    rw [sample_eq name hlegible.labels_ne, readSample_sampleLine hlegible, hv]

lemma newline_not_mem_samples {d : AList fun _ : Labels => V} {name : String}
    {recorded : List Labels} {value : Labels → V} {text : V → String}
    (hd : ∀ labels, d.lookup labels = if labels ∈ recorded then some (value labels) else none)
    (hlegible : ∀ labels ∈ recorded, Legible name labels) (htext : ∀ v, '\n' ∉ (text v).toList) :
    ∀ line ∈ (sortedItems d).map fun item => sample name item.1 (text item.2),
      '\n' ∉ line.toList := by
  intro line hline
  obtain ⟨⟨labels, v⟩, hitem, rfl⟩ := List.mem_map.mp hline
  rw [mem_sortedItems, hd] at hitem
  have hmem : labels ∈ recorded := by
    by_contra hnot
    simp [hnot] at hitem
  dsimp only
  rw [sample_eq name (hlegible labels hmem).labels_ne]
  exact sampleLine_line (hlegible labels hmem) (htext v)

end Samples

/-! ## Calls -/

/-- A call of the registry. -/
inductive MetricsCall (F : Type) where
  | recordHttpRequest (method path : String) (statusCode : ℤ) (durationSeconds : F)
  | incrementForecastJobEvent (event : String)

namespace MetricsCall

variable {F : Type} [Seconds F] (upper : String → String)

/-- The registry after a call. -/
def perform (registry : RequestMetricsRegistry F) : MetricsCall F → RequestMetricsRegistry F
  | recordHttpRequest method path statusCode durationSeconds =>
    registry.recordHttpRequest upper method path statusCode durationSeconds
  | incrementForecastJobEvent event => registry.incrementForecastJobEvent event

/-- The registry after the calls. -/
def after (calls : List (MetricsCall F)) : RequestMetricsRegistry F :=
  calls.foldl (perform upper) .empty

/-- The label tuple and the duration of a request. -/
def request? : MetricsCall F → Option (Labels × F)
  | recordHttpRequest method path statusCode durationSeconds =>
    some (requestLabels upper method path statusCode, durationSeconds)
  | incrementForecastJobEvent _ => none

/-- The label tuple of an event. -/
def event? : MetricsCall F → Option Labels
  | recordHttpRequest .. => none
  | incrementForecastJobEvent event => some (eventLabels event)

/-- The label tuples of the requests, one for each call. -/
def requests (calls : List (MetricsCall F)) : List Labels :=
  (calls.filterMap (request? upper)).map (·.1)

/-- The label tuples of the events, one for each call. -/
def events (calls : List (MetricsCall F)) : List Labels := calls.filterMap event?

/-- The durations of the requests with these labels, added up. -/
def durationSum (calls : List (MetricsCall F)) (labels : Labels) : F :=
  (((calls.filterMap (request? upper)).filter (·.1 = labels)).map (·.2)).foldl (· + ·) 0

/-- What a request is told apart by, and its duration: the method in upper case, the path and the
status code. -/
def observed? : MetricsCall F → Option ((String × String × ℤ) × F)
  | recordHttpRequest method path statusCode durationSeconds =>
    some ((upper method, path, statusCode), durationSeconds)
  | incrementForecastJobEvent _ => none

/-- The requests that were recorded. -/
def observedRequests (calls : List (MetricsCall F)) : List (String × String × ℤ) :=
  (calls.filterMap (observed? upper)).map (·.1)

/-- The durations of the requests like this one, added up. -/
def observedSeconds (calls : List (MetricsCall F)) (request : String × String × ℤ) : F :=
  (((calls.filterMap (observed? upper)).filter (·.1 = request)).map (·.2)).foldl (· + ·) 0

/-- What an event is told apart by. -/
def counted? : MetricsCall F → Option String
  | recordHttpRequest .. => none
  | incrementForecastJobEvent event => some event

/-- The events that were counted. -/
def observedEvents (calls : List (MetricsCall F)) : List String := calls.filterMap counted?

/-- What the registry holds after the calls. -/
structure Holds (registry : RequestMetricsRegistry F) (calls : List (MetricsCall F)) : Prop where
  httpRequestCounts : ∀ labels, registry.httpRequestCounts.lookup labels =
    if labels ∈ requests upper calls then some ((requests upper calls).count labels) else none
  httpRequestDurationSums : ∀ labels, registry.httpRequestDurationSums.lookup labels =
    if labels ∈ requests upper calls then some (durationSum upper calls labels) else none
  forecastJobCounts : ∀ labels, registry.forecastJobCounts.lookup labels =
    if labels ∈ events calls then some ((events calls).count labels) else none

omit [Seconds F] in
/-- One more call is counted. -/
lemma lookup_counted {d : AList fun _ : Labels => ℕ} {recorded : List Labels}
    (h : ∀ labels, d.lookup labels =
      if labels ∈ recorded then some (recorded.count labels) else none)
    (labels labels' : Labels) :
    (d.insert labels ((d.lookup labels).getD 0 + 1)).lookup labels' =
      if labels' ∈ recorded ++ [labels] then some ((recorded ++ [labels]).count labels')
      else none := by
  have hcount : (d.lookup labels).getD 0 = recorded.count labels := by
    rw [h]
    split
    · rfl
    · next hnot => exact (List.count_eq_zero.mpr hnot).symm
  by_cases heq : labels' = labels
  · subst heq
    rw [AList.lookup_insert, hcount, if_pos (by simp), List.count_append]
    simp
  · rw [AList.lookup_insert_ne heq, h]
    simp [heq, List.count_append, Ne.symm heq]

/-- One more duration is added. -/
lemma lookup_added {d : AList fun _ : Labels => F} {recorded : List (Labels × F)}
    (h : ∀ labels, d.lookup labels = if labels ∈ recorded.map (·.1) then
      some (((recorded.filter (·.1 = labels)).map (·.2)).foldl (· + ·) 0) else none)
    (labels : Labels) (x : F) (labels' : Labels) :
    (d.insert labels ((d.lookup labels).getD 0 + x)).lookup labels' =
      if labels' ∈ (recorded ++ [(labels, x)]).map (·.1) then
        some ((((recorded ++ [(labels, x)]).filter (·.1 = labels')).map (·.2)).foldl (· + ·) 0)
      else none := by
  have hsum : (d.lookup labels).getD 0 =
      ((recorded.filter (·.1 = labels)).map (·.2)).foldl (· + ·) 0 := by
    rw [h]
    split
    · rfl
    · next hnot =>
      have hempty : recorded.filter (·.1 = labels) = [] := by
        rw [List.filter_eq_nil_iff]
        intro item hitem hlabels
        exact hnot (List.mem_map.mpr ⟨item, hitem, by simpa using hlabels⟩)
      rw [hempty]
      rfl
  by_cases heq : labels' = labels
  · subst heq
    rw [AList.lookup_insert, hsum, if_pos (by simp)]
    simp [List.filter_append, List.foldl_append]
  · have hmem : labels' ∈ (recorded ++ [(labels, x)]).map (·.1) ↔ labels' ∈ recorded.map (·.1) := by
      simp [heq]
    have hfilter : (recorded ++ [(labels, x)]).filter (·.1 = labels') =
        recorded.filter (·.1 = labels') := by
      simp [Ne.symm heq]
    rw [AList.lookup_insert_ne heq, h, hfilter]
    exact if_congr hmem.symm rfl rfl

/-- The registry holds what was recorded. -/
lemma holds_after (calls : List (MetricsCall F)) : Holds upper (after upper calls) calls := by
  induction calls using List.reverseRecOn with
  | nil => exact ⟨fun _ => rfl, fun _ => rfl, fun _ => rfl⟩
  | append_singleton calls call ih =>
    have hafter : after upper (calls ++ [call]) = perform upper (after upper calls) call := by
      simp [after]
    rw [hafter]
    cases call with
    | recordHttpRequest method path statusCode durationSeconds =>
      have hrequests : (calls ++ [recordHttpRequest method path statusCode
          durationSeconds]).filterMap (request? upper) = calls.filterMap (request? upper) ++
            [(requestLabels upper method path statusCode, durationSeconds)] := by
        simp [request?]
      have hevents : events (calls ++ [recordHttpRequest method path statusCode
          durationSeconds]) = events calls := by
        simp [events, event?]
      constructor
      · intro labels
        rw [requests, hrequests, List.map_append]
        exact lookup_counted ih.httpRequestCounts _ _
      · intro labels
        rw [requests, durationSum, hrequests]
        exact lookup_added ih.httpRequestDurationSums _ _ _
      · rw [hevents]
        exact ih.forecastJobCounts
    | incrementForecastJobEvent event =>
      have hrequests : (calls ++ [incrementForecastJobEvent event]).filterMap (request? upper) =
          calls.filterMap (request? upper) := by
        simp [request?]
      have hevents : events (calls ++ [incrementForecastJobEvent event]) =
          events calls ++ [eventLabels event] := by
        simp [events, event?]
      constructor
      · intro labels
        rw [requests, hrequests]
        exact ih.httpRequestCounts labels
      · intro labels
        rw [requests, durationSum, hrequests]
        exact ih.httpRequestDurationSums labels
      · intro labels
        rw [hevents]
        exact lookup_counted ih.forecastJobCounts _ _

/-! ## What is read -/

/-- A name without a brace and without a newline. -/
def MetricName (name : String) : Prop := '\x7b' ∉ name.toList ∧ '\n' ∉ name.toList

lemma metricName_requests : MetricName httpRequestsTotal := by
  constructor <;> decide +kernel

lemma metricName_durationCount : MetricName (httpRequestDurationSeconds ++ "_count") := by
  constructor <;> decide +kernel

lemma metricName_durationSum : MetricName (httpRequestDurationSeconds ++ "_sum") := by
  constructor <;> decide +kernel

lemma metricName_jobs : MetricName forecastJobsTotal := by
  constructor <;> decide +kernel

omit [Seconds F] in
/-- The recorded tuples can be read with the name of any metric. -/
lemma legible_requests (calls : List (MetricsCall F)) {name : String} (hname : MetricName name) :
    ∀ labels ∈ requests upper calls, Legible name labels := by
  intro labels hmem
  obtain ⟨⟨labels, x⟩, hrequest, rfl⟩ := List.mem_map.mp hmem
  obtain ⟨call, -, hcall⟩ := List.mem_filterMap.mp hrequest
  cases call with
  | incrementForecastJobEvent event => cases hcall
  | recordHttpRequest method path statusCode x =>
    cases hcall
    refine ⟨hname.1, hname.2, List.cons_ne_nil _ _, ?_, ?_⟩ <;> simp [requestLabels, LabelName]

omit [Seconds F] in
lemma legible_events (calls : List (MetricsCall F)) {name : String} (hname : MetricName name) :
    ∀ labels ∈ events calls, Legible name labels := by
  intro labels hmem
  obtain ⟨call, -, hcall⟩ := List.mem_filterMap.mp hmem
  cases call with
  | recordHttpRequest method path statusCode x => cases hcall
  | incrementForecastJobEvent event =>
    cases hcall
    refine ⟨hname.1, hname.2, List.cons_ne_nil _ _, ?_, ?_⟩ <;> simp [eventLabels, LabelName]

end MetricsCall

open MetricsCall

variable {F : Type} [Seconds F]

/-- `text.split("\n")`. -/
def splitLines (text : String) : List String := (text.toList.splitOn '\n').map String.ofList

lemma splitLines_intercalate {lines : List String} (hne : lines ≠ [])
    (hlines : ∀ line ∈ lines, '\n' ∉ line.toList) :
    splitLines (String.intercalate "\n" lines ++ "\n") = lines ++ [""] := by
  have hlast : String.intercalate "\n" lines ++ "\n" =
      String.intercalate "\n" (lines ++ [""]) := by
    rw [String.intercalate_append_of_ne_nil hne (List.cons_ne_nil _ _)]
    simp
  have hall : ∀ text ∈ (lines ++ [""]).map String.toList, '\n' ∉ text := by
    simpa [or_imp, forall_and] using hlines
  rw [splitLines, hlast, String.toList_intercalate]
  show (List.splitOn '\n' (List.intercalate ['\n'] _)).map _ = _
  rw [List.splitOn_intercalate '\n' hall (by simp), List.map_map]
  simp [Function.comp_def]

lemma newline_not_mem_count (n : ℕ) : '\n' ∉ (toString n).toList := by
  intro hmem
  have hdigits : '\n' ∈ Nat.toDigits 10 n := by simpa using hmem
  exact absurd (Nat.isDigit_of_mem_toDigits (by decide) (by decide) hdigits) (by decide)

lemma newline_not_mem_lines (upper : String → String) (calls : List (MetricsCall F)) :
    ∀ line ∈ (after upper calls).lines, '\n' ∉ line.toList := by
  have h := holds_after upper calls
  simp only [RequestMetricsRegistry.lines, List.forall_mem_append]
  refine ⟨⟨⟨⟨⟨⟨?_, ?_⟩, ?_⟩, ?_⟩, ?_⟩, ?_⟩, ?_⟩
  · decide +kernel
  · exact newline_not_mem_samples h.httpRequestCounts
      (legible_requests upper calls metricName_requests) newline_not_mem_count
  · decide +kernel
  · exact newline_not_mem_samples h.httpRequestCounts
      (legible_requests upper calls metricName_durationCount) newline_not_mem_count
  · exact newline_not_mem_samples h.httpRequestDurationSums
      (legible_requests upper calls metricName_durationSum) Seconds.text_line
  · decide +kernel
  · exact newline_not_mem_samples h.forecastJobCounts
      (legible_events calls metricName_jobs) newline_not_mem_count

/-! ## The labels of requests and events -/

/-- The labels of a request, as they are read. -/
def requestTuple (request : String × String × ℤ) : Labels :=
  [("method", request.1), ("path", request.2.1), ("status_code", toString request.2.2)]

lemma requestTuple_injective : Function.Injective requestTuple := by
  rintro ⟨method, path, statusCode⟩ ⟨method', path', statusCode'⟩ h
  simp only [requestTuple, List.cons.injEq, Prod.mk.injEq, true_and, and_true] at h
  obtain ⟨rfl, rfl, hstatus⟩ := h
  obtain rfl := intText_injective hstatus
  rfl

lemma eventLabels_injective : Function.Injective eventLabels := by
  intro event event' h
  simpa [eventLabels] using h

section Observed

variable (upper : String → String) (calls : List (MetricsCall F))

omit [Seconds F] in
lemma request?_eq (call : MetricsCall F) :
    request? upper call = (observed? upper call).map fun item => (requestTuple item.1, item.2) := by
  cases call <;> rfl

omit [Seconds F] in
lemma requests_eq : requests upper calls = (observedRequests upper calls).map requestTuple := by
  rw [requests, observedRequests, funext (request?_eq upper), ← List.map_filterMap, List.map_map,
    List.map_map]
  rfl

lemma durationSum_requestTuple (request : String × String × ℤ) :
    durationSum upper calls (requestTuple request) = observedSeconds upper calls request := by
  rw [durationSum, observedSeconds, funext (request?_eq upper), ← List.map_filterMap,
    List.filter_map, List.map_map]
  have hfilter : ((fun item : Labels × F => decide (item.1 = requestTuple request)) ∘
      fun item : (String × String × ℤ) × F => (requestTuple item.1, item.2)) =
        fun item => decide (item.1 = request) := by
    funext item
    simp [requestTuple_injective.eq_iff]
  rw [hfilter]
  rfl

omit [Seconds F] in
lemma events_eq : events calls = (observedEvents calls).map eventLabels := by
  rw [events, observedEvents, List.map_filterMap]
  refine congrArg (calls.filterMap ·) (funext fun call => ?_)
  cases call <;> rfl

end Observed

/-- **No label value can forge a line.**  After any calls with any texts, the lines of the text are
the six of the headers and one for each sample, and reading the samples gives the recorded requests
and events by their labels, each once and with its own number of calls. -/
theorem render_reads_back (upper : String → String) (calls : List (MetricsCall F)) :
    ∃ httpCounts durationCounts durationSums jobCounts,
      splitLines (after upper calls).renderPrometheus =
        ["# HELP earth2_http_requests_total Total HTTP requests observed by the backend.",
          "# TYPE earth2_http_requests_total counter"] ++ httpCounts ++
        ["# HELP earth2_http_request_duration_seconds HTTP request duration in seconds.",
          "# TYPE earth2_http_request_duration_seconds summary"] ++
        durationCounts ++ durationSums ++
        ["# HELP earth2_forecast_jobs_total Total forecast job lifecycle events.",
          "# TYPE earth2_forecast_jobs_total counter"] ++ jobCounts ++ [""] ∧
      ReadsBack "earth2_http_requests_total"
        (fun request => [("method", request.1), ("path", request.2.1),
          ("status_code", toString request.2.2)]) (observedRequests upper calls)
        (fun request => toString ((observedRequests upper calls).count request)) httpCounts ∧
      ReadsBack "earth2_http_request_duration_seconds_count"
        (fun request => [("method", request.1), ("path", request.2.1),
          ("status_code", toString request.2.2)]) (observedRequests upper calls)
        (fun request => toString ((observedRequests upper calls).count request)) durationCounts ∧
      ReadsBack "earth2_http_request_duration_seconds_sum"
        (fun request => [("method", request.1), ("path", request.2.1),
          ("status_code", toString request.2.2)]) (observedRequests upper calls)
        (fun request => Seconds.text (observedSeconds upper calls request)) durationSums ∧
      ReadsBack "earth2_forecast_jobs_total" (fun event => [("event", event)])
        (observedEvents calls) (fun event => toString ((observedEvents calls).count event))
        jobCounts := by
  have h := holds_after upper calls
  have hcount (request : String × String × ℤ) :
      (requests upper calls).count (requestTuple request) =
        (observedRequests upper calls).count request := by
    rw [requests_eq, List.count_map_of_injective _ _ requestTuple_injective]
  have hevent (event : String) :
      (events calls).count (eventLabels event) = (observedEvents calls).count event := by
    rw [events_eq, List.count_map_of_injective _ _ eventLabels_injective]
  have hlegible {name : String} (hname : MetricName name) :
      ∀ labels ∈ requests upper calls, Legible name labels :=
    legible_requests upper calls hname
  refine ⟨_, _, _, _, splitLines_intercalate (by simp [RequestMetricsRegistry.lines])
    (newline_not_mem_lines upper calls), ?_, ?_, ?_, ?_⟩
  · have hread := readsBack_sortedItems toString h.httpRequestCounts (hlegible metricName_requests)
    refine hread.of_injective (requests_eq upper calls) requestTuple_injective ?_
    exact fun request => congrArg toString (hcount request)
  · have hread := readsBack_sortedItems toString h.httpRequestCounts
      (hlegible metricName_durationCount)
    refine hread.of_injective (requests_eq upper calls) requestTuple_injective ?_
    exact fun request => congrArg toString (hcount request)
  · have hread := readsBack_sortedItems Seconds.text h.httpRequestDurationSums
      (hlegible metricName_durationSum)
    refine hread.of_injective (requests_eq upper calls) requestTuple_injective ?_
    exact fun request => congrArg Seconds.text (durationSum_requestTuple upper calls request)
  · have hread := readsBack_sortedItems toString h.forecastJobCounts
      (legible_events calls metricName_jobs)
    refine hread.of_injective (events_eq calls) eventLabels_injective ?_
    exact fun event => congrArg toString (hevent event)

/-! ## Texts that try to forge a line -/

namespace SampleMetrics

/-- Durations of whole seconds. -/
scoped instance wholeSeconds : Seconds ℕ where
  zero := Nat.zero
  add := Nat.add
  text n := toString n ++ ".0"
  text_line n := by
    rw [String.toList_append, List.mem_append, not_or]
    exact ⟨newline_not_mem_count n, by decide⟩

/-- A path that closes the quotes and goes on with a sample of its own. -/
def forgedPath : String := "/\"\x7d 1\nearth2_forecast_jobs_total\x7bevent=\"x\"\x7d 9"

/-- Two requests of one method and path, one for the forged path, and an event. -/
def forgedCalls : List (MetricsCall ℕ) :=
  [.recordHttpRequest "get" "/health" 200 1, .recordHttpRequest "GET" forgedPath 404 2,
    .recordHttpRequest "GET" "/health" 200 1, .incrementForecastJobEvent "accepted"]

/-- The request for the forged path is read as one request. -/
theorem render_reads_back_forged :
    ∃ httpCounts jobCounts : List String,
      httpCounts ++ jobCounts ⊆
        splitLines (after (·.map Char.toUpper) forgedCalls).renderPrometheus ∧
      some ("earth2_http_requests_total",
        [("method", "GET"), ("path", forgedPath), ("status_code", "404")], "1") ∈
          httpCounts.map readSample ∧
      some ("earth2_http_requests_total",
        [("method", "GET"), ("path", "/health"), ("status_code", "200")], "2") ∈
          httpCounts.map readSample ∧
      jobCounts.map readSample =
        [some ("earth2_forecast_jobs_total", [("event", "accepted")], "1")] := by
  obtain ⟨httpCounts, durationCounts, durationSums, jobCounts, hlines,
    ⟨requests, -, hrequests, hhttp⟩, -, -, ⟨events, hnodup, hevents, hjobs⟩⟩ :=
      render_reads_back (·.map Char.toUpper) forgedCalls
  have hobserved : observedRequests (·.map Char.toUpper) forgedCalls =
      [("GET", "/health", 200), ("GET", forgedPath, 404), ("GET", "/health", 200)] := by
    decide +kernel
  have hcounted : observedEvents forgedCalls = ["accepted"] := rfl
  rw [hobserved] at hrequests hhttp
  rw [hcounted] at hevents hjobs
  refine ⟨httpCounts, jobCounts, ?_, ?_, ?_, ?_⟩
  · rw [hlines]
    intro line hline
    simp only [List.mem_append] at hline ⊢
    tauto
  · rw [hhttp]
    have hmem : ("GET", forgedPath, 404) ∈ requests := (hrequests _).mpr (by simp)
    exact List.mem_map.mpr ⟨_, hmem, by decide +kernel⟩
  · rw [hhttp]
    have hmem : ("GET", "/health", 200) ∈ requests := (hrequests _).mpr (by simp)
    exact List.mem_map.mpr ⟨_, hmem, by decide +kernel⟩
  · have hone : events = ["accepted"] := by
      refine List.perm_singleton.mp ((List.perm_ext_iff_of_nodup hnodup (by simp)).mpr ?_)
      exact hevents
    rw [hjobs, hone]
    rfl

end SampleMetrics

end Earth2Sandbox
