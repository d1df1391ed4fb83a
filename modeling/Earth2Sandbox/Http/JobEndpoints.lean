import Earth2Sandbox.Commands.Requests
import Earth2Sandbox.Schemas.Documents

/-!
# The job endpoints

The queries of `application/queries`, and what the routes of `routers/forecast_jobs.py` answer.  A
float that JSON does not have is written as `null`, or the response fails: that depends on the
version of the framework, and is a parameter (`FloatPolicy`).
-/

namespace Earth2Sandbox

/-- Whether a response with a float that JSON does not have fails. -/
class FloatPolicy where
  refuses : Bool

/-- A response; a body that is not JSON is `none`. -/
structure ApiResponse where
  status : ℕ
  body : Option Json

/-- `HTTPException`. -/
def httpException (status : ℕ) (detail : String) : ApiResponse :=
  ⟨status, some (.object [("detail", .str detail)])⟩

/-- An exception that no handler catches. -/
def internalServerError : ApiResponse := ⟨500, none⟩

/-- A request that is not valid.  The list of its errors is left out. -/
def unprocessableEntity : ApiResponse := ⟨422, some (.object [("detail", .array [])])⟩

/-- The bounds of `ForecastJobCreateRequest`. -/
def validCreateRequest (latitude longitude : PyFloat) : Bool :=
  PyFloat.between (-90) 90 latitude && PyFloat.between (-180) 180 longitude

/-- Every number of the summary is finite. -/
def ForecastJobSummary.hasFiniteFloats (job : ForecastJobSummary) : Bool :=
  job.latitude.isFinite && job.longitude.isFinite

/-- Every number of the list is finite. -/
def ForecastJobListResponse.hasFiniteFloats (r : ForecastJobListResponse) : Bool :=
  r.jobs.all ForecastJobSummary.hasFiniteFloats

section Responses

variable [FloatPolicy]

/-- A model as a response. -/
def jsonResponse (status : ℕ) (hasFiniteFloats : Bool) (document : Json) : ApiResponse :=
  if FloatPolicy.refuses && !hasFiniteFloats then internalServerError else ⟨status, some document⟩

/-- The `except` clause of `get_forecast_job` and `poll_forecast_job`. -/
def queryError : JobError → ApiResponse
  | .notFound _ => httpException 404 "Forecast job not found."
  | _ => internalServerError

/-- `str` of a `ForecastJobTransitionError`. -/
def transitionText (jobId : String) (currentStatus : ForecastJobStatus)
    (expectedStatuses : Finset ForecastJobStatus) : String :=
  let expected := [ForecastJobStatus.cancelled, .failed, .queued, .running, .succeeded].filter
    (· ∈ expectedStatuses)
  "Cannot transition forecast job " ++ jobId ++ " from " ++ currentStatus.text ++
    "; expected one of: " ++ ", ".intercalate (expected.map (·.text)) ++ "."

/-- The `except` clauses of `retry_forecast_job`. -/
def retryError : JobError → ApiResponse
  | .notFound _ => httpException 404 "Forecast job not found."
  | .conflict message => httpException 409 message
  | .transition jobId currentStatus expectedStatuses =>
    httpException 409 (transitionText jobId currentStatus expectedStatuses)
  | _ => internalServerError

variable [FloatRepr] [TimeText]

def jobResponse (status : ℕ) (job : ForecastJob) : ApiResponse :=
  jsonResponse status job.hasFiniteFloats job.document

/-- What `create_forecast_job` answers. -/
def createResponse : Except JobError ForecastJob → ApiResponse
  | .ok job => jobResponse 202 job
  | .error _ => internalServerError

/-- What `retry_forecast_job` answers. -/
def retryResponse : Except JobError ForecastJob → ApiResponse
  | .ok job => jobResponse 202 job
  | .error e => retryError e

variable [Runtime] (S : ForecastJobStore) (store : S.State)

omit [FloatPolicy] [FloatRepr] [TimeText] in
/-- `GetForecastJob.execute`. -/
def getForecastJob (jobId : String) : Except JobError ForecastJob :=
  (S.get store jobId).map withJobLinks

omit [FloatPolicy] [FloatRepr] [TimeText] in
/-- `PollForecastJob.execute`. -/
def pollForecastJob (jobId : String) : Except JobError ForecastJobPollResponse :=
  (S.get store jobId).map fun job => toJobPollResponse (withJobLinks job)

omit [FloatPolicy] [FloatRepr] [TimeText] in
/-- `ListForecastJobs.execute`. -/
def listForecastJobs (limit : ℤ) (status : Option ForecastJobStatus) : ForecastJobListResponse :=
  let summaries := (S.listRecent store limit status).map fun job => toJobSummary (withJobLinks job)
  ⟨summaries.length, summaries⟩

/-- What `get_forecast_job` answers. -/
def getResponse (jobId : String) : ApiResponse :=
  match getForecastJob S store jobId with
  | .ok job => jobResponse 200 job
  | .error e => queryError e

/-- What `poll_forecast_job` answers. -/
def pollResponse (jobId : String) : ApiResponse :=
  match pollForecastJob S store jobId with
  | .ok poll => jsonResponse 200 true poll.document
  | .error e => queryError e

/-- What `list_forecast_jobs` answers. -/
def listResponse (limit : ℤ) (status : Option ForecastJobStatus) : ApiResponse :=
  let jobs := listForecastJobs S store limit status
  jsonResponse 200 jobs.hasFiniteFloats jobs.document

section Found

variable {S store} {jobId : String} {job : ForecastJob} {e : JobError}

omit [FloatPolicy] [FloatRepr] [TimeText] in
/-- A lookup fails only because the job is not found. -/
lemma get_eq_error (h : S.get store jobId = .error e) : e = .notFound jobId := by
  rw [S.get_eq, Records.get] at h
  cases hk : normalizeJobId jobId with
  | error e' =>
    rw [hk] at h
    obtain rfl := Except.error.inj h
    unfold normalizeJobId at hk
    split at hk
    · cases hk
    · exact (Except.error.inj hk).symm
  | ok k =>
    rw [hk] at h
    simp only [bind, Except.bind] at h
    split at h
    · exact (Except.error.inj h).symm
    · cases h

lemma getResponse_of_ok (h : S.get store jobId = .ok job) :
    getResponse S store jobId = jobResponse 200 (withJobLinks job) := by
  simp only [getResponse, getForecastJob, h, Except.map]

omit [FloatRepr] in
lemma pollResponse_of_ok (h : S.get store jobId = .ok job) :
    pollResponse S store jobId =
      jsonResponse 200 true (toJobPollResponse (withJobLinks job)).document := by
  simp only [pollResponse, pollForecastJob, h, Except.map]

lemma getResponse_of_error (h : S.get store jobId = .error e) :
    getResponse S store jobId = httpException 404 "Forecast job not found." := by
  obtain rfl := get_eq_error h
  simp only [getResponse, getForecastJob, h, Except.map, queryError]

omit [FloatRepr] in
lemma pollResponse_of_error (h : S.get store jobId = .error e) :
    pollResponse S store jobId = httpException 404 "Forecast job not found." := by
  obtain rfl := get_eq_error h
  simp only [pollResponse, pollForecastJob, h, Except.map, queryError]

end Found

end Responses

/-! ## Paths -/

/-- The prefix of the routes with a job id. -/
def jobsPath : String := "/api/v1/forecast/jobs/"

/-- The job id in a path, and what follows it.  Encoded characters and queries are not read. -/
def jobPath (path : String) : Option (String × String) :=
  (path.toList.dropPrefix? jobsPath.toList).bind fun rest =>
    let jobId := rest.takeWhile (· ≠ '/')
    if jobId = [] ∨ rest.any (['%', '?', '#'].contains ·) then none
    else some (String.ofList jobId, String.ofList (rest.dropWhile (· ≠ '/')))

lemma plain_of_canonicalUuid {id : String} (h : canonicalUuid id = true) :
    ∀ c ∈ id.toList, c ∉ ['/', '%', '?', '#'] := by
  intro c hmem hspecial
  obtain ⟨i, hi⟩ := List.mem_iff_getElem?.mp hmem
  simp only [canonicalUuid, Bool.and_eq_true, List.all_eq_true] at h
  have hchar := h.2 (c, i) (List.mk_mem_zipIdx_iff_getElem?.mpr hi)
  have hplain : (['/', '%', '?', '#'].all fun c =>
      decide (c ≠ '-' ∧ (c.isDigit || ('a' ≤ c && c ≤ 'f')) = false)) = true := by decide
  obtain ⟨hhyphen, hdigit⟩ := of_decide_eq_true (List.all_eq_true.mp hplain c hspecial)
  dsimp only at hchar
  split at hchar
  · exact hhyphen (of_decide_eq_true hchar)
  · cases hdigit.symm.trans hchar

lemma jobPath_link {id suffix : String} (hid : canonicalUuid id = true)
    (hsuffix : suffix ∈ ["", "/poll", "/retry"]) :
    jobPath (jobsPath ++ id ++ suffix) = some (id, suffix) := by
  have hplain := plain_of_canonicalUuid hid
  have hslash : ∀ c ∈ id.toList, decide (c ≠ '/') = true := by
    intro c hc
    have hne : c ≠ '/' := fun heq => hplain c hc (by simp [heq])
    simpa using hne
  have hrest : (jobsPath ++ id ++ suffix).toList.dropPrefix? jobsPath.toList =
      some (id.toList ++ suffix.toList) := by
    refine List.dropPrefix?_eq_some_iff.mpr ⟨jobsPath.toList, ?_, beq_self_eq_true _⟩
    simp [String.toList_append]
  have hid' : id.toList ≠ [] := by
    intro hnil
    have hlength := length_of_canonicalUuid hid
    simp [hnil] at hlength
  have htail : suffix.toList.takeWhile (· ≠ '/') = [] ∧
      suffix.toList.dropWhile (· ≠ '/') = suffix.toList ∧
        suffix.toList.any (['%', '?', '#'].contains ·) = false := by
    clear hrest
    revert suffix
    decide
  obtain ⟨htake, hdrop, hplain'⟩ := htail
  have hspecial : (id.toList ++ suffix.toList).any (['%', '?', '#'].contains ·) = false := by
    rw [List.any_append, hplain', Bool.or_false, List.any_eq_false]
    intro c hc hmem
    exact hplain c hc (List.mem_cons_of_mem _ (List.contains_iff_mem.mp hmem))
  unfold jobPath
  rw [hrest, Option.bind_some]
  simp only [List.takeWhile_append_of_pos hslash, List.dropWhile_append_of_pos hslash, htake, hdrop,
    List.append_nil, hid', hspecial, Bool.false_eq_true, or_self, if_false, String.ofList_toList]

end Earth2Sandbox
