import Earth2Sandbox.Nvidia.NimClient

/-!
# What every hosted exchange has in common

The server chooses every response, and with it the next request.  `PollInvariant` says how the
variables of the polling loop hang together with the exchange so far; it is kept by every round
of the loop, whatever the server answers.  From it come the three results on all exchanges:

* the API key goes to the configured endpoints only (`authorization_stays`),
* polling is bounded and counted (`polling_counted`),
* the diagnostics of a failure say what was learned exactly when the failure is not one of
  those that forget it (`keepsDiagnostics_iff_failsInformed`).
-/

namespace Earth2Sandbox

/-- The requests with their replies, latest first. -/
abbrev HostedExchange := Exchange HostedRequest HostedReply

namespace HostedExchange

/-- The response, when there is one. -/
def response (exchange : Σ c : HostedRequest, HostedReply c) : Option HttpResponse :=
  match exchange.2 with
  | .ok response => some response
  | .error _ => none

/-- A GET with credentials. -/
def isStatusRequest (request : HostedRequest) : Bool :=
  request.method = .get && request.authorized

/-- How many status requests were made. -/
def statusRequests (log : HostedExchange) : ℕ := log.countP fun e => isStatusRequest e.1

/-- How many status requests were answered. -/
def answeredRequests (log : HostedExchange) : ℕ :=
  log.countP fun e => isStatusRequest e.1 && (response e).isSome

/-- The request ids received, latest first. -/
def receivedIds (log : HostedExchange) : List String :=
  log.filterMap fun e => (response e).bind requestIdOf

/-- The exchange without the download that ended it, if one did. -/
def beforeDownload : HostedExchange → HostedExchange
  | [] => []
  | e :: earlier => if e.1.followRedirects then earlier else e :: earlier

/-- What came back, latest first. -/
def replies (log : HostedExchange) : List (Except HttpError HttpResponse) := log.map fun e => e.2

@[simp] lemma response_ok (request : HostedRequest) (r : HttpResponse) :
    response ⟨request, .ok r⟩ = some r := rfl

@[simp] lemma response_error (request : HostedRequest) (e : HttpError) :
    response ⟨request, .error e⟩ = none := rfl

lemma receivedIds_cons_ok (request : HostedRequest) (r : HttpResponse) (log : HostedExchange) :
    receivedIds (⟨request, .ok r⟩ :: log) = (requestIdOf r).toList ++ receivedIds log := by
  unfold receivedIds
  cases h : requestIdOf r <;> simp [h]

lemma receivedIds_cons_error (request : HostedRequest) (e : HttpError) (log : HostedExchange) :
    receivedIds (⟨request, .error e⟩ :: log) = receivedIds log :=
  List.filterMap_cons_none rfl

/-- The id that an arriving response makes the latest one. -/
lemma head?_receivedIds_cons_ok (request : HostedRequest) (r : HttpResponse)
    (log : HostedExchange) :
    (receivedIds (⟨request, .ok r⟩ :: log)).head? = (requestIdOf r).or (receivedIds log).head? := by
  rw [receivedIds_cons_ok]
  cases requestIdOf r <;> rfl

lemma answeredRequests_cons_error (request : HostedRequest) (e : HttpError)
    (log : HostedExchange) :
    answeredRequests (⟨request, .error e⟩ :: log) = answeredRequests log := by
  simp [answeredRequests]

lemma answeredRequests_cons_ok (request : HostedRequest) (r : HttpResponse)
    (log : HostedExchange) :
    answeredRequests (⟨request, .ok r⟩ :: log) =
      answeredRequests log + if isStatusRequest request then 1 else 0 := by
  simp [answeredRequests, List.countP_cons]

lemma statusRequests_cons (e : Σ c : HostedRequest, HostedReply c) (log : HostedExchange) :
    statusRequests (e :: log) = statusRequests log + if isStatusRequest e.1 then 1 else 0 :=
  List.countP_cons

end HostedExchange

open HostedExchange

/-! ## Request ids -/

lemma orText_text_ne_empty {x : Option String} {s : String} (h : orText x none = some s) :
    s ≠ "" := by
  cases x with
  | none => cases h
  | some t =>
    by_cases ht : t = ""
    · simp [orText, ht] at h
    · simp only [orText, if_neg ht, Option.some.injEq] at h
      exact h ▸ ht

lemma firstText_accepts {accepts : String → Bool} {preview : Json} {keys : List String}
    {s : String} (h : firstText accepts preview keys = some s) : accepts s = true := by
  induction keys with
  | nil => cases h
  | cons key keys ih =>
    unfold firstText at h
    split at h
    · split at h
      · next haccepts =>
        cases h
        exact haccepts
      · exact ih h
    · exact ih h

lemma requestIdOf_ne_empty {response : HttpResponse} {id : String}
    (h : requestIdOf response = some id) : id ≠ "" := by
  unfold requestIdOf at h
  split at h
  · next id' hheader =>
    cases h
    exact orText_text_ne_empty hheader
  · obtain ⟨preview, -, hid⟩ := Option.bind_eq_some_iff.mp h
    have := firstText_accepts hid
    simpa using this

lemma orText_requestIdOf (response : HttpResponse) (x : Option String) :
    orText (requestIdOf response) x = (requestIdOf response).or x := by
  cases h : requestIdOf response with
  | none => rfl
  | some id => simp [orText, requestIdOf_ne_empty h]

/-! ## Failures -/

/-- The diagnostics of the error report the number of answered status requests and, if a
request id was received, one of those received. -/
def KeepsDiagnostics (log : HostedExchange) (error : FourCastNetInferenceError) : Prop :=
  error.diagnostics.lookup "poll_attempts" = some (.int (answeredRequests log)) ∧
    (receivedIds log ≠ [] → ∃ id ∈ receivedIds log,
      error.diagnostics.lookup "nvcf_request_id" = some (.str id))

/-- What came back, latest first, when the failure shows all that was learned.  Either the API
itself gave the last answer, and not a 302 after polling; or nothing was learned that the failure
does not show by itself: the second request was not answered and the POST had brought no id, or
the second request was a download, refused with an id of its own or with none brought before. -/
def FailsInformed : List (Except HttpError HttpResponse) → Prop
  | [] => False
  | .error _ :: earlier =>
    earlier.length = 1 ∧ ∀ reply ∈ earlier, ∀ response, reply = .ok response →
      requestIdOf response = none
  | .ok _ :: [] => True
  | .ok _ :: .error _ :: _ => False
  | .ok response :: .ok previous :: earlier =>
    if previous.statusCode = 202 then response.statusCode ≠ 302
    else earlier = [] ∧ (requestIdOf response ≠ none ∨ requestIdOf previous = none)

/-! ## One round of the loop -/

/-- The exchange so far, while the client polls. -/
structure PollInvariant (client : FourCastNetNimClient) (log : HostedExchange)
    (state : FourCastNetNimClient.PollState) : Prop where
  /-- The state's response is the last of the exchange, and a 202 came before it, if anything. -/
  last : ∃ request earlier, log = ⟨request, .ok state.response⟩ :: earlier ∧
    request.followRedirects = false ∧
    (earlier = [] ∨ ∃ request previous rest,
      earlier = ⟨request, .ok previous⟩ :: rest ∧ previous.statusCode = 202)
  latest : orText (requestIdOf state.response) state.requestId = (receivedIds log).head?
  known : state.requestId = none → requestIdOf state.response = none
  made : statusRequests log = state.pollAttempts
  answered : answeredRequests log = state.pollAttempts
  length : log.length = state.pollAttempts + 1
  bounded : state.pollAttempts ≤ client.maxPollAttempts.toNat

/-- Where the API key may go: to the configured endpoint, or to the status of the request whose
id came last. -/
def StaysConfigured (client : FourCastNetNimClient) (log : HostedExchange)
    (request : HostedRequest) : Prop :=
  request.authorized = true → request.followRedirects = false ∧
    (request.method = .post ∧ request.url = client.baseUrl ∨
      request.method = .get ∧
        ∃ id, (receivedIds log).head? = some id ∧ request.url = client.statusUrlOf id)

/-- How an exchange ends. -/
structure HostedEnd (client : FourCastNetNimClient) (log : HostedExchange)
    (outcome : Except HostedFailure FourCastNetHostedInferenceResult) : Prop where
  bounded : statusRequests log ≤ client.maxPollAttempts.toNat
  counted : ∀ result, outcome = .ok result → result.pollAttempts = statusRequests log ∧
    (receivedIds (beforeDownload log) ≠ [] → result.nvcfRequestId ≠ none)
  informed : ∀ failure, outcome = .error failure → (∃ response, .ok response ∈ replies log) →
    (KeepsDiagnostics log (FourCastNetNimClient.asInferenceError failure) ↔
      FailsInformed (replies log))

section Client

variable {client : FourCastNetNimClient} {log : HostedExchange}
  {state : FourCastNetNimClient.PollState}

lemma lowerText_authorization : lowerText "Authorization" = "authorization" := by decide

@[simp] lemma isStatusRequest_inferenceRequest (apiKey : String)
    (request : FourCastNetHostedInferenceRequest) :
    isStatusRequest (client.inferenceRequest apiKey request) = false := rfl

@[simp] lemma isStatusRequest_statusRequest (apiKey id : String)
    (request : FourCastNetHostedInferenceRequest) :
    isStatusRequest (client.statusRequest apiKey request id) = true := by
  simp [isStatusRequest, FourCastNetNimClient.statusRequest, HttpRequest.authorized,
    lowerText_authorization]

@[simp] lemma isStatusRequest_downloadRequest (url : String) :
    isStatusRequest (FourCastNetNimClient.downloadRequest url) = false := rfl

lemma send_obeys {allowed : HostedExchange → HostedRequest → Prop} {β : Type}
    {post : HostedExchange → Except HostedFailure β → Prop} {request : HostedRequest}
    {f : HttpResponse → HostedProgram β} (hallowed : allowed log request)
    (hok : ∀ response, (f response).Obeys allowed post (⟨request, .ok response⟩ :: log))
    (herror : ∀ e, post (⟨request, .error e⟩ :: log) (.error (.http e))) :
    (FourCastNetNimClient.send request >>= f).Obeys allowed post log := by
  refine ⟨hallowed, fun reply => ?_⟩
  cases reply with
  | ok response => exact hok response
  | error e => exact herror e

lemma receivedIds_eq_nil (log : HostedExchange) : receivedIds log = [] ↔
    ∀ reply ∈ replies log, ∀ response, reply = .ok response → requestIdOf response = none := by
  constructor
  · intro h reply hreply response hresponse
    obtain ⟨⟨request, reply'⟩, hmem, rfl⟩ := List.mem_map.mp hreply
    obtain rfl : reply' = .ok response := hresponse
    exact List.filterMap_eq_nil_iff.mp h _ hmem
  · intro h
    refine List.filterMap_eq_nil_iff.mpr ?_
    rintro ⟨request, reply⟩ hmem
    cases reply with
    | error e => rfl
    | ok response => exact h _ (List.mem_map.mpr ⟨_, hmem, rfl⟩) response rfl

namespace PollInvariant

lemma receivedIds_eq_nil_of_unknown (h : PollInvariant client log state)
    (hnone : orText (requestIdOf state.response) state.requestId = none) :
    receivedIds log = [] := by
  rw [h.latest] at hnone
  exact List.head?_eq_none_iff.mp hnone

/-- A status request is answered. -/
lemma polled (h : PollInvariant client log state) {apiKey id : String}
    {request : FourCastNetHostedInferenceRequest} {nvcfStatus : Option String}
    (haccepted : state.response.statusCode = 202) (hid : (receivedIds log).head? = some id)
    (hmore : ¬ client.maxPollAttempts ≤ state.pollAttempts) (response : HttpResponse) :
    PollInvariant client (⟨client.statusRequest apiKey request id, .ok response⟩ :: log)
      ⟨response, some id, nvcfStatus, state.pollAttempts + 1, .poll⟩ where
  last := by
    obtain ⟨previous, earlier, hlog, -⟩ := h.last
    exact ⟨_, log, rfl, rfl, .inr ⟨_, _, _, hlog, haccepted⟩⟩
  latest := by
    rw [head?_receivedIds_cons_ok, hid, orText_requestIdOf]
  known := by simp
  made := by
    simp [statusRequests_cons, h.made]
  answered := by
    simp [answeredRequests_cons_ok, h.answered]
  length := by
    rw [List.length_cons, h.length]
  bounded := by
    change state.pollAttempts + 1 ≤ _
    omega

/-- The API gave the last answer, and it was not a 302. -/
lemma failsInformed (h : PollInvariant client log state)
    (hstatus : state.response.statusCode ≠ 302) : FailsInformed (replies log) := by
  obtain ⟨request, earlier, rfl, -, rfl | ⟨request', previous, rest, rfl, haccepted⟩⟩ := h.last
  · exact trivial
  · change (if previous.statusCode = 202 then _ else _)
    rw [if_pos haccepted]
    exact hstatus

/-- A failure that shows the count and the latest id, while the API gave the last answer. -/
lemma end_informed (h : PollInvariant client log state) {message : String} {diagnostics : PyDict}
    (hstatus : state.response.statusCode ≠ 302) (hne : diagnostics ≠ [])
    (hattempts : diagnostics.lookup "poll_attempts" = some (.int state.pollAttempts))
    (hid : ∀ id, (receivedIds log).head? = some id →
      diagnostics.lookup "nvcf_request_id" = some (.str id)) :
    HostedEnd client log (.error (.inference (.make message (some diagnostics)))) := by
  obtain ⟨entry, rest, rfl⟩ := List.exists_cons_of_ne_nil hne
  refine ⟨h.made ▸ h.bounded, by simp, ?_⟩
  rintro failure hfailure -
  cases hfailure
  refine iff_of_true ⟨?_, fun hids => ?_⟩ (h.failsInformed hstatus)
  · rw [h.answered]
    exact hattempts
  · obtain ⟨id, ids, hlog⟩ := List.exists_cons_of_ne_nil hids
    exact ⟨id, by simp [hlog], hid id (by simp [hlog])⟩

/-- A request is not answered. -/
lemma end_unanswered (h : PollInvariant client log state) (request : HostedRequest)
    (e : HttpError) (hbounded : statusRequests (⟨request, .error e⟩ :: log) ≤
      client.maxPollAttempts.toNat) :
    HostedEnd client (⟨request, .error e⟩ :: log) (.error (.http e)) := by
  refine ⟨hbounded, by simp, ?_⟩
  rintro failure hfailure -
  cases hfailure
  have hlength := h.length
  have hreplies : (replies log).length = log.length := List.length_map _
  have hids := receivedIds_eq_nil log
  unfold KeepsDiagnostics
  rw [answeredRequests_cons_error, receivedIds_cons_error, h.answered]
  change (some (PyValue.int 0) = some (.int state.pollAttempts) ∧ (_ → ∃ id ∈ _, none = _)) ↔
    (replies log).length = 1 ∧ ∀ reply ∈ replies log, _
  rw [← hids, hreplies, hlength]
  constructor
  · rintro ⟨hattempts, hid⟩
    simp only [Option.some.injEq, PyValue.int.injEq] at hattempts
    refine ⟨by omega, ?_⟩
    by_contra hne
    obtain ⟨id, -, hcontra⟩ := hid hne
    cases hcontra
  · rintro ⟨hone, hnone⟩
    have : state.pollAttempts = 0 := by omega
    rw [this]
    exact ⟨rfl, fun hne => absurd hnone hne⟩

/-- A download is answered, but not with a success. -/
lemma end_refused [Library] (h : PollInvariant client log state) (url : String)
    (hpolled : state.response.statusCode ≠ 202) (response : HttpResponse) :
    HostedEnd client (⟨FourCastNetNimClient.downloadRequest url, .ok response⟩ :: log)
      (.error (.inference (.make (buildErrorDiagnostics response (requestIdOf response)
          (response.header "nvcf-status") 0 .responseReference true
          "Hosted FourCastNet large result download returned").1
        (some (buildErrorDiagnostics response (requestIdOf response)
          (response.header "nvcf-status") 0 .responseReference true
          "Hosted FourCastNet large result download returned").2)))) := by
  refine ⟨?_, by simp, ?_⟩
  · rw [statusRequests_cons, h.made]
    exact h.bounded
  rintro failure hfailure -
  cases hfailure
  have hlength := h.length
  obtain ⟨request, earlier, rfl, -⟩ := h.last
  unfold KeepsDiagnostics
  rw [answeredRequests_cons_ok, receivedIds_cons_ok, h.answered]
  change (some (PyValue.int 0) = some (.int ((state.pollAttempts + 0 : ℕ) : ℤ)) ∧
      (_ → ∃ id ∈ _, some (PyValue.ofText (orText (requestIdOf response) (requestIdOf response))) =
        some (.str id))) ↔ if state.response.statusCode = 202 then _ else replies earlier = [] ∧ _
  rw [if_neg hpolled, orText_requestIdOf, Option.or_self]
  constructor
  · rintro ⟨hattempts, hid⟩
    simp only [add_zero, Option.some.injEq, PyValue.int.injEq] at hattempts
    obtain rfl : earlier = [] := by
      refine List.eq_nil_of_length_eq_zero ?_
      rw [List.length_cons] at hlength
      omega
    refine ⟨rfl, ?_⟩
    by_contra! hids
    obtain ⟨hnone, hsome⟩ := hids
    obtain ⟨id, hprevious⟩ := Option.ne_none_iff_exists'.mp hsome
    obtain ⟨id', -, hcontra⟩ := hid (by simp [receivedIds_cons_ok, hprevious])
    rw [hnone] at hcontra
    cases hcontra
  · rintro ⟨hearlier, hids⟩
    obtain rfl : earlier = [] := List.map_eq_nil_iff.mp hearlier
    have hattempts : state.pollAttempts = 0 := by simpa using hlength
    refine ⟨by rw [hattempts]; rfl, fun hne => ?_⟩
    rcases hids with hsome | hnone
    · obtain ⟨id, hid⟩ := Option.ne_none_iff_exists'.mp hsome
      exact ⟨id, by simp [hid], by rw [hid]; rfl⟩
    · cases hid : requestIdOf response with
      | some id => exact ⟨id, by simp, rfl⟩
      | none => simp [hid, hnone, receivedIds] at hne

/-- A 302 does not say where to. -/
lemma end_unlocated (h : PollInvariant client log state)
    (hstatus : state.response.statusCode = 302) {message : String} {diagnostics : PyDict}
    (hne : diagnostics ≠ []) (hattempts : diagnostics.lookup "poll_attempts" = some (.int 0))
    (hid : diagnostics.lookup "nvcf_request_id" =
      some (.ofText (requestIdOf state.response))) :
    HostedEnd client log (.error (.inference (.make message (some diagnostics)))) := by
  obtain ⟨entry, rest, rfl⟩ := List.exists_cons_of_ne_nil hne
  refine ⟨h.made ▸ h.bounded, by simp, ?_⟩
  rintro failure hfailure -
  cases hfailure
  have hlength := h.length
  have hanswered := h.answered
  unfold KeepsDiagnostics
  change ((entry :: rest).lookup "poll_attempts" = _ ∧
    (_ → ∃ id ∈ _, (entry :: rest).lookup "nvcf_request_id" = _)) ↔ _
  rw [hattempts, hid, hanswered]
  obtain ⟨request, earlier, rfl, -, rfl | ⟨request', previous, earlier, rfl, haccepted⟩⟩ := h.last
  · have hzero : state.pollAttempts = 0 := by simpa using hlength
    rw [hzero]
    refine iff_of_true ⟨rfl, fun hne => ?_⟩ trivial
    cases hcases : requestIdOf state.response with
    | none => simp [hcases, receivedIds] at hne
    | some id => exact ⟨id, by simp [hcases, receivedIds_cons_ok], rfl⟩
  · refine iff_of_false ?_ ?_
    · rintro ⟨hcontra, -⟩
      simp only [Option.some.injEq, PyValue.int.injEq] at hcontra
      simp only [List.length_cons] at hlength
      omega
    · change ¬ (if previous.statusCode = 202 then _ else _)
      rw [if_pos haccepted]
      exact not_not.mpr hstatus

/-- The exchange ends with a result. -/
lemma end_ok (h : PollInvariant client log state)
    {result : FourCastNetHostedInferenceResult}
    (hattempts : result.pollAttempts = state.pollAttempts)
    (hid : receivedIds log ≠ [] → result.nvcfRequestId ≠ none) :
    HostedEnd client log (.ok result) := by
  refine ⟨h.made ▸ h.bounded, ?_, by simp⟩
  rintro result' hresult
  cases hresult
  obtain ⟨request, earlier, rfl, hrequest, -⟩ := h.last
  refine ⟨hattempts.trans h.made.symm, fun hids => hid ?_⟩
  simpa [beforeDownload, hrequest] using hids

/-- The exchange ends with a result that was downloaded. -/
lemma end_downloaded (h : PollInvariant client log state)
    {result : FourCastNetHostedInferenceResult}
    (hattempts : result.pollAttempts = state.pollAttempts)
    (hid : receivedIds log ≠ [] → result.nvcfRequestId ≠ none) (url : String)
    (response : HttpResponse) :
    HostedEnd client (⟨FourCastNetNimClient.downloadRequest url, .ok response⟩ :: log)
      (.ok result) := by
  refine ⟨?_, ?_, by simp⟩
  · rw [statusRequests_cons, h.made]
    exact h.bounded
  · rintro result' hresult
    cases hresult
    refine ⟨?_, hid⟩
    rw [statusRequests_cons, h.made]
    exact hattempts

end PollInvariant

/-! ## The whole exchange -/

/-- How the loop ends. -/
def PollEnd (client : FourCastNetNimClient) (log : HostedExchange) :
    Except HostedFailure FourCastNetNimClient.PollState → Prop
  | .ok state => PollInvariant client log state ∧ state.response.statusCode ≠ 202
  | .error failure => HostedEnd client log (.error failure)

lemma pollHosted_answered {apiKey : String} {request : FourCastNetHostedInferenceRequest}
    (hstatus : state.response.statusCode ≠ 202) :
    client.pollHosted apiKey request state = .ret state := by
  rw [FourCastNetNimClient.pollHosted, if_pos hstatus]

/-- The request is still pending, and the client asks again. -/
lemma pollHosted_pending {apiKey : String} {request : FourCastNetHostedInferenceRequest}
    (id : String) (hstatus : state.response.statusCode = 202)
    (hid : orText (requestIdOf state.response) state.requestId = some id)
    (hmore : (state.pollAttempts : ℤ) < client.maxPollAttempts) :
    client.pollHosted apiKey request state =
      (FourCastNetNimClient.send (client.statusRequest apiKey request id)).bind fun response =>
        client.pollHosted apiKey request ⟨response, some id,
          orText (state.response.header "nvcf-status") state.nvcfStatus,
          state.pollAttempts + 1, .poll⟩ := by
  rw [FourCastNetNimClient.pollHosted, if_neg (not_not.mpr hstatus)]
  dsimp only
  rw [hid]
  exact dif_neg (Int.not_le.mpr hmore)

section Library

variable [Library] {apiKey : String} {request : FourCastNetHostedInferenceRequest}

omit [Library] in
lemma pollHosted_obeys (h : PollInvariant client log state) :
    (client.pollHosted apiKey request state).Obeys (StaysConfigured client) (PollEnd client)
      log := by
  fun_induction FourCastNetNimClient.pollHosted client apiKey request state generalizing log with
  | case1 state hstatus => exact ⟨h, hstatus⟩
  | case2 state hstatus requestId nvcfStatus hunknown =>
    refine h.end_informed (by omega) (by simp) rfl fun id hid => ?_
    rw [h.receivedIds_eq_nil_of_unknown hunknown] at hid
    cases hid
  | case3 state hstatus requestId nvcfStatus id hknown hmax =>
    refine h.end_informed (by omega) (by simp) rfl fun id' hid => ?_
    obtain rfl : id = id' := Option.some.inj (hknown.symm.trans (h.latest.trans hid))
    rfl
  | case4 state hstatus requestId nvcfStatus id hknown hmore =>
    rename_i ih
    have haccepted : state.response.statusCode = 202 := not_not.mp hstatus
    have hid : (receivedIds log).head? = some id := h.latest.symm.trans hknown
    refine send_obeys ?_ ?_ ?_
    · exact fun _ => ⟨rfl, .inr ⟨rfl, id, hid, rfl⟩⟩
    · exact fun response => ih response (h.polled haccepted hid hmore response)
    · intro e
      refine h.end_unanswered _ e ?_
      rw [statusRequests_cons, h.made, isStatusRequest_statusRequest, if_pos rfl]
      omega

lemma downloadUrl_obeys (h : PollInvariant client log state)
    (hstatus : state.response.statusCode ≠ 202) (url : String)
    {f : HttpResponse → HostedProgram FourCastNetHostedInferenceResult}
    (hf : ∀ response,
      (f response).Obeys (StaysConfigured client) (HostedEnd client)
        (⟨FourCastNetNimClient.downloadRequest url, .ok response⟩ :: log)) :
    (FourCastNetNimClient.downloadUrl url >>= f).Obeys (StaysConfigured client)
      (HostedEnd client) log := by
  refine ⟨fun hauthorized => absurd hauthorized Bool.false_ne_true, fun reply => ?_⟩
  cases reply with
  | error e =>
    refine h.end_unanswered _ e ?_
    rw [statusRequests_cons, h.made]
    exact h.bounded
  | ok response =>
    change ((if !response.isSuccess then raiseInference _ else Program.ret response) >>=
      f).Obeys _ _ _
    cases hsuccess : response.isSuccess with
    | true => exact hf response
    | false => exact h.end_refused url hstatus response

lemma resolvePolled_obeys (h : PollInvariant client log state)
    (hstatus : state.response.statusCode ≠ 202) (payload : PyDict) :
    (client.resolvePolled payload state).Obeys (StaysConfigured client) (HostedEnd client) log := by
  have hresult : ∀ nvcfReqId, receivedIds log ≠ [] →
      orText nvcfReqId (orText (requestIdOf state.response) state.requestId) ≠ none := by
    intro nvcfReqId hids hnone
    have := orText_eq_none hnone
    rw [h.latest] at this
    exact hids (List.head?_eq_none_iff.mp this)
  unfold FourCastNetNimClient.resolvePolled
  by_cases hredirect : state.response.statusCode = 302
  · simp only [hredirect, if_true]
    unfold FourCastNetNimClient.downloadLargeResponse
    cases hlocation : orText (state.response.header "location") none with
    | none => exact h.end_unlocated hredirect (by simp) rfl rfl
    | some location =>
      refine downloadUrl_obeys h hstatus location fun response => ?_
      exact h.end_downloaded rfl (hresult _) location response
  · simp only [if_neg hredirect]
    cases hsuccess : state.response.isSuccess with
    | false =>
      refine h.end_informed hredirect (by simp [buildErrorDiagnostics]) rfl fun id hid => ?_
      rw [← h.latest] at hid
      change some (PyValue.ofText (orText (requestIdOf state.response) state.requestId)) = _
      rw [hid]
      rfl
    | true =>
      simp only [Bool.not_true, Bool.false_eq_true, if_false]
      generalize (if containsText (contentTypeOf state.response) "application/json" = true then
        state.response.json else none) = jsonPreview
      cases hreference : responseReference jsonPreview with
      | some reference =>
        refine downloadUrl_obeys h hstatus reference fun response => ?_
        exact h.end_downloaded rfl (hresult _) reference response
      | none =>
        refine h.end_ok rfl fun hids hnone => ?_
        have hunknown : state.requestId = none := orText_eq_none hnone
        refine hresult none hids ?_
        rw [hunknown, h.known hunknown]
        rfl

/-- The exchange of `run_hosted_inference` keeps the rules and ends as it should. -/
lemma hostedExchange_obeys :
    (client.hostedExchange apiKey request).Obeys (StaysConfigured client) (HostedEnd client)
      [] := by
  refine send_obeys (fun _ => ⟨rfl, .inl ⟨rfl, rfl⟩⟩) (fun response => ?_) fun e => ?_
  · have hstart : PollInvariant client [⟨client.inferenceRequest apiKey request, .ok response⟩]
        ⟨response, requestIdOf response, response.header "nvcf-status", 0, .inline⟩ := by
      refine ⟨⟨_, [], rfl, rfl, .inl rfl⟩, ?_, id, rfl, rfl, rfl, Nat.zero_le _⟩
      rw [head?_receivedIds_cons_ok, orText_requestIdOf, Option.or_self]
      exact (Option.or_none).symm
    refine (pollHosted_obeys hstart).bind ?_ ?_
    · rintro state log ⟨h, hstatus⟩
      exact resolvePolled_obeys h hstatus _
    · exact fun failure log h => h
  · refine ⟨Nat.zero_le _, by simp, ?_⟩
    rintro failure - ⟨response, hmem⟩
    simp [replies] at hmem

/-- How `run_hosted_inference` ends. -/
structure InferenceEnd (client : FourCastNetNimClient) (log : HostedExchange)
    (outcome : Except FourCastNetInferenceError FourCastNetHostedInferenceResult) : Prop where
  bounded : statusRequests log ≤ client.maxPollAttempts.toNat
  counted : ∀ result, outcome = .ok result → result.pollAttempts = statusRequests log ∧
    (receivedIds (beforeDownload log) ≠ [] → result.nvcfRequestId ≠ none)
  informed : ∀ error, outcome = .error error → (∃ response, .ok response ∈ replies log) →
    (KeepsDiagnostics log error ↔ FailsInformed (replies log))

lemma runHostedInference_obeys (client : FourCastNetNimClient)
    (request : FourCastNetHostedInferenceRequest) :
    (client.runHostedInference request).Obeys (StaysConfigured client) (InferenceEnd client)
      [] := by
  have hunsent (error : FourCastNetInferenceError) : InferenceEnd client [] (.error error) :=
    ⟨Nat.zero_le _, by simp, fun _ _ ⟨_, hmem⟩ => by cases hmem⟩
  unfold FourCastNetNimClient.runHostedInference
  split
  · exact hunsent _
  · split
    · exact hunsent _
    · refine hostedExchange_obeys.mapError (fun result log h => ?_) fun failure log h => ?_
      · exact ⟨h.bounded, fun _ hresult => h.counted _ (by cases hresult; rfl), by simp⟩
      · refine ⟨h.bounded, by simp, fun error herror hpost => ?_⟩
        cases herror
        exact h.informed failure rfl hpost

/-- **The API key stays with the configured endpoints.**  Whatever the server answers, a request
with credentials is the POST to `base_url` or asks `status_url` for a request id received before,
and follows no redirects; a download carries no credentials. -/
theorem authorization_stays (client : FourCastNetNimClient)
    (request : FourCastNetHostedInferenceRequest)
    (server : HostedExchange → (c : HostedRequest) → HostedReply c) :
    ∀ later exchange earlier,
      ((client.runHostedInference request).dialogue server []).2 = later ++ exchange :: earlier →
      exchange.1.authorized = true →
      exchange.1.followRedirects = false ∧
        (exchange.1.method = .post ∧ exchange.1.url = client.baseUrl ∨
          exchange.1.method = .get ∧ ∃ id ∈ receivedIds earlier,
            exchange.1.url = rstripSlash client.statusUrl ++ "/" ++ id) := by
  intro later exchange earlier hlog hauthorized
  obtain ⟨-, sent, hsent, hallowed⟩ :=
    (runHostedInference_obeys client request).dialogue server
  rw [List.append_nil] at hsent
  have := hallowed later exchange earlier (hsent.symm.trans hlog)
  rw [List.append_nil] at this
  obtain ⟨hfollow, hpost | ⟨hget, id, hid, hurl⟩⟩ := this hauthorized
  · exact ⟨hfollow, .inl hpost⟩
  · exact ⟨hfollow, .inr ⟨hget, id, List.mem_of_head? hid, hurl⟩⟩

/-- **Polling is bounded and counted.**  Whatever the server answers, the client makes at most
`max_poll_attempts` status requests, each for the request id received last; a result counts them,
and carries a request id if a response before the final download did. -/
theorem polling_counted (client : FourCastNetNimClient)
    (request : FourCastNetHostedInferenceRequest)
    (server : HostedExchange → (c : HostedRequest) → HostedReply c) :
    let run := (client.runHostedInference request).dialogue server []
    statusRequests run.2 ≤ client.maxPollAttempts.toNat ∧
      (∀ later exchange earlier, run.2 = later ++ exchange :: earlier →
        isStatusRequest exchange.1 = true →
        ∃ id, (receivedIds earlier).head? = some id ∧
          exchange.1.url = rstripSlash client.statusUrl ++ "/" ++ id) ∧
      ∀ result, run.1 = .ok result → result.pollAttempts = statusRequests run.2 ∧
        (receivedIds (beforeDownload run.2) ≠ [] → result.nvcfRequestId ≠ none) := by
  obtain ⟨hend, sent, hsent, hallowed⟩ :=
    (runHostedInference_obeys client request).dialogue server
  rw [List.append_nil] at hsent
  refine ⟨hend.bounded, fun later exchange earlier hlog hstatus => ?_, hend.counted⟩
  obtain ⟨hget, hauthorized⟩ : exchange.1.method = .get ∧ exchange.1.authorized = true := by
    simpa [isStatusRequest] using hstatus
  have := hallowed later exchange earlier (hsent.symm.trans hlog)
  rw [List.append_nil] at this
  obtain ⟨-, ⟨hpost, -⟩ | ⟨-, hid⟩⟩ := this hauthorized
  · rw [hpost] at hget
    cases hget
  · exact hid

/-- **Which failures keep what was learned.**  Once the POST was answered, the diagnostics of a
failure report the answered status requests and a received request id exactly when the replies
are those of `FailsInformed`. -/
theorem keepsDiagnostics_iff_failsInformed (client : FourCastNetNimClient)
    (request : FourCastNetHostedInferenceRequest)
    (server : HostedExchange → (c : HostedRequest) → HostedReply c)
    (error : FourCastNetInferenceError) (posted : HttpResponse)
    (herror : ((client.runHostedInference request).dialogue server []).1 = .error error)
    (hposted : (replies ((client.runHostedInference request).dialogue server []).2).getLast? =
      some (.ok posted)) :
    KeepsDiagnostics ((client.runHostedInference request).dialogue server []).2 error ↔
      FailsInformed (replies ((client.runHostedInference request).dialogue server []).2) := by
  obtain ⟨hend, -⟩ :=
    (runHostedInference_obeys client request).dialogue server
  exact hend.informed error herror ⟨posted, List.mem_of_getLast? hposted⟩

omit [Library] in
/-- A client with the defaults of the source. -/
def exampleClient : FourCastNetNimClient where
  baseUrl := "https://climate.api.nvidia.com/v1/nvidia/fourcastnet"
  mode := .hosted
  apiKey := some "test-key"

omit [Library] in
/-- The POST is answered by a 302 that shows a request id; then the server is gone. -/
def lostDownload : HostedExchange → (request : HostedRequest) → HostedReply request
  | [], _ => .ok
      { statusCode := 302
        headers := [("location", "https://download.example/result.tar"), ("nvcf-reqid", "req-1")] }
  | _ :: _, _ => .error ⟨"ReadTimeout", "timed out"⟩

lemma lostDownload_run :
    (exampleClient.runHostedInference {}).dialogue lostDownload [] =
      (.error (FourCastNetNimClient.asInferenceError (.http ⟨"ReadTimeout", "timed out"⟩)),
        [⟨FourCastNetNimClient.downloadRequest "https://download.example/result.tar",
            .error ⟨"ReadTimeout", "timed out"⟩⟩,
          ⟨exampleClient.inferenceRequest "test-key" {}, lostDownload [] _⟩]) := by
  unfold FourCastNetNimClient.runHostedInference exampleClient FourCastNetNimClient.hostedExchange
    FourCastNetNimClient.resolveHostedResponse
  simp only [FourCastNetNimClient.send, orText, Program.mapError, Program.dialogue, lostDownload,
    ne_eq, not_true_eq_false, String.reduceEq, if_false, Program.call_bind, Program.ret_bind]
  rw [pollHosted_answered (by decide)]
  simp only [Program.ret_bind, FourCastNetNimClient.resolvePolled, if_true,
    FourCastNetNimClient.downloadLargeResponse, HttpResponse.header]
  simp [orText]
  rfl

omit [Library] in
/-- The POST is answered by a 202 that shows a request id, and the first status request by bytes. -/
def polledOnce : HostedExchange → (request : HostedRequest) → HostedReply request
  | [], _ => .ok { statusCode := 202, headers := [("nvcf-reqid", "req-1")] }
  | _ :: _, _ => .ok { statusCode := 200, headers := [("content-type", "application/x-tar")] }

lemma polledOnce_run : ∃ result,
    (exampleClient.runHostedInference {}).dialogue polledOnce [] = (.ok result,
      [⟨exampleClient.statusRequest "test-key" {} "req-1",
          .ok { statusCode := 200, headers := [("content-type", "application/x-tar")] }⟩,
        ⟨exampleClient.inferenceRequest "test-key" {}, polledOnce [] _⟩]) := by
  unfold FourCastNetNimClient.runHostedInference exampleClient FourCastNetNimClient.hostedExchange
    FourCastNetNimClient.resolveHostedResponse
  simp only [FourCastNetNimClient.send, orText, Program.mapError, Program.dialogue, polledOnce,
    ne_eq, not_true_eq_false, String.reduceEq, if_false, Program.call_bind, Program.ret_bind]
  rw [pollHosted_pending "req-1" rfl rfl (by decide)]
  simp only [FourCastNetNimClient.send, Program.call_bind, Program.bind, Program.mapError,
    Program.dialogue, polledOnce]
  rw [pollHosted_answered (by decide)]
  exact ⟨_, rfl⟩

omit [Library] in
/-- The status request asks for the id that the POST was answered with. -/
theorem authorization_stays_polled :
    let status := exampleClient.statusRequest "test-key" {} "req-1"
    let posted : HostedExchange :=
      [⟨exampleClient.inferenceRequest "test-key" {}, polledOnce [] _⟩]
    status.followRedirects = false ∧
      (status.method = .post ∧ status.url = exampleClient.baseUrl ∨
        status.method = .get ∧ ∃ id ∈ receivedIds posted,
          status.url = rstripSlash exampleClient.statusUrl ++ "/" ++ id) :=
  let _ : Library := .ofDigests []
  authorization_stays exampleClient {} polledOnce []
    ⟨exampleClient.statusRequest "test-key" {} "req-1",
      .ok { statusCode := 200, headers := [("content-type", "application/x-tar")] }⟩
    [⟨exampleClient.inferenceRequest "test-key" {}, polledOnce [] _⟩]
    (polledOnce_run.elim fun _ hrun => by rw [hrun]; rfl) rfl

omit [Library] in
/-- The result counts the one status request, and carries the id. -/
theorem polling_counted_polled : ∃ result,
    ((@FourCastNetNimClient.runHostedInference (.ofDigests []) exampleClient {}).dialogue
      polledOnce []).1 = .ok result ∧ result.pollAttempts = 1 ∧ result.nvcfRequestId ≠ none := by
  let _ : Library := .ofDigests []
  obtain ⟨result, hrun⟩ := polledOnce_run
  have hcounted := polling_counted exampleClient {} polledOnce
  rw [hrun] at hcounted ⊢
  obtain ⟨hattempts, hid⟩ := hcounted.2.2 result rfl
  exact ⟨result, rfl, hattempts, hid (List.cons_ne_nil "req-1" [])⟩

omit [Library] in
/-- The request id is in the first reply, and nothing of it is left in the error. -/
theorem lostDownload_forgets :
    ∃ error posted,
      ((@FourCastNetNimClient.runHostedInference (.ofDigests []) exampleClient {}).dialogue
        lostDownload []).1 = .error error ∧
      (replies ((@FourCastNetNimClient.runHostedInference (.ofDigests []) exampleClient {}).dialogue
        lostDownload []).2).getLast? = some (.ok posted) ∧
      ¬ KeepsDiagnostics ((@FourCastNetNimClient.runHostedInference (.ofDigests []) exampleClient
        {}).dialogue lostDownload []).2 error := by
  let _ : Library := .ofDigests []
  rw [lostDownload_run]
  refine ⟨_, _, rfl, rfl, ?_⟩
  rintro ⟨-, hid⟩
  obtain ⟨id, -, hcontra⟩ := hid (by decide)
  cases hcontra

omit [Library] in
/-- The redirect shows its id, so that a transport error is not informed. -/
theorem lostDownload_informed_iff :
    KeepsDiagnostics ((@FourCastNetNimClient.runHostedInference (.ofDigests []) exampleClient
        {}).dialogue lostDownload []).2
        (FourCastNetNimClient.asInferenceError (.http ⟨"ReadTimeout", "timed out"⟩)) ↔
      FailsInformed (replies ((@FourCastNetNimClient.runHostedInference (.ofDigests [])
        exampleClient {}).dialogue lostDownload []).2) :=
  let _ : Library := .ofDigests []
  keepsDiagnostics_iff_failsInformed exampleClient {} lostDownload _ _ (by rw [lostDownload_run])
    (by rw [lostDownload_run]; rfl)

end Library

end Client

end Earth2Sandbox
