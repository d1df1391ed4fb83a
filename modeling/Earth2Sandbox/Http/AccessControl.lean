import Earth2Sandbox.Http.Security

/-!
# Who influences whose requests

With keys required, a request without a configured key is refused before the limiter sees it, and
a key's requests to a route have a window of their own (`unauthenticated_harmless`).  -/

namespace Earth2Sandbox

/-! ## The limiter -/

namespace InMemoryFixedWindowRateLimiter

variable {limiter : InMemoryFixedWindowRateLimiter} {windows windows' : Windows}
  {identity route : String} {now : ℚ}

lemma check_congr (limiter : InMemoryFixedWindowRateLimiter) (now : ℚ)
    (h : windows (identity, route) = windows' (identity, route)) :
    (limiter.check windows identity route now).1 = (limiter.check windows' identity route now).1 ∧
      (limiter.check windows identity route now).2 (identity, route) =
        (limiter.check windows' identity route now).2 (identity, route) := by
  unfold check
  simp only [h]
  split
  · simp
  · split
    · exact ⟨rfl, h⟩
    · simp

lemma check_frame {key : String × String} (h : key ≠ (identity, route)) :
    (limiter.check windows identity route now).2 key = windows key := by
  simp only [check]
  split
  · exact Function.update_of_ne h _ _
  · split
    · rfl
    · exact Function.update_of_ne h _ _

/-- How many requests a window has admitted. -/
def used (windows : Windows) (key : String × String) : ℕ := ((windows key).map (·.2)).getD 0

/-- Before the window of a key ends, the limiter admits what is left of the capacity. -/
lemma check_within (limiter : InMemoryFixedWindowRateLimiter) (now : ℚ)
    (hcapacity : 1 ≤ limiter.capacity) (hwindow : 1 ≤ limiter.windowSeconds)
    (hopen : ∀ start count, windows (identity, route) = some (start, count) →
      now < start + limiter.windowSeconds) :
    (limiter.check windows identity route now).1.allowed =
        decide (used windows (identity, route) < limiter.capacity) ∧
      used (limiter.check windows identity route now).2 (identity, route) =
        used windows (identity, route) +
          (if used windows (identity, route) < limiter.capacity then 1 else 0) ∧
      ∀ start count, (limiter.check windows identity route now).2 (identity, route) =
        some (start, count) → start = now ∨ ∃ count', windows (identity, route) =
          some (start, count') := by
  have hpositive : ¬ (limiter.windowSeconds : ℚ) ≤ 0 := by
    have : (1 : ℚ) ≤ limiter.windowSeconds := by exact_mod_cast hwindow
    linarith
  cases hkey : windows (identity, route) with
  | none =>
    have hempty : ¬ limiter.capacity = 0 := by omega
    simp [check, used, hkey, hpositive, hempty]
    omega
  | some window =>
    obtain ⟨start, count⟩ := window
    have hrunning : ¬ (limiter.windowSeconds : ℚ) ≤ now - start := by
      have := hopen start count hkey
      linarith
    by_cases hfull : limiter.capacity ≤ count
    · simp [check, used, hkey, hrunning, hfull]
    · simp [check, used, hkey, hrunning, hfull]
      omega

end InMemoryFixedWindowRateLimiter

/-! ## One request -/

section Library

variable [Library] {settings : Settings} {windows windows' : Windows} {request : ApiRequest}

/-- The request needs a key and has none that is configured. -/
def ApiRequest.unauthenticated (settings : Settings) (request : ApiRequest) : Bool :=
  !request.isPublic && request.apiKey ∉ configuredApiKeys settings

/-- The request needs a key, and comes with this one to this route. -/
def ApiRequest.ofKey (key route : String) (request : ApiRequest) : Bool :=
  !request.isPublic && request.apiKey = key && request.routeSpec = route

/-- The identity under which the limiter counts the request. -/
def ApiRequest.identity (request : ApiRequest) : String := rateLimitIdentity request request.apiKey

/-- The request is counted by the limiter, unless it is refused before. -/
def ApiRequest.limited (settings : Settings) (request : ApiRequest) : Bool :=
  !request.isPublic && settings.rateLimitEnabled &&
    request.routeSpec ∈ parseRouteSpecs settings.rateLimitRoutes

/-- The limiter that the settings describe. -/
def Settings.limiter (settings : Settings) : InMemoryFixedWindowRateLimiter :=
  ⟨settings.rateLimitCapacity, settings.rateLimitWindowSeconds⟩

/-- The response to the limiter's decision. -/
def responseTo (decision : RateLimitDecision) : AccessDecision :=
  if decision.allowed then .forward
  else .respond 429 "Rate limit exceeded." [("Retry-After", toString decision.retryAfterSeconds)]

lemma dispatch_unauthenticated (hrequired : settings.apiKeyRequired = true)
    (h : request.unauthenticated settings = true) :
    dispatch settings windows request =
      (.respond 401 "Missing or invalid API key." [], windows) := by
  obtain ⟨hpublic, hkey⟩ : request.isPublic = false ∧
      request.apiKey ∉ configuredApiKeys settings := by
    simpa [ApiRequest.unauthenticated] using h
  simp [dispatch, hpublic, hrequired, hkey]

/-- A request that is not refused for its key is counted, if it is limited, and forwarded
otherwise. -/
lemma dispatch_authenticated
    (h : settings.apiKeyRequired = false ∨ request.unauthenticated settings = false) :
    dispatch settings windows request =
      if request.limited settings then
        (responseTo (settings.limiter.check windows request.identity request.routeSpec
            request.now).1,
          (settings.limiter.check windows request.identity request.routeSpec request.now).2)
      else (.forward, windows) := by
  cases hpublic : request.isPublic with
  | true => simp [dispatch, ApiRequest.limited, hpublic]
  | false =>
    have hkey : ¬ ((settings.apiKeyRequired &&
        decide (request.apiKey ∉ configuredApiKeys settings)) = true) := by
      rcases h with h | h
      · simp [h]
      · have : request.apiKey ∈ configuredApiKeys settings := by
          simpa [ApiRequest.unauthenticated, hpublic] using h
        simp [this]
    simp only [dispatch, hpublic, Bool.false_eq_true, if_false, if_neg hkey, ApiRequest.limited,
      Bool.not_false, Bool.true_and]
    split
    · set outcome := settings.limiter.check windows request.identity request.routeSpec request.now
      change (if (!outcome.1.allowed) = true then
          (AccessDecision.respond 429 "Rate limit exceeded."
            [("Retry-After", toString outcome.1.retryAfterSeconds)], outcome.2)
        else (.forward, outcome.2)) = _
      cases hallowed : outcome.1.allowed <;> simp [responseTo, hallowed]
    · rfl

lemma dispatch_frame {key : String × String} (h : key ≠ (request.identity, request.routeSpec)) :
    (dispatch settings windows request).2 key = windows key := by
  by_cases hauthenticated :
      settings.apiKeyRequired = false ∨ request.unauthenticated settings = false
  · rw [dispatch_authenticated hauthenticated]
    split
    · exact InMemoryFixedWindowRateLimiter.check_frame h
    · rfl
  · simp only [not_or, Bool.not_eq_false] at hauthenticated
    rw [dispatch_unauthenticated hauthenticated.1 hauthenticated.2]

lemma dispatch_congr (h : windows (request.identity, request.routeSpec) =
      windows' (request.identity, request.routeSpec)) :
    (dispatch settings windows request).1 = (dispatch settings windows' request).1 ∧
      (dispatch settings windows request).2 (request.identity, request.routeSpec) =
        (dispatch settings windows' request).2 (request.identity, request.routeSpec) := by
  by_cases hauthenticated :
      settings.apiKeyRequired = false ∨ request.unauthenticated settings = false
  · rw [dispatch_authenticated hauthenticated, dispatch_authenticated hauthenticated]
    split
    · obtain ⟨hdecision, hwindow⟩ := 
        InMemoryFixedWindowRateLimiter.check_congr settings.limiter request.now h
      exact ⟨congrArg responseTo hdecision, hwindow⟩
    · exact ⟨rfl, h⟩
  · simp only [not_or, Bool.not_eq_false] at hauthenticated
    rw [dispatch_unauthenticated hauthenticated.1 hauthenticated.2,
      dispatch_unauthenticated hauthenticated.1 hauthenticated.2]
    exact ⟨rfl, h⟩

/-! ## Requests without a key -/

omit [Library] in
lemma key_ne_empty {key : String} (h : key ∈ configuredApiKeys settings) : key ≠ "" := by
  simpa using (List.mem_filter.mp h).2

lemma identity_eq (h : request.apiKey ≠ "") :
    request.identity = "api-key:" ++ Library.sha256 (encodeUtf8 request.apiKey) :=
  if_pos h

lemma ofKey_iff {key route : String} : request.ofKey key route = true ↔
    request.isPublic = false ∧ request.apiKey = key ∧ request.routeSpec = route := by
  simp [ApiRequest.ofKey, and_assoc]

/-- Requests that are refused for their key can be deleted. -/
lemma unwinding_unauthenticated (hrequired : settings.apiKeyRequired = true) :
    Unwinding (dispatch settings) (fun request => !request.unauthenticated settings) Eq where
  hidden := by
    rintro windows _ request rfl hrequest
    rw [dispatch_unauthenticated hrequired (by simpa using hrequest)]
  output := by
    rintro windows _ request rfl -
    rfl
  respects := by
    rintro windows _ request rfl -
    rfl

/-- Every request but those of one key to one route can be deleted. -/
lemma unwinding_ofKey (hrequired : settings.apiKeyRequired = true)
    (hinjective : ∀ key ∈ configuredApiKeys settings, ∀ key' ∈ configuredApiKeys settings,
      Library.sha256 (encodeUtf8 key) = Library.sha256 (encodeUtf8 key') → key = key')
    (key route : String) :
    Unwinding (dispatch settings) (ApiRequest.ofKey key route) fun windows windows' =>
      key ∈ configuredApiKeys settings →
        windows ("api-key:" ++ Library.sha256 (encodeUtf8 key), route) =
          windows' ("api-key:" ++ Library.sha256 (encodeUtf8 key), route) where
  hidden := by
    intro windows windows' request hsame hother hkey
    rw [← hsame hkey]
    by_cases hrefused : request.unauthenticated settings = true
    · rw [dispatch_unauthenticated hrequired hrefused]
    by_cases hpublic : request.isPublic = true
    · simp [dispatch, hpublic]
    have hconfigured : request.apiKey ∈ configuredApiKeys settings := by
      simpa [ApiRequest.unauthenticated, hpublic] using hrefused
    refine dispatch_frame fun heq => ?_
    obtain ⟨hidentity, hroute⟩ := Prod.mk.inj heq
    have hdigest := identity_eq (key_ne_empty hconfigured)
    rw [← hidentity, String.append_right_inj] at hdigest
    have hmine : request.apiKey = key := (hinjective _ hkey _ hconfigured hdigest).symm
    simp [ApiRequest.ofKey, hpublic, hmine, ← hroute] at hother
  output := by
    intro windows windows' request hsame hmine
    obtain ⟨hpublic, rfl, rfl⟩ := ofKey_iff.mp hmine
    by_cases hkey : request.apiKey ∈ configuredApiKeys settings
    · have hidentity := identity_eq (key_ne_empty hkey)
      exact (dispatch_congr (by rw [hidentity]; exact hsame hkey)).1
    · have hrefused : request.unauthenticated settings = true := by
        simp [ApiRequest.unauthenticated, hpublic, hkey]
      rw [dispatch_unauthenticated hrequired hrefused, dispatch_unauthenticated hrequired hrefused]
  respects := by
    intro windows windows' request hsame hmine hkey
    obtain ⟨hpublic, rfl, rfl⟩ := ofKey_iff.mp hmine
    have hidentity := identity_eq (key_ne_empty hkey)
    rw [← hidentity]
    exact (dispatch_congr (by rw [hidentity]; exact hsame hkey)).2

/-- **Requests without a valid key influence nobody.**  With keys required, a request without a
configured key is answered 401; deleting all of them changes no decision on the others; and the
decisions on one key's requests to one route are those on these requests alone. -/
theorem unauthenticated_harmless (settings : Settings) (hrequired : settings.apiKeyRequired = true)
    (hinjective : ∀ key ∈ configuredApiKeys settings, ∀ key' ∈ configuredApiKeys settings,
      Library.sha256 (encodeUtf8 key) = Library.sha256 (encodeUtf8 key') → key = key')
    (windows : Windows) (requests : List ApiRequest) :
    (∀ o ∈ decisions settings windows requests, o.1.unauthenticated settings = true →
        o.2 = .respond 401 "Missing or invalid API key." []) ∧
      (decisions settings windows requests).filter (fun o => !o.1.unauthenticated settings) =
        decisions settings windows
          (requests.filter fun request => !request.unauthenticated settings) ∧
      ∀ key route, (decisions settings windows requests).filter (fun o => o.1.ofKey key route) =
        decisions settings windows (requests.filter fun request => request.ofKey key route) := by
  refine ⟨?_, ?_, fun key route => ?_⟩
  · let P (request : ApiRequest) (decision : AccessDecision) : Prop :=
      request.unauthenticated settings = true →
        decision = .respond 401 "Missing or invalid API key." []
    refine outputs_forall (P := P) (fun windows request h => ?_) _ _
    rw [dispatch_unauthenticated hrequired h]
  · exact (unwinding_unauthenticated hrequired).purge rfl requests
  · exact (unwinding_ofKey hrequired hinjective key route).purge (fun _ => rfl) requests

omit [Library] in
/-- Two clients with a key each. -/
def twoKeys : Settings where
  apiKeyRequired := true
  apiKeys := some "first-key, second-key"
  rateLimitEnabled := true
  rateLimitCapacity := 1

omit [Library] in
/-- The digests of the two keys. -/
@[reducible] def twoDigests : Library := .ofDigests
  [(encodeUtf8 "first-key",
      "9e24b55356ef2a121ab5fd1a3ee8a3c9191e837f3853e399a369e9044ff183f7"),
    (encodeUtf8 "second-key",
      "f397f260a275cc4d42e7965c556167bf3f068aed491d35a8f5b38c8c2db96bb0")]

omit [Library] in
/-- A request for a point forecast. -/
def pointRequest (apiKeyHeader : Option String) (now : ℚ) : ApiRequest where
  method := "GET"
  path := "/api/v1/forecast/point"
  apiKeyHeader := apiKeyHeader
  now := now

omit [Library] in
/-- A stranger between two clients changes nothing for them. -/
theorem stranger_harmless :
    (@decisions twoDigests twoKeys (fun _ => none) [pointRequest (some "first-key") 0,
        pointRequest none 1, pointRequest (some "second-key") 2]).filter
          (fun o => !o.1.unauthenticated twoKeys) =
      @decisions twoDigests twoKeys (fun _ => none) ([pointRequest (some "first-key") 0,
        pointRequest none 1, pointRequest (some "second-key") 2].filter
          fun request => !request.unauthenticated twoKeys) :=
  (@unauthenticated_harmless twoDigests twoKeys rfl (by decide +kernel) _ _).2.1

end Library

end Earth2Sandbox
