import Earth2Sandbox.Framework.Noninterference
import Earth2Sandbox.Runtime.Http
import Mathlib.Algebra.Order.Floor.Ring
import Mathlib.Data.Rat.Floor

/-!
# API keys and rate limits

`ApiAccessControlMiddleware` of `api/http/middleware/security.py` with its fixed-window limiter.
A request carries the reading of the monotonic clock that the limiter makes for it; readings are
exact rationals.  The windows of the limiter are the only state, and `dispatch` reads and writes
them in one step, as nothing is awaited between the check of the key and the decision.
-/

namespace Earth2Sandbox

/-- The settings that the middleware reads. -/
structure Settings where
  apiKeyRequired : Bool := false
  apiKey : Option String := none
  apiKeys : Option String := none
  rateLimitEnabled : Bool := false
  rateLimitCapacity : ℕ := 60
  rateLimitWindowSeconds : ℕ := 60
  rateLimitRoutes : String :=
    "GET /api/v1/forecast/point,GET /api/v1/forecast/sample,POST /api/v1/forecast/jobs," ++
      "POST /api/v1/forecast/fourcastnet/hosted/infer"
  rateLimitCapacity_ok : 1 ≤ rateLimitCapacity := by decide
  rateLimitWindowSeconds_ok : 1 ≤ rateLimitWindowSeconds := by decide

/-- What the middleware reads of a request, and the time of the limiter's reading. -/
structure ApiRequest where
  method : String
  path : String
  apiKeyHeader : Option String := none
  forwardedFor : Option String := none
  clientHost : Option String := none
  now : ℚ

/-- The request reaches its handler, or the middleware responds with a detail and headers. -/
inductive AccessDecision where
  | forward
  | respond (statusCode : ℕ) (detail : String) (headers : List (String × String))
  deriving DecidableEq

/-! ## The limiter -/

structure RateLimitDecision where
  allowed : Bool
  retryAfterSeconds : ℤ
  deriving DecidableEq

/-- The windows by identity and route: when one began and how many requests it has admitted. -/
abbrev Windows := String × String → Option (ℚ × ℕ)

structure InMemoryFixedWindowRateLimiter where
  capacity : ℕ
  windowSeconds : ℕ

def InMemoryFixedWindowRateLimiter.check (limiter : InMemoryFixedWindowRateLimiter)
    (windows : Windows) (identity route : String) (now : ℚ) : RateLimitDecision × Windows :=
  let key := (identity, route)
  let (windowStart, count) := (windows key).getD (now, 0)
  let elapsed := now - windowStart
  if elapsed ≥ limiter.windowSeconds then
    (⟨true, 0⟩, Function.update windows key (some (now, 1)))
  else if count ≥ limiter.capacity then
    (⟨false, max 1 ⌈(limiter.windowSeconds : ℚ) - elapsed⌉⟩, windows)
  else
    (⟨true, 0⟩, Function.update windows key (some (windowStart, count + 1)))

/-! ## The middleware -/

def publicPaths : List String := ["/", "/health", "/metrics", "/openapi.json", "/favicon.ico"]

def publicPathPrefixes : List String := ["/docs", "/redoc"]

def configuredApiKeys (settings : Settings) : List String :=
  let values := settings.apiKey.toList ++ (settings.apiKeys.map splitComma).getD []
  (values.map stripText).filter (· ≠ "")

def parseRouteSpecs (value : String) : List String :=
  ((splitComma value).map stripText).filter (· ≠ "")

namespace ApiRequest

/-- `_is_public_request`. -/
def isPublic (request : ApiRequest) : Bool :=
  request.method = "OPTIONS" || request.path ∈ publicPaths ||
    publicPathPrefixes.any fun start => startsWithText request.path start

/-- `request.headers.get(API_KEY_HEADER, "").strip()`. -/
def apiKey (request : ApiRequest) : String := stripText (request.apiKeyHeader.getD "")

end ApiRequest

section Library

variable [Library]

def ApiRequest.routeSpec (request : ApiRequest) : String :=
  Library.upper request.method ++ " " ++ request.path

def rateLimitIdentity (request : ApiRequest) (apiKey : String) : String :=
  if apiKey ≠ "" then "api-key:" ++ Library.sha256 (encodeUtf8 apiKey)
  else
    let forwardedFor := request.forwardedFor.getD ""
    if forwardedFor ≠ "" then "ip:" ++ stripText ((splitComma forwardedFor).headD "")
    else "ip:" ++ request.clientHost.getD "unknown"

/-- `ApiAccessControlMiddleware.dispatch`, up to the handler. -/
def dispatch (settings : Settings) (windows : Windows) (request : ApiRequest) :
    AccessDecision × Windows :=
  if request.isPublic then (.forward, windows)
  else if settings.apiKeyRequired && request.apiKey ∉ configuredApiKeys settings then
    (.respond 401 "Missing or invalid API key." [], windows)
  else if settings.rateLimitEnabled &&
      request.routeSpec ∈ parseRouteSpecs settings.rateLimitRoutes then
    let limiter : InMemoryFixedWindowRateLimiter :=
      ⟨settings.rateLimitCapacity, settings.rateLimitWindowSeconds⟩
    let (decision, windows) := limiter.check windows
      (rateLimitIdentity request request.apiKey) request.routeSpec request.now
    if !decision.allowed then
      (.respond 429 "Rate limit exceeded."
        [("Retry-After", toString decision.retryAfterSeconds)], windows)
    else (.forward, windows)
  else (.forward, windows)

/-- The requests of a sequence with the decisions on them. -/
def decisions (settings : Settings) (windows : Windows) (requests : List ApiRequest) :
    List (ApiRequest × AccessDecision) :=
  outputs (dispatch settings) windows requests

end Library

end Earth2Sandbox
