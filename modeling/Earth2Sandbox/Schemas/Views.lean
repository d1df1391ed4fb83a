import Earth2Sandbox.Schemas.Jobs

/-!
# Views of a job

`ForecastJobSummary`, `ForecastJobListResponse` and `ForecastJobPollResponse` of `schemas/jobs.py`,
and the functions of `application/services/forecast_job_view.py` that make them of a record.
-/

namespace Earth2Sandbox

structure ForecastJobSummary where
  id : String
  status : ForecastJobStatus
  latitude : PyFloat
  longitude : PyFloat
  parentJobId : Option String
  attempt : ℤ
  createdAt : Time
  updatedAt : Time
  completedAt : Option Time
  diagnostics : Option ForecastJobDiagnostics
  error : Option String
  links : List (String × String)
  deriving DecidableEq

structure ForecastJobListResponse where
  count : ℕ
  jobs : List ForecastJobSummary
  deriving DecidableEq

structure ForecastJobPollResponse where
  id : String
  status : ForecastJobStatus
  terminal : Bool
  forecastReady : Bool
  updatedAt : Time
  retryAfterSeconds : Option ℤ
  eventCount : ℕ
  latestEvent : Option ForecastJobEvent
  links : List (String × String)
  deriving DecidableEq

def toJobSummary (job : ForecastJob) : ForecastJobSummary where
  id := job.id
  status := job.status
  latitude := job.latitude
  longitude := job.longitude
  parentJobId := job.parentJobId
  attempt := job.attempt
  createdAt := job.createdAt
  updatedAt := job.updatedAt
  completedAt := job.completedAt
  diagnostics := job.diagnostics
  error := job.error
  links := job.links

def toJobPollResponse (job : ForecastJob) : ForecastJobPollResponse where
  id := job.id
  status := job.status
  terminal := job.status ∈ terminalJobStatuses
  forecastReady := job.forecast.isSome
  updatedAt := job.updatedAt
  retryAfterSeconds := if job.status ∈ terminalJobStatuses then none else some 2
  eventCount := job.events.length
  latestEvent := job.events.getLast?
  links := job.links

end Earth2Sandbox
