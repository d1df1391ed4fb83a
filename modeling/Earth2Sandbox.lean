import Earth2Sandbox.Commands.Calls
import Earth2Sandbox.Commands.Cleanup
import Earth2Sandbox.Commands.RecoverAlone
import Earth2Sandbox.Commands.Recovery
import Earth2Sandbox.Commands.Requests
import Earth2Sandbox.Commands.RunAlone
import Earth2Sandbox.Commands.RunForecastJob
import Earth2Sandbox.Deployment.ForecastShown
import Earth2Sandbox.Deployment.Protocol
import Earth2Sandbox.Deployment.Server
import Earth2Sandbox.Domain.Jobs
import Earth2Sandbox.Framework.CircularDistance
import Earth2Sandbox.Framework.Cooperative
import Earth2Sandbox.Framework.Crash
import Earth2Sandbox.Framework.Dialogue
import Earth2Sandbox.Framework.Dictionary
import Earth2Sandbox.Framework.Exposition
import Earth2Sandbox.Framework.FixedWindow
import Earth2Sandbox.Framework.FlatJson
import Earth2Sandbox.Framework.Glob
import Earth2Sandbox.Framework.Interleaving
import Earth2Sandbox.Framework.Json
import Earth2Sandbox.Framework.JsonText
import Earth2Sandbox.Framework.Linearizability
import Earth2Sandbox.Framework.Linearization
import Earth2Sandbox.Framework.Noninterference
import Earth2Sandbox.Framework.Program
import Earth2Sandbox.Framework.RelyGuarantee
import Earth2Sandbox.Framework.Sorting
import Earth2Sandbox.Framework.Tally
import Earth2Sandbox.Http.AccessControl
import Earth2Sandbox.Http.JobEndpoints
import Earth2Sandbox.Http.RateLimit
import Earth2Sandbox.Http.Security
import Earth2Sandbox.Http.Windows
import Earth2Sandbox.Lifecycle.Consistency
import Earth2Sandbox.Lifecycle.Counters
import Earth2Sandbox.Lifecycle.Discipline
import Earth2Sandbox.Lifecycle.EventHistory
import Earth2Sandbox.Lifecycle.Executions
import Earth2Sandbox.Lifecycle.History
import Earth2Sandbox.Lifecycle.Lineage
import Earth2Sandbox.Lifecycle.Terminal
import Earth2Sandbox.Lifecycle.Timeline
import Earth2Sandbox.Lifecycle.Trace
import Earth2Sandbox.Mobile.Api
import Earth2Sandbox.Mobile.Contract
import Earth2Sandbox.Mobile.Idle
import Earth2Sandbox.Mobile.RiskDecisions
import Earth2Sandbox.Mobile.RiskOrder
import Earth2Sandbox.Mobile.ShownForecast
import Earth2Sandbox.Mobile.SupersededRequests
import Earth2Sandbox.Mobile.UseForecast
import Earth2Sandbox.Nvidia.CacheKeys
import Earth2Sandbox.Nvidia.CacheMap
import Earth2Sandbox.Nvidia.Decoder
import Earth2Sandbox.Nvidia.Exchange
import Earth2Sandbox.Nvidia.Failures
import Earth2Sandbox.Nvidia.Grid
import Earth2Sandbox.Nvidia.Inventory
import Earth2Sandbox.Nvidia.Members
import Earth2Sandbox.Nvidia.NimClient
import Earth2Sandbox.Nvidia.Poisoning
import Earth2Sandbox.Nvidia.Provider
import Earth2Sandbox.Nvidia.Sampling
import Earth2Sandbox.Nvidia.Steps
import Earth2Sandbox.Observability.Exposition
import Earth2Sandbox.Observability.Metrics
import Earth2Sandbox.Ports.JobStore
import Earth2Sandbox.Queue.Adapter
import Earth2Sandbox.Queue.Callers
import Earth2Sandbox.Queue.Clients
import Earth2Sandbox.Queue.Equivalence
import Earth2Sandbox.Queue.InMemory
import Earth2Sandbox.Queue.Isolation
import Earth2Sandbox.Queue.Port
import Earth2Sandbox.Queue.Priority
import Earth2Sandbox.Queue.Redis
import Earth2Sandbox.Queue.RedisAdapter
import Earth2Sandbox.Queue.Retention
import Earth2Sandbox.Queue.SharedRedis
import Earth2Sandbox.Runtime.Bytes
import Earth2Sandbox.Runtime.FileSystem
import Earth2Sandbox.Runtime.Http
import Earth2Sandbox.Runtime.JsonValues
import Earth2Sandbox.Runtime.Numbers
import Earth2Sandbox.Runtime.Numpy
import Earth2Sandbox.Runtime.Python
import Earth2Sandbox.Runtime.Redis
import Earth2Sandbox.Runtime.RedisDatabase
import Earth2Sandbox.Schemas.Documents
import Earth2Sandbox.Schemas.Forecast
import Earth2Sandbox.Schemas.FourCastNet
import Earth2Sandbox.Schemas.Jobs
import Earth2Sandbox.Schemas.Views
import Earth2Sandbox.Storage.ArtifactRoundTrip
import Earth2Sandbox.Storage.Crash
import Earth2Sandbox.Storage.DamagedEntries
import Earth2Sandbox.Storage.FileContents
import Earth2Sandbox.Storage.FileJobStore
import Earth2Sandbox.Storage.Interchangeable
import Earth2Sandbox.Storage.JobStoreHelpers
import Earth2Sandbox.Storage.LocalArtifactStore
import Earth2Sandbox.Storage.MemoryJobStore
import Earth2Sandbox.Storage.ResultCache
import Earth2Sandbox.Storage.StoreCalls
import Earth2Sandbox.Workers.Attendance
import Earth2Sandbox.Workers.Conduct
import Earth2Sandbox.Workers.Dispatch
import Earth2Sandbox.Workers.Drain
import Earth2Sandbox.Workers.NoJobLost
import Earth2Sandbox.Workers.Process
import Earth2Sandbox.Workers.RedisRestart
import Earth2Sandbox.Workers.RestartOrder
