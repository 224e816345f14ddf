import SmsForwarder.AcceptedBodies
import SmsForwarder.AccessMatrix
import SmsForwarder.AccessTokens
import SmsForwarder.AccountRuns
import SmsForwarder.Accountability
import SmsForwarder.Accounts
import SmsForwarder.Api
import SmsForwarder.ApiEffects
import SmsForwarder.ApiInvariants
import SmsForwarder.Base64
import SmsForwarder.CacheAgreement
import SmsForwarder.CachePages
import SmsForwarder.CachedAnswers
import SmsForwarder.ColumnRaces
import SmsForwarder.CommandService
import SmsForwarder.Config
import SmsForwarder.CreateAdmin
import SmsForwarder.DeviceRecords
import SmsForwarder.DeviceService
import SmsForwarder.DeviceView
import SmsForwarder.DigitRuns
import SmsForwarder.DispatchEffects
import SmsForwarder.DispatchRaces
import SmsForwarder.Effects
import SmsForwarder.EnableRaces
import SmsForwarder.Encodings
import SmsForwarder.ErrorContract
import SmsForwarder.EventProvenance
import SmsForwarder.Exceptions
import SmsForwarder.FailedRequests
import SmsForwarder.FrpcToml
import SmsForwarder.FrpsDevices
import SmsForwarder.FrpsService
import SmsForwarder.Gaps
import SmsForwarder.HttpContract
import SmsForwarder.IngestEndpoint
import SmsForwarder.IngestIsolation
import SmsForwarder.IngestOutcomes
import SmsForwarder.IngestRaces
import SmsForwarder.Interleavings
import SmsForwarder.JsonCanonical
import SmsForwarder.JsonText
import SmsForwarder.Leases
import SmsForwarder.LimiterRaces
import SmsForwarder.LimiterRuns
import SmsForwarder.Masking
import SmsForwarder.OwnedRows
import SmsForwarder.PagedQueries
import SmsForwarder.Paging
import SmsForwarder.Patterns
import SmsForwarder.PercentEncoding
import SmsForwarder.PhoneMasks
import SmsForwarder.PortPool
import SmsForwarder.PyText
import SmsForwarder.QueryIsolation
import SmsForwarder.QuerySignatures
import SmsForwarder.Quotas
import SmsForwarder.RateLimiter
import SmsForwarder.Readings
import SmsForwarder.RecursionLimit
import SmsForwarder.RequestSteps
import SmsForwarder.RotateRaces
import SmsForwarder.Runs
import SmsForwarder.SchemaAgreement
import SmsForwarder.Schemas
import SmsForwarder.ScrubLeaks
import SmsForwarder.ScrubSecrecy
import SmsForwarder.SessionRuns
import SmsForwarder.StableIds
import SmsForwarder.Store
import SmsForwarder.Tables
import SmsForwarder.Toml
import SmsForwarder.TomlText
import SmsForwarder.TunnelDispatch
import SmsForwarder.TunnelHistory
import SmsForwarder.TunnelRaces
import SmsForwarder.TunnelRuns
import SmsForwarder.TunnelService
import SmsForwarder.Unwinding
import SmsForwarder.WebConsole
import SmsForwarder.WebhookRuns
import SmsForwarder.WebhookService
import SmsForwarder.WebhookTokens
