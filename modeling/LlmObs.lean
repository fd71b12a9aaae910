import LlmObs.Foundation.Machine
import LlmObs.Foundation.Outcome
import LlmObs.Foundation.Uuid
import LlmObs.Foundation.TextParts
import LlmObs.Foundation.UnicodeText
import LlmObs.Foundation.UuidSpelling
import LlmObs.Foundation.Datetime
import LlmObs.Foundation.Decimal
import LlmObs.Foundation.RoundedSums
import LlmObs.Foundation.Table
import LlmObs.Foundation.Counter
import LlmObs.Foundation.Grouping
import LlmObs.Foundation.OrderedLimit
import LlmObs.Foundation.RankedGroups
import LlmObs.Foundation.PatternReplace
import LlmObs.Foundation.Percentile
import LlmObs.Foundation.TimeSeries
import LlmObs.Foundation.Holdings
import LlmObs.Foundation.HalfOpen
import LlmObs.Foundation.Calendar
import LlmObs.Foundation.Sha256
import LlmObs.Foundation.JsonText
import LlmObs.Foundation.JsonPath
import LlmObs.Foundation.ReadCommitted
import LlmObs.Foundation.Transactions
import LlmObs.Foundation.Dict
import LlmObs.Foundation.TtlCache
import LlmObs.Foundation.CacheAside
import LlmObs.Foundation.CacheCoherence
import LlmObs.Backend.Schemas.Ingest
import LlmObs.Backend.Schemas.IngestRequest
import LlmObs.Backend.Schemas.SpanIdentifiers
import LlmObs.Backend.Runtime
import LlmObs.Backend.Core.Auth
import LlmObs.Backend.Services.Outbox
import LlmObs.Backend.Services.Idempotency
import LlmObs.Backend.Services.RequestHash
import LlmObs.Backend.Services.Cost
import LlmObs.Backend.Services.CostLookups
import LlmObs.Backend.Services.Storage
import LlmObs.Backend.Services.Redaction
import LlmObs.Backend.Services.SpanMetricBuckets
import LlmObs.Backend.Services.Ingest
import LlmObs.Backend.Services.Otlp
import LlmObs.Backend.Api.Ingest
import LlmObs.Backend.Api.IngestOnce
import LlmObs.Backend.Api.IngestSettled
import LlmObs.Backend.Api.Pricing
import LlmObs.Backend.Api.PricingIntervals
import LlmObs.Backend.Api.PricingCache
import LlmObs.Backend.Api.IngestScope
import LlmObs.Backend.Api.Projects
import LlmObs.Backend.Core.KeyRevocation
import LlmObs.Backend.Core.Accounts
import LlmObs.Backend.Workers.OutboxDelivery
import LlmObs.Backend.Workers.ProcessSpan
import LlmObs.Backend.Workers.StoredSpans
import LlmObs.Backend.Workers.InsertedSpans
import LlmObs.Backend.Workers.TraceRows
import LlmObs.Backend.Workers.DerivedRows
import LlmObs.Backend.Workers.AttemptEffect
import LlmObs.Backend.Workers.BatchConsistency
import LlmObs.Backend.Workers.BatchReplay
import LlmObs.Backend.Workers.BatchOutcome
import LlmObs.Backend.Workers.UndisturbedAttempt
import LlmObs.Backend.Workers.TenantIsolation
import LlmObs.Backend.Workers.ConcurrentBatches
import LlmObs.Backend.Workers.OpenTransactions
import LlmObs.Backend.Workers.OneTraceRow
import LlmObs.Backend.Workers.AggregateConvergence
import LlmObs.Sdk.Transport
import LlmObs.Sdk.Tracer
import LlmObs.Sdk.Delivery
import LlmObs.Sdk.BatchSize
import LlmObs.Sdk.QueueOrder
import LlmObs.Sdk.RejectedBatch
import LlmObs.Backend.Api.Users
import LlmObs.Backend.Api.LastAdmin
import LlmObs.Backend.Api.Auth
import LlmObs.Backend.Api.Bootstrap
import LlmObs.Backend.Api.Invites
import LlmObs.Backend.Api.InviteAcceptance
import LlmObs.Backend.Api.MembershipScope
import LlmObs.Backend.Workers.OutboxClaims
import LlmObs.Backend.Workers.BucketTotals
import LlmObs.Backend.Workers.BucketRefinement
import LlmObs.Backend.Workers.Maintenance
import LlmObs.Backend.Workers.FuturePartitions
import LlmObs.Backend.Workers.PartitionMaintenance
import LlmObs.Backend.Workers.PayloadObjects
import LlmObs.Backend.Workers.PayloadPrivacy
import LlmObs.Backend.Api.ProjectSettings
import LlmObs.Backend.Workers.SavedPayloadSettings
import LlmObs.Backend.Workers.PayloadOwnership
import LlmObs.Backend.Workers.RejectedRows
import LlmObs.Backend.Workers.CostColumns
import LlmObs.Backend.Workers.CataloguedPrices
import LlmObs.Backend.Workers.BucketBatching
import LlmObs.Backend.Services.MetricsService
import LlmObs.Backend.Services.ErrorFingerprints
import LlmObs.Backend.Services.Analytics
import LlmObs.Foundation.BinaryFloat
import LlmObs.Backend.Schemas.AlertRules
import LlmObs.Backend.Api.AlertRules
import LlmObs.Backend.Workers.WindowedAlerts
import LlmObs.Backend.Workers.RetentionCompleteness
import LlmObs.Backend.Services.PayloadStore
import LlmObs.Foundation.Statements
import LlmObs.Backend.Api.AdminStatements
import LlmObs.Backend.Api.AdminAudit
import LlmObs.Backend.Api.KeyRotation
import LlmObs.Backend.Api.FailedTasks
import LlmObs.Backend.Api.FailedTaskListing
import LlmObs.Backend.Api.FailedTaskRetries
import LlmObs.Backend.Services.AlertCooldown
import LlmObs.Backend.Services.PubSub
import LlmObs.Backend.Api.Metrics
import LlmObs.Backend.Services.OtlpEncodings
import LlmObs.Backend.Services.OtlpReadable
import LlmObs.Backend.Api.Otlp
import LlmObs.Backend.Api.OtlpLinks
import LlmObs.Backend.Api.AdminRefinement
import LlmObs.Sdk.SendBatch
import LlmObs.Foundation.SortedSet
import LlmObs.Backend.Core.RateLimit
import LlmObs.Backend.Services.FailedTasks
import LlmObs.Backend.Core.Taskiq
import LlmObs.Backend.Schemas.Alerts
import LlmObs.Backend.Services.Notifications
import LlmObs.Backend.Main
import LlmObs.Backend.Services.TraceCursor
import LlmObs.Backend.Services.TraceService
import LlmObs.Backend.Workers.TracePaging
import LlmObs.Backend.Services.TraceModelFilter
import LlmObs.Backend.Services.TraceDetail
import LlmObs.Foundation.DepthFirst
import LlmObs.Frontend.TraceDetail
import LlmObs.Foundation.JsonParse
import LlmObs.Foundation.JsonLoads
import LlmObs.Foundation.TextStream
import LlmObs.Frontend.SpanStream
import LlmObs.Sdk.Instrumentation
import LlmObs.Sdk.ReportedFailures
import LlmObs.Sdk.SpanTree
import LlmObs.Sdk.StreamDeltas
import LlmObs.Sdk.TracedStreams
import LlmObs.Backend.Core.Db
