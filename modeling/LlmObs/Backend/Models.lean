import LlmObs.Foundation.Json
import LlmObs.Foundation.Uuid
import LlmObs.Foundation.Datetime
import LlmObs.Foundation.Table

/-!
Owns the rows of the telemetry tables and their unique constraints. Columns that
no modelled statement reads or writes are left out.
-/

namespace LlmObs.Backend

open LlmObs.Foundation

inductive SpanStatus where
  | ok
  | error
deriving DecidableEq, Repr

def SpanStatus.text : SpanStatus → String
  | .ok => "ok"
  | .error => "error"

inductive PayloadStorageStatus where
  | stored
  | storedRedacted
  | omitted
  | tooLarge
  | storageFailed
deriving DecidableEq, Repr

inductive PayloadDropReason where
  | storageModeNone
  | errorsOnlyNonError
  | maxBytesExceeded
  | s3Error
deriving DecidableEq, Repr

/-- The columns of a span. A prepared span has the `datetime` that the worker
parsed; a stored one the instant of its `timestamptz`. -/
structure SpanRecord (Time : Type) where
  id : UUID
  traceId : UUID
  projectId : UUID
  parentSpanId : Option UUID
  name : String
  provider : String
  model : String
  inputTokens : Nat
  outputTokens : Nat
  costUsd : ℚ
  latencyMs : ℚ
  status : SpanStatus
  error : Option String
  startedAt : Time
  payloadS3Key : Option String
  payloadStatus : PayloadStorageStatus
  payloadDropReason : Option PayloadDropReason
  metadata : List (String × Json)

abbrev PreparedSpan := SpanRecord Datetime
abbrev SpanRow := SpanRecord Int

/-- `PRIMARY KEY (id, started_at)`. -/
def SpanRow.primaryKey (row : SpanRow) : UUID × Int := (row.id, row.startedAt)

abbrev SpanTable := Table SpanRow fun left right => left.primaryKey = right.primaryKey

structure TraceRow where
  id : UUID
  projectId : UUID
  startedAt : Int
  endedAt : Option Int
  totalTokens : Nat
  totalCostUsd : ℚ
  spanCount : Nat
  status : SpanStatus
deriving DecidableEq, Repr

/-- `PRIMARY KEY (id, started_at)`: the project is not part of it. -/
def TraceRow.primaryKey (row : TraceRow) : UUID × Int := (row.id, row.startedAt)

abbrev TraceTable := Table TraceRow fun left right => left.primaryKey = right.primaryKey

inductive OutboxStatus where
  | pending
  | processing
  | delivered
  | failed
deriving DecidableEq, Repr

structure OutboxEvent where
  id : UUID
  projectId : UUID
  eventType : String
  eventKey : String
  payload : Json
  status : OutboxStatus
  attempts : Nat
  availableAt : Int
  lockedAt : Option Int
  deliveredAt : Option Int
  lastError : Option String
  createdAt : Int

/-- `uq_outbox_events_project_type_key`. -/
def OutboxEvent.uniqueKey (row : OutboxEvent) : UUID × String × String :=
  (row.projectId, row.eventType, row.eventKey)

abbrev OutboxTable :=
  Table OutboxEvent fun left right => left.id = right.id ∨ left.uniqueKey = right.uniqueKey

structure SpanMetricBucket where
  projectId : UUID
  bucketStart : Int
  spanCount : Nat
  errorCount : Nat
  totalCostUsd : ℚ
  latencySumMs : ℚ
deriving DecidableEq, Repr

/-- `PRIMARY KEY (project_id, bucket_start)`. -/
def SpanMetricBucket.primaryKey (row : SpanMetricBucket) : UUID × Int :=
  (row.projectId, row.bucketStart)

abbrev SpanMetricBucketTable :=
  Table SpanMetricBucket fun left right => left.primaryKey = right.primaryKey

inductive PayloadStorageMode where
  | all
  | errors
  | none
deriving DecidableEq, Repr

/-- The payload settings of a project. -/
structure Project where
  id : UUID
  payloadStorageMode : PayloadStorageMode
  payloadMaxBytes : Nat
  payloadRedactKeys : String
deriving DecidableEq, Repr

abbrev ProjectTable := Table Project fun left right => left.id = right.id

structure ModelPrice where
  provider : String
  model : String
  inputCostPer1kTokens : ℚ
  outputCostPer1kTokens : ℚ
  validFrom : Int
  validTo : Option Int
deriving DecidableEq, Repr

/-- `UNIQUE (provider, model, valid_from)`. -/
def ModelPrice.uniqueKey (row : ModelPrice) : String × String × Int :=
  (row.provider, row.model, row.validFrom)

abbrev ModelPricingTable :=
  Table ModelPrice fun left right => left.uniqueKey = right.uniqueKey

structure Database where
  spans : SpanTable
  traces : TraceTable
  outboxEvents : OutboxTable
  spanMetricBuckets : SpanMetricBucketTable
  projects : ProjectTable
  modelPricing : ModelPricingTable

/-- The database before any row is written. -/
def Database.empty : Database where
  spans := Table.empty
  traces := Table.empty
  outboxEvents := Table.empty
  spanMetricBuckets := Table.empty
  projects := Table.empty
  modelPricing := Table.empty

end LlmObs.Backend
