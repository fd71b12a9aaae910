import Mathlib.Data.List.Infix
import LlmObs.Backend.Schemas.Ingest
import LlmObs.Backend.Services.Cost
import LlmObs.Backend.Services.Ingest
import LlmObs.Backend.Services.Outbox
import LlmObs.Backend.Services.SpanMetricBuckets
import LlmObs.Backend.Services.Storage
import LlmObs.Foundation.Outcome

/-!
Owns one attempt of `process_span_batch`: the preparation of the spans, the
transaction that stores them, and what follows its commit. Every await can end
the attempt; what a call outside the transaction did by then stays. It does not
own how attempts are retried or interleaved. Metrics and logs are left out.
-/

namespace LlmObs.Backend

open LlmObs.Foundation

/-! ### The environment of an attempt -/

/-- The awaits of `process_span_batch`. `index` counts the spans of a loop. -/
inductive BatchStage where
  | getRedis
  | getStatus
  | markProcessing
  | loadSettings
  | calculate (index : Nat)
  | putObject (index : Nat)
  | insertSpans
  | ensureTraceRow (traceId : UUID)
  | enqueueOutboxEvent (index : Nat)
  | updateBuckets
  | commit
  | deliverOutbox
  | updateAggregates (traceId : UUID)
  | checkAnomalies
  | markFinished
  | markFailed
deriving DecidableEq, Repr

/-- An await that does not return, and whether its call had taken effect. -/
structure Fault where
  halt : Halt
  tookEffect : Bool
deriving DecidableEq, Repr

/-- What the surroundings answer during one attempt. -/
structure AttemptEnv where
  fault : BatchStage → Option Fault
  /-- What happens to the price cache before the lookup of a span: expiry, or a
  lookup of another worker. -/
  cacheDrift : Nat → PricingCache → PricingCache
  /-- The ids that `uuid.uuid4()` draws for the outbox events. -/
  eventId : Nat → UUID
  /-- `now()` of the transaction. -/
  now : Int

inductive WorkerTask where
  | deliverSpanOutboxEvents (projectId : UUID)
  | updateTraceAggregates (projectId traceId : UUID) (startedAt : Datetime)
  | checkBatchAnomalies (projectId : UUID)
deriving DecidableEq, Repr

/-- Everything an attempt reads or writes. -/
structure World where
  db : Database
  pricingCache : PricingCache
  objects : ObjectStore
  batchStatus : Option BatchStatus
  queue : List WorkerTask

/-- An await whose result is not used. -/
def AttemptEnv.check (env : AttemptEnv) (stage : BatchStage) : Except Halt Unit :=
  match env.fault stage with
  | none => .ok ()
  | some fault => .error fault.halt

/-- An await that writes outside the transaction. -/
def AttemptEnv.await (env : AttemptEnv) (stage : BatchStage) (effect : World → World)
    (world : World) : World × Option Halt :=
  match env.fault stage with
  | none => (effect world, none)
  | some fault => (if fault.tookEffect then effect world else world, some fault.halt)

/-- Go on where the previous await returned. -/
def World.andThen (sofar : World × Option Halt) (next : World → World × Option Halt) :
    World × Option Halt :=
  match sofar with
  | (world, none) => next world
  | (world, some halt) => (world, some halt)

def orRaised {α : Type} : Except PyException α → Except Halt α
  | .ok value => .ok value
  | .error exception => .error (.raised exception)

def integrityError : PyException :=
  ⟨.sqlAlchemyError, "duplicate key value violates unique constraint"⟩

def orIntegrityError {α : Type} : Option α → Except Halt α
  | some value => .ok value
  | none => .error (.raised integrityError)

/-! ### Preparing the spans -/

def payloadLikeMetadataKeys : List String :=
  ["messages", "input_messages", "input", "output", "prompt", "system", "system_prompt"]

def sensitiveMetadataKeyParts : List String :=
  ["api_key", "authorization", "cookie", "password", "secret", "token"]

def safeSpanMetadataKeys : List String := ["route", "source", "stream", "stream_complete"]

def skippedPayloadResult (payloadMode : PayloadStorageMode) : PayloadStorageResult :=
  match payloadMode with
  | .none => ⟨none, .omitted, some .storageModeNone⟩
  | _ => ⟨none, .omitted, some .errorsOnlyNonError⟩

/-- Whether an entry of redacted metadata is stored. -/
def keepsMetadata (runtime : Runtime) (key : String) (value : Json) : Bool :=
  let keyLower := runtime.lower key
  !payloadLikeMetadataKeys.contains keyLower &&
    !(sensitiveMetadataKeyParts.any fun part => decide (part.toList <:+: keyLower.toList)) &&
    safeSpanMetadataKeys.contains keyLower && value.isScalar

def sanitizeSpanMetadata (runtime : Runtime) (metadata : List (String × Json))
    (redactKeys : List String) : List (String × Json) :=
  (redactEntries runtime redactKeys metadata).filter fun (key, value) =>
    keepsMetadata runtime key value

structure PayloadPrivacySettings where
  payloadStorageMode : PayloadStorageMode
  payloadMaxBytes : Nat
  payloadRedactKeys : String
deriving DecidableEq, Repr

/-- `load_payload_privacy_settings`; zero bytes and an empty key list count as
unset. -/
def loadPayloadPrivacySettings (projectId : UUID) (projects : ProjectTable) :
    PayloadPrivacySettings :=
  match projects.rows.find? fun row => row.id = projectId with
  | none => ⟨.all, defaultPayloadMaxBytes, defaultRedactKeys⟩
  | some row =>
      ⟨row.payloadStorageMode,
        if row.payloadMaxBytes = 0 then defaultPayloadMaxBytes else row.payloadMaxBytes,
        if row.payloadRedactKeys = "" then defaultRedactKeys else row.payloadRedactKeys⟩

/-- `is_transient_span_processing_error` -/
def isTransientSpanProcessingError (exception : PyException) : Bool :=
  match exception.type with
  | .sqlAlchemyError | .redisError | .botoCoreError | .clientError | .timeoutError
  | .connectionError => true
  | _ => false

/-- What the preparation of one span hands on to the next. -/
structure PrepareState where
  cache : PricingCache
  intervals : BatchPricingIntervals
  objects : ObjectStore

/-- `bool(span_data.get("error"))` -/
def SpanSchema.hasError (span : SpanSchema) : Bool :=
  match span.error with
  | none => false
  | some text => text ≠ ""

/-- The dict appended to `prepared_spans`. -/
def preparedSpan (runtime : Runtime) (projectId : UUID) (redactKeys : List String)
    (span : SpanSchema) (cost : ℚ) (payload : PayloadStorageResult) : PreparedSpan where
  id := span.spanId
  traceId := span.traceId
  projectId := projectId
  parentSpanId := span.parentSpanId
  name := span.name
  provider := span.provider
  model := span.model
  inputTokens := span.inputTokens
  outputTokens := span.outputTokens
  costUsd := cost
  latencyMs := span.latencyMs
  status := if span.hasError then .error else .ok
  error := span.error
  startedAt := span.startedAt
  payloadS3Key := payload.s3Key
  payloadStatus := payload.status
  payloadDropReason := payload.dropReason
  metadata := sanitizeSpanMetadata runtime span.metadata redactKeys

/-- The payload step of one span. `store_payload` turns an exception of the
upload into a result. -/
def preparePayload (runtime : Runtime) (env : AttemptEnv) (settings : PayloadPrivacySettings)
    (redactKeys : List String) (projectId : UUID) (index : Nat) (span : SpanSchema)
    (objects : ObjectStore) : Except Halt (PayloadStorageResult × ObjectStore) :=
  if shouldStorePayload settings.payloadStorageMode span.hasError then
    match env.fault (.putObject index) with
    | some ⟨.killed, _⟩ => .error .killed
    | answer => orRaised (storePayload runtime projectId span.spanId span.inputMessages
        span.output settings.payloadMaxBytes redactKeys answer.isNone objects)
  else .ok (skippedPayloadResult settings.payloadStorageMode, objects)

/-- The body of the `try` of one span. -/
def prepareSpan (runtime : Runtime) (env : AttemptEnv) (prices : ModelPricingTable)
    (settings : PayloadPrivacySettings) (projectId : UUID) (index : Nat) (span : SpanSchema)
    (state : PrepareState) : Except Halt PreparedSpan × PrepareState :=
  match env.check (.calculate index) with
  | .error halt => (.error halt, state)
  | .ok _ =>
      let redactKeys := parseRedactKeys runtime settings.payloadRedactKeys
      match calculate runtime prices span.provider span.model span.inputTokens
        span.outputTokens span.startedAt state.intervals (env.cacheDrift index state.cache) with
      | (.error exception, intervals, cache) =>
          (.error (.raised exception), ⟨cache, intervals, state.objects⟩)
      | (.ok cost, intervals, cache) =>
          match preparePayload runtime env settings redactKeys projectId index span
            state.objects with
          | .error halt => (.error halt, ⟨cache, intervals, state.objects⟩)
          | .ok (payload, objects) =>
              (.ok (preparedSpan runtime projectId redactKeys span cost payload),
                ⟨cache, intervals, objects⟩)

/-- The loop over the spans: the prepared ones and the number of failed ones. A
transient error ends it. -/
def prepareSpans (prepare : Nat → SpanSchema → PrepareState →
      Except Halt PreparedSpan × PrepareState) :
    Nat → List SpanSchema → PrepareState → Except Halt (List PreparedSpan × Nat) × PrepareState
  | _, [], state => (.ok ([], 0), state)
  | index, span :: rest, state =>
      match prepare index span state with
      | (.ok prepared, state) =>
          let (others, state) := prepareSpans prepare (index + 1) rest state
          (others.map fun (spans, failed) => (prepared :: spans, failed), state)
      | (.error (.raised exception), state) =>
          if isTransientSpanProcessingError exception then (.error (.raised exception), state)
          else
            let (others, state) := prepareSpans prepare (index + 1) rest state
            (others.map fun (spans, failed) => (spans, failed + 1), state)
      | (.error .killed, state) => (.error .killed, state)

/-! ### The transaction -/

/-- What `remaining` and `identity` compare by. -/
def SpanIdentity.key (identity : SpanIdentity) : UUID × Datetime.Key :=
  (identity.1, identity.2.key)

/-- `select_inserted_spans`, where `remaining` lists the identities not matched
yet. -/
def selectInsertedSpans : List PreparedSpan → List (UUID × Datetime.Key) → List PreparedSpan
  | [], _ => []
  | span :: rest, remaining =>
      let identity := SpanIdentity.key (span.id, span.startedAt)
      if identity ∈ remaining then
        span :: selectInsertedSpans rest (remaining.erase identity)
      else selectInsertedSpans rest remaining

/-- One iteration of the `trace_map` loop. -/
def addToTraceMap (span : PreparedSpan) :
    List (UUID × PreparedSpan) → Except PyException (List (UUID × PreparedSpan))
  | [] => .ok [(span.traceId, span)]
  | (traceId, earliest) :: rest =>
      if traceId = span.traceId then do
        if ← orTypeError (span.startedAt.lt? earliest.startedAt) then
          return (traceId, span) :: rest
        else return (traceId, earliest) :: rest
      else do
        return (traceId, earliest) :: (← addToTraceMap span rest)

/-- `trace_map`: the earliest inserted span of each trace, in dict order. -/
def buildTraceMap (inserted : List PreparedSpan) :
    Except PyException (List (UUID × PreparedSpan)) :=
  inserted.foldlM (fun traceMap span => addToTraceMap span traceMap) []

/-- `ORDER BY started_at ASC LIMIT 1` over the rows that a statement sees. -/
def selectTraceStart (projectId traceId : UUID) (rows : List TraceRow) : Option Int :=
  ((rows.filter fun row => row.projectId = projectId ∧ row.id = traceId).map
    (·.startedAt)).min?

/-- The `SELECT` of `ensure_trace_row`. -/
def earliestTraceStart (projectId traceId : UUID) (traces : TraceTable) : Option Int :=
  selectTraceStart projectId traceId traces.rows

/-- What `ensure_trace_row` does after its `SELECT`. -/
inductive TracePlan where
  | insert
  | keep (existing : Int)
  | move (existing : Int)
deriving DecidableEq, Repr

def planTraceRow (existing : Option Int) (startedAt : Datetime) : Except PyException TracePlan :=
  match existing with
  | none => .ok .insert
  | some existing => do
      if ← orTypeError ((Datetime.utc existing).le? startedAt) then return .keep existing
      else return .move existing

def newTraceRow (projectId traceId : UUID) (startedAt : Int) (status : SpanStatus) :
    TraceRow where
  id := traceId
  projectId := projectId
  startedAt := startedAt
  endedAt := none
  totalTokens := 0
  totalCostUsd := 0
  spanCount := 0
  status := status

/-- The row that the `UPDATE` of `ensure_trace_row` selects. -/
def TraceRow.startsAt (projectId traceId : UUID) (startedAt : Int) (row : TraceRow) : Bool :=
  decide (row.projectId = projectId) && decide (row.id = traceId) &&
    decide (row.startedAt = startedAt)

/-- `ensure_trace_row`: the table, and the start it returns. -/
def ensureTraceRow (localInstant : Int → Int) (projectId traceId : UUID) (startedAt : Datetime)
    (status : SpanStatus) (traces : TraceTable) : Except Halt (TraceTable × Datetime) := do
  match ← orRaised (planTraceRow (earliestTraceStart projectId traceId traces) startedAt) with
  | .insert =>
      return (traces.insertOrSkip
        (newTraceRow projectId traceId (startedAt.toTimestamptz localInstant) status), startedAt)
  | .keep existing => return (traces, .utc existing)
  | .move existing =>
      let moved ← orIntegrityError (traces.updateWhere? (·.startsAt projectId traceId existing)
        fun row => { row with startedAt := startedAt.toTimestamptz localInstant })
      return (moved, startedAt)

/-- The loop that fills `stable_trace_starts`. -/
def ensureTraceRows (runtime : Runtime) (env : AttemptEnv) (projectId : UUID) :
    List (UUID × PreparedSpan) → TraceTable → Except Halt (TraceTable × List (UUID × Datetime))
  | [], traces => .ok (traces, [])
  | (traceId, span) :: rest, traces => do
      env.check (.ensureTraceRow traceId)
      let (traces, start) ←
        ensureTraceRow runtime.localInstant projectId traceId span.startedAt span.status traces
      let (traces, starts) ← ensureTraceRows runtime env projectId rest traces
      return (traces, (traceId, start) :: starts)

def SpanStatus.json (status : SpanStatus) : Json := .str status.text

/-- The payload of a `span.inserted` event. -/
def spanInsertedPayload (span : PreparedSpan) : Json :=
  .obj [("span_id", .str span.id.str), ("name", .str span.name),
    ("latency_ms", .float span.latencyMs), ("status", span.status.json)]

/-- `str(span_data["id"])` -/
def PreparedSpan.eventKey (span : PreparedSpan) : String := span.id.str

/-- The loop that enqueues the outbox events. -/
def enqueueSpanEvents (env : AttemptEnv) (projectId : UUID) :
    Nat → List PreparedSpan → OutboxTable → Except Halt OutboxTable
  | _, [], events => .ok events
  | index, span :: rest, events => do
      env.check (.enqueueOutboxEvent index)
      let events ← orIntegrityError (enqueueOutboxEvent env.now (env.eventId index) projectId
        outboxSpanInserted span.eventKey (spanInsertedPayload span) events)
      enqueueSpanEvents env projectId (index + 1) rest events

/-- What the transaction leaves to the rest of the attempt. -/
structure InsertedBatch where
  insertedSpans : List PreparedSpan
  stableTraceStarts : List (UUID × Datetime)

/-- The statements between the preparation and the commit. -/
def storeBatch (runtime : Runtime) (env : AttemptEnv) (projectId : UUID)
    (prepared : List PreparedSpan) (db : Database) : Except Halt (Database × InsertedBatch) := do
  env.check .insertSpans
  let (spans, identities) := bulkInsertSpans runtime.localInstant prepared db.spans
  let inserted := selectInsertedSpans prepared (identities.map SpanIdentity.key)
  let traceMap ← orRaised (buildTraceMap inserted)
  let (traces, starts) ← ensureTraceRows runtime env projectId traceMap db.traces
  let events ← enqueueSpanEvents env projectId 0 inserted db.outboxEvents
  env.check .updateBuckets
  let buckets ← orRaised
    (updateSpanMetricBuckets runtime projectId inserted db.spanMetricBuckets)
  return ({ db with
      spans := spans
      traces := traces
      outboxEvents := events
      spanMetricBuckets := buckets },
    ⟨inserted, starts⟩)

/-! ### After the commit -/

def World.enqueue (task : WorkerTask) (world : World) : World :=
  { world with queue := world.queue ++ [task] }

def World.setStatus (update : Option BatchStatus → BatchStatus) (world : World) : World :=
  { world with batchStatus := some (update world.batchStatus) }

/-- The enqueue of the outbox delivery; its exceptions are only logged. -/
def enqueueDelivery (env : AttemptEnv) (projectId : UUID) (inserted : List PreparedSpan)
    (world : World) : World × Option Halt :=
  if inserted.isEmpty then (world, none)
  else
    match env.await .deliverOutbox (·.enqueue (.deliverSpanOutboxEvents projectId)) world with
    | (world, some .killed) => (world, some .killed)
    | (world, _) => (world, none)

/-- The loop that enqueues the aggregate tasks. -/
def enqueueAggregates (env : AttemptEnv) (projectId : UUID) :
    List (UUID × Datetime) → World → World × Option Halt
  | [], world => (world, none)
  | (traceId, startedAt) :: rest, world =>
      World.andThen
        (env.await (.updateAggregates traceId)
          (·.enqueue (.updateTraceAggregates projectId traceId startedAt)) world)
        (enqueueAggregates env projectId rest)

/-- The part of `process_span_batch` behind the commit. -/
def afterCommit (env : AttemptEnv) (projectId : UUID) (batch : InsertedBatch)
    (failedCount : Nat) (world : World) : World × Option Halt :=
  World.andThen (enqueueDelivery env projectId batch.insertedSpans world) fun world =>
  World.andThen (enqueueAggregates env projectId batch.stableTraceStarts world) fun world =>
  World.andThen
    (env.await .checkAnomalies (·.enqueue (.checkBatchAnomalies projectId)) world)
    (env.await .markFinished
      (·.setStatus (markFinished batch.insertedSpans.length failedCount)))

/-! ### One attempt -/

/-- What a committed attempt had prepared, counted as failed and stored. -/
structure CommittedBatch where
  prepared : List PreparedSpan
  failedCount : Nat
  batch : InsertedBatch

/-- `none` in `halt` is a return. -/
structure AttemptRun where
  world : World
  halt : Option Halt
  committed : Option CommittedBatch

/-- The handler around the body: an exception marks the batch failed. -/
def failAttempt (env : AttemptEnv) (halt : Halt) (committed : Option CommittedBatch)
    (world : World) : AttemptRun :=
  match halt with
  | .killed => ⟨world, some .killed, committed⟩
  | .raised exception =>
      match env.await .markFailed (·.setStatus (markBatchFailed exception.message)) world with
      | (world, none) => ⟨world, some (.raised exception), committed⟩
      | (world, some halt) => ⟨world, some halt, committed⟩

/-- The calls before the `try`. -/
def startAttempt (env : AttemptEnv) (world : World) : World × Option Halt :=
  World.andThen (env.await .getRedis id world) fun world =>
  World.andThen (env.await .getStatus id world)
    (env.await .markProcessing (·.setStatus markProcessing))

/-- The preparation of all spans, after the settings are loaded. -/
def prepareBatch (runtime : Runtime) (env : AttemptEnv) (projectId : UUID)
    (spans : List SpanSchema) (world : World) :
    Except Halt (List PreparedSpan × Nat) × World :=
  match env.check .loadSettings with
  | .error halt => (.error halt, world)
  | .ok _ =>
      let settings := loadPayloadPrivacySettings projectId world.db.projects
      let (prepared, state) :=
        prepareSpans (prepareSpan runtime env world.db.modelPricing settings projectId) 0 spans
          ⟨world.pricingCache, fun _ => [], world.objects⟩
      (prepared, { world with pricingCache := state.cache, objects := state.objects })

/-- The commit of a stored batch, and what follows it. -/
def commitBatch (env : AttemptEnv) (projectId : UUID) (stored : CommittedBatch)
    (db : Database) (world : World) : AttemptRun :=
  match env.fault .commit with
  | some ⟨halt, false⟩ => failAttempt env halt none world
  | some ⟨halt, true⟩ => failAttempt env halt (some stored) { world with db := db }
  | none =>
      match afterCommit env projectId stored.batch stored.failedCount { world with db := db } with
      | (world, none) => ⟨world, none, some stored⟩
      | (world, some halt) => failAttempt env halt (some stored) world

/-- One attempt of `process_span_batch`. -/
def processSpanBatch (runtime : Runtime) (env : AttemptEnv) (projectId : UUID)
    (spans : List SpanSchema) (world : World) : AttemptRun :=
  match startAttempt env world with
  | (world, some halt) => ⟨world, some halt, none⟩
  | (world, none) =>
      match prepareBatch runtime env projectId spans world with
      | (.error halt, world) => failAttempt env halt none world
      | (.ok (prepared, failedCount), world) =>
          match storeBatch runtime env projectId prepared world.db with
          | .error halt => failAttempt env halt none world
          | .ok (db, batch) =>
              commitBatch env projectId ⟨prepared, failedCount, batch⟩ db world

/-! ### A worker without faults -/

def AttemptEnv.faultless : AttemptEnv where
  fault := fun _ => none
  cacheDrift := fun _ cache => cache
  eventId := fun index => BitVec.ofNat 128 index
  now := 0

/-- Empty caches and queues around a database. -/
def World.ofDatabase (db : Database) : World where
  db := db
  pricingCache := fun _ => none
  objects := fun _ => none
  batchStatus := none
  queue := []

/-- The database of one project that stores no payloads. -/
def Database.ofProject (projectId : UUID) : Database :=
  { Database.empty with
    projects := Table.empty.insertOrSkip ⟨projectId, .none, 0, ""⟩ }

end LlmObs.Backend
