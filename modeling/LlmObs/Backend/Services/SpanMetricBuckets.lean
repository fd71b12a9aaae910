import LlmObs.Backend.Models
import LlmObs.Backend.Runtime
import LlmObs.Foundation.Decimal
import Mathlib.Data.List.Sort

/-!
Owns the minute buckets of span metrics: the sums that one batch adds for each
minute, the additive upsert of those sums, and the query of alert values over them,
in exact arithmetic.
-/

namespace LlmObs.Backend

open LlmObs.Foundation

/-- The accumulated values of one `bucket_start`. -/
structure BucketValues where
  bucketStart : Datetime
  spanCount : Nat
  errorCount : Nat
  totalCostUsd : ℚ
  latencySumMs : ℚ
deriving DecidableEq, Repr

def BucketValues.new (bucketStart : Datetime) : BucketValues := ⟨bucketStart, 0, 0, 0, 0⟩

def BucketValues.add (values : BucketValues) (span : PreparedSpan) : BucketValues :=
  { values with
    spanCount := values.spanCount + 1
    errorCount := values.errorCount + if span.status = .error then 1 else 0
    totalCostUsd := Decimal.add values.totalCostUsd span.costUsd
    latencySumMs := Decimal.add values.latencySumMs span.latencyMs }

/-- One iteration of the loop over the spans: the bucket whose start equals the
floored one takes the span, or a new bucket does. -/
def addToBuckets (span : PreparedSpan) : List BucketValues → List BucketValues
  | [] => [(BucketValues.new span.startedAt.floorToMinute).add span]
  | values :: rest =>
      if values.bucketStart.key = span.startedAt.floorToMinute.key then
        values.add span :: rest
      else values :: addToBuckets span rest

def accumulateBuckets (spans : List PreparedSpan) : List BucketValues :=
  spans.foldl (fun buckets span => addToBuckets span buckets) []

/-- `sorted(buckets.items())`. Naive and aware starts cannot be ordered. -/
def sortBuckets (buckets : List BucketValues) : Except PyException (List BucketValues) :=
  if (∀ values ∈ buckets, values.bucketStart.Aware) ∨
      ∀ values ∈ buckets, ¬ values.bucketStart.Aware then
    .ok (buckets.insertionSort fun left right => left.bucketStart.le? right.bucketStart = some true)
  else .error mixedDatetimeError

/-- A row of `jsonb_to_recordset`, coerced to the columns it is inserted into. -/
def BucketValues.toRow (runtime : Runtime) (projectId : UUID) (values : BucketValues) :
    SpanMetricBucket where
  projectId := projectId
  bucketStart := values.bucketStart.toTimestamptz runtime.sessionInstant
  spanCount := values.spanCount
  errorCount := values.errorCount
  totalCostUsd := Decimal.toNumeric 8 values.totalCostUsd
  latencySumMs := Decimal.toNumeric 3 values.latencySumMs

/-- The `SET` clause of the upsert. -/
def SpanMetricBucket.merge (stored excluded : SpanMetricBucket) : SpanMetricBucket :=
  { stored with
    spanCount := stored.spanCount + excluded.spanCount
    errorCount := stored.errorCount + excluded.errorCount
    totalCostUsd := stored.totalCostUsd + excluded.totalCostUsd
    latencySumMs := stored.latencySumMs + excluded.latencySumMs }

/-- `INSERT … ON CONFLICT (project_id, bucket_start) DO UPDATE` of one row. -/
def upsertBucket (table : SpanMetricBucketTable) (row : SpanMetricBucket) :
    SpanMetricBucketTable :=
  (table.mapRows (fun stored => if stored.primaryKey = row.primaryKey then stored.merge row
      else stored) fun left right => by
    split <;> split <;> simp [SpanMetricBucket.merge, SpanMetricBucket.primaryKey]).insertOrSkip row

/-- `update_span_metric_buckets` -/
def updateSpanMetricBuckets (runtime : Runtime) (projectId : UUID) (spans : List PreparedSpan)
    (table : SpanMetricBucketTable) : Except PyException SpanMetricBucketTable := do
  if spans.isEmpty then return table
  let buckets ← sortBuckets (accumulateBuckets spans)
  return (buckets.map (·.toRow runtime projectId)).foldl upsertBucket table

/-! ### Alert values -/

/-- `date_trunc('minute', NOW() - make_interval(mins => window_minutes))`. -/
def windowStart (now : Int) (windowMinutes : Nat) : Int :=
  Datetime.minuteOf (now - windowMinutes * microsecondsPerMinute)

/-- `CASE WHEN count = 0 THEN 0 ELSE (errors / count) * 100 END`. -/
def errorRate (errorCount spanCount : Nat) : ℚ :=
  if spanCount = 0 then 0 else (errorCount : ℚ) / spanCount * 100

def unsupportedMetric (metric : String) : PyException :=
  ⟨.valueError, "Unsupported bucketed alert metric: " ++ metric⟩

/-- `query_bucketed_alert_value`: the value and the sample count. -/
def queryBucketedAlertValue (now : Int) (projectId : UUID) (metric : String)
    (windowMinutes : Nat) (table : SpanMetricBucketTable) : Except PyException (ℚ × Nat) :=
  let rows := table.rows.filter fun row =>
    decide (row.projectId = projectId) && decide (windowStart now windowMinutes ≤ row.bucketStart)
  let spanCount := (rows.map (·.spanCount)).sum
  if metric = "error_rate" then
    .ok (errorRate (rows.map (·.errorCount)).sum spanCount, spanCount)
  else if metric = "cost_hourly" then .ok ((rows.map (·.totalCostUsd)).sum, spanCount)
  else .error (unsupportedMetric metric)

end LlmObs.Backend
