import LlmObs.Backend.Workers.BucketRefinement
import LlmObs.Foundation.Grouping
import LlmObs.Foundation.Percentile
import LlmObs.Foundation.TimeSeries

/-!
Owns the totals and the chart of a project: `get_overview` and `get_timeseries` over the
stored spans, in exact arithmetic and in a database session whose clock keeps one offset. It
says when the chart adds up to the totals.
-/

namespace LlmObs.Backend

open LlmObs.Foundation

/-! ### Periods -/

inductive Period where
  | oneHour
  | oneDay
  | sevenDays
  | thirtyDays
deriving DecidableEq, Repr

namespace Period

def hours (count : Int) : Int := count * (60 * microsecondsPerMinute)

/-- `PERIOD_TO_INTERVAL` -/
def toInterval : Period → Int
  | oneHour => hours 1
  | oneDay => hours 24
  | sevenDays => hours (7 * 24)
  | thirtyDays => hours (30 * 24)

/-- `PERIOD_TO_BUCKET_SIZE` -/
def toBucketSize : Period → Int
  | oneHour => microsecondsPerMinute
  | oneDay => hours 1
  | sevenDays => hours 1
  | thirtyDays => hours 24

/-- `PERIOD_TO_GRANULARITY`: the field of `date_trunc` by its length. -/
def toGranularity : Period → Int
  | oneHour => microsecondsPerMinute
  | oneDay => hours 1
  | sevenDays => hours 1
  | thirtyDays => hours 24

/-- A bucket is as long as the field it is truncated to. -/
theorem toBucketSize_eq (period : Period) : period.toBucketSize = period.toGranularity := by
  cases period <;> rfl

theorem toGranularity_pos (period : Period) : 0 < period.toGranularity := by
  cases period <;> decide

theorem toInterval_pos (period : Period) : 0 < period.toInterval := by
  cases period <;> decide

end Period

/-! ### The two queries -/

/-- `AVG`; `none` is the `NULL` of no values. -/
def average (values : List ℚ) : Option ℚ :=
  if values.isEmpty then none else some (values.sum / values.length)

def countErrors (spans : List SpanRow) : Nat := spans.countP fun span => span.status = .error

structure MetricsOverview where
  totalSpans : Nat
  errorCount : Nat
  errorRatePct : Option ℚ
  avgLatencyMs : Option ℚ
  p95LatencyMs : Option ℚ
  p99LatencyMs : Option ℚ
  totalCostUsd : ℚ
  totalTokens : Nat
deriving DecidableEq, Repr

/-- `MetricsService.get_overview` at an instant. -/
def getOverview (period : Period) (now : Int) (projectId : UUID) (table : SpanTable) :
    MetricsOverview :=
  let spans := SpanTable.since projectId (now - period.toInterval) table
  let latencies := spans.map (·.latencyMs)
  { totalSpans := spans.length
    errorCount := countErrors spans
    errorRatePct := if spans.isEmpty then none else
      some (Decimal.toNumeric 2 ((countErrors spans : ℚ) / spans.length * 100))
    avgLatencyMs := (average latencies).map (Decimal.toNumeric 2)
    p95LatencyMs := percentileCont (95 / 100) latencies
    p99LatencyMs := percentileCont (99 / 100) latencies
    totalCostUsd := (spans.map (·.costUsd)).sum
    totalTokens := (spans.map fun span => span.inputTokens + span.outputTokens).sum }

/-- A row of the common table `metrics`. -/
structure BucketMetrics where
  bucket : Int
  cost : ℚ
  avgLatency : Option ℚ
  spanCount : Nat
  errorCount : Nat
deriving DecidableEq, Repr

/-- The aggregates of a group. -/
def bucketMetrics (bucket : Int) (spans : List SpanRow) : BucketMetrics where
  bucket := bucket
  cost := (spans.map (·.costUsd)).sum
  avgLatency := average (spans.map (·.latencyMs))
  spanCount := spans.length
  errorCount := countErrors spans

structure TimeseriesPoint where
  bucket : Int
  cost : ℚ
  avgLatency : ℚ
  spanCount : Nat
  errorCount : Nat
deriving DecidableEq, Repr

/-- The selected columns of a joined row: `COALESCE(.., 0)` of each aggregate. -/
def timeseriesPoint : Int × Option BucketMetrics → TimeseriesPoint
  | (bucket, none) => ⟨bucket, 0, 0, 0, 0⟩
  | (bucket, some metrics) =>
      ⟨bucket, metrics.cost, metrics.avgLatency.getD 0, metrics.spanCount, metrics.errorCount⟩

/-- `MetricsService.get_timeseries` at an instant, in a session with the offset. -/
def getTimeseries (offset : Int) (period : Period) (now : Int) (projectId : UUID)
    (table : SpanTable) : List TimeseriesPoint :=
  let cutoff := now - period.toInterval
  let truncated := dateTrunc period.toGranularity offset
  let timeBuckets := generateSeries (truncated cutoff) (truncated now) period.toBucketSize
  let metrics := groupBy (fun span : SpanRow => truncated span.startedAt) bucketMetrics
    (SpanTable.since projectId cutoff table)
  ((leftJoin BucketMetrics.bucket timeBuckets metrics).map timeseriesPoint).insertionSort
    fun left right => left.bucket ≤ right.bucket

/-! ### Charts and totals -/

/-- Over its buckets the chart sums to the totals. -/
structure ChartsAgree (offset : Int) (period : Period) (now : Int) (projectId : UUID)
    (table : SpanTable) : Prop where
  spanCount : ((getTimeseries offset period now projectId table).map (·.spanCount)).sum =
    (getOverview period now projectId table).totalSpans
  errorCount : ((getTimeseries offset period now projectId table).map (·.errorCount)).sum =
    (getOverview period now projectId table).errorCount
  cost : ((getTimeseries offset period now projectId table).map (·.cost)).sum =
    (getOverview period now projectId table).totalCostUsd

/-- The end of the bucket that the instant is in. -/
def currentBucketEnd (offset : Int) (period : Period) (now : Int) : Int :=
  dateTrunc period.toGranularity offset now + period.toGranularity

/-- Spans, errors and cost of a point. -/
def TimeseriesPoint.totals (point : TimeseriesPoint) : MetricTotals :=
  (point.spanCount, point.errorCount, point.cost)

/-- The chart counts the spans of the window that start before the current bucket ends. -/
theorem sum_getTimeseries (offset : Int) (period : Period) (now : Int) (projectId : UUID)
    (table : SpanTable) :
    ((getTimeseries offset period now projectId table).map TimeseriesPoint.totals).sum =
      (((SpanTable.since projectId (now - period.toInterval) table).filter fun span =>
        span.startedAt < currentBucketEnd offset period now).map SpanRecord.totals).sum := by
  have joined (bucket : Int) (spans : List SpanRow) :
      TimeseriesPoint.totals (timeseriesPoint (bucket, some (bucketMetrics bucket spans))) =
        (spans.map SpanRecord.totals).sum := (sum_spanTotals spans).symm
  have alone (bucket : Int) : TimeseriesPoint.totals (timeseriesPoint (bucket, none)) = 0 := rfl
  rw [getTimeseries, ((List.perm_insertionSort _ _).map _).sum_eq, List.map_map,
    period.toBucketSize_eq]
  refine (sum_leftJoin_groupBy (fun _ _ => rfl)
    (nodup_generateSeries period.toGranularity_pos _ _) _ alone joined).trans ?_
  refine congrArg (fun spans => (List.map SpanRecord.totals spans).sum) ?_
  refine List.filter_congr fun span member => ?_
  have since := (SpanTable.mem_since.mp member).2.2
  exact decide_eq_decide.mpr
    (dateTrunc_mem_generateSeries period.toGranularity_pos offset since)

/-- A span after the current bucket is in the window. -/
theorem cutoff_lt_currentBucketEnd (offset : Int) (period : Period) (now : Int) :
    now - period.toInterval < currentBucketEnd offset period now := by
  have inside := lt_dateTrunc_add period.toGranularity_pos offset now
  have before := period.toInterval_pos
  rw [currentBucketEnd]
  omega

/-- The chart agrees with the totals exactly when no span of the project starts after the
current bucket. -/
theorem chartsAgree_iff (offset : Int) (period : Period) (now : Int) (projectId : UUID)
    (table : SpanTable) :
    ChartsAgree offset period now projectId table ↔ ∀ span ∈ table.rows,
      span.projectId = projectId → span.startedAt < currentBucketEnd offset period now := by
  have charted := sum_getTimeseries offset period now projectId table
  rw [sum_totals, sum_spanTotals, Prod.mk.injEq, Prod.mk.injEq] at charted
  obtain ⟨charted, chartedErrors, chartedCost⟩ := charted
  constructor
  · intro agrees span member ofProject
    by_contra late
    have window : span ∈ SpanTable.since projectId (now - period.toInterval) table := by
      have start := cutoff_lt_currentBucketEnd offset period now
      exact SpanTable.mem_since.mpr ⟨member, ofProject, by omega⟩
    have everything := List.length_filter_eq_length_iff.mp
      (charted.symm.trans agrees.spanCount) span window
    exact late (of_decide_eq_true everything)
  · intro early
    have everything : (SpanTable.since projectId (now - period.toInterval) table).filter
        (fun span => span.startedAt < currentBucketEnd offset period now) =
          SpanTable.since projectId (now - period.toInterval) table := by
      refine List.filter_eq_self.mpr fun span member => decide_eq_true ?_
      obtain ⟨stored, ofProject, -⟩ := SpanTable.mem_since.mp member
      exact early span stored ofProject
    rw [everything] at charted chartedErrors chartedCost
    exact ⟨charted, chartedErrors, chartedCost⟩

/-- A span that starts within the tolerated skew of the clock. -/
def skewedSpan : SpanSchema := spanStartingAt (.utc (2 * microsecondsPerMinute))

/-- It is accepted and counted in the totals, but its minute is not in the chart yet. -/
theorem skewedSpan_not_charted :
    skewedSpan.noFutureTimestamps 0 = true ∧
      ¬ ChartsAgree 0 .oneHour 0 1 (processSpanBatch .inUtc .faultless 1 [skewedSpan]
        (.ofDatabase (.ofProject 1))).world.db.spans := by
  refine ⟨rfl, fun agrees => ?_⟩
  have counted := congrArg Prod.fst (sum_getTimeseries 0 .oneHour 0 1
    (processSpanBatch .inUtc .faultless 1 [skewedSpan]
      (.ofDatabase (.ofProject 1))).world.db.spans)
  rw [sum_totals] at counted
  have counted := agrees.spanCount.symm.trans counted
  have differ : (1 : ℕ) = 0 := counted
  omega

end LlmObs.Backend
