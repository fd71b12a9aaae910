import LlmObs.Backend.Services.ErrorFingerprints

/-!
Owns the breakdowns of a project: the thirteen tables of `get_analytics` over the stored spans,
in exact arithmetic and in a database session whose clock keeps one offset. Where a table is
cut at ten rows, any answer that its order allows is one. It says how the tables add up to the
totals and the chart of the same instant.
-/

namespace LlmObs.Backend

open LlmObs.Foundation

/-! ### Rows -/

/-- A row of `cost_by_model` or `cost_by_provider`. -/
structure CostRow where
  name : String
  totalCostUsd : ℚ
  totalTokens : Nat
  spanCount : Nat
deriving DecidableEq, Repr

def costRow (name : String) (spans : List SpanRow) : CostRow where
  name := name
  totalCostUsd := (spans.map (·.costUsd)).sum
  totalTokens := (spans.map fun span => span.inputTokens + span.outputTokens).sum
  spanCount := spans.length

/-- `ORDER BY total_cost_usd DESC, span_count DESC` -/
def CostRow.order : Comparison CostRow :=
  (Comparison.rat.lex .nat).on fun row => (row.totalCostUsd, row.spanCount)

/-- A row of `cost_over_time`. -/
structure CostPoint where
  bucket : Int
  totalCostUsd : ℚ
  spanCount : Nat
deriving DecidableEq, Repr

def costPoint (bucket : Int) (spans : List SpanRow) : CostPoint where
  bucket := bucket
  totalCostUsd := (spans.map (·.costUsd)).sum
  spanCount := spans.length

/-- A row of `latency_by_model` or `latency_by_provider`. -/
structure LatencyRow where
  name : String
  avgLatencyMs : Option ℚ
  p95LatencyMs : Option ℚ
  spanCount : Nat
deriving DecidableEq, Repr

def latencyRow (name : String) (spans : List SpanRow) : LatencyRow where
  name := name
  avgLatencyMs := (average (spans.map (·.latencyMs))).map (Decimal.toNumeric 2)
  p95LatencyMs := percentileCont (95 / 100) (spans.map (·.latencyMs))
  spanCount := spans.length

/-- `ORDER BY p95_latency_ms DESC NULLS LAST, span_count DESC` -/
def LatencyRow.order : Comparison LatencyRow :=
  (Comparison.rat.nullsLast.lex .nat).on fun row => (row.p95LatencyMs, row.spanCount)

/-- A row of `top_expensive_traces`. -/
structure ExpensiveTrace where
  traceId : UUID
  totalCostUsd : ℚ
  spanCount : Nat
  startedAt : Option Int
deriving DecidableEq, Repr

def expensiveTrace (traceId : UUID) (spans : List SpanRow) : ExpensiveTrace where
  traceId := traceId
  totalCostUsd := (spans.map (·.costUsd)).sum
  spanCount := spans.length
  startedAt := (spans.map (·.startedAt)).min?

/-- `ORDER BY total_cost_usd DESC, span_count DESC` -/
def ExpensiveTrace.order : Comparison ExpensiveTrace :=
  (Comparison.rat.lex .nat).on fun row => (row.totalCostUsd, row.spanCount)

/-- A row of `slowest_traces`. -/
structure SlowTrace where
  traceId : UUID
  maxLatencyMs : Option ℚ
  avgLatencyMs : Option ℚ
  spanCount : Nat
  startedAt : Option Int
deriving DecidableEq, Repr

def slowTrace (traceId : UUID) (spans : List SpanRow) : SlowTrace where
  traceId := traceId
  maxLatencyMs := (spans.map (·.latencyMs)).max?
  avgLatencyMs := (average (spans.map (·.latencyMs))).map (Decimal.toNumeric 2)
  spanCount := spans.length
  startedAt := (spans.map (·.startedAt)).min?

/-- `ORDER BY max_latency_ms DESC, span_count DESC` -/
def SlowTrace.order : Comparison SlowTrace :=
  (Comparison.rat.nullsFirst.lex .nat).on fun row => (row.maxLatencyMs, row.spanCount)

/-- `ROUND(errors::numeric / NULLIF(spans, 0) * 100, 2)` -/
def errorRatePct (errorCount spanCount : Nat) : Option ℚ :=
  if spanCount = 0 then none
  else some (Decimal.toNumeric 2 ((errorCount : ℚ) / spanCount * 100))

/-- A row of `error_rate_trend`. -/
structure ErrorRatePoint where
  bucket : Int
  spanCount : Nat
  errorCount : Nat
  errorRatePct : ℚ
deriving DecidableEq, Repr

/-- The selected columns of a joined row. -/
def errorRatePoint : Int × Option BucketMetrics → ErrorRatePoint
  | (bucket, none) => ⟨bucket, 0, 0, (errorRatePct 0 0).getD 0⟩
  | (bucket, some metrics) => ⟨bucket, metrics.spanCount, metrics.errorCount,
      (errorRatePct metrics.errorCount metrics.spanCount).getD 0⟩

/-- A row of `top_error_messages`. -/
structure ErrorMessageRow where
  errorMessage : String
  errorCount : Nat
  lastSeenAt : Option Int
deriving DecidableEq, Repr

/-- `LEFT(COALESCE(NULLIF(error, ''), 'unknown error'), 240)` -/
def SpanRow.shownError (span : SpanRow) : String := leftText 240 span.errorMessage.toList

def errorMessageRow (errorMessage : String) (spans : List SpanRow) : ErrorMessageRow where
  errorMessage := errorMessage
  errorCount := spans.length
  lastSeenAt := (spans.map (·.startedAt)).max?

/-- `ORDER BY error_count DESC, last_seen_at DESC` -/
def ErrorMessageRow.order : Comparison ErrorMessageRow :=
  (Comparison.nat.lex Comparison.int.nullsFirst).on fun row => (row.errorCount, row.lastSeenAt)

/-- A row of `errors_by_model` or `errors_by_provider`. -/
structure ErrorRateRow where
  name : String
  spanCount : Nat
  errorCount : Nat
  errorRatePct : Option ℚ
deriving DecidableEq, Repr

def errorRateRow (name : String) (spans : List SpanRow) : ErrorRateRow where
  name := name
  spanCount := spans.length
  errorCount := countErrors spans
  errorRatePct := errorRatePct (countErrors spans) spans.length

/-- `ORDER BY error_count DESC, error_rate_pct DESC NULLS LAST` -/
def ErrorRateRow.order : Comparison ErrorRateRow :=
  (Comparison.nat.lex Comparison.rat.nullsLast).on fun row => (row.errorCount, row.errorRatePct)

/-- A row of `recent_failed_traces`. -/
structure FailedTrace where
  traceId : UUID
  startedAt : Option Int
  errorCount : Nat
  errorMessage : String
deriving DecidableEq, Repr

/-- Its aggregates over the errors of a trace: the message is that of one which no other one
started after. -/
structure IsFailedTrace (traceId : UUID) (spans : List SpanRow) (row : FailedTrace) : Prop where
  traceId : row.traceId = traceId
  startedAt : row.startedAt = (spans.map (·.startedAt)).max?
  errorCount : row.errorCount = spans.length
  errorMessage : ∃ span ∈ spans, row.errorMessage = span.shownError ∧
    ∀ other ∈ spans, other.startedAt ≤ span.startedAt

/-- `ORDER BY started_at DESC`: the start that is selected, not that of a span. -/
def FailedTrace.order : Comparison FailedTrace :=
  Comparison.int.nullsFirst.on FailedTrace.startedAt

/-! ### The tables -/

structure Analytics where
  costByModel : List CostRow
  costByProvider : List CostRow
  costOverTime : List CostPoint
  latencyByModel : List LatencyRow
  latencyByProvider : List LatencyRow
  topExpensiveTraces : List ExpensiveTrace
  slowestTraces : List SlowTrace
  errorRateTrend : List ErrorRatePoint
  topErrorMessages : List ErrorMessageRow
  errorsByModel : List ErrorRateRow
  errorsByProvider : List ErrorRateRow
  recentFailedTraces : List FailedTrace
  errorFingerprints : List ErrorFingerprint
deriving DecidableEq, Repr

/-- `GROUP BY key ORDER BY .. DESC LIMIT 10`, of aggregates that leave no choice. -/
def IsTopGroups {Key Group : Type} [DecidableEq Key] (key : SpanRow → Key)
    (aggregate : Key → List SpanRow → Group) (order : Comparison Group)
    (spans : List SpanRow) (answer : List Group) : Prop :=
  IsRanked key (fun value members group => group = aggregate value members) order.Desc
    analyticsLimit spans answer

/-- `GROUP BY 1 ORDER BY 1`, of the buckets that have spans. -/
def costOverTime (truncated : Int → Int) (spans : List SpanRow) : List CostPoint :=
  (groupBy (fun span : SpanRow => truncated span.startedAt) costPoint spans).insertionSort
    fun left right => left.bucket ≤ right.bucket

/-- The buckets of the window, each with its metrics if it has spans. -/
def errorRateTrend (truncated : Int → Int) (period : Period) (now : Int) (spans : List SpanRow) :
    List ErrorRatePoint :=
  let timeBuckets := generateSeries (truncated (now - period.toInterval)) (truncated now)
    period.toBucketSize
  let metrics := groupBy (fun span : SpanRow => truncated span.startedAt) bucketMetrics spans
  ((leftJoin BucketMetrics.bucket timeBuckets metrics).map errorRatePoint).insertionSort
    fun left right => left.bucket ≤ right.bucket

/-- What `MetricsService.get_analytics` may return at an instant. -/
structure IsAnalytics (locale : Locale) (offset : Int) (period : Period) (now : Int)
    (spans : List SpanRow) (analytics : Analytics) : Prop where
  costByModel : IsTopGroups (·.model) costRow CostRow.order spans analytics.costByModel
  costByProvider : IsTopGroups (·.provider) costRow CostRow.order spans analytics.costByProvider
  costOverTime : analytics.costOverTime =
    costOverTime (dateTrunc period.toGranularity offset) spans
  latencyByModel : IsTopGroups (·.model) latencyRow LatencyRow.order spans
    analytics.latencyByModel
  latencyByProvider : IsTopGroups (·.provider) latencyRow LatencyRow.order spans
    analytics.latencyByProvider
  topExpensiveTraces : IsTopGroups (·.traceId) expensiveTrace ExpensiveTrace.order spans
    analytics.topExpensiveTraces
  slowestTraces : IsTopGroups (·.traceId) slowTrace SlowTrace.order spans
    analytics.slowestTraces
  errorRateTrend : analytics.errorRateTrend =
    errorRateTrend (dateTrunc period.toGranularity offset) period now spans
  topErrorMessages : IsTopGroups SpanRow.shownError errorMessageRow ErrorMessageRow.order
    (spans.filter fun span => span.status = .error) analytics.topErrorMessages
  errorsByModel : IsTopGroups (·.model) errorRateRow ErrorRateRow.order spans
    analytics.errorsByModel
  errorsByProvider : IsTopGroups (·.provider) errorRateRow ErrorRateRow.order spans
    analytics.errorsByProvider
  recentFailedTraces : IsRanked (·.traceId) IsFailedTrace FailedTrace.order.Desc analyticsLimit
    (spans.filter fun span => span.status = .error) analytics.recentFailedTraces
  errorFingerprints : IsErrorFingerprints locale spans analytics.errorFingerprints

/-! ### One answer -/

def failedTrace (traceId : UUID) (spans : List SpanRow) : FailedTrace where
  traceId := traceId
  startedAt := (spans.map (·.startedAt)).max?
  errorCount := spans.length
  errorMessage :=
    (((Comparison.int.on SpanRecord.startedAt).top 1 spans).map SpanRow.shownError).headD ""

/-- What `get_analytics` returns where rows that an order does not tell apart stay as they
were. -/
def getAnalytics (locale : Locale) (offset : Int) (period : Period) (now : Int)
    (spans : List SpanRow) : Analytics :=
  let truncated := dateTrunc period.toGranularity offset
  let errors := spans.filter fun span => span.status = .error
  { costByModel := CostRow.order.top analyticsLimit (groupBy (·.model) costRow spans)
    costByProvider := CostRow.order.top analyticsLimit (groupBy (·.provider) costRow spans)
    costOverTime := costOverTime truncated spans
    latencyByModel := LatencyRow.order.top analyticsLimit (groupBy (·.model) latencyRow spans)
    latencyByProvider :=
      LatencyRow.order.top analyticsLimit (groupBy (·.provider) latencyRow spans)
    topExpensiveTraces :=
      ExpensiveTrace.order.top analyticsLimit (groupBy (·.traceId) expensiveTrace spans)
    slowestTraces := SlowTrace.order.top analyticsLimit (groupBy (·.traceId) slowTrace spans)
    errorRateTrend := errorRateTrend truncated period now spans
    topErrorMessages :=
      ErrorMessageRow.order.top analyticsLimit (groupBy SpanRow.shownError errorMessageRow errors)
    errorsByModel := ErrorRateRow.order.top analyticsLimit (groupBy (·.model) errorRateRow spans)
    errorsByProvider :=
      ErrorRateRow.order.top analyticsLimit (groupBy (·.provider) errorRateRow spans)
    recentFailedTraces :=
      FailedTrace.order.top analyticsLimit (groupBy (·.traceId) failedTrace errors)
    errorFingerprints := errorFingerprints locale spans }

theorem isTopGroups_top {Key Group : Type} [DecidableEq Key] (key : SpanRow → Key)
    (aggregate : Key → List SpanRow → Group) (order : Comparison Group) (spans : List SpanRow) :
    IsTopGroups key aggregate order spans
      (order.top analyticsLimit (groupBy key aggregate spans)) :=
  ⟨_, isGrouped_groupBy key aggregate spans, order.isTop_top analyticsLimit _⟩

theorem isAnalytics_getAnalytics (locale : Locale) (offset : Int) (period : Period) (now : Int)
    (spans : List SpanRow) :
    IsAnalytics locale offset period now spans (getAnalytics locale offset period now spans) where
  costByModel := isTopGroups_top ..
  costByProvider := isTopGroups_top ..
  costOverTime := rfl
  latencyByModel := isTopGroups_top ..
  latencyByProvider := isTopGroups_top ..
  topExpensiveTraces := isTopGroups_top ..
  slowestTraces := isTopGroups_top ..
  errorRateTrend := rfl
  topErrorMessages := isTopGroups_top ..
  errorsByModel := isTopGroups_top ..
  errorsByProvider := isTopGroups_top ..
  recentFailedTraces := by
    refine ⟨_, isGrouped_of_aggregates fun value known => ?_, Comparison.isTop_top ..⟩
    obtain ⟨latest, member, only, before⟩ :=
      (Comparison.int.on SpanRecord.startedAt).exists_top_one (filter_key_ne_nil known)
    exact ⟨rfl, rfl, rfl, latest, member, by rw [failedTrace, only]; rfl,
      fun other found => of_decide_eq_true (before other found)⟩
  errorFingerprints := isErrorFingerprints_errorFingerprints locale spans

/-! ### Tables and totals -/

/-- A column of a table sums to a part of a total, and to all of it where the table has room
for its keys. -/
structure SumsTo {Value : Type} [AddCommMonoid Value] [LE Value] (column : List Value)
    (total : Value) (keys : Nat) : Prop where
  le : column.sum ≤ total
  eq : keys ≤ analyticsLimit → column.sum = total

/-- The tables of an answer add up to the totals and follow the chart. -/
structure AnalyticsAgree (locale : Locale) (spans : List SpanRow) (overview : MetricsOverview)
    (timeseries : List TimeseriesPoint) (analytics : Analytics) : Prop where
  costByModel : SumsTo
    (analytics.costByModel.map fun row => (row.totalCostUsd, row.totalTokens, row.spanCount))
    (overview.totalCostUsd, overview.totalTokens, overview.totalSpans)
    (spans.map (·.model)).dedup.length
  costByProvider : SumsTo
    (analytics.costByProvider.map fun row => (row.totalCostUsd, row.totalTokens, row.spanCount))
    (overview.totalCostUsd, overview.totalTokens, overview.totalSpans)
    (spans.map (·.provider)).dedup.length
  costOverTime : (analytics.costOverTime.map fun point =>
    (point.totalCostUsd, point.spanCount)).sum = (overview.totalCostUsd, overview.totalSpans)
  latencyByModel : SumsTo (analytics.latencyByModel.map (·.spanCount)) overview.totalSpans
    (spans.map (·.model)).dedup.length
  latencyByProvider : SumsTo (analytics.latencyByProvider.map (·.spanCount)) overview.totalSpans
    (spans.map (·.provider)).dedup.length
  topExpensiveTraces : SumsTo
    (analytics.topExpensiveTraces.map fun row => (row.totalCostUsd, row.spanCount))
    (overview.totalCostUsd, overview.totalSpans) (spans.map (·.traceId)).dedup.length
  slowestTraces : SumsTo (analytics.slowestTraces.map (·.spanCount)) overview.totalSpans
    (spans.map (·.traceId)).dedup.length
  errorRateTrend : analytics.errorRateTrend.map (fun point =>
      (point.bucket, point.spanCount, point.errorCount)) =
    timeseries.map fun point => (point.bucket, point.spanCount, point.errorCount)
  topErrorMessages : SumsTo (analytics.topErrorMessages.map (·.errorCount)) overview.errorCount
    ((spans.filter fun span => span.status = .error).map SpanRow.shownError).dedup.length
  errorsByModel : SumsTo (analytics.errorsByModel.map fun row => (row.spanCount, row.errorCount))
    (overview.totalSpans, overview.errorCount) (spans.map (·.model)).dedup.length
  errorsByProvider : SumsTo
    (analytics.errorsByProvider.map fun row => (row.spanCount, row.errorCount))
    (overview.totalSpans, overview.errorCount) (spans.map (·.provider)).dedup.length
  recentFailedTraces : SumsTo (analytics.recentFailedTraces.map (·.errorCount))
    overview.errorCount
    ((spans.filter fun span => span.status = .error).map (·.traceId)).dedup.length
  errorFingerprints : SumsTo (analytics.errorFingerprints.map (·.errorCount)) overview.errorCount
    ((errorRows locale spans).map ErrorRow.fingerprint).dedup.length

/-- Groups that sum a column, cut at ten. -/
theorem sumsTo_of_isRanked {Row Key Group Value : Type} [DecidableEq Key] [AddCommMonoid Value]
    [PartialOrder Value] [IsOrderedAddMonoid Value] {key : Row → Key}
    {aggregates : Key → List Row → Group → Prop} {before : Group → Group → Prop}
    {rows : List Row} {answer : List Group} {total : Value} {column : Row → Value}
    {amount : Group → Value} (ranked : IsRanked key aggregates before analyticsLimit rows answer)
    (sums : ∀ value members group, aggregates value members group →
      amount group = (members.map column).sum)
    (nonneg : ∀ row ∈ rows, 0 ≤ column row) (totals : (rows.map column).sum = total) :
    SumsTo (answer.map amount) total (rows.map key).dedup.length where
  le := (ranked.sum_le sums nonneg).trans_eq totals
  eq := fun room => (ranked.sum_eq sums room).trans totals

theorem sum_map_pair {Row Left Right : Type} [AddCommMonoid Left] [AddCommMonoid Right]
    (left : Row → Left) (right : Row → Right) (rows : List Row) :
    (rows.map fun row => (left row, right row)).sum = ((rows.map left).sum, (rows.map right).sum) := by
  induction rows with
  | nil => rfl
  | cons row rest inductionHypothesis =>
      rw [List.map_cons, List.sum_cons, inductionHypothesis]
      rfl

theorem sum_map_one {Row : Type} (rows : List Row) : (rows.map fun _ => 1).sum = rows.length := by
  rw [List.map_const', List.sum_replicate, smul_eq_mul, mul_one]

theorem sum_map_isError (spans : List SpanRow) :
    (spans.map fun span => if span.status = .error then 1 else 0).sum = countErrors spans := by
  induction spans with
  | nil => rfl
  | cons span rest inductionHypothesis =>
      rw [List.map_cons, List.sum_cons, inductionHypothesis, countErrors, countErrors,
        List.countP_cons, add_comm]
      simp

theorem length_errors (spans : List SpanRow) :
    (spans.filter fun span => span.status = .error).length = countErrors spans :=
  List.countP_eq_length_filter.symm

/-- The two charts have the same buckets, each with the same spans and errors. -/
theorem errorRateTrend_eq (offset : Int) (period : Period) (now : Int) (projectId : UUID)
    (table : SpanTable) :
    (errorRateTrend (dateTrunc period.toGranularity offset) period now
        (SpanTable.since projectId (now - period.toInterval) table)).map (fun point =>
          (point.bucket, point.spanCount, point.errorCount)) =
      (getTimeseries offset period now projectId table).map fun point =>
        (point.bucket, point.spanCount, point.errorCount) := by
  let byBucket (left right : Int × Nat × Nat) : Prop := left.1 ≤ right.1
  rw [errorRateTrend, getTimeseries, List.map_insertionSort _ byBucket _ _ fun _ _ _ _ => Iff.rfl,
    List.map_insertionSort _ byBucket _ _ fun _ _ _ _ => Iff.rfl, List.map_map, List.map_map]
  refine congrArg _ (List.map_congr_left fun joined _ => ?_)
  obtain ⟨bucket, metrics⟩ := joined
  cases metrics <;> rfl

theorem costRows_sumTo {key : SpanRow → String} {spans : List SpanRow} {answer : List CostRow}
    (answered : IsTopGroups key costRow CostRow.order spans answer)
    (nonneg : ∀ span ∈ spans, 0 ≤ span.costUsd) :
    SumsTo (answer.map fun row => (row.totalCostUsd, row.totalTokens, row.spanCount))
      ((spans.map (·.costUsd)).sum,
        (spans.map fun span => span.inputTokens + span.outputTokens).sum, spans.length)
      (spans.map key).dedup.length := by
  have totals (spans : List SpanRow) : (spans.map fun span =>
      (span.costUsd, span.inputTokens + span.outputTokens, 1)).sum =
        ((spans.map (·.costUsd)).sum,
          (spans.map fun span => span.inputTokens + span.outputTokens).sum, spans.length) := by
    rw [sum_map_pair, sum_map_pair, sum_map_one]
  refine sumsTo_of_isRanked answered (fun _ members row made => ?_) (fun span member => ?_)
    (totals spans)
  · rw [made, totals]
    rfl
  · exact ⟨nonneg span member, Nat.zero_le _, Nat.zero_le _⟩

/-- A table whose rows count the spans of a key. -/
theorem spanCounts_sumTo {Key Group : Type} [DecidableEq Key] {key : SpanRow → Key}
    {aggregate : Key → List SpanRow → Group} {order : Comparison Group}
    {spans : List SpanRow} {answer : List Group} {spanCount : Group → Nat}
    (answered : IsTopGroups key aggregate order spans answer)
    (counts : ∀ value members, spanCount (aggregate value members) = members.length) :
    SumsTo (answer.map spanCount) spans.length (spans.map key).dedup.length := by
  refine sumsTo_of_isRanked answered (fun value members row made => ?_)
    (fun _ _ => Nat.zero_le _) (sum_map_one spans)
  rw [made, counts, sum_map_one]

theorem errorRates_sumTo {key : SpanRow → String} {spans : List SpanRow}
    {answer : List ErrorRateRow}
    (answered : IsTopGroups key errorRateRow ErrorRateRow.order spans answer) :
    SumsTo (answer.map fun row => (row.spanCount, row.errorCount))
      (spans.length, countErrors spans) (spans.map key).dedup.length := by
  have totals (spans : List SpanRow) : (spans.map fun span =>
      (1, if span.status = .error then 1 else 0)).sum = (spans.length, countErrors spans) := by
    rw [sum_map_pair, sum_map_one, sum_map_isError]
  refine sumsTo_of_isRanked answered (fun _ members row made => ?_)
    (fun _ _ => ⟨Nat.zero_le _, Nat.zero_le _⟩) (totals spans)
  rw [made, totals]
  rfl

/-- The tables over the spans of a window whose costs are not negative. -/
theorem analytics_agree (locale : Locale) (offset : Int) (period : Period) (now : Int)
    (projectId : UUID) (table : SpanTable) (nonneg : ∀ span ∈ table.rows, 0 ≤ span.costUsd)
    {analytics : Analytics}
    (answered : IsAnalytics locale offset period now
      (SpanTable.since projectId (now - period.toInterval) table) analytics) :
    AnalyticsAgree locale (SpanTable.since projectId (now - period.toInterval) table)
      (getOverview period now projectId table) (getTimeseries offset period now projectId table)
      analytics := by
  have costs : ∀ span ∈ SpanTable.since projectId (now - period.toInterval) table,
      0 ≤ span.costUsd := fun span member => nonneg span (SpanTable.mem_since.mp member).1
  have pairs (spans : List SpanRow) : (spans.map fun span => (span.costUsd, 1)).sum =
      ((spans.map (·.costUsd)).sum, spans.length) := by
    rw [sum_map_pair, sum_map_one]
  exact
    { costByModel := costRows_sumTo answered.costByModel costs
      costByProvider := costRows_sumTo answered.costByProvider costs
      costOverTime := by
        have grouped := isGrouped_groupBy (fun span : SpanRow =>
          dateTrunc period.toGranularity offset span.startedAt) costPoint
            (SpanTable.since projectId (now - period.toInterval) table)
        rw [answered.costOverTime, costOverTime, ((List.perm_insertionSort _ _).map _).sum_eq]
        refine (grouped.sum_eq fun _ members point made => ?_).trans (pairs _)
        rw [made, pairs]
        rfl
      latencyByModel := spanCounts_sumTo answered.latencyByModel fun _ _ => rfl
      latencyByProvider := spanCounts_sumTo answered.latencyByProvider fun _ _ => rfl
      topExpensiveTraces := by
        refine sumsTo_of_isRanked answered.topExpensiveTraces (fun _ members row made => ?_)
          (fun span member => ⟨costs span member, Nat.zero_le _⟩) (pairs _)
        rw [made, pairs]
        rfl
      slowestTraces := spanCounts_sumTo answered.slowestTraces fun _ _ => rfl
      errorRateTrend := by
        rw [answered.errorRateTrend]
        exact errorRateTrend_eq offset period now projectId table
      topErrorMessages := by
        rw [getOverview, ← length_errors]
        exact spanCounts_sumTo answered.topErrorMessages fun _ _ => rfl
      errorsByModel := errorRates_sumTo answered.errorsByModel
      errorsByProvider := errorRates_sumTo answered.errorsByProvider
      recentFailedTraces := by
        refine sumsTo_of_isRanked answered.recentFailedTraces (fun _ members row describes => ?_)
          (fun _ _ => Nat.zero_le _) ((sum_map_one _).trans (length_errors _))
        rw [describes.errorCount, sum_map_one]
      errorFingerprints := by
        refine sumsTo_of_isRanked answered.errorFingerprints.isRanked
          (fun _ members row describes => ?_) (fun _ _ => Nat.zero_le _)
          ((sum_map_one _).trans (length_errorRows locale _))
        rw [describes.errorCount, sum_map_one] }

theorem analytics_agree_denied :
    AnalyticsAgree .posix
      (SpanTable.since 1 (0 - Period.oneHour.toInterval) (deniedTable "one"))
      (getOverview .oneHour 0 1 (deniedTable "one"))
      (getTimeseries 0 .oneHour 0 1 (deniedTable "one"))
      (getAnalytics .posix 0 .oneHour 0
        (SpanTable.since 1 (0 - Period.oneHour.toInterval) (deniedTable "one"))) := by
  refine analytics_agree .posix 0 .oneHour 0 1 (deniedTable "one") (fun span member => ?_)
    (isAnalytics_getAnalytics ..)
  rw [List.mem_singleton.mp member]
  exact le_refl 0

end LlmObs.Backend
