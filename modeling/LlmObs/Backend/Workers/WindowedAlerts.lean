import LlmObs.Backend.Api.AlertRules
import LlmObs.Backend.Workers.BucketRefinement
import LlmObs.Foundation.BinaryFloat
import LlmObs.Foundation.Percentile
import LlmObs.Foundation.TimeSeries
import Mathlib.Algebra.Order.BigOperators.Group.List

/-!
Owns `evaluate_windowed_alert_rule` over the stored spans and their buckets, in exact
arithmetic up to the conversion to floats. It says which rules some set of stored spans can
trigger, and so which accepted rules can ever fire.
-/

namespace LlmObs.Backend

open LlmObs.Foundation

/-! ### The evaluation -/

/-- The metrics that `evaluate_scheduled_alert_rules` selects. -/
def AlertMetric.isWindowed : AlertMetric → Bool
  | .latencyP95 | .errorRate | .costHourly => true
  | .anomaly => false

/-- `_rule_threshold` -/
def ruleThreshold (rule : AlertRuleRow) : Option BinaryFloat := rule.threshold.map toFloat

/-- `_condition_matches` -/
def conditionMatches (condition : AlertCondition) (value threshold : BinaryFloat) : Bool :=
  match condition with
  | .gt => decide (threshold < value)
  | .lt => decide (value < threshold)
  | .anomaly => false

/-- The query of the metric `latency_p95`: the value and the sample count. -/
def queryLatencyP95 (now : Int) (projectId : UUID) (windowMinutes : Nat) (spans : SpanTable) :
    ℚ × Nat :=
  let window := SpanTable.since projectId (now - windowMinutes * microsecondsPerMinute) spans
  ((percentileCont (95 / 100) (window.map (·.latencyMs))).getD 0, window.length)

/-- What is returned for the value and the sample count of a query. -/
def judgeValue (condition : AlertCondition) (threshold : BinaryFloat) (result : ℚ × Nat) :
    Bool × BinaryFloat :=
  let value := toFloat result.1
  if result.2 ≤ 0 then (false, value) else (conditionMatches condition value threshold, value)

/-- `evaluate_windowed_alert_rule`: whether the rule triggers, and the value. -/
def evaluateWindowedAlertRule (now : Int) (db : Database) (rule : AlertRuleRow) :
    Except PyException (Bool × BinaryFloat) :=
  match ruleThreshold rule with
  | none => .ok (false, 0)
  | some threshold =>
      match rule.metric with
      | .latencyP95 =>
          .ok (judgeValue rule.condition threshold
            (queryLatencyP95 now rule.projectId rule.windowMinutes db.spans))
      | .errorRate =>
          (queryBucketedAlertValue now rule.projectId rule.metric.text rule.windowMinutes
            db.spanMetricBuckets).map (judgeValue rule.condition threshold)
      | .costHourly =>
          (queryBucketedAlertValue now rule.projectId rule.metric.text rule.windowMinutes
            db.spanMetricBuckets).map (judgeValue rule.condition threshold)
      | .anomaly => .ok (false, 0)

/-! ### Stored spans -/

/-- `latency_ms: float = Field(ge=0, le=3_600_000)` -/
def latencyLimit : ℚ := 3600000

/-- `total_cost_usd numeric(18, 8)` -/
def bucketCostLimit : ℚ := 10 ^ 10

/-- What the schema and the columns leave of a span that is stored at an instant. -/
structure SpanRow.Storable (now : Int) (span : SpanRow) : Prop where
  latency : 0 ≤ span.latencyMs ∧ span.latencyMs ≤ latencyLimit
  cost : 0 ≤ span.costUsd ∧ span.costUsd < costLimit
  scaled : Decimal.Scaled 8 span.costUsd
  started : span.startedAt ≤ now + 5 * microsecondsPerMinute

/-- A set of stored spans, with the buckets of their minutes. -/
structure StoredSpans (now : Int) (db : Database) : Prop where
  storable : ∀ span ∈ db.spans.rows, SpanRow.Storable now span
  refines : BucketsRefineSpans db
  fits : ∀ row ∈ db.spanMetricBuckets.rows, row.totalCostUsd < bucketCostLimit

/-- The most that the bucket of a minute holds. -/
def mostBucketCost : ℚ := bucketCostLimit - 1 / 10 ^ 8

/-- The most that the spans of a window can make of a metric. A window with the skew of five
minutes has six minutes more than it is long. -/
def AlertMetric.most (metric : AlertMetric) (windowMinutes : Nat) : ℚ :=
  match metric with
  | .latencyP95 => latencyLimit
  | .errorRate => 100
  | .costHourly => (windowMinutes + 6 : ℕ) * mostBucketCost
  | .anomaly => 0

/-- The value of the metric over the spans, and the sample count. -/
def AlertMetric.measured (metric : AlertMetric) (now : Int) (projectId : UUID)
    (windowMinutes : Nat) (spans : SpanTable) : ℚ × Nat :=
  let window := SpanTable.since projectId (windowStart now windowMinutes) spans
  match metric with
  | .latencyP95 => queryLatencyP95 now projectId windowMinutes spans
  | .errorRate => (spanErrorRate window, window.length)
  | .costHourly => (spanCost window, window.length)
  | .anomaly => (0, 0)

/-- The evaluation judges the value over the spans, from whichever table it reads. -/
theorem StoredSpans.evaluate {now : Int} {db : Database} (stored : StoredSpans now db)
    {rule : AlertRuleRow} (windowed : rule.metric.isWindowed = true) {threshold : BinaryFloat}
    (loaded : ruleThreshold rule = some threshold) :
    evaluateWindowedAlertRule now db rule = .ok (judgeValue rule.condition threshold
      (rule.metric.measured now rule.projectId rule.windowMinutes db.spans)) := by
  obtain ⟨errors, costs⟩ :=
    stored.refines.alertValues now rule.projectId rule.windowMinutes
  unfold evaluateWindowedAlertRule
  rw [loaded]
  cases metric : rule.metric with
  | latencyP95 => rfl
  | errorRate =>
      simp only [AlertMetric.text, errors]
      rfl
  | costHourly =>
      simp only [AlertMetric.text, costs]
      rfl
  | anomaly =>
      rw [metric] at windowed
      cases windowed

/-! ### The range of a metric -/

section

variable {now : Int} {db : Database} (stored : StoredSpans now db)

theorem errorRate_bounds {errors count : Nat} (within : errors ≤ count) :
    0 ≤ errorRate errors count ∧ errorRate errors count ≤ 100 := by
  unfold errorRate
  split
  · norm_num
  · rename_i some'
    have positive : (0 : ℚ) < count := by exact_mod_cast Nat.pos_of_ne_zero some'
    have ratio : (errors : ℚ) / count ≤ 1 := by
      rw [div_le_one positive]
      exact_mod_cast within
    exact ⟨by positivity, by linarith⟩

include stored

theorem StoredSpans.latency_bounds (projectId : UUID) (windowMinutes : Nat) :
    0 ≤ (queryLatencyP95 now projectId windowMinutes db.spans).1 ∧
      (queryLatencyP95 now projectId windowMinutes db.spans).1 ≤ latencyLimit := by
  unfold queryLatencyP95
  dsimp only
  cases computed : percentileCont (95 / 100) ((SpanTable.since projectId
      (now - windowMinutes * microsecondsPerMinute) db.spans).map (·.latencyMs)) with
  | none => norm_num [latencyLimit]
  | some value =>
      refine percentileCont_bounds (by norm_num) (by norm_num) ?_ computed
      intro latency member
      obtain ⟨span, inWindow, rfl⟩ := List.mem_map.mp member
      exact (stored.storable span (SpanTable.mem_since.mp inWindow).1).latency

/-- The spans of one minute cost no more than its bucket holds. -/
theorem StoredSpans.minute_le (key : UUID × Int) :
    ((db.spans.rows.filter fun span => span.bucketKey = key).map (·.costUsd)).sum ≤
      mostBucketCost := by
  have scaled : Decimal.Scaled 8
      ((db.spans.rows.filter fun span => span.bucketKey = key).map (·.costUsd)).sum :=
    Decimal.scaled_sum fun value member => by
      obtain ⟨span, kept, rfl⟩ := List.mem_map.mp member
      exact (stored.storable span (List.mem_filter.mp kept).1).scaled
  have below : ((db.spans.rows.filter fun span => span.bucketKey = key).map
      (·.costUsd)).sum < bucketCostLimit := by
    have sums := stored.refines fun found => found = key
    rw [sumWhere, sumWhere, sum_spanTotals, sum_totals, Prod.mk.injEq, Prod.mk.injEq] at sums
    refine sums.2.2.symm.trans_lt ?_
    have distinct : (db.spanMetricBuckets.rows.map SpanMetricBucket.primaryKey).Nodup :=
      List.pairwise_map.mpr db.spanMetricBuckets.unique
    -- a key has at most one row
    by_cases known : ∃ row ∈ db.spanMetricBuckets.rows, row.primaryKey = key
    · obtain ⟨row, member, rfl⟩ := known
      rw [filter_key_of_nodup distinct member, List.map_singleton, List.sum_singleton]
      exact stored.fits row member
    · have nothing : db.spanMetricBuckets.rows.filter (fun row => row.primaryKey = key) = [] :=
        List.filter_eq_nil_iff.mpr fun row member same =>
          known ⟨row, member, of_decide_eq_true same⟩
      rw [nothing, List.map_nil, List.sum_nil]
      norm_num [bucketCostLimit]
  obtain ⟨steps, equal⟩ := scaled
  rw [equal, bucketCostLimit, div_lt_iff₀ (by norm_num)] at below
  rw [equal, mostBucketCost, bucketCostLimit, div_le_iff₀ (by norm_num)]
  have less : steps < 10 ^ 18 := by
    have cast : (steps : ℚ) < ((10 ^ 18 : ℤ) : ℚ) := below.trans_eq (by norm_num)
    exact_mod_cast cast
  have most : (steps : ℚ) ≤ ((10 ^ 18 - 1 : ℤ) : ℚ) := by
    exact_mod_cast (by omega : steps ≤ 10 ^ 18 - 1)
  exact most.trans_eq (by norm_num)

/-- The minutes in which the spans of a window can start. -/
def windowMinutesOf (now : Int) (windowMinutes : Nat) : List Int :=
  generateSeries (windowStart now windowMinutes)
    (Datetime.minuteOf (now + 5 * microsecondsPerMinute)) microsecondsPerMinute

omit stored in
theorem length_windowMinutesOf (now : Int) (windowMinutes : Nat) :
    (windowMinutesOf now windowMinutes).length = windowMinutes + 6 := by
  have span : Datetime.minuteOf (now + 5 * microsecondsPerMinute) -
      windowStart now windowMinutes = (windowMinutes + 5) * microsecondsPerMinute := by
    unfold windowStart Datetime.minuteOf microsecondsPerMinute
    omega
  rw [windowMinutesOf, generateSeries, List.length_map, List.length_range, span,
    Int.mul_ediv_cancel _ (by decide)]
  omega

/-- The spans of a window cost no more than its buckets hold. -/
theorem StoredSpans.spanCost_le (projectId : UUID) (windowMinutes : Nat) :
    spanCost (SpanTable.since projectId (windowStart now windowMinutes) db.spans) ≤
      (windowMinutes + 6 : ℕ) * mostBucketCost := by
  have positive : 0 < microsecondsPerMinute := by decide
  have covers : ∀ span ∈ SpanTable.since projectId (windowStart now windowMinutes) db.spans,
      ∃ minute ∈ windowMinutesOf now windowMinutes,
        id minute = Datetime.minuteOf span.startedAt := by
    intro span inWindow
    obtain ⟨member, -, since⟩ := SpanTable.mem_since.mp inWindow
    have started := (stored.storable span member).started
    refine ⟨_, (mem_generateSeries positive).mpr ?_, rfl⟩
    unfold windowStart Datetime.minuteOf microsecondsPerMinute at *
    omega
  -- the sum over the window, one minute after the other
  have minutes : sumWhere id (fun minute =>
        (((SpanTable.since projectId (windowStart now windowMinutes) db.spans).filter fun span =>
          Datetime.minuteOf span.startedAt = id minute).map (·.costUsd)).sum)
        (fun _ => true) (windowMinutesOf now windowMinutes) =
      sumWhere (fun span : SpanRow => Datetime.minuteOf span.startedAt) (·.costUsd)
        (fun _ => true) (SpanTable.since projectId (windowStart now windowMinutes) db.spans) :=
    sumWhere_groups _ (by
      rw [List.map_id]
      exact nodup_generateSeries positive _ _) covers
  simp only [sumWhere, List.filter_true] at minutes
  rw [spanCost, ← minutes, ← length_windowMinutesOf now windowMinutes, ← nsmul_eq_mul]
  refine (List.sum_le_card_nsmul _ mostBucketCost fun total member => ?_).trans_eq
    (by rw [List.length_map])
  obtain ⟨minute, -, rfl⟩ := List.mem_map.mp member
  have within : ((SpanTable.since projectId (windowStart now windowMinutes) db.spans).filter
      fun span => Datetime.minuteOf span.startedAt = id minute).Sublist
        (db.spans.rows.filter fun span => span.bucketKey = (projectId, minute)) := by
    rw [SpanTable.since, List.filter_filter]
    refine List.monotone_filter_right _ fun span kept => ?_
    simp only [Bool.and_eq_true, decide_eq_true_eq, SpanRow.bucketKey, Prod.mk.injEq] at kept ⊢
    exact ⟨kept.2.1, kept.1⟩
  refine ((within.map (·.costUsd)).sum_le_sum fun cost member => ?_).trans
    (stored.minute_le (projectId, minute))
  obtain ⟨span, kept, rfl⟩ := List.mem_map.mp member
  exact (stored.storable span (List.mem_filter.mp kept).1).cost.1

/-- No set of stored spans leaves the range of a metric. -/
theorem StoredSpans.measured_bounds (metric : AlertMetric) (projectId : UUID)
    (windowMinutes : Nat) :
    0 ≤ (metric.measured now projectId windowMinutes db.spans).1 ∧
      (metric.measured now projectId windowMinutes db.spans).1 ≤ metric.most windowMinutes := by
  cases metric with
  | latencyP95 => exact stored.latency_bounds projectId windowMinutes
  | errorRate => exact errorRate_bounds List.countP_le_length
  | costHourly =>
      refine ⟨List.sum_nonneg fun cost member => ?_, stored.spanCost_le projectId windowMinutes⟩
      obtain ⟨span, inWindow, rfl⟩ := List.mem_map.mp member
      exact (stored.storable span (SpanTable.mem_since.mp inWindow).1).cost.1
  | anomaly => exact ⟨le_refl 0, le_refl 0⟩

end

/-! ### Filled minutes -/

/-- Minutes of a project that all have the same spans. -/
structure FilledMinutes where
  minutes : List Int
  spans : List SpanRow
  distinctMinutes : minutes.Nodup
  distinctIds : (spans.map (·.id)).Nodup

/-- The span at the start of a minute of the project. -/
def SpanRow.movedTo (projectId : UUID) (minute : Int) (span : SpanRow) : SpanRow :=
  { span with projectId := projectId, startedAt := minute }

namespace FilledMinutes

variable (filled : FilledMinutes) (projectId : UUID)

def rows : List SpanRow :=
  filled.minutes.flatMap fun minute => filled.spans.map (SpanRow.movedTo projectId minute)

def bucket (minute : Int) : SpanMetricBucket where
  projectId := projectId
  bucketStart := minute
  spanCount := filled.spans.length
  errorCount := filled.spans.countP fun span => span.status = .error
  totalCostUsd := spanCost filled.spans
  latencySumMs := (filled.spans.map (·.latencyMs)).sum

theorem rows_unique : (filled.rows projectId).Pairwise fun earlier later =>
    ¬ SpanRow.primaryKey earlier = SpanRow.primaryKey later := by
  rw [rows, List.pairwise_flatMap]
  constructor
  · intro minute _
    rw [List.pairwise_map]
    refine (List.pairwise_map.mp filled.distinctIds).imp fun different same => different ?_
    exact congrArg Prod.fst same
  · refine filled.distinctMinutes.imp fun different first firstMember second secondMember same => ?_
    obtain ⟨_, -, rfl⟩ := List.mem_map.mp firstMember
    obtain ⟨_, -, rfl⟩ := List.mem_map.mp secondMember
    exact different (congrArg Prod.snd same)

theorem buckets_unique : (filled.minutes.map (filled.bucket projectId)).Pairwise
    fun earlier later => ¬ earlier.primaryKey = later.primaryKey := by
  rw [List.pairwise_map]
  exact filled.distinctMinutes.imp fun different same => different (congrArg Prod.snd same)

/-- The tables with these spans and their buckets. -/
def database : Database :=
  { Database.empty with
    spans := ⟨filled.rows projectId, filled.rows_unique projectId⟩
    spanMetricBuckets :=
      ⟨filled.minutes.map (filled.bucket projectId), filled.buckets_unique projectId⟩ }

variable {filled projectId}

theorem mem_rows {row : SpanRow} : row ∈ filled.rows projectId ↔ ∃ minute ∈ filled.minutes,
    ∃ span ∈ filled.spans, SpanRow.movedTo projectId minute span = row := by
  simp only [rows, List.mem_flatMap, List.mem_map]

/-- The spans of one minute are summed up by its bucket. -/
theorem sumWhere_minute {minute : Int} (whole : Datetime.minuteOf minute = minute)
    (selected : UUID × Int → Bool) :
    sumWhere SpanRow.bucketKey SpanRecord.totals selected
        (filled.spans.map (SpanRow.movedTo projectId minute)) =
      if selected (projectId, minute) then
        SpanMetricBucket.totals (filled.bucket projectId minute) else 0 := by
  have key (span : SpanRow) :
      SpanRow.bucketKey (SpanRow.movedTo projectId minute span) = (projectId, minute) :=
    Prod.ext rfl whole
  rw [sumWhere_map, sumWhere]
  simp only [key]
  by_cases here : selected (projectId, minute) = true
  · rw [if_pos here, List.filter_eq_self.mpr fun _ _ => here]
    exact sum_spanTotals filled.spans
  · rw [if_neg here, List.filter_eq_nil_iff.mpr fun _ _ => here]
    rfl

theorem refines (whole : ∀ minute ∈ filled.minutes, Datetime.minuteOf minute = minute) :
    BucketsRefineSpans (filled.database projectId) := by
  intro selected
  have sums (minutes : List Int) (whole : ∀ minute ∈ minutes, Datetime.minuteOf minute = minute) :
      sumWhere SpanMetricBucket.primaryKey SpanMetricBucket.totals selected
          (minutes.map (filled.bucket projectId)) =
        sumWhere SpanRow.bucketKey SpanRecord.totals selected (minutes.flatMap fun minute =>
          filled.spans.map (SpanRow.movedTo projectId minute)) := by
    induction minutes with
    | nil => rfl
    | cons minute rest inductionHypothesis =>
        rw [List.map_cons, sumWhere_cons, List.flatMap_cons, sumWhere_append,
          sumWhere_minute (whole minute (List.mem_cons_self ..)),
          inductionHypothesis fun later member => whole later (List.mem_cons_of_mem _ member)]
        rfl
  exact sums filled.minutes whole

/-- The minutes are whole and not too far ahead, the spans fit, and so do the buckets. -/
structure Fits (filled : FilledMinutes) (now : Int) : Prop where
  whole : ∀ minute ∈ filled.minutes, Datetime.minuteOf minute = minute
  started : ∀ minute ∈ filled.minutes, minute ≤ now + 5 * microsecondsPerMinute
  latency : ∀ span ∈ filled.spans, 0 ≤ span.latencyMs ∧ span.latencyMs ≤ latencyLimit
  cost : ∀ span ∈ filled.spans, 0 ≤ span.costUsd ∧ span.costUsd < costLimit
  scaled : ∀ span ∈ filled.spans, Decimal.Scaled 8 span.costUsd
  bucket : spanCost filled.spans < bucketCostLimit

theorem Fits.stored {now : Int} (fits : filled.Fits now) :
    StoredSpans now (filled.database projectId) where
  storable := by
    intro row member
    obtain ⟨minute, minuteMember, span, spanMember, rfl⟩ := mem_rows.mp member
    exact ⟨fits.latency span spanMember, fits.cost span spanMember, fits.scaled span spanMember,
      fits.started minute minuteMember⟩
  refines := refines fits.whole
  fits := by
    intro row member
    obtain ⟨minute, -, rfl⟩ := List.mem_map.mp member
    exact fits.bucket

/-- A window that begins before the minutes has all the spans. -/
theorem since_eq {start : Int} (before : ∀ minute ∈ filled.minutes, start ≤ minute) :
    SpanTable.since projectId start (filled.database projectId).spans =
      filled.rows projectId := by
  refine List.filter_eq_self.mpr fun row member => ?_
  obtain ⟨minute, minuteMember, span, -, rfl⟩ := mem_rows.mp member
  exact Bool.and_eq_true_iff.mpr
    ⟨decide_eq_true rfl, decide_eq_true (before minute minuteMember)⟩

theorem spanCost_rows : spanCost (filled.rows projectId) =
    filled.minutes.length * spanCost filled.spans := by
  have minute (minute : Int) : spanCost (filled.spans.map (SpanRow.movedTo projectId minute)) =
      spanCost filled.spans := by
    rw [spanCost, List.map_map]
    rfl
  rw [rows]
  induction filled.minutes with
  | nil => simp [spanCost]
  | cons first rest inductionHypothesis =>
      rw [List.flatMap_cons, spanCost, List.map_append, List.sum_append, ← spanCost, ← spanCost,
        minute, inductionHypothesis, List.length_cons]
      push_cast
      ring

end FilledMinutes

/-! ### The ends of a range -/

/-- A span for a filled minute. -/
def alertSpan (id : UUID) (latencyMs costUsd : ℚ) (status : SpanStatus) : SpanRow where
  id := id
  traceId := 1
  projectId := 1
  parentSpanId := none
  name := "llm_call"
  provider := "openai"
  model := "gpt-4o"
  inputTokens := 0
  outputTokens := 0
  costUsd := costUsd
  latencyMs := latencyMs
  status := status
  error := none
  startedAt := 0
  payloadS3Key := none
  payloadStatus := .omitted
  payloadDropReason := none
  metadata := []

/-- One span in the current minute. -/
def currentSpan (now : Int) (latencyMs : ℚ) (status : SpanStatus) : FilledMinutes where
  minutes := [Datetime.minuteOf now]
  spans := [alertSpan 1 latencyMs 0 status]
  distinctMinutes := List.nodup_singleton _
  distinctIds := List.nodup_singleton _

theorem fits_currentSpan (now : Int) {latencyMs : ℚ} (status : SpanStatus)
    (nonneg : 0 ≤ latencyMs) (most : latencyMs ≤ latencyLimit) :
    (currentSpan now latencyMs status).Fits now where
  whole := by
    intro minute member
    rw [List.mem_singleton.mp member]
    unfold Datetime.minuteOf microsecondsPerMinute
    omega
  started := by
    intro minute member
    rw [List.mem_singleton.mp member]
    unfold Datetime.minuteOf microsecondsPerMinute
    omega
  latency := by
    intro span member
    rw [List.mem_singleton.mp member]
    exact ⟨nonneg, most⟩
  cost := by
    intro span member
    rw [List.mem_singleton.mp member]
    norm_num [alertSpan, costLimit]
  scaled := by
    intro span member
    rw [List.mem_singleton.mp member]
    exact Decimal.scaled_zero 8
  bucket := by
    norm_num [spanCost, currentSpan, alertSpan, bucketCostLimit]

/-- The window of every rule has the current minute. -/
theorem windowStart_le_minuteOf {windowMinutes : Nat} (now : Int) :
    windowStart now windowMinutes ≤ Datetime.minuteOf now := by
  unfold windowStart Datetime.minuteOf microsecondsPerMinute
  omega

theorem measured_currentSpan (metric : AlertMetric) (now : Int) (projectId : UUID)
    {windowMinutes : Nat} (window : 1 ≤ windowMinutes) (latencyMs : ℚ) (status : SpanStatus) :
    metric.measured now projectId windowMinutes
        ((currentSpan now latencyMs status).database projectId).spans =
      match metric with
      | .latencyP95 => (latencyMs, 1)
      | .errorRate => (if status = .error then 100 else 0, 1)
      | .costHourly => (0, 1)
      | .anomaly => (0, 0) := by
  have since : SpanTable.since projectId (windowStart now windowMinutes)
      ((currentSpan now latencyMs status).database projectId).spans =
        (currentSpan now latencyMs status).rows projectId :=
    FilledMinutes.since_eq fun minute member =>
      (windowStart_le_minuteOf now).trans_eq (List.mem_singleton.mp member).symm
  cases metric with
  | latencyP95 =>
      have recent : SpanTable.since projectId (now - windowMinutes * microsecondsPerMinute)
          ((currentSpan now latencyMs status).database projectId).spans =
            (currentSpan now latencyMs status).rows projectId := by
        refine FilledMinutes.since_eq fun minute member => ?_
        rw [List.mem_singleton.mp member]
        unfold Datetime.minuteOf microsecondsPerMinute
        omega
      rw [AlertMetric.measured, queryLatencyP95, recent]
      simp [FilledMinutes.rows, currentSpan, SpanRow.movedTo, alertSpan]
  | errorRate =>
      rw [AlertMetric.measured, since]
      by_cases failed : status = .error
      · simp [FilledMinutes.rows, currentSpan, SpanRow.movedTo, alertSpan, spanErrorRate,
          errorRate, failed]
      · simp [FilledMinutes.rows, currentSpan, SpanRow.movedTo, alertSpan, spanErrorRate,
          errorRate, failed]
  | costHourly =>
      rw [AlertMetric.measured, since]
      simp [FilledMinutes.rows, currentSpan, SpanRow.movedTo, alertSpan, spanCost]
  | anomaly => rfl

/-- The costs of a minute whose bucket holds as much as it can. -/
def fullMinute : List SpanRow :=
  alertSpan 0 0 ((10 ^ 6 - 1) / 10 ^ 8) .ok :: (List.range (10 ^ 6)).map fun index =>
    alertSpan (BitVec.ofNat 128 (index + 1)) 0 (10 ^ 4 - 1 / 10 ^ 8) .ok

theorem mem_fullMinute {span : SpanRow} (member : span ∈ fullMinute) :
    span.latencyMs = 0 ∧
      (span.costUsd = (10 ^ 6 - 1) / 10 ^ 8 ∨ span.costUsd = 10 ^ 4 - 1 / 10 ^ 8) := by
  rcases List.mem_cons.mp member with rfl | later
  · exact ⟨rfl, Or.inl rfl⟩
  · obtain ⟨index, -, rfl⟩ := List.mem_map.mp later
    exact ⟨rfl, Or.inr rfl⟩

theorem spanCost_fullMinute : spanCost fullMinute = mostBucketCost := by
  have others : ((List.range (10 ^ 6)).map fun index =>
      (alertSpan (BitVec.ofNat 128 (index + 1)) 0 (10 ^ 4 - 1 / 10 ^ 8) .ok).costUsd).sum =
        ((10 ^ 6 : ℕ) : ℚ) * (10 ^ 4 - 1 / 10 ^ 8) := by
    simp only [alertSpan, List.map_const', List.sum_replicate, List.length_range, nsmul_eq_mul]
  rw [spanCost, fullMinute, List.map_cons, List.sum_cons, List.map_map]
  refine (congrArg _ others).trans ?_
  norm_num [alertSpan, mostBucketCost, bucketCostLimit]

theorem distinctIds_fullMinute : (fullMinute.map (·.id)).Nodup := by
  have value {index : Nat} (inside : index < 10 ^ 6) :
      (BitVec.ofNat 128 (index + 1)).toNat = index + 1 := by
    rw [BitVec.toNat_ofNat]
    exact Nat.mod_eq_of_lt (by omega)
  rw [fullMinute, List.map_cons, List.map_map, List.nodup_cons]
  constructor
  · intro member
    obtain ⟨index, inside, same⟩ := List.mem_map.mp member
    have equal := congrArg BitVec.toNat same
    rw [Function.comp_apply, alertSpan, value (List.mem_range.mp inside)] at equal
    cases equal
  · refine List.Nodup.map_on (fun left leftInside right rightInside same => ?_) List.nodup_range
    have equal := congrArg BitVec.toNat same
    simp only [Function.comp_apply, alertSpan, value (List.mem_range.mp leftInside),
      value (List.mem_range.mp rightInside)] at equal
    omega

/-- Full minutes all through a window. -/
def fullWindow (now : Int) (windowMinutes : Nat) : FilledMinutes where
  minutes := windowMinutesOf now windowMinutes
  spans := fullMinute
  distinctMinutes := nodup_generateSeries (by decide) _ _
  distinctIds := distinctIds_fullMinute

theorem mem_windowMinutesOf {now : Int} {windowMinutes : Nat} {minute : Int}
    (member : minute ∈ windowMinutesOf now windowMinutes) :
    windowStart now windowMinutes ≤ minute ∧ Datetime.minuteOf minute = minute ∧
      minute ≤ now + 5 * microsecondsPerMinute := by
  obtain ⟨above, below, steps⟩ := (mem_generateSeries (by decide)).mp member
  unfold windowStart Datetime.minuteOf microsecondsPerMinute at *
  omega

theorem fits_fullWindow (now : Int) (windowMinutes : Nat) :
    (fullWindow now windowMinutes).Fits now where
  whole := fun minute member => (mem_windowMinutesOf member).2.1
  started := fun minute member => (mem_windowMinutesOf member).2.2
  latency := by
    intro span member
    rw [(mem_fullMinute member).1]
    norm_num [latencyLimit]
  cost := by
    intro span member
    rcases (mem_fullMinute member).2 with cost | cost
    · rw [cost, costLimit]
      norm_num
    · rw [cost, costLimit]
      norm_num
  scaled := by
    intro span member
    rcases (mem_fullMinute member).2 with cost | cost
    · exact ⟨10 ^ 6 - 1, by rw [cost]; norm_num⟩
    · exact ⟨10 ^ 12 - 1, by rw [cost]; norm_num⟩
  bucket := by
    have cost := spanCost_fullMinute
    rw [fullWindow, cost, mostBucketCost]
    norm_num [bucketCostLimit]

theorem measured_fullWindow (now : Int) (projectId : UUID) (windowMinutes : Nat) :
    AlertMetric.costHourly.measured now projectId windowMinutes
        ((fullWindow now windowMinutes).database projectId).spans =
      (AlertMetric.costHourly.most windowMinutes,
        ((fullWindow now windowMinutes).rows projectId).length) := by
  have since : SpanTable.since projectId (windowStart now windowMinutes)
      ((fullWindow now windowMinutes).database projectId).spans =
        (fullWindow now windowMinutes).rows projectId :=
    FilledMinutes.since_eq fun minute member => (mem_windowMinutesOf member).1
  have count := length_windowMinutesOf now windowMinutes
  have cost := spanCost_fullMinute
  rw [AlertMetric.measured, since, FilledMinutes.spanCost_rows, AlertMetric.most]
  simp only [fullWindow, cost, count]

/-- Some stored spans reach the upper end of the range. -/
theorem exists_most {metric : AlertMetric} (windowed : metric.isWindowed = true) (now : Int)
    (projectId : UUID) {windowMinutes : Nat} (window : 1 ≤ windowMinutes) :
    ∃ db count, StoredSpans now db ∧ 0 < count ∧
      metric.measured now projectId windowMinutes db.spans =
        (metric.most windowMinutes, count) := by
  cases metric with
  | latencyP95 =>
      have fits := fits_currentSpan now .ok (by norm_num [latencyLimit]) (le_refl latencyLimit)
      exact ⟨_, 1, fits.stored, Nat.one_pos,
        measured_currentSpan .latencyP95 now projectId window latencyLimit .ok⟩
  | errorRate =>
      have fits := fits_currentSpan now .error (le_refl 0) (by norm_num [latencyLimit])
      exact ⟨_, 1, fits.stored, Nat.one_pos,
        measured_currentSpan .errorRate now projectId window 0 .error⟩
  | costHourly =>
      refine ⟨_, _, (fits_fullWindow now windowMinutes).stored, ?_,
        measured_fullWindow now projectId windowMinutes⟩
      have minutes : windowMinutesOf now windowMinutes ≠ [] := by
        rw [← List.length_pos_iff_ne_nil, length_windowMinutesOf]
        omega
      obtain ⟨minute, member⟩ := List.exists_mem_of_ne_nil _ minutes
      exact List.length_pos_of_mem
        (FilledMinutes.mem_rows.mpr ⟨minute, member, _, List.mem_cons_self .., rfl⟩)
  | anomaly => cases windowed

/-- Some stored span reaches the lower end of the range. -/
theorem exists_zero {metric : AlertMetric} (windowed : metric.isWindowed = true) (now : Int)
    (projectId : UUID) {windowMinutes : Nat} (window : 1 ≤ windowMinutes) :
    ∃ db count, StoredSpans now db ∧ 0 < count ∧
      metric.measured now projectId windowMinutes db.spans = (0, count) := by
  have fits := fits_currentSpan now .ok (le_refl 0) (by norm_num [latencyLimit])
  have measured := measured_currentSpan metric now projectId window 0 .ok
  refine ⟨_, 1, fits.stored, Nat.one_pos, measured.trans ?_⟩
  cases metric with
  | latencyP95 | errorRate | costHourly => rfl
  | anomaly => cases windowed

/-! ### Which rules can trigger -/

/-- The rule compares, and its threshold as a float lies inside the range of its metric. -/
def AlertRuleRow.InRange (rule : AlertRuleRow) : Prop :=
  ∃ threshold, rule.threshold = some threshold ∧
    (rule.condition = .gt ∧ toFloat threshold < toFloat (rule.metric.most rule.windowMinutes) ∨
      rule.condition = .lt ∧ 0 < toFloat threshold)

/-- Some set of stored spans triggers the rule. -/
def AlertRuleRow.CanTrigger (rule : AlertRuleRow) (now : Int) : Prop :=
  ∃ db value, StoredSpans now db ∧ evaluateWindowedAlertRule now db rule = .ok (true, value)

theorem canTrigger_iff {rule : AlertRuleRow} (windowed : rule.metric.isWindowed = true)
    (now : Int) : rule.CanTrigger now ↔ rule.InRange := by
  constructor
  · rintro ⟨db, value, stored, evaluated⟩
    cases given : rule.threshold with
    | none =>
        rw [evaluateWindowedAlertRule, ruleThreshold, given] at evaluated
        cases evaluated
    | some threshold =>
        have loaded : ruleThreshold rule = some (toFloat threshold) := by
          rw [ruleThreshold, given, Option.map_some]
        obtain ⟨lower, upper⟩ :=
          stored.measured_bounds rule.metric rule.projectId rule.windowMinutes
        rw [stored.evaluate windowed loaded, judgeValue, Except.ok.injEq] at evaluated
        split at evaluated
        · cases evaluated
        · have matches' := congrArg Prod.fst evaluated
          refine ⟨threshold, given, ?_⟩
          cases condition : rule.condition with
          | gt =>
              rw [condition] at matches'
              exact Or.inl ⟨rfl, (of_decide_eq_true matches').trans_le
                (toFloat_mono lower upper)⟩
          | lt =>
              rw [condition] at matches'
              exact Or.inr ⟨rfl, (toFloat_nonneg lower).trans_lt (of_decide_eq_true matches')⟩
          | anomaly =>
              rw [condition] at matches'
              cases matches'
  · rintro ⟨threshold, given, compares⟩
    have loaded : ruleThreshold rule = some (toFloat threshold) := by
      rw [ruleThreshold, given, Option.map_some]
    have triggers {db : Database} {value : ℚ} {count : Nat} (stored : StoredSpans now db)
        (sampled : 0 < count)
        (measured : rule.metric.measured now rule.projectId rule.windowMinutes db.spans =
          (value, count))
        (holds : conditionMatches rule.condition (toFloat value) (toFloat threshold) = true) :
        rule.CanTrigger now := by
      refine ⟨db, toFloat value, stored, ?_⟩
      rw [stored.evaluate windowed loaded, measured, judgeValue]
      simp only [holds, if_neg (Nat.not_le.mpr sampled)]
    rcases compares with ⟨condition, below⟩ | ⟨condition, above⟩
    · obtain ⟨db, count, stored, sampled, measured⟩ :=
        exists_most windowed now rule.projectId rule.windowMinutes_ge
      refine triggers stored sampled measured ?_
      rw [condition]
      exact decide_eq_true below
    · obtain ⟨db, count, stored, sampled, measured⟩ :=
        exists_zero windowed now rule.projectId rule.windowMinutes_ge
      refine triggers stored sampled measured ?_
      rw [condition, toFloat_zero]
      exact decide_eq_true above

/-! ### Accepted rules -/

/-- While the rule is active it has a target, and some stored spans trigger it if its metric
is windowed. -/
def AlertRuleRow.Actionable (rule : AlertRuleRow) (now : Int) : Prop :=
  rule.isActive = true →
    rule.hasTarget = true ∧ (rule.metric.isWindowed = true → rule.CanTrigger now)

/-- A rule that accepted requests lead to is actionable exactly when it compares with a
threshold inside the range of its metric. -/
theorem actionable_iff {library : UrlLibrary} {emails : EmailLibrary} {table : AlertRuleTable}
    {requests : List AlertRequest}
    (ran : (alertRequests library emails).run Table.empty requests = some table)
    {rule : AlertRuleRow} (stored : rule ∈ table.rows) (now : Int) :
    rule.Actionable now ↔
      (rule.isActive = true → rule.metric.isWindowed = true → rule.InRange) := by
  have valid := valid_run ran rule stored
  constructor
  · intro actionable active windowed
    exact (canTrigger_iff windowed now).mp ((actionable active).2 windowed)
  · intro inRange active
    exact ⟨valid.target, fun windowed =>
      (canTrigger_iff windowed now).mpr (inRange active windowed)⟩

/-! ### Two rules -/

/-- No text is a URL, and every text is without blanks and in lower case. -/
def plainTexts : UrlLibrary where
  strip := id
  lower := id
  stripBrackets := id
  urlparse := fun _ => .error "not a URL"
  urljoin := fun _ _ => .error "not a URL"
  ipAddress := fun _ => .error "not an address"
  hostname_normal := fun parsed => by cases parsed

/-- Every text with an at sign is an address. -/
def addressTexts : EmailLibrary where
  validateEmail := fun text =>
    if '@' ∈ text.toList then .ok text else .error "not an email address"
  validateEmail_ne := by
    intro text address validated
    split at validated
    · rename_i sign
      cases validated
      rintro rfl
      cases sign
    · cases validated

def alertOwner : SignedInUser where
  orgId := 1
  role := "admin"
  sub := 1

/-- The accounts of one project. -/
def alertAccounts : AccountDatabase :=
  { AccountDatabase.empty with
    projects := ⟨[⟨1, 1, "chat", "", true⟩], List.pairwise_singleton _ _⟩ }

def errorRateRule (condition : AlertCondition) (threshold : Option ℚ) : AlertRuleCreate where
  projectId := 1
  name := "errors"
  metric := .errorRate
  condition := condition
  threshold := threshold
  notifyEmail := some "ops@example.com"

/-- The table after an accepted `create_rule` of an error rate. -/
def errorRateTable (condition : AlertCondition) (threshold : Option ℚ) : AlertRuleTable :=
  ⟨[(errorRateRule condition threshold).row 1], List.pairwise_singleton _ _⟩

theorem actionable_iff_halfErrors :
    ((errorRateRule .gt (some 50)).row 1).Actionable 0 ↔
      (true = true → true = true → ((errorRateRule .gt (some 50)).row 1).InRange) := by
  have ran : (alertRequests plainTexts addressTexts).run Table.empty
      [.create alertAccounts alertOwner 1 (errorRateRule .gt (some 50))] =
        some (errorRateTable .gt (some 50)) := rfl
  exact actionable_iff ran (List.mem_singleton.mpr rfl) 0

/-- An error rate is accepted with the condition for anomalies, which nothing meets. -/
theorem anomalousErrorRate_not_actionable :
    (alertRequests plainTexts addressTexts).run Table.empty
        [.create alertAccounts alertOwner 1 (errorRateRule .anomaly none)] =
      some (errorRateTable .anomaly none) ∧
    ¬ ((errorRateRule .anomaly none).row 1).Actionable 0 := by
  refine ⟨rfl, fun actionable => ?_⟩
  obtain ⟨threshold, given, -⟩ := (canTrigger_iff rfl 0).mp ((actionable rfl).2 rfl)
  cases given

end LlmObs.Backend
