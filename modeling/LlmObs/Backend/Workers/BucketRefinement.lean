import LlmObs.Backend.Workers.BatchConsistency
import LlmObs.Backend.Workers.BucketTotals
import LlmObs.Foundation.Machine

/-!
Owns that the minute buckets refine the stored spans: after every sequence of committed
batches with aware starts, the alert values that are computed over the buckets are
those over the spans of the window.
-/

namespace LlmObs.Backend

open LlmObs.Foundation

/-! ### Committed runs -/

/-- One run of `process_span_batch`, and all that it finds besides the spans and the
buckets: other tasks may have changed it. -/
structure BatchRun where
  runtime : Runtime
  env : AttemptEnv
  projectId : UUID
  spans : List SpanSchema
  surroundings : World

/-- The world in which the run starts. -/
def BatchRun.world (run : BatchRun) (db : Database) : World :=
  { run.surroundings with
    db := { run.surroundings.db with
      spans := db.spans
      spanMetricBuckets := db.spanMetricBuckets } }

/-- What PostgreSQL checks of the inserted values: `cost_usd numeric(12, 8)`, and the
`span_count integer` of the record set. -/
def FitsColumns (inserted : List PreparedSpan) : Prop :=
  (∀ span ∈ inserted, |span.costUsd| < costLimit) ∧
    ∀ values ∈ accumulateBuckets inserted, values.spanCount < countLimit

instance (inserted : List PreparedSpan) : Decidable (FitsColumns inserted) :=
  inferInstanceAs (Decidable ((∀ _ ∈ _, _ < _) ∧ ∀ _ ∈ _, _ < _))

/-- The database after a run that commits. -/
def BatchRun.commit (db : Database) (run : BatchRun) : Option Database :=
  let attempt := processSpanBatch run.runtime run.env run.projectId run.spans (run.world db)
  match attempt.committed with
  | some stored =>
      if FitsColumns stored.batch.insertedSpans then some attempt.world.db else none
  | none => none

def batchRuns : Machine Database BatchRun := ⟨BatchRun.commit⟩

/-! ### The spans of a window -/

/-- The stored spans of the project that start at or after `start`. -/
def SpanTable.since (projectId : UUID) (start : Int) (table : SpanTable) : List SpanRow :=
  table.rows.filter fun row => decide (row.projectId = projectId) && decide (start ≤ row.startedAt)

theorem SpanTable.mem_since {projectId : UUID} {start : Int} {table : SpanTable}
    {row : SpanRow} :
    row ∈ SpanTable.since projectId start table ↔
      row ∈ table.rows ∧ row.projectId = projectId ∧ start ≤ row.startedAt := by
  rw [SpanTable.since, List.mem_filter, Bool.and_eq_true, decide_eq_true_eq, decide_eq_true_eq]

def spanErrorRate (spans : List SpanRow) : ℚ :=
  errorRate (spans.countP fun span => span.status = .error) spans.length

def spanCost (spans : List SpanRow) : ℚ := (spans.map (·.costUsd)).sum

/-! ### What a run adds -/

/-- The project and the minute of a stored span. -/
def SpanRow.bucketKey (row : SpanRow) : UUID × Int :=
  (row.projectId, Datetime.minuteOf row.startedAt)

/-- Over any choice of projects and minutes, the buckets sum up to the spans. -/
def BucketsRefineSpans (db : Database) : Prop :=
  ∀ selected : UUID × Int → Bool,
    sumWhere SpanMetricBucket.primaryKey SpanMetricBucket.totals selected
        db.spanMetricBuckets.rows =
      sumWhere SpanRow.bucketKey SpanRecord.totals selected db.spans.rows

theorem scaled_of_calculate {runtime : Runtime} {prices : ModelPricingTable}
    {provider model : String} {inputTokens outputTokens : Nat} {atTime : Datetime}
    {intervals nextIntervals : BatchPricingIntervals} {cache nextCache : PricingCache} {cost : ℚ}
    (calculated : calculate runtime prices provider model inputTokens outputTokens atTime
      intervals cache = (.ok cost, nextIntervals, nextCache)) : Decimal.Scaled 8 cost := by
  unfold calculate at calculated
  split at calculated
  · cases calculated
  · cases calculated
    exact Decimal.scaled_zero 8
  · rename_i pricing intervals cache _
    have priced := congrArg Prod.fst calculated
    dsimp only [costOf] at priced
    split at priced
    · rename_i rounded quantized
      cases priced
      exact Decimal.scaled_of_quantize? quantized
    · cases priced

/-- What the buckets need of a prepared span. -/
structure SpanSchema.PricesTo (projectId : UUID) (span : SpanSchema)
    (prepared : PreparedSpan) : Prop where
  projectId : prepared.projectId = projectId
  startedAt : prepared.startedAt = span.startedAt
  scaled : Decimal.Scaled 8 prepared.costUsd

theorem prepareSpan_prices {runtime : Runtime} {env : AttemptEnv} {prices : ModelPricingTable}
    {settings : PayloadPrivacySettings} {projectId : UUID} {index : Nat} {span : SpanSchema}
    {state next : PrepareState} {prepared : PreparedSpan}
    (done : prepareSpan runtime env prices settings projectId index span state =
      (.ok prepared, next)) : span.PricesTo projectId prepared := by
  simp only [prepareSpan] at done
  split at done
  · cases done
  · split at done
    · cases done
    · rename_i cost intervals cache calculated
      split at done
      · cases done
      · simp only [Prod.mk.injEq, Except.ok.injEq] at done
        obtain ⟨rfl, -⟩ := done
        exact ⟨rfl, rfl, scaled_of_calculate calculated⟩

theorem prepareBatch_prices {runtime : Runtime} {env : AttemptEnv} {projectId : UUID}
    {spans : List SpanSchema} {world : World} {prepared : List PreparedSpan} {failed : Nat}
    (done : (prepareBatch runtime env projectId spans world).1 = .ok (prepared, failed)) :
    ∀ span ∈ prepared, ∃ source ∈ spans, source.PricesTo projectId span :=
  (prepareBatch_keeps (fun _ _ _ _ _ prepares => prepareSpan_prices prepares) done).2

/-- A committed run of a batch with aware starts keeps the refinement. -/
theorem BucketsRefineSpans.commit {db next : Database} {run : BatchRun}
    (refines : BucketsRefineSpans db) (aware : ∀ span ∈ run.spans, span.startedAt.Aware)
    (committed : batchRuns.step db run = some next) : BucketsRefineSpans next := by
  intro selected
  simp only [batchRuns, BatchRun.commit] at committed
  split at committed
  · rename_i stored isCommitted
    split at committed
    · rename_i fits
      cases committed
      have attempt := attemptCommitted_of_committed isCommitted
      have prices := prepareBatch_prices attempt.prepares
      have preparedAware : ∀ span ∈ stored.prepared, span.startedAt.Aware := by
        intro span member
        obtain ⟨source, inBatch, priced⟩ := prices span member
        rw [priced.startedAt]
        exact aware source inBatch
      have inserted := attempt.stores.inserted
      rw [recognisedSpans_of_aware preparedAware] at inserted
      have ofPrepared : ∀ span ∈ stored.batch.insertedSpans, span ∈ stored.prepared := by
        rw [inserted]
        exact fun span member => (firstNew_sublist _ _).subset member
      have costs : ∀ span ∈ stored.batch.insertedSpans, PreparedSpan.CostFits span := by
        intro span member
        obtain ⟨source, -, priced⟩ := prices span (ofPrepared span member)
        exact ⟨priced.scaled, (fits.1 span member).le⟩
      rw [totals_updateSpanMetricBuckets attempt.stores.inserted_aware costs fits.2
        attempt.stores.buckets selected, attempt.stores.spans, sumWhere_append, ← inserted,
        sumWhere_map]
      congr 1
      · exact refines selected
      · refine sumWhere_congr (fun span member => ?_) fun _ _ => rfl
        obtain ⟨source, -, priced⟩ := prices span (ofPrepared span member)
        rw [SpanRow.bucketKey, PreparedSpan.toRow, priced.projectId]
        rfl
    · cases committed
  · cases committed

/-! ### The query -/

theorem minuteOf_le_minuteOf_iff (start instant : Int) :
    Datetime.minuteOf start ≤ Datetime.minuteOf instant ↔ Datetime.minuteOf start ≤ instant := by
  unfold Datetime.minuteOf microsecondsPerMinute
  omega

/-- Sums of totals are the sums of their parts. -/
theorem sum_totals {Row : Type} (totals : Row → MetricTotals) (rows : List Row) :
    (rows.map totals).sum = ((rows.map fun row => (totals row).1).sum,
      (rows.map fun row => (totals row).2.1).sum, (rows.map fun row => (totals row).2.2).sum) := by
  induction rows with
  | nil => rfl
  | cons row rest inductionHypothesis =>
      simp only [List.map_cons, List.sum_cons, inductionHypothesis]
      rfl

theorem sum_spanTotals (spans : List SpanRow) :
    (spans.map SpanRecord.totals).sum = (spans.length,
      spans.countP (fun span => span.status = .error), spanCost spans) := by
  rw [sum_totals]
  refine Prod.ext ?_ (Prod.ext ?_ rfl)
  · simp [SpanRecord.totals]
  · dsimp only
    induction spans with
    | nil => rfl
    | cons span rest inductionHypothesis =>
        rw [List.map_cons, List.sum_cons, inductionHypothesis, List.countP_cons, Nat.add_comm]
        simp [SpanRecord.totals]

/-- The buckets of a window sum up to its spans. -/
theorem BucketsRefineSpans.window {db : Database} (refines : BucketsRefineSpans db) (now : Int)
    (projectId : UUID) (windowMinutes : Nat) :
    ((db.spanMetricBuckets.rows.filter fun row => decide (row.projectId = projectId) &&
        decide (windowStart now windowMinutes ≤ row.bucketStart)).map
          SpanMetricBucket.totals).sum =
      ((SpanTable.since projectId (windowStart now windowMinutes) db.spans).map
        SpanRecord.totals).sum := by
  refine (refines fun key => decide (key.1 = projectId) &&
    decide (windowStart now windowMinutes ≤ key.2)).trans ?_
  unfold sumWhere SpanTable.since SpanRow.bucketKey windowStart
  simp only [minuteOf_le_minuteOf_iff]

/-- So the bucketed alert values are those of the project's spans that start in the window. -/
theorem BucketsRefineSpans.alertValues {db : Database} (refines : BucketsRefineSpans db)
    (now : Int) (projectId : UUID) (windowMinutes : Nat) :
    let window := SpanTable.since projectId (windowStart now windowMinutes) db.spans
    queryBucketedAlertValue now projectId "error_rate" windowMinutes db.spanMetricBuckets =
        .ok (spanErrorRate window, window.length) ∧
      queryBucketedAlertValue now projectId "cost_hourly" windowMinutes db.spanMetricBuckets =
        .ok (spanCost window, window.length) := by
  intro window
  have sums := refines.window now projectId windowMinutes
  rw [sum_totals, sum_spanTotals, Prod.mk.injEq, Prod.mk.injEq] at sums
  obtain ⟨counts, errors, costs⟩ := sums
  simp only [SpanMetricBucket.totals] at counts errors costs
  constructor
  · simp only [queryBucketedAlertValue, counts, errors]
    rfl
  · simp only [queryBucketedAlertValue, counts, costs]
    rfl

/-- After every sequence of committed runs over batches with aware starts, the bucketed
alert values are those of the project's stored spans that start in the window. -/
theorem bucketedAlertValue_eq_spans {runs : List BatchRun} {db : Database}
    (aware : ∀ run ∈ runs, ∀ span ∈ run.spans, span.startedAt.Aware)
    (reached : batchRuns.run .empty runs = some db) (now : Int) (projectId : UUID)
    (windowMinutes : Nat) :
    let window := SpanTable.since projectId (windowStart now windowMinutes) db.spans
    queryBucketedAlertValue now projectId "error_rate" windowMinutes db.spanMetricBuckets =
        .ok (spanErrorRate window, window.length) ∧
      queryBucketedAlertValue now projectId "cost_hourly" windowMinutes db.spanMetricBuckets =
        .ok (spanCost window, window.length) := by
  have refines : BucketsRefineSpans db := by
    refine batchRuns.run_invariant BucketsRefineSpans
      (fun _ _ _ refines aware committed => refines.commit aware committed)
      (fun _ => rfl) ?_ reached
    exact batchRuns.along_of_forall (fun run member _ => aware run member) .empty
  exact refines.alertValues now projectId windowMinutes

/-- A failed span of project 9 at the start of 1970, in a zone two hours ahead. -/
def failedSpan : SpanSchema :=
  { spanStartingAt ⟨120 * microsecondsPerMinute, some 120⟩ with
    error := some "timeout"
    error_le := by decide }

/-- A batch with a resent span, and one with the same span a minute later. -/
def resentBatches : List BatchRun :=
  [[failedSpan, failedSpan], [failedSpan, { failedSpan with startedAt := .utc 60000000 }]].map
    fun spans => ⟨.inUtc, .faultless, 9, spans, .ofDatabase (.ofProject 9)⟩

theorem bucketedAlertValue_eq_spans_resent :
    ∃ db, batchRuns.run .empty resentBatches = some db ∧
      queryBucketedAlertValue 150000000 9 "error_rate" 2 db.spanMetricBuckets =
        .ok (spanErrorRate (SpanTable.since 9 0 db.spans),
          (SpanTable.since 9 0 db.spans).length) := by
  obtain ⟨db, reached⟩ : ∃ db, batchRuns.run .empty resentBatches = some db :=
    Option.isSome_iff_exists.mp (by decide +kernel)
  exact ⟨db, reached, (bucketedAlertValue_eq_spans (by decide) reached 150000000 9 2).1⟩

end LlmObs.Backend
