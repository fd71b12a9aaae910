import LlmObs.Backend.Workers.DerivedRows
import Mathlib.Algebra.Group.Prod

/-!
Owns what the buckets of one batch sum up to: over any choice of projects and minutes,
the counts, errors and costs of its spans, exactly. The context of 28 digits rounds no
cost off as long as the values fit the columns they are stored in.
-/

namespace LlmObs.Backend

open LlmObs.Foundation

/-! ### Totals -/

/-- Spans, errors and cost. -/
abbrev MetricTotals := ℕ × ℕ × ℚ

def SpanMetricBucket.totals (row : SpanMetricBucket) : MetricTotals :=
  (row.spanCount, row.errorCount, row.totalCostUsd)

def BucketValues.totals (values : BucketValues) : MetricTotals :=
  (values.spanCount, values.errorCount, values.totalCostUsd)

def SpanRecord.totals {Time : Type} (span : SpanRecord Time) : MetricTotals :=
  (1, if span.status = .error then 1 else 0, span.costUsd)

/-- The minute of an accumulated bucket. -/
def BucketValues.minute (sessionInstant : Int → Int) (values : BucketValues) : Int :=
  values.bucketStart.toTimestamptz sessionInstant

/-- The minute of a prepared span. -/
def PreparedSpan.minute (localInstant : Int → Int) (span : PreparedSpan) : Int :=
  Datetime.minuteOf (span.startedAt.toTimestamptz localInstant)

/-! ### Values that fit their columns -/

/-- `numeric(12, 8)`. -/
def costLimit : ℚ := 10 ^ 4

/-- The bound of `span_count integer` in the record set. -/
def countLimit : Nat := 2 ^ 31

/-- The cost of the span is one that its column stores as it is. -/
structure PreparedSpan.CostFits (span : PreparedSpan) : Prop where
  scaled : Decimal.Scaled 8 span.costUsd
  bounded : |span.costUsd| ≤ costLimit

/-- The accumulated cost is one of as many spans whose costs fit. -/
structure BucketValues.CostFits (values : BucketValues) : Prop where
  scaled : Decimal.Scaled 8 values.totalCostUsd
  bounded : |values.totalCostUsd| ≤ values.spanCount * costLimit

theorem BucketValues.costFits_new (bucketStart : Datetime) :
    (BucketValues.new bucketStart).CostFits where
  scaled := Decimal.scaled_zero 8
  bounded := by simp [BucketValues.new]

/-- Below the limit of the count, adding a span adds its totals. -/
theorem BucketValues.CostFits.add {values : BucketValues} {span : PreparedSpan}
    (fits : values.CostFits) (spanFits : span.CostFits)
    (counted : (values.add span).spanCount < countLimit) :
    (values.add span).CostFits ∧
      (values.add span).totals = values.totals + SpanRecord.totals span := by
  have sum : |values.totalCostUsd + span.costUsd| ≤
      ((values.spanCount + 1 : ℕ) : ℚ) * costLimit := by
    have triangle := abs_add_le values.totalCostUsd span.costUsd
    have valuesBound := fits.bounded
    have spanBound := spanFits.bounded
    push_cast
    linarith
  have limit : ((values.spanCount + 1 : ℕ) : ℚ) ≤ 2 ^ 31 := by
    exact_mod_cast counted.le
  have exact : Decimal.add values.totalCostUsd span.costUsd =
      values.totalCostUsd + span.costUsd := by
    refine fits.scaled.add_eq spanFits.scaled ?_
    have digits : ((2 : ℚ) ^ 31 * 10 ^ 4) * 10 ^ 8 < 10 ^ Decimal.contextPrecision := by
      norm_num [Decimal.contextPrecision]
    have bound : |values.totalCostUsd + span.costUsd| ≤ 2 ^ 31 * 10 ^ 4 :=
      sum.trans (mul_le_mul_of_nonneg_right limit (by norm_num [costLimit]))
    linarith
  refine ⟨⟨?_, ?_⟩, ?_⟩
  · simp only [BucketValues.add, exact]
    exact fits.scaled.add spanFits.scaled
  · simp only [BucketValues.add, exact]
    exact sum
  · simp only [BucketValues.totals, BucketValues.add, exact, SpanRecord.totals, Prod.mk_add_mk]

/-! ### One span -/

/-- No bucket is lost, and none counts less. -/
theorem exists_addToBuckets (span : PreparedSpan) {buckets : List BucketValues}
    {old : BucketValues} (stored : old ∈ buckets) :
    ∃ values ∈ addToBuckets span buckets, old.spanCount ≤ values.spanCount := by
  induction buckets with
  | nil => cases stored
  | cons first rest inductionHypothesis =>
      unfold addToBuckets
      split
      · rcases List.mem_cons.mp stored with rfl | later
        · exact ⟨old.add span, List.mem_cons_self .., Nat.le_succ _⟩
        · exact ⟨old, List.mem_cons_of_mem _ later, Nat.le_refl _⟩
      · rcases List.mem_cons.mp stored with rfl | later
        · exact ⟨old, List.mem_cons_self .., Nat.le_refl _⟩
        · obtain ⟨values, member, grown⟩ := inductionHypothesis later
          exact ⟨values, List.mem_cons_of_mem _ member, grown⟩

/-! ### All spans of a batch -/

/-- The buckets of aware spans whose costs fit hold exactly their totals, as long as
each counts fewer spans than its column allows. -/
theorem totals_accumulateBuckets {spans : List PreparedSpan}
    (localInstant sessionInstant : Int → Int)
    (aware : ∀ span ∈ spans, span.startedAt.Aware)
    (fits : ∀ span ∈ spans, PreparedSpan.CostFits span)
    (counted : ∀ values ∈ accumulateBuckets spans, values.spanCount < countLimit) :
    (∀ values ∈ accumulateBuckets spans, values.CostFits) ∧ ∀ selected : Int → Bool,
      sumWhere (BucketValues.minute sessionInstant) BucketValues.totals selected
          (accumulateBuckets spans) =
        sumWhere (PreparedSpan.minute localInstant) SpanRecord.totals selected spans := by
  induction spans using List.reverseRecOn with
  | nil => exact ⟨fun _ member => (by cases member), fun _ => rfl⟩
  | append_singleton spans span inductionHypothesis =>
      have earlier : ∀ other ∈ spans, other ∈ spans ++ [span] :=
        fun _ member => List.mem_append_left _ member
      have last : span ∈ spans ++ [span] := List.mem_append_right _ (List.mem_singleton_self _)
      rw [accumulateBuckets_snoc] at counted ⊢
      obtain ⟨bucketsFit, sums⟩ := inductionHypothesis
        (fun other member => aware other (earlier other member))
        (fun other member => fits other (earlier other member))
        (fun values member => by
          obtain ⟨grown, inGrown, atLeast⟩ := exists_addToBuckets span member
          exact atLeast.trans_lt (counted grown inGrown))
      have allAware := (countOf_accumulateBuckets (fun other member =>
        aware other (earlier other member)) localInstant sessionInstant 0).1
      have newAdds := (BucketValues.costFits_new span.startedAt.floorToMinute).add
        (fits span last) (by simp [BucketValues.add, BucketValues.new, countLimit])
      have takenAdds : ∀ values ∈ accumulateBuckets spans,
          values.add span ∈ addToBuckets span (accumulateBuckets spans) →
            (values.add span).CostFits ∧
              (values.add span).totals = values.totals + SpanRecord.totals span :=
        fun values stored added => (bucketsFit values stored).add (fits span last)
          (counted _ added)
      refine ⟨fun values member => ?_, fun selected => ?_⟩
      · rcases mem_addToBuckets member with old | rfl | ⟨old, stored, -, rfl⟩
        · exact bucketsFit values old
        · exact newAdds.1
        · exact (takenAdds old stored member).1
      · have new : ((BucketValues.new span.startedAt.floorToMinute).add span).totals =
            SpanRecord.totals span := by
          rw [newAdds.2, BucketValues.totals, BucketValues.new]
          exact zero_add _
        have added := sumWhere_addToBuckets localInstant sessionInstant (aware span last) allAware
          new (fun values stored added => (takenAdds values stored added).2) selected
        rw [sumWhere_append, sumWhere_cons, sumWhere_nil, add_zero, ← sums selected]
        exact added

/-! ### The update -/

/-- The update adds the totals of the spans to the project's buckets of their minutes. -/
theorem totals_updateSpanMetricBuckets {runtime : Runtime} {projectId : UUID}
    {spans : List PreparedSpan} {table next : SpanMetricBucketTable}
    (aware : ∀ span ∈ spans, span.startedAt.Aware)
    (fits : ∀ span ∈ spans, PreparedSpan.CostFits span)
    (counted : ∀ values ∈ accumulateBuckets spans, values.spanCount < countLimit)
    (done : updateSpanMetricBuckets runtime projectId spans table = .ok next)
    (selected : UUID × Int → Bool) :
    sumWhere SpanMetricBucket.primaryKey SpanMetricBucket.totals selected next.rows =
      sumWhere SpanMetricBucket.primaryKey SpanMetricBucket.totals selected table.rows +
        sumWhere (fun span : PreparedSpan => (projectId, span.minute runtime.localInstant))
          SpanRecord.totals selected spans := by
  obtain ⟨buckets, permuted, rfl⟩ := updateSpanMetricBuckets_eq_ok done
  obtain ⟨bucketsFit, sums⟩ := totals_accumulateBuckets runtime.localInstant
    runtime.sessionInstant aware fits counted
  have coerced : ∀ values ∈ buckets,
      (values.toRow runtime projectId).totals = values.totals := by
    intro values member
    have scaled := (bucketsFit values (permuted.subset member)).scaled
    simp only [SpanMetricBucket.totals, BucketValues.toRow, BucketValues.totals,
      scaled.toNumeric]
  have ofMinutes := sums fun minute => selected (projectId, minute)
  rw [sumWhere_foldl_upsertBucket SpanMetricBucket.totals _ _ fun _ _ => rfl, sumWhere_map,
    sumWhere_congr (fun _ _ => rfl) coerced]
  congr 1
  exact (sumWhere_perm permuted).trans ofMinutes

end LlmObs.Backend
