import LlmObs.Backend.Workers.BucketTotals
import LlmObs.Foundation.RoundedSums

/-!
Owns successive updates of the metric buckets. The spans of one call are summed as decimals
and rounded once for each column, so how spans are split into calls and ordered decides what
is rounded; it says for which spans this makes no difference.
-/

namespace LlmObs.Backend

open LlmObs.Foundation

/-! ### Rows and calls -/

/-- The counts and the two sums of a bucket. -/
abbrev BucketColumns := ℕ × ℕ × ℚ × ℚ

def SpanMetricBucket.columns (row : SpanMetricBucket) : BucketColumns :=
  (row.spanCount, row.errorCount, row.totalCostUsd, row.latencySumMs)

def BucketValues.columns (values : BucketValues) : BucketColumns :=
  (values.spanCount, values.errorCount, values.totalCostUsd, values.latencySumMs)

/-- What the columns of the table store. -/
def BucketColumns.stored (columns : BucketColumns) : BucketColumns :=
  (columns.1, columns.2.1, Decimal.toNumeric 8 columns.2.2.1, Decimal.toNumeric 3 columns.2.2.2)

/-- Successive calls of `update_span_metric_buckets`. -/
def updateBuckets (runtime : Runtime) (projectId : UUID) (calls : List (List PreparedSpan))
    (table : SpanMetricBucketTable) : Except PyException SpanMetricBucketTable :=
  calls.foldlM (fun table spans => updateSpanMetricBuckets runtime projectId spans table) table

/-- The tables have the same rows. -/
def SameBuckets (left right : SpanMetricBucketTable) : Prop :=
  ∀ row, row ∈ left.rows ↔ row ∈ right.rows

/-- Any two ways to split and to order the spans give the same rows. -/
def BatchingIrrelevant (runtime : Runtime) (projectId : UUID) (spans : List PreparedSpan)
    (table : SpanMetricBucketTable) : Prop :=
  ∀ left right : List (List PreparedSpan), left.flatten.Perm spans → right.flatten.Perm spans →
    ∃ leftTable rightTable, updateBuckets runtime projectId left table = .ok leftTable ∧
      updateBuckets runtime projectId right table = .ok rightTable ∧
      SameBuckets leftTable rightTable

/-! ### The condition -/

/-- `bucket_start` of a span, as the buckets of a call compare it. -/
def PreparedSpan.bucketKey (span : PreparedSpan) : Datetime.Key :=
  span.startedAt.floorToMinute.key

/-- The starts can be ordered. -/
def SameKind (spans : List PreparedSpan) : Prop :=
  (∀ span ∈ spans, span.startedAt.Aware) ∨ ∀ span ∈ spans, ¬ span.startedAt.Aware

/-- The sum of a call, in the order of its spans. -/
def decimalSum (values : List ℚ) : ℚ := values.foldl Decimal.add 0

/-- However spans are chosen and ordered, their sum rounds to what they round to alone. -/
def RoundsApart (scale : ℕ) (column : PreparedSpan → ℚ) (spans : List PreparedSpan) : Prop :=
  ∀ chosen : List PreparedSpan, chosen.Subperm spans →
    Decimal.toNumeric scale (decimalSum (chosen.map column)) =
      (chosen.map fun span => Decimal.toNumeric scale (decimalSum [column span])).sum

/-- The starts can be ordered, and in each minute both sums may be rounded in parts. -/
structure SumsSeparately (spans : List PreparedSpan) : Prop where
  sameKind : SameKind spans
  costs : ∀ key, RoundsApart 8 (·.costUsd) (spans.filter fun span => span.bucketKey = key)
  latencies : ∀ key, RoundsApart 3 (·.latencyMs) (spans.filter fun span => span.bucketKey = key)

/-! ### One call -/

/-- What a call sums up of spans of one minute. -/
def summary (spans : List PreparedSpan) : BucketColumns :=
  (spans.length, spans.countP fun span => span.status = .error,
    decimalSum (spans.map (·.costUsd)), decimalSum (spans.map (·.latencyMs)))

theorem decimalSum_snoc (values : List ℚ) (value : ℚ) :
    decimalSum (values ++ [value]) = Decimal.add (decimalSum values) value := by
  rw [decimalSum, List.foldl_append, List.foldl_cons, List.foldl_nil]
  rfl

/-- A bucket that takes one more span. -/
theorem columns_add {values : BucketValues} {spans : List PreparedSpan}
    (columns : values.columns = summary spans) (span : PreparedSpan) :
    (values.add span).columns = summary (spans ++ [span]) := by
  simp only [BucketValues.columns, summary, Prod.mk.injEq] at columns
  obtain ⟨counted, errors, costs, latencies⟩ := columns
  simp only [BucketValues.columns, BucketValues.add, summary, List.map_append, List.map_cons,
    List.map_nil, decimalSum_snoc, List.length_append, List.length_singleton,
    List.countP_append, List.countP_singleton, counted, errors, costs, latencies,
    decide_eq_true_eq]

theorem columns_new (bucketStart : Datetime) :
    (BucketValues.new bucketStart).columns = summary [] := rfl

/-- The buckets of a call: one for each minute, with the summary of its spans. -/
structure Accumulates (spans : List PreparedSpan) (buckets : List BucketValues) : Prop where
  distinct : (buckets.map fun values => values.bucketStart.key).Nodup
  columns : ∀ values ∈ buckets, values.columns =
    summary (spans.filter fun span => span.bucketKey = values.bucketStart.key)
  has : ∀ span ∈ spans, ∃ values ∈ buckets, values.bucketStart.key = span.bucketKey
  of : ∀ values ∈ buckets, ∃ span ∈ spans, values.bucketStart = span.startedAt.floorToMinute

/-- The bucket of the minute takes the span, or a new bucket does. -/
theorem addToBuckets_cases (span : PreparedSpan) (buckets : List BucketValues) :
    (∃ front values back, buckets = front ++ values :: back ∧
        values.bucketStart.key = span.bucketKey ∧
        addToBuckets span buckets = front ++ values.add span :: back) ∨
      (∀ values ∈ buckets, values.bucketStart.key ≠ span.bucketKey) ∧
        addToBuckets span buckets =
          buckets ++ [(BucketValues.new span.startedAt.floorToMinute).add span] := by
  induction buckets with
  | nil => exact Or.inr ⟨fun values member => absurd member List.not_mem_nil, rfl⟩
  | cons first rest inductionHypothesis =>
      rw [addToBuckets]
      by_cases here : first.bucketStart.key = span.startedAt.floorToMinute.key
      · rw [if_pos here]
        exact Or.inl ⟨[], first, rest, rfl, here, rfl⟩
      · rw [if_neg here]
        rcases inductionHypothesis with ⟨front, values, back, split, same, added⟩ | ⟨none', added⟩
        · exact Or.inl ⟨first :: front, values, back, by rw [split]; rfl, same,
            by rw [added]; rfl⟩
        · exact Or.inr ⟨List.forall_mem_cons.mpr ⟨here, none'⟩, by rw [added]; rfl⟩

/-- The spans of a minute, after one more. -/
theorem filter_snoc (spans : List PreparedSpan) (span : PreparedSpan) (key : Datetime.Key) :
    (spans ++ [span]).filter (fun span => span.bucketKey = key) =
      spans.filter (fun span => span.bucketKey = key) ++
        if span.bucketKey = key then [span] else [] := by
  rw [List.filter_append]
  congr 1
  by_cases same : span.bucketKey = key <;> simp [same]

/-- The step: one more span. -/
theorem Accumulates.add {spans : List PreparedSpan} {buckets : List BucketValues}
    (sound : Accumulates spans buckets) (span : PreparedSpan) :
    Accumulates (spans ++ [span]) (addToBuckets span buckets) := by
  have other {values : BucketValues} (member : values ∈ buckets)
      (different : values.bucketStart.key ≠ span.bucketKey) : values.columns =
        summary ((spans ++ [span]).filter fun span =>
          span.bucketKey = values.bucketStart.key) := by
    rw [filter_snoc, if_neg (Ne.symm different), List.append_nil]
    exact sound.columns values member
  have later {known : BucketValues} (of : ∃ other ∈ spans, known.bucketStart =
      other.startedAt.floorToMinute) :
      ∃ other ∈ spans ++ [span], known.bucketStart = other.startedAt.floorToMinute := by
    obtain ⟨other, member, start⟩ := of
    exact ⟨other, List.mem_append_left _ member, start⟩
  rcases addToBuckets_cases span buckets with
    ⟨front, values, back, rfl, same, added⟩ | ⟨none', added⟩
  · have middle : values ∈ front ++ values :: back :=
      List.mem_append_right _ (List.mem_cons_self ..)
    have distinct := sound.distinct
    rw [List.map_append, List.map_cons, List.nodup_middle, List.nodup_cons,
      List.mem_append] at distinct
    have inFront {known : BucketValues} (member : known ∈ front) :
        known.bucketStart.key ≠ span.bucketKey := fun equal =>
      distinct.1 (Or.inl (same.trans equal.symm ▸
        List.mem_map_of_mem (f := fun values : BucketValues => values.bucketStart.key) member))
    have inBack {known : BucketValues} (member : known ∈ back) :
        known.bucketStart.key ≠ span.bucketKey := fun equal =>
      distinct.1 (Or.inr (same.trans equal.symm ▸
        List.mem_map_of_mem (f := fun values : BucketValues => values.bucketStart.key) member))
    rw [added]
    refine ⟨?_, ?_, ?_, ?_⟩
    · have keys : (front ++ values.add span :: back).map
          (fun values => values.bucketStart.key) = (front ++ values :: back).map
            fun values => values.bucketStart.key := by simp [BucketValues.add]
      rw [keys]
      exact sound.distinct
    · intro known member
      rcases List.mem_append.mp member with before | behind
      · exact other (List.mem_append_left _ before) (inFront before)
      · rcases List.mem_cons.mp behind with rfl | after
        · have taken := columns_add (sound.columns values middle) span
          rw [taken, filter_snoc]
          show _ = summary (_ ++ if span.bucketKey = values.bucketStart.key then _ else _)
          rw [if_pos same.symm]
          rfl
        · exact other (List.mem_append_right _ (List.mem_cons_of_mem _ after)) (inBack after)
    · intro known member
      rcases List.mem_append.mp member with old | new
      · obtain ⟨found, stored, key⟩ := sound.has known old
        rcases List.mem_append.mp stored with before | behind
        · exact ⟨found, List.mem_append_left _ before, key⟩
        · rcases List.mem_cons.mp behind with rfl | after
          · exact ⟨found.add span, List.mem_append_right _ (List.mem_cons_self ..), key⟩
          · exact ⟨found, List.mem_append_right _ (List.mem_cons_of_mem _ after), key⟩
      · rw [List.mem_singleton.mp new]
        exact ⟨values.add span, List.mem_append_right _ (List.mem_cons_self ..), same⟩
    · intro known member
      rcases List.mem_append.mp member with before | behind
      · exact later (sound.of known (List.mem_append_left _ before))
      · rcases List.mem_cons.mp behind with rfl | after
        · exact later (sound.of values middle)
        · exact later (sound.of known (List.mem_append_right _ (List.mem_cons_of_mem _ after)))
  · rw [added]
    refine ⟨?_, ?_, ?_, ?_⟩
    · rw [List.map_append, List.map_singleton, List.nodup_append]
      refine ⟨sound.distinct, List.nodup_singleton _, ?_⟩
      intro key known last single equal
      obtain ⟨values, stored, rfl⟩ := List.mem_map.mp known
      exact none' values stored (equal.trans (List.mem_singleton.mp single))
    · intro known member
      rcases List.mem_append.mp member with old | new
      · exact other old (none' known old)
      · rw [List.mem_singleton.mp new, columns_add (columns_new _) span, filter_snoc]
        show _ = summary (_ ++ if span.bucketKey = span.bucketKey then _ else _)
        have nothing : spans.filter (fun other => other.bucketKey = span.bucketKey) = [] := by
          rw [List.filter_eq_nil_iff]
          intro earlier member same
          obtain ⟨values, stored, key⟩ := sound.has earlier member
          exact none' values stored (key.trans (of_decide_eq_true same))
        rw [if_pos rfl]
        exact congrArg (fun spans => summary (spans ++ [span])) nothing.symm
    · intro known member
      rcases List.mem_append.mp member with old | new
      · obtain ⟨found, stored, key⟩ := sound.has known old
        exact ⟨found, List.mem_append_left _ stored, key⟩
      · rw [List.mem_singleton.mp new]
        exact ⟨_, List.mem_append_right _ (List.mem_singleton.mpr rfl), rfl⟩
    · intro known member
      rcases List.mem_append.mp member with old | new
      · exact later (sound.of known old)
      · rw [List.mem_singleton.mp new]
        exact ⟨span, List.mem_append_right _ (List.mem_singleton.mpr rfl), rfl⟩

/-- Induction on the spans of a call. -/
theorem accumulates (spans : List PreparedSpan) : Accumulates spans (accumulateBuckets spans) := by
  induction spans using List.reverseRecOn with
  | nil =>
      exact ⟨List.nodup_nil, fun _ member => absurd member List.not_mem_nil,
        fun _ member => absurd member List.not_mem_nil,
        fun _ member => absurd member List.not_mem_nil⟩
  | append_singleton spans span inductionHypothesis =>
      rw [accumulateBuckets_snoc]
      exact inductionHypothesis.add span

/-! ### What a call adds -/

/-- The instant of a bucket. -/
def keyInstant (sessionInstant : Int → Int) : Datetime.Key → Int
  | .naive wall => sessionInstant wall
  | .aware instant => instant

theorem toTimestamptz_eq_keyInstant (sessionInstant : Int → Int) (value : Datetime) :
    value.toTimestamptz sessionInstant = keyInstant sessionInstant value.key := by
  rw [Datetime.toTimestamptz, Datetime.key]
  cases value.instant? <;> rfl

/-- The primary key of the row of a bucket. -/
def rowKey (runtime : Runtime) (projectId : UUID) (key : Datetime.Key) : UUID × Int :=
  (projectId, keyInstant runtime.sessionInstant key)

theorem toRow_primaryKey (runtime : Runtime) (projectId : UUID) (values : BucketValues) :
    (values.toRow runtime projectId).primaryKey =
      rowKey runtime projectId values.bucketStart.key := by
  rw [rowKey, ← toTimestamptz_eq_keyInstant]
  rfl

theorem toRow_columns (runtime : Runtime) (projectId : UUID) (values : BucketValues) :
    (values.toRow runtime projectId).columns = values.columns.stored := rfl

/-- What a call adds to the selected buckets. -/
def addedBy (selected : Datetime.Key → Bool) (spans : List PreparedSpan) : BucketColumns :=
  sumWhere (fun values : BucketValues => values.bucketStart.key) (fun values =>
    values.columns.stored) selected (accumulateBuckets spans)

/-- The step: one call adds what it sums up. -/
theorem columns_updateSpanMetricBuckets {runtime : Runtime} {projectId : UUID}
    {spans : List PreparedSpan} {table next : SpanMetricBucketTable}
    (done : updateSpanMetricBuckets runtime projectId spans table = .ok next)
    (selected : UUID × Int → Bool) :
    sumWhere SpanMetricBucket.primaryKey SpanMetricBucket.columns selected next.rows =
      sumWhere SpanMetricBucket.primaryKey SpanMetricBucket.columns selected table.rows +
        addedBy (fun key => selected (rowKey runtime projectId key)) spans := by
  obtain ⟨buckets, permuted, rfl⟩ := updateSpanMetricBuckets_eq_ok done
  rw [sumWhere_foldl_upsertBucket SpanMetricBucket.columns _ _ fun _ _ => rfl, sumWhere_map]
  congr 1
  rw [addedBy, ← sumWhere_perm permuted]
  simp only [sumWhere, toRow_primaryKey, toRow_columns]

/-- The run: the calls add up. -/
theorem columns_updateBuckets {runtime : Runtime} {projectId : UUID}
    {calls : List (List PreparedSpan)} {table final : SpanMetricBucketTable}
    (done : updateBuckets runtime projectId calls table = .ok final)
    (selected : UUID × Int → Bool) :
    sumWhere SpanMetricBucket.primaryKey SpanMetricBucket.columns selected final.rows =
      sumWhere SpanMetricBucket.primaryKey SpanMetricBucket.columns selected table.rows +
        (calls.map (addedBy fun key => selected (rowKey runtime projectId key))).sum := by
  induction calls generalizing table with
  | nil =>
      rw [updateBuckets, List.foldlM_nil, pure, Applicative.toPure, Monad.toApplicative] at done
      cases done
      simp
  | cons spans rest inductionHypothesis =>
      rw [updateBuckets, List.foldlM_cons, bind_eq_ok] at done
      obtain ⟨middle, first, others⟩ := done
      rw [inductionHypothesis others, columns_updateSpanMetricBuckets first, List.map_cons,
        List.sum_cons, add_assoc]

/-! ### Spans alone -/

/-- What a call with one span adds. -/
def alone (span : PreparedSpan) : BucketColumns := (summary [span]).stored

theorem stored_summary_nil : (summary []).stored = 0 := by
  norm_num [summary, BucketColumns.stored, decimalSum, Decimal.toNumeric, Decimal.roundHalfAway]

/-- Counts add up, so only the two sums decide whether spans may be rounded apart. -/
theorem stored_summary_eq_iff (spans : List PreparedSpan) :
    (summary spans).stored = (spans.map alone).sum ↔
      Decimal.toNumeric 8 (decimalSum (spans.map (·.costUsd))) = (spans.map fun span =>
          Decimal.toNumeric 8 (decimalSum [span.costUsd])).sum ∧
        Decimal.toNumeric 3 (decimalSum (spans.map (·.latencyMs))) = (spans.map fun span =>
          Decimal.toNumeric 3 (decimalSum [span.latencyMs])).sum := by
  have total : (spans.map alone).sum = (spans.length,
      spans.countP (fun span => span.status = .error),
      (spans.map fun span => Decimal.toNumeric 8 (decimalSum [span.costUsd])).sum,
      (spans.map fun span => Decimal.toNumeric 3 (decimalSum [span.latencyMs])).sum) := by
    induction spans with
    | nil => rfl
    | cons span rest inductionHypothesis =>
        rw [List.map_cons, List.sum_cons, inductionHypothesis]
        simp only [alone, summary, BucketColumns.stored, Prod.mk_add_mk, List.map_cons,
          List.map_nil, List.sum_cons, List.length_cons, List.length_nil, List.countP_cons,
          List.countP_nil, Nat.zero_add, Nat.add_comm]
  rw [total]
  simp only [summary, BucketColumns.stored, Prod.mk.injEq, true_and]

/-- A call adds its spans alone, if in each minute they may be rounded apart. -/
theorem addedBy_eq_sum {spans : List PreparedSpan}
    (apart : ∀ key, (summary (spans.filter fun span => span.bucketKey = key)).stored =
      ((spans.filter fun span => span.bucketKey = key).map alone).sum)
    (selected : Datetime.Key → Bool) :
    addedBy selected spans = sumWhere PreparedSpan.bucketKey alone selected spans := by
  have sound := accumulates spans
  rw [← sumWhere_groups selected sound.distinct sound.has, addedBy]
  refine sumWhere_congr (fun _ _ => rfl) fun values member => ?_
  rw [sound.columns values member, apart]

/-- Spans of one minute are one bucket. -/
theorem addedBy_of_minute {spans : List PreparedSpan} {key : Datetime.Key}
    (minute : ∀ span ∈ spans, span.bucketKey = key) :
    addedBy (fun _ => true) spans = (summary spans).stored := by
  have sound := accumulates spans
  have all (values : BucketValues) (member : values ∈ accumulateBuckets spans) :
      values.bucketStart.key = key := by
    obtain ⟨span, known, start⟩ := sound.of values member
    rw [start]
    exact minute span known
  rw [addedBy]
  cases accumulated : accumulateBuckets spans with
  | nil =>
      have empty : spans = [] := List.eq_nil_iff_forall_not_mem.mpr fun span member => by
        obtain ⟨values, stored, -⟩ := sound.has span member
        rw [accumulated] at stored
        cases stored
      rw [empty, stored_summary_nil, sumWhere_nil]
  | cons values rest =>
      rw [accumulated] at all
      have last : rest = [] := List.eq_nil_iff_forall_not_mem.mpr fun other member => by
        have distinct := sound.distinct
        rw [accumulated, List.map_cons, List.nodup_cons] at distinct
        have same := (all values (List.mem_cons_self ..)).trans
          (all other (List.mem_cons_of_mem _ member)).symm
        exact distinct.1 (same ▸ List.mem_map_of_mem
          (f := fun values : BucketValues => values.bucketStart.key) member)
      have columns := sound.columns values (accumulated ▸ List.mem_cons_self ..)
      rw [List.filter_eq_self.mpr fun span member => decide_eq_true
        ((minute span member).trans (all values (List.mem_cons_self ..)).symm)] at columns
      rw [last, sumWhere_cons, sumWhere_nil, add_zero, columns, if_pos rfl]

/-! ### Rows are their sums -/

theorem mem_keys_upsertBucket {table : SpanMetricBucketTable} {row : SpanMetricBucket}
    {key : UUID × Int} :
    key ∈ (upsertBucket table row).rows.map SpanMetricBucket.primaryKey ↔
      key ∈ table.rows.map SpanMetricBucket.primaryKey ∨ row.primaryKey = key := by
  have merged : (table.rows.map fun stored => if stored.primaryKey = row.primaryKey then
      stored.merge row else stored).map SpanMetricBucket.primaryKey =
        table.rows.map SpanMetricBucket.primaryKey := by
    rw [List.map_map]
    refine List.map_congr_left fun stored _ => ?_
    rw [Function.comp_apply]
    split <;> rfl
  by_cases conflict : ∃ stored ∈ (table.rows.map fun stored =>
      if stored.primaryKey = row.primaryKey then stored.merge row else stored),
        stored.primaryKey = row.primaryKey
  · rw [upsertBucket, Table.insertOrSkip_of_clash conflict, Table.mapRows_rows, merged]
    refine ⟨Or.inl, fun either => either.elim id fun same => ?_⟩
    rw [← merged, ← same]
    exact List.mem_map.mpr conflict
  · rw [upsertBucket, Table.insertOrSkip_rows_of_new conflict, Table.mapRows_rows,
      List.map_append, merged, List.mem_append, List.map_singleton, List.mem_singleton,
      eq_comm (a := key)]

theorem mem_keys_foldl_upsertBucket {rows : List SpanMetricBucket}
    {table : SpanMetricBucketTable} {key : UUID × Int} :
    key ∈ (rows.foldl upsertBucket table).rows.map SpanMetricBucket.primaryKey ↔
      key ∈ table.rows.map SpanMetricBucket.primaryKey ∨ ∃ row ∈ rows, row.primaryKey = key := by
  induction rows generalizing table with
  | nil => simp
  | cons row rest inductionHypothesis =>
      rw [List.foldl_cons, inductionHypothesis, mem_keys_upsertBucket, or_assoc]
      simp only [List.mem_cons, exists_eq_or_imp]

/-- The step: a call adds the minutes of its spans. -/
theorem keys_updateSpanMetricBuckets {runtime : Runtime} {projectId : UUID}
    {spans : List PreparedSpan} {table next : SpanMetricBucketTable}
    (done : updateSpanMetricBuckets runtime projectId spans table = .ok next)
    {key : UUID × Int} :
    key ∈ next.rows.map SpanMetricBucket.primaryKey ↔
      key ∈ table.rows.map SpanMetricBucket.primaryKey ∨
        ∃ span ∈ spans, rowKey runtime projectId span.bucketKey = key := by
  obtain ⟨buckets, permuted, rfl⟩ := updateSpanMetricBuckets_eq_ok done
  have sound := accumulates spans
  rw [mem_keys_foldl_upsertBucket]
  refine or_congr Iff.rfl ⟨?_, ?_⟩
  · rintro ⟨row, made, same⟩
    obtain ⟨values, member, rfl⟩ := List.mem_map.mp made
    obtain ⟨span, known, start⟩ := sound.of values (permuted.subset member)
    exact ⟨span, known, by rw [← same, toRow_primaryKey, start]; rfl⟩
  · rintro ⟨span, known, same⟩
    obtain ⟨values, member, start⟩ := sound.has span known
    exact ⟨_, List.mem_map_of_mem (permuted.symm.subset member), by
      rw [toRow_primaryKey, start, same]⟩

/-- The run: so do the calls. -/
theorem keys_updateBuckets {runtime : Runtime} {projectId : UUID}
    {calls : List (List PreparedSpan)} {table final : SpanMetricBucketTable}
    (done : updateBuckets runtime projectId calls table = .ok final) {key : UUID × Int} :
    key ∈ final.rows.map SpanMetricBucket.primaryKey ↔
      key ∈ table.rows.map SpanMetricBucket.primaryKey ∨
        ∃ span ∈ calls.flatten, rowKey runtime projectId span.bucketKey = key := by
  induction calls generalizing table with
  | nil =>
      rw [updateBuckets, List.foldlM_nil, pure, Applicative.toPure, Monad.toApplicative] at done
      cases done
      simp
  | cons spans rest inductionHypothesis =>
      rw [updateBuckets, List.foldlM_cons, bind_eq_ok] at done
      obtain ⟨middle, first, others⟩ := done
      rw [inductionHypothesis others, keys_updateSpanMetricBuckets first, List.flatten_cons,
        or_assoc]
      simp only [List.mem_append, or_and_right, exists_or]

theorem nodup_primaryKey (table : SpanMetricBucketTable) :
    (table.rows.map SpanMetricBucket.primaryKey).Nodup := List.pairwise_map.mpr table.unique

/-- The row of a key is all that the key selects. -/
theorem columns_of_mem {table : SpanMetricBucketTable} {row : SpanMetricBucket}
    (member : row ∈ table.rows) :
    sumWhere SpanMetricBucket.primaryKey SpanMetricBucket.columns
      (fun key => key = row.primaryKey) table.rows = row.columns := by
  simp only [sumWhere, filter_key_of_nodup (nodup_primaryKey table) member, List.map_singleton,
    List.sum_singleton]

/-- Tables with the same keys and sums have the same rows. -/
theorem sameBuckets_of_sums {left right : SpanMetricBucketTable}
    (keys : ∀ key, key ∈ left.rows.map SpanMetricBucket.primaryKey ↔
      key ∈ right.rows.map SpanMetricBucket.primaryKey)
    (sums : ∀ selected,
      sumWhere SpanMetricBucket.primaryKey SpanMetricBucket.columns selected left.rows =
        sumWhere SpanMetricBucket.primaryKey SpanMetricBucket.columns selected right.rows) :
    SameBuckets left right := by
  have half {left right : SpanMetricBucketTable}
      (keys : ∀ key, key ∈ left.rows.map SpanMetricBucket.primaryKey →
        key ∈ right.rows.map SpanMetricBucket.primaryKey)
      (sums : ∀ selected,
        sumWhere SpanMetricBucket.primaryKey SpanMetricBucket.columns selected left.rows =
          sumWhere SpanMetricBucket.primaryKey SpanMetricBucket.columns selected right.rows)
      {row : SpanMetricBucket} (member : row ∈ left.rows) : row ∈ right.rows := by
    obtain ⟨other, stored, same⟩ := List.mem_map.mp (keys _ (List.mem_map_of_mem member))
    have columns := columns_of_mem member
    rw [sums, ← same, columns_of_mem stored] at columns
    have equal : other = row := by
      cases other
      cases row
      simp only [SpanMetricBucket.primaryKey, SpanMetricBucket.columns, Prod.mk.injEq]
        at same columns
      simp only [SpanMetricBucket.mk.injEq]
      exact ⟨same.1, same.2, columns⟩
    exact equal ▸ stored
  exact fun row => ⟨half (fun key => (keys key).mp) sums,
    half (fun key => (keys key).mpr) fun selected => (sums selected).symm⟩

theorem SameBuckets.sums {left right : SpanMetricBucketTable} (same : SameBuckets left right)
    (selected : UUID × Int → Bool) :
    sumWhere SpanMetricBucket.primaryKey SpanMetricBucket.columns selected left.rows =
      sumWhere SpanMetricBucket.primaryKey SpanMetricBucket.columns selected right.rows :=
  sumWhere_perm ((List.perm_ext_iff_of_nodup (nodup_primaryKey left).of_map
    (nodup_primaryKey right).of_map).mpr same)

/-! ### Which calls raise -/

/-- Equal values are both aware or both naive. -/
theorem aware_iff_of_key_eq {left right : Datetime} (same : left.key = right.key) :
    left.Aware ↔ right.Aware := by
  have aware_iff (value : Datetime) : value.Aware ↔ ∃ instant, value.key = .aware instant := by
    constructor
    · intro aware
      obtain ⟨instant, known⟩ := aware.exists_instant
      exact ⟨instant, Datetime.key_of_instant known⟩
    · rintro ⟨instant, known⟩
      by_contra naive
      rw [Datetime.key_of_not_aware naive] at known
      cases known
  rw [aware_iff, aware_iff, same]

theorem sameKind_accumulateBuckets (spans : List PreparedSpan) :
    ((∀ values ∈ accumulateBuckets spans, values.bucketStart.Aware) ∨
      ∀ values ∈ accumulateBuckets spans, ¬ values.bucketStart.Aware) ↔ SameKind spans := by
  have sound := accumulates spans
  -- each span shares its kind with a bucket, and each bucket with a span
  have spanKind (kind : Prop → Prop) :
      (∀ values ∈ accumulateBuckets spans, kind values.bucketStart.Aware) ↔
        ∀ span ∈ spans, kind span.startedAt.Aware := by
    constructor
    · intro all span known
      obtain ⟨values, member, same⟩ := sound.has span known
      have shared := propext (aware_iff_of_key_eq same)
      exact (shared ▸ all values member : kind span.startedAt.floorToMinute.Aware)
    · intro all values member
      obtain ⟨span, known, start⟩ := sound.of values member
      rw [start]
      exact all span known
  exact or_congr (spanKind id) (spanKind Not)

/-- A call raises exactly when it has starts of both kinds. -/
theorem updateSpanMetricBuckets_ok_iff (runtime : Runtime) (projectId : UUID)
    (spans : List PreparedSpan) (table : SpanMetricBucketTable) :
    (∃ next, updateSpanMetricBuckets runtime projectId spans table = .ok next) ↔
      SameKind spans := by
  unfold updateSpanMetricBuckets
  split
  · rename_i empty
    rw [List.isEmpty_iff] at empty
    subst empty
    exact ⟨fun _ => Or.inl fun _ member => absurd member List.not_mem_nil, fun _ => ⟨table, rfl⟩⟩
  · unfold sortBuckets
    split
    · rename_i kind
      exact ⟨fun _ => (sameKind_accumulateBuckets spans).mp kind, fun _ => ⟨_, rfl⟩⟩
    · rename_i mixed
      constructor
      · rintro ⟨next, done⟩
        cases done
      · exact fun kind => absurd ((sameKind_accumulateBuckets spans).mpr kind) mixed

/-- So calls that take spans of one kind all return. -/
theorem exists_updateBuckets (runtime : Runtime) (projectId : UUID)
    {calls : List (List PreparedSpan)} (kind : SameKind calls.flatten)
    (table : SpanMetricBucketTable) :
    ∃ final, updateBuckets runtime projectId calls table = .ok final := by
  induction calls generalizing table with
  | nil => exact ⟨table, rfl⟩
  | cons spans rest inductionHypothesis =>
      rw [List.flatten_cons] at kind
      have here : SameKind spans := kind.imp
        (fun all span member => all span (List.mem_append_left _ member))
        fun all span member => all span (List.mem_append_left _ member)
      have later : SameKind rest.flatten := kind.imp
        (fun all span member => all span (List.mem_append_right _ member))
        fun all span member => all span (List.mem_append_right _ member)
      obtain ⟨middle, first⟩ :=
        (updateSpanMetricBuckets_ok_iff runtime projectId spans table).mpr here
      obtain ⟨final, others⟩ := inductionHypothesis later middle
      exact ⟨final, by rw [updateBuckets, List.foldlM_cons, first]; exact others⟩

/-! ### Splits and orders -/

theorem addedBy_singleton (span : PreparedSpan) :
    addedBy (fun _ => true) [span] = alone span :=
  addedBy_of_minute fun other member =>
    (congrArg PreparedSpan.bucketKey (List.mem_singleton.mp member) :
      other.bucketKey = span.bucketKey)

theorem sum_addedBy_singletons (spans : List PreparedSpan) :
    ((spans.map fun span => [span]).map (addedBy fun _ => true)).sum =
      (spans.map alone).sum := by
  rw [List.map_map]
  exact congrArg List.sum (List.map_congr_left fun span _ => addedBy_singleton span)

theorem flatten_singletons (spans : List PreparedSpan) :
    (spans.map fun span => [span]).flatten = spans := by
  induction spans with
  | nil => rfl
  | cons span rest inductionHypothesis =>
      rw [List.map_cons, List.flatten_cons, inductionHypothesis, List.singleton_append]

/-- The spans chosen from a minute in one call, or each of them in a call of its own: the
other spans follow alone. -/
theorem BatchingIrrelevant.apart {runtime : Runtime} {projectId : UUID}
    {spans : List PreparedSpan} {table : SpanMetricBucketTable}
    (irrelevant : BatchingIrrelevant runtime projectId spans table) {key : Datetime.Key}
    {chosen : List PreparedSpan}
    (subperm : chosen.Subperm (spans.filter fun span => span.bucketKey = key)) :
    (summary chosen).stored = (chosen.map alone).sum := by
  obtain ⟨selected, same, sublist⟩ := subperm.trans List.filter_sublist.subperm
  obtain ⟨rest, whole⟩ := sublist.exists_perm_append
  have permuted : spans.Perm (chosen ++ rest) := whole.trans (same.append_right rest)
  have minute : ∀ span ∈ chosen, span.bucketKey = key := fun span member =>
    of_decide_eq_true (List.mem_filter.mp (subperm.subset member)).2
  obtain ⟨together, separate, first, second, same⟩ := irrelevant
    (chosen :: rest.map fun span => [span]) ((chosen ++ rest).map fun span => [span])
    (by rw [List.flatten_cons, flatten_singletons]; exact permuted.symm)
    (by rw [flatten_singletons]; exact permuted.symm)
  have sums := same.sums fun _ => true
  rw [columns_updateBuckets first, columns_updateBuckets second, List.map_cons, List.sum_cons,
    sum_addedBy_singletons, sum_addedBy_singletons, addedBy_of_minute minute, List.map_append,
    List.sum_append] at sums
  exact add_right_cancel (add_left_cancel sums)

/-- However the spans are split and ordered, a column grows by what they add alone. -/
theorem sum_addedBy {spans : List PreparedSpan} (apart : ∀ key chosen,
      chosen.Subperm (spans.filter fun span => span.bucketKey = key) →
        (summary chosen).stored = (chosen.map alone).sum)
    {calls : List (List PreparedSpan)} (permuted : calls.flatten.Perm spans)
    (selected : Datetime.Key → Bool) :
    (calls.map (addedBy selected)).sum =
      sumWhere PreparedSpan.bucketKey alone selected spans := by
  rw [← sumWhere_perm permuted]
  have each : ∀ call ∈ calls,
      addedBy selected call = sumWhere PreparedSpan.bucketKey alone selected call := by
    intro call member
    have subperm : call.Subperm spans :=
      (List.sublist_flatten_of_mem member).subperm.trans permuted.subperm
    exact addedBy_eq_sum (fun key => apart key _ (subperm.filter _)) selected
  clear permuted apart
  induction calls with
  | nil => rfl
  | cons call rest inductionHypothesis =>
      rw [List.map_cons, List.sum_cons, List.flatten_cons, sumWhere_append,
        each call (List.mem_cons_self ..),
        inductionHypothesis fun later member => each later (List.mem_cons_of_mem _ member)]

theorem sumsSeparately_iff (spans : List PreparedSpan) :
    SumsSeparately spans ↔ SameKind spans ∧ ∀ key chosen,
      chosen.Subperm (spans.filter fun span => span.bucketKey = key) →
        (summary chosen).stored = (chosen.map alone).sum := by
  constructor
  · exact fun separately => ⟨separately.sameKind, fun key chosen subperm =>
      (stored_summary_eq_iff chosen).mpr
        ⟨separately.costs key chosen subperm, separately.latencies key chosen subperm⟩⟩
  · exact fun ⟨kind, apart⟩ => ⟨kind,
      fun key chosen subperm => ((stored_summary_eq_iff chosen).mp (apart key chosen subperm)).1,
      fun key chosen subperm => ((stored_summary_eq_iff chosen).mp (apart key chosen subperm)).2⟩

/-- A cost that fits its column is exact in any sum that a bucket can count, so costs never
depend on how they are split. -/
theorem roundsApart_costs {spans : List PreparedSpan}
    (fits : ∀ span ∈ spans, PreparedSpan.CostFits span) (few : spans.length < countLimit) :
    RoundsApart 8 (·.costUsd) spans := by
  have exact {chosen : List PreparedSpan} (fits : ∀ span ∈ chosen, PreparedSpan.CostFits span)
      (few : chosen.length < countLimit) :
      decimalSum (chosen.map (·.costUsd)) = (chosen.map (·.costUsd)).sum ∧
        |(chosen.map (·.costUsd)).sum| ≤ chosen.length * costLimit := by
    induction chosen using List.reverseRecOn with
    | nil => exact ⟨rfl, by simp⟩
    | append_singleton earlier span inductionHypothesis =>
        rw [List.length_append, List.length_singleton] at few
        have spanFits := fits span (List.mem_append_right _ (List.mem_singleton_self _))
        have others (other : PreparedSpan) (member : other ∈ earlier) :=
          fits other (List.mem_append_left _ member)
        obtain ⟨summed, bound⟩ := inductionHypothesis others (by omega)
        have scaled : Decimal.Scaled 8 (earlier.map (·.costUsd)).sum :=
          Decimal.scaled_sum fun value member => by
            obtain ⟨other, known, rfl⟩ := List.mem_map.mp member
            exact (others other known).scaled
        have total : |(earlier.map (·.costUsd)).sum + span.costUsd| ≤
            ((earlier.length + 1 : ℕ) : ℚ) * costLimit := by
          have triangle := abs_add_le (earlier.map (·.costUsd)).sum span.costUsd
          have spanBound := spanFits.bounded
          push_cast
          linarith
        have limit : ((earlier.length + 1 : ℕ) : ℚ) ≤ 2 ^ 31 := by exact_mod_cast few.le
        have added : Decimal.add (earlier.map (·.costUsd)).sum span.costUsd =
            (earlier.map (·.costUsd)).sum + span.costUsd := by
          refine scaled.add_eq spanFits.scaled ?_
          have digits : ((2 : ℚ) ^ 31 * costLimit) * 10 ^ 8 < 10 ^ Decimal.contextPrecision := by
            norm_num [Decimal.contextPrecision, costLimit]
          have most := total.trans (mul_le_mul_of_nonneg_right limit (by norm_num [costLimit]))
          linarith
        rw [List.map_append, List.map_singleton, decimalSum_snoc, summed, added, List.sum_append,
          List.sum_singleton, List.length_append, List.length_singleton]
        exact ⟨rfl, total⟩
  intro chosen subperm
  have chosenFits (span : PreparedSpan) (member : span ∈ chosen) :=
    fits span (subperm.subset member)
  have alone : (chosen.map fun span => Decimal.toNumeric 8 (decimalSum [span.costUsd])) =
      chosen.map (·.costUsd) := by
    refine List.map_congr_left fun span member => ?_
    have spanFits : ∀ other ∈ [span], PreparedSpan.CostFits other := fun other found =>
      List.mem_singleton.mp found ▸ chosenFits span member
    have one := (exact spanFits (by norm_num [countLimit])).1
    rw [List.map_singleton, List.sum_singleton] at one
    rw [one, (chosenFits span member).scaled.toNumeric]
  rw [alone, (exact chosenFits (subperm.length_le.trans_lt few)).1]
  exact Decimal.Scaled.toNumeric (Decimal.scaled_sum fun value member => by
    obtain ⟨span, known, rfl⟩ := List.mem_map.mp member
    exact (chosenFits span known).scaled)

/-- Where sums need no more digits than the context has, values that are not negative round
apart exactly when neither those rounded down nor those rounded up lose half a unit together. -/
theorem roundsApart_iff_remainders {scale : ℕ} {column : PreparedSpan → ℚ}
    {spans : List PreparedSpan} (nonneg : ∀ span ∈ spans, 0 ≤ column span)
    (exact : ∀ chosen : List PreparedSpan, chosen.Subperm spans →
      decimalSum (chosen.map column) = (chosen.map column).sum) :
    RoundsApart scale column spans ↔
      -(1 / 2) ≤ ((spans.filter fun span => Decimal.remainder scale (column span) < 0).map
          fun span => Decimal.remainder scale (column span)).sum ∧
        ((spans.filter fun span => 0 < Decimal.remainder scale (column span)).map
          fun span => Decimal.remainder scale (column span)).sum < 1 / 2 := by
  rw [← Decimal.toNumeric_sums_iff nonneg]
  refine forall_congr' fun chosen => imp_congr_right fun subperm => ?_
  have alone : (chosen.map fun span => Decimal.toNumeric scale (decimalSum [column span])) =
      chosen.map fun span => Decimal.toNumeric scale (column span) := by
    refine List.map_congr_left fun span member => ?_
    have one := exact [span] (List.singleton_subperm_iff.mpr (subperm.subset member))
    rw [List.map_singleton, List.sum_singleton] at one
    rw [one]
  rw [exact chosen subperm, alone]

/-! ### Two quick spans -/

/-- A span of 0.0004 milliseconds. -/
def quickSpan (id : UUID) : PreparedSpan where
  id := id
  traceId := 1
  projectId := 1
  parentSpanId := none
  name := "llm.chat"
  provider := "openai"
  model := "gpt-4o"
  inputTokens := 0
  outputTokens := 0
  costUsd := 0
  latencyMs := 4 / 10 ^ 4
  status := .ok
  error := none
  startedAt := .utc 0
  payloadS3Key := none
  payloadStatus := .omitted
  payloadDropReason := none
  metadata := []

end LlmObs.Backend
