import LlmObs.Backend.Workers.ProcessSpan

/-!
Owns what the statements derived from the inserted spans add: one outbox event
for each new event key, and one count for each span in the bucket of its minute.
-/

namespace LlmObs.Backend

open LlmObs.Foundation

/-! ### Outbox events -/

/-- The event keys of the project's `span.inserted` events. -/
def OutboxTable.spanKeys (projectId : UUID) (events : OutboxTable) : List String :=
  (events.rows.filter fun row =>
    row.projectId = projectId ∧ row.eventType = outboxSpanInserted).map (·.eventKey)

theorem mem_spanKeys {projectId : UUID} {events : OutboxTable} {key : String} :
    key ∈ OutboxTable.spanKeys projectId events ↔
      ∃ row ∈ events.rows, row.uniqueKey = (projectId, outboxSpanInserted, key) := by
  simp only [OutboxTable.spanKeys, List.mem_map, List.mem_filter, decide_eq_true_eq,
    OutboxEvent.uniqueKey, Prod.mk.injEq]
  exact exists_congr fun row => by rw [and_assoc, and_assoc]

theorem spanKeys_of_rows (projectId : UUID) {events next : OutboxTable} {new : OutboxEvent}
    (rows : next.rows = events.rows ++ [new]) (ofProject : new.projectId = projectId)
    (inserted : new.eventType = outboxSpanInserted) :
    OutboxTable.spanKeys projectId next =
      OutboxTable.spanKeys projectId events ++ [new.eventKey] := by
  simp [OutboxTable.spanKeys, rows, List.filter_append, ofProject, inserted]

/-- The events that the loop appends: a pending `span.inserted` event for the
first span of each event key that is new. -/
theorem enqueueSpanEvents_rows {env : AttemptEnv} {projectId : UUID} {index : Nat}
    {spans : List PreparedSpan} {events next : OutboxTable}
    (done : enqueueSpanEvents env projectId index spans events = .ok next) :
    ∃ new, next.rows = events.rows ++ new ∧
      (∀ event ∈ new, event.projectId = projectId ∧ event.eventType = outboxSpanInserted ∧
        event.status = .pending) ∧
      new.map (·.eventKey) =
        (firstNew PreparedSpan.eventKey (OutboxTable.spanKeys projectId events) spans).map
          (·.eventKey) := by
  induction spans generalizing index events with
  | nil =>
      simp only [enqueueSpanEvents, Except.ok.injEq] at done
      exact ⟨[], by simp [done], by simp, rfl⟩
  | cons span rest inductionHypothesis =>
      simp only [enqueueSpanEvents, bind_eq_ok] at done
      obtain ⟨_, -, middle, enqueued, others⟩ := done
      have enqueued : enqueueOutboxEvent env.now (env.eventId index) projectId
          outboxSpanInserted span.eventKey (spanInsertedPayload span) events = some middle := by
        cases result : enqueueOutboxEvent env.now (env.eventId index) projectId
            outboxSpanInserted span.eventKey (spanInsertedPayload span) events with
        | none => simp [result, orIntegrityError] at enqueued
        | some table => simpa [result, orIntegrityError] using enqueued
      obtain ⟨new, rows, ofProject, keys⟩ := inductionHypothesis others
      unfold enqueueOutboxEvent at enqueued
      split at enqueued
      · rename_i stored
        rw [Option.some.injEq] at enqueued
        subst enqueued
        rw [firstNew_cons_of_seen (mem_spanKeys.mpr stored)]
        exact ⟨new, rows, ofProject, keys⟩
      · rename_i unstored
        have middleRows := Table.insert?_rows enqueued
        have middleKeys := spanKeys_of_rows projectId middleRows rfl rfl
        rw [firstNew_cons_of_new fun known => unstored (mem_spanKeys.mp known)]
        refine ⟨_ :: new, by rw [rows, middleRows, List.append_assoc]; rfl, ?_, ?_⟩
        · intro event member
          rcases List.mem_cons.mp member with rfl | later
          · exact ⟨rfl, rfl, rfl⟩
          · exact ofProject event later
        · rw [List.map_cons, keys, middleKeys]
          have seen : firstNew PreparedSpan.eventKey
                (OutboxTable.spanKeys projectId events ++ [span.eventKey]) rest =
              firstNew PreparedSpan.eventKey
                (span.eventKey :: OutboxTable.spanKeys projectId events) rest := by
            refine firstNew_congr fun later _ => ?_
            simp only [List.mem_append, List.mem_cons, List.not_mem_nil, or_false]
            exact or_comm
          simp only [newOutboxEvent, seen, List.map_cons]

/-! ### Buckets -/

/-- The spans counted in the project's bucket of a minute. -/
def SpanMetricBucketTable.spanCount (projectId : UUID) (minute : Int)
    (table : SpanMetricBucketTable) : Nat :=
  keyedSum SpanMetricBucket.primaryKey (·.spanCount) (projectId, minute) table.rows

/-- The spans that the accumulated values count for a minute. -/
def countOf (sessionInstant : Int → Int) (minute : Int) (buckets : List BucketValues) : Nat :=
  keyedSum (fun values : BucketValues => values.bucketStart.toTimestamptz sessionInstant)
    (·.spanCount) minute buckets

/-- Adding an aware span adds to a column in its own minute, by what a new bucket holds of
the span alone, if every bucket that takes it adds as much. -/
theorem sumWhere_addToBuckets {Value : Type} [AddCommMonoid Value] {span : PreparedSpan}
    {buckets : List BucketValues} {column : BucketValues → Value} {amount : Value}
    (localInstant sessionInstant : Int → Int) (aware : span.startedAt.Aware)
    (allAware : ∀ values ∈ buckets, values.bucketStart.Aware)
    (new : column ((BucketValues.new span.startedAt.floorToMinute).add span) = amount)
    (taken : ∀ values ∈ buckets, values.add span ∈ addToBuckets span buckets →
      column (values.add span) = column values + amount)
    (selected : Int → Bool) :
    sumWhere (fun values : BucketValues => values.bucketStart.toTimestamptz sessionInstant)
        column selected (addToBuckets span buckets) =
      sumWhere (fun values : BucketValues => values.bucketStart.toTimestamptz sessionInstant)
          column selected buckets +
        if selected (Datetime.minuteOf (span.startedAt.toTimestamptz localInstant)) then amount
        else 0 := by
  have floored := aware.floorToMinute_toTimestamptz localInstant sessionInstant
  induction buckets with
  | nil =>
      rw [addToBuckets, sumWhere_cons, new, sumWhere_nil, add_zero, zero_add]
      simp only [BucketValues.add, BucketValues.new, floored]
  | cons values rest inductionHypothesis =>
      have valuesAware := allAware values (List.mem_cons_self ..)
      by_cases same : values.bucketStart.key = span.startedAt.floorToMinute.key
      · have sameMinute : values.bucketStart.toTimestamptz sessionInstant =
            Datetime.minuteOf (span.startedAt.toTimestamptz localInstant) := by
          rw [valuesAware.key_eq sessionInstant, aware.floorToMinute.key_eq sessionInstant,
            Datetime.Key.aware.injEq] at same
          exact same.trans floored
        have addedMinute : (values.add span).bucketStart = values.bucketStart := rfl
        have added := taken values (List.mem_cons_self ..) (by
          rw [addToBuckets, if_pos same]
          exact List.mem_cons_self ..)
        rw [addToBuckets, if_pos same, sumWhere_cons, sumWhere_cons, addedMinute, sameMinute,
          added]
        by_cases here : selected (Datetime.minuteOf
            (span.startedAt.toTimestamptz localInstant)) = true
        · simp only [here, if_true]
          rw [add_right_comm]
        · simp [here]
      · have others := inductionHypothesis
          (fun later member => allAware later (List.mem_cons_of_mem _ member))
          fun later member added => taken later (List.mem_cons_of_mem _ member) (by
            rw [addToBuckets, if_neg same]
            exact List.mem_cons_of_mem _ added)
        rw [addToBuckets, if_neg same, sumWhere_cons, sumWhere_cons, others, add_assoc]

/-- A bucket after a span was added is one of before, or one that took the span. -/
theorem mem_addToBuckets {span : PreparedSpan} {buckets : List BucketValues}
    {values : BucketValues} (member : values ∈ addToBuckets span buckets) :
    values ∈ buckets ∨
      values = (BucketValues.new span.startedAt.floorToMinute).add span ∨
        ∃ old ∈ buckets, old.bucketStart.key = span.startedAt.floorToMinute.key ∧
          values = old.add span := by
  induction buckets with
  | nil => exact Or.inr (Or.inl (List.mem_singleton.mp member))
  | cons first rest inductionHypothesis =>
      unfold addToBuckets at member
      split at member
      · rename_i same
        rcases List.mem_cons.mp member with rfl | later
        · exact Or.inr (Or.inr ⟨first, List.mem_cons_self .., same, rfl⟩)
        · exact Or.inl (List.mem_cons_of_mem _ later)
      · rcases List.mem_cons.mp member with rfl | later
        · exact Or.inl (List.mem_cons_self ..)
        · rcases inductionHypothesis later with old | new | ⟨old, stored, same, taken⟩
          · exact Or.inl (List.mem_cons_of_mem _ old)
          · exact Or.inr (Or.inl new)
          · exact Or.inr (Or.inr ⟨old, List.mem_cons_of_mem _ stored, same, taken⟩)

/-- The buckets of aware spans are aware. -/
theorem aware_addToBuckets {span : PreparedSpan} {buckets : List BucketValues}
    (aware : span.startedAt.Aware) (allAware : ∀ values ∈ buckets, values.bucketStart.Aware) :
    ∀ values ∈ addToBuckets span buckets, values.bucketStart.Aware := by
  intro values member
  rcases mem_addToBuckets member with old | rfl | ⟨old, stored, -, rfl⟩
  · exact allAware values old
  · exact aware.floorToMinute
  · exact allAware old stored

theorem accumulateBuckets_snoc (spans : List PreparedSpan) (span : PreparedSpan) :
    accumulateBuckets (spans ++ [span]) = addToBuckets span (accumulateBuckets spans) := by
  simp [accumulateBuckets]

theorem countOf_accumulateBuckets {spans : List PreparedSpan}
    (aware : ∀ span ∈ spans, span.startedAt.Aware) (localInstant sessionInstant : Int → Int)
    (minute : Int) :
    (∀ values ∈ accumulateBuckets spans, values.bucketStart.Aware) ∧
      countOf sessionInstant minute (accumulateBuckets spans) =
        spans.countP fun span =>
          Datetime.minuteOf (span.startedAt.toTimestamptz localInstant) = minute := by
  induction spans using List.reverseRecOn with
  | nil => exact ⟨fun _ member => (by cases member), rfl⟩
  | append_singleton spans span inductionHypothesis =>
      obtain ⟨bucketsAware, counted⟩ := inductionHypothesis fun other member =>
        aware other (List.mem_append_left _ member)
      have spanAware := aware span (List.mem_append_right _ (List.mem_singleton_self _))
      rw [accumulateBuckets_snoc]
      refine ⟨aware_addToBuckets spanAware bucketsAware, ?_⟩
      -- a bucket counts one span when it takes one, whether it is new or not
      have one : ((BucketValues.new span.startedAt.floorToMinute).add span).spanCount = 1 := rfl
      have added := sumWhere_addToBuckets localInstant sessionInstant spanAware bucketsAware
        one (fun _ _ _ => rfl) fun found => found = minute
      rw [countOf, keyedSum_eq_sumWhere] at counted ⊢
      rw [added, counted, List.countP_append, List.countP_singleton]

/-! ### The upsert -/

/-- The upsert adds the row to a column that the merge adds up, under the key of the row. -/
theorem sumWhere_upsertBucket {Value : Type} [AddCommMonoid Value]
    (column : SpanMetricBucket → Value) (table : SpanMetricBucketTable) {row : SpanMetricBucket}
    (merges : ∀ stored : SpanMetricBucket, column (stored.merge row) = column stored + column row)
    (selected : UUID × Int → Bool) :
    sumWhere SpanMetricBucket.primaryKey column selected (upsertBucket table row).rows =
      sumWhere SpanMetricBucket.primaryKey column selected table.rows +
        if selected row.primaryKey then column row else 0 := by
  have distinct : (table.rows.map SpanMetricBucket.primaryKey).Nodup :=
    List.pairwise_map.mpr table.unique
  have mergesKey : ∀ stored : SpanMetricBucket,
      (stored.merge row).primaryKey = stored.primaryKey := fun _ => rfl
  have merged := sumWhere_map_of_nodup selected mergesKey merges row.primaryKey distinct
  have mergedKey : ∀ stored : SpanMetricBucket,
      (if stored.primaryKey = row.primaryKey then stored.merge row else stored).primaryKey =
        stored.primaryKey := by
    intro stored
    split <;> rfl
  by_cases stored : row.primaryKey ∈ table.rows.map SpanMetricBucket.primaryKey
  · have conflict : ∃ old ∈ (table.rows.map fun old =>
        if old.primaryKey = row.primaryKey then old.merge row else old),
        old.primaryKey = row.primaryKey := by
      obtain ⟨old, member, same⟩ := List.mem_map.mp stored
      exact ⟨_, List.mem_map_of_mem member, (mergedKey old).trans same⟩
    rw [upsertBucket, Table.insertOrSkip_of_clash conflict, Table.mapRows_rows, merged]
    simp only [stored, true_and]
  · have new : ¬ ∃ old ∈ (table.rows.map fun old =>
        if old.primaryKey = row.primaryKey then old.merge row else old),
        old.primaryKey = row.primaryKey := by
      rintro ⟨_, member, same⟩
      obtain ⟨old, oldMember, rfl⟩ := List.mem_map.mp member
      exact stored (List.mem_map.mpr ⟨old, oldMember, (mergedKey old).symm.trans same⟩)
    rw [upsertBucket, Table.insertOrSkip_rows_of_new new, Table.mapRows_rows, sumWhere_append,
      merged, sumWhere_cons, sumWhere_nil, add_zero]
    simp only [stored, false_and, if_false, add_zero]

theorem sumWhere_foldl_upsertBucket {Value : Type} [AddCommMonoid Value]
    (column : SpanMetricBucket → Value) (rows : List SpanMetricBucket)
    (table : SpanMetricBucketTable)
    (merges : ∀ stored row : SpanMetricBucket,
      column (stored.merge row) = column stored + column row)
    (selected : UUID × Int → Bool) :
    sumWhere SpanMetricBucket.primaryKey column selected (rows.foldl upsertBucket table).rows =
      sumWhere SpanMetricBucket.primaryKey column selected table.rows +
        sumWhere SpanMetricBucket.primaryKey column selected rows := by
  induction rows generalizing table with
  | nil => simp
  | cons row rest inductionHypothesis =>
      rw [List.foldl_cons, inductionHypothesis,
        sumWhere_upsertBucket column table (fun stored => merges stored row), sumWhere_cons,
        add_assoc]

/-- The update upserts the accumulated buckets, in some order. -/
theorem updateSpanMetricBuckets_eq_ok {runtime : Runtime} {projectId : UUID}
    {spans : List PreparedSpan} {table next : SpanMetricBucketTable}
    (done : updateSpanMetricBuckets runtime projectId spans table = .ok next) :
    ∃ buckets : List BucketValues, buckets.Perm (accumulateBuckets spans) ∧
      next = (buckets.map (·.toRow runtime projectId)).foldl upsertBucket table := by
  unfold updateSpanMetricBuckets at done
  split at done
  · rename_i empty
    rw [List.isEmpty_iff] at empty
    simp only [pure, Except.pure, Except.ok.injEq] at done
    exact ⟨[], by rw [empty]; exact List.Perm.refl _, done.symm⟩
  · simp only [bind_eq_ok, pure, Except.pure, Except.ok.injEq] at done
    obtain ⟨buckets, sorted, rfl⟩ := done
    refine ⟨buckets, ?_, rfl⟩
    unfold sortBuckets at sorted
    split at sorted
    · rw [Except.ok.injEq] at sorted
      exact sorted ▸ List.perm_insertionSort _ _
    · cases sorted

/-- The update counts every span once in the project's bucket of its minute, and
no other bucket changes its count. -/
theorem spanCount_updateSpanMetricBuckets {runtime : Runtime} {projectId : UUID}
    {spans : List PreparedSpan} {table next : SpanMetricBucketTable}
    (aware : ∀ span ∈ spans, span.startedAt.Aware)
    (done : updateSpanMetricBuckets runtime projectId spans table = .ok next) (minute : Int) :
    SpanMetricBucketTable.spanCount projectId minute next =
      SpanMetricBucketTable.spanCount projectId minute table + spans.countP fun span =>
        Datetime.minuteOf (span.startedAt.toTimestamptz runtime.localInstant) = minute := by
  obtain ⟨buckets, permuted, rfl⟩ := updateSpanMetricBuckets_eq_ok done
  obtain ⟨-, counted⟩ := countOf_accumulateBuckets aware runtime.localInstant
    runtime.sessionInstant minute
  rw [SpanMetricBucketTable.spanCount, keyedSum_eq_sumWhere,
    sumWhere_foldl_upsertBucket (·.spanCount) _ _ fun _ _ => rfl, ← counted, countOf,
    keyedSum_eq_sumWhere, ← sumWhere_perm permuted, sumWhere_map,
    SpanMetricBucketTable.spanCount, keyedSum_eq_sumWhere]
  congr 1
  simp only [sumWhere, BucketValues.toRow, SpanMetricBucket.primaryKey, Prod.mk.injEq, true_and]

end LlmObs.Backend
