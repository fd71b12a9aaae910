import LlmObs.Backend.Workers.BatchOutcome

/-!
Owns attempts that no failing call disturbs: such an attempt finishes unless the
preparation raises or a trace row would have to move onto a start that is taken.
It does not own what the failures of the preparation are.
-/

namespace LlmObs.Backend

open LlmObs.Foundation

/-- No await raises but those of the preparation of a span. -/
def AttemptEnv.Undisturbed (env : AttemptEnv) : Prop :=
  ∀ stage, env.fault stage = none ∨ (∃ index, stage = .calculate index) ∨
    ∃ index, stage = .putObject index

/-- The first `count` event ids are distinct, and no event has one of them. -/
structure FreshEventIds (env : AttemptEnv) (count : Nat) (events : OutboxTable) : Prop where
  distinct : ∀ first < count, ∀ second < count,
    env.eventId first = env.eventId second → first = second
  unused : ∀ index < count, ∀ row ∈ events.rows, row.id ≠ env.eventId index

/-- The project has rows of the trace, all of them later than `instant`, and some
row holds `(traceId, instant)`. -/
structure TraceTable.BlocksMove (traces : TraceTable) (projectId traceId : UUID)
    (instant : Int) : Prop where
  has : TraceTable.Has traces projectId traceId
  later : ¬ TraceTable.Covers traces projectId traceId instant
  occupied : TraceTable.Occupied traces traceId instant

/-- The span is the earliest of its trace that the attempt recognises. -/
structure EarliestRecognised (localInstant : Int → Int) (db : Database)
    (prepared : List PreparedSpan) (span : PreparedSpan) : Prop where
  recognised : span ∈ recognisedSpans localInstant db.spans prepared
  earliest : ∀ other ∈ recognisedSpans localInstant db.spans prepared,
    other.traceId = span.traceId → span.startedAt.toTimestamptz localInstant ≤
      other.startedAt.toTimestamptz localInstant

/-- Some trace of the batch cannot move its row to the batch's start. -/
def MoveBlocked (localInstant : Int → Int) (projectId : UUID) (db : Database)
    (prepared : List PreparedSpan) : Prop :=
  ∃ span, EarliestRecognised localInstant db prepared span ∧
    TraceTable.BlocksMove db.traces projectId span.traceId
      (span.startedAt.toTimestamptz localInstant)

/-! ### Awaits that return -/

section

variable {env : AttemptEnv}

theorem AttemptEnv.Undisturbed.fault_eq (undisturbed : env.Undisturbed) {stage : BatchStage}
    (notCalculate : ∀ index, stage ≠ .calculate index)
    (notPutObject : ∀ index, stage ≠ .putObject index) : env.fault stage = none := by
  rcases undisturbed stage with returns | ⟨index, same⟩ | ⟨index, same⟩
  · exact returns
  · exact absurd same (notCalculate index)
  · exact absurd same (notPutObject index)

theorem check_of_faultless {stage : BatchStage} (faultless : env.fault stage = none) :
    env.check stage = .ok () := by
  rw [AttemptEnv.check, faultless]

theorem await_of_faultless {stage : BatchStage} (faultless : env.fault stage = none)
    (effect : World → World) (world : World) :
    env.await stage effect world = (effect world, none) := by
  rw [AttemptEnv.await, faultless]

theorem startAttempt_undisturbed (undisturbed : env.Undisturbed) (world : World) :
    startAttempt env world = (world.setStatus markProcessing, none) := by
  rw [startAttempt,
    await_of_faultless (undisturbed.fault_eq (by simp) (by simp))]
  simp only [World.andThen]
  rw [await_of_faultless (undisturbed.fault_eq (by simp) (by simp))]
  exact await_of_faultless (undisturbed.fault_eq (by simp) (by simp)) _ _

theorem enqueueDelivery_undisturbed (undisturbed : env.Undisturbed) (projectId : UUID)
    (inserted : List PreparedSpan) (world : World) :
    (enqueueDelivery env projectId inserted world).2 = none := by
  rw [enqueueDelivery_returned_iff]
  intro _ fault known
  rw [undisturbed.fault_eq (by simp) (by simp)] at known
  cases known

theorem enqueueAggregates_undisturbed (undisturbed : env.Undisturbed) (projectId : UUID)
    (starts : List (UUID × Datetime)) (world : World) :
    (enqueueAggregates env projectId starts world).2 = none := by
  induction starts generalizing world with
  | nil => rfl
  | cons head rest inductionHypothesis =>
      rw [enqueueAggregates,
        await_of_faultless (undisturbed.fault_eq (by simp) (by simp))]
      exact inductionHypothesis _

/-- Behind the commit everything returns, and the counts are set. -/
theorem afterCommit_undisturbed (undisturbed : env.Undisturbed) (projectId : UUID)
    (batch : InsertedBatch) (failedCount : Nat) (world : World) :
    (afterCommit env projectId batch failedCount world).2 = none ∧
      ∃ existing, (afterCommit env projectId batch failedCount world).1.batchStatus =
        some (markFinished batch.insertedSpans.length failedCount existing) := by
  have delivered := enqueueDelivery_undisturbed undisturbed projectId batch.insertedSpans world
  rw [afterCommit]
  cases delivery : enqueueDelivery env projectId batch.insertedSpans world with
  | mk first halted =>
  rw [delivery] at delivered
  dsimp only at delivered
  subst delivered
  have aggregated :=
    enqueueAggregates_undisturbed undisturbed projectId batch.stableTraceStarts first
  simp only [World.andThen]
  cases aggregates : enqueueAggregates env projectId batch.stableTraceStarts first with
  | mk second halted =>
  rw [aggregates] at aggregated
  dsimp only at aggregated
  subst aggregated
  dsimp only
  rw [await_of_faultless (undisturbed.fault_eq (by simp) (by simp))]
  dsimp only
  rw [await_of_faultless (undisturbed.fault_eq (by simp) (by simp))]
  exact ⟨rfl, _, rfl⟩

end

/-! ### Statements that succeed -/

section

variable {env : AttemptEnv} {projectId : UUID} {spans : List PreparedSpan}

theorem enqueueOutboxEvent_isSome (now : Int) (projectId : UUID) (eventType eventKey : String)
    (payload : Json) {id : UUID} {events : OutboxTable}
    (unused : ∀ row ∈ events.rows, row.id ≠ id) :
    ∃ next, enqueueOutboxEvent now id projectId eventType eventKey payload events = some next ∧
      ∀ row ∈ next.rows, row ∈ events.rows ∨ row.id = id := by
  unfold enqueueOutboxEvent
  split
  · exact ⟨events, rfl, fun row stored => Or.inl stored⟩
  · rename_i unstored
    cases inserted : events.insert?
      (newOutboxEvent now id projectId eventType eventKey payload) with
    | some next =>
        refine ⟨next, rfl, fun row stored => ?_⟩
        rw [Table.insert?_rows inserted, List.mem_append, List.mem_singleton] at stored
        rcases stored with old | rfl
        · exact Or.inl old
        · exact Or.inr rfl
    | none =>
        exfalso
        refine Table.ofRows?_eq_none_iff.mp inserted ?_
        rw [List.pairwise_append]
        refine ⟨events.unique, List.pairwise_singleton _ _, fun old stored new isNew => ?_⟩
        rw [List.mem_singleton.mp isNew]
        rintro (sameId | sameKey)
        · exact unused old stored sameId
        · exact unstored ⟨old, stored, sameKey⟩

variable (projectId) in
/-- With fresh ids every event can be enqueued. -/
theorem enqueueSpanEvents_isOk {count : Nat} (index : Nat) {events : OutboxTable}
    (returns : ∀ index, env.fault (.enqueueOutboxEvent index) = none)
    (distinct : ∀ first < count, ∀ second < count,
      env.eventId first = env.eventId second → first = second)
    (unused : ∀ later < count, index ≤ later → ∀ row ∈ events.rows, row.id ≠ env.eventId later)
    (enough : index + spans.length ≤ count) :
    ∃ next, enqueueSpanEvents env projectId index spans events = .ok next := by
  induction spans generalizing index events with
  | nil => exact ⟨events, rfl⟩
  | cons span rest inductionHypothesis =>
      rw [List.length_cons] at enough
      obtain ⟨middle, enqueued, rows⟩ := enqueueOutboxEvent_isSome env.now projectId
        outboxSpanInserted span.eventKey (spanInsertedPayload span)
        (unused index (by omega) le_rfl)
      have middleUnused : ∀ later < count, index + 1 ≤ later →
          ∀ row ∈ middle.rows, row.id ≠ env.eventId later := by
        intro later below after row stored
        rcases rows row stored with old | same
        · exact unused later below (by omega) row old
        · intro clash
          have sameIndex := distinct index (by omega) later below (same.symm.trans clash)
          omega
      obtain ⟨next, others⟩ := inductionHypothesis (index + 1) middleUnused (by omega)
      refine ⟨next, ?_⟩
      rw [enqueueSpanEvents, check_of_faultless (returns index), enqueued]
      exact others

theorem updateSpanMetricBuckets_isOk (runtime : Runtime) (projectId : UUID)
    (aware : ∀ span ∈ spans, span.startedAt.Aware) (table : SpanMetricBucketTable) :
    ∃ next, updateSpanMetricBuckets runtime projectId spans table = .ok next := by
  have bucketsAware := (countOf_accumulateBuckets aware id id 0).1
  unfold updateSpanMetricBuckets
  split
  · exact ⟨table, rfl⟩
  · rw [sortBuckets, if_pos (Or.inl bucketsAware)]
    exact ⟨_, rfl⟩

end

/-! ### Traces that can be ensured -/

section

variable {localInstant : Int → Int} {projectId traceId : UUID} {startedAt : Datetime}
  {status : SpanStatus} {traces next : TraceTable}

variable (localInstant projectId traceId status traces) in
theorem ensureTraceRow_isOk_iff (aware : startedAt.Aware) :
    (∃ result, ensureTraceRow localInstant projectId traceId startedAt status traces =
      .ok result) ↔
      ¬ TraceTable.BlocksMove traces projectId traceId
        (startedAt.toTimestamptz localInstant) := by
  cases found : earliestTraceStart projectId traceId traces with
  | none =>
      have absent := earliestTraceStart_eq_none_iff.mp found
      rw [ensureTraceRow_of_absent absent]
      exact ⟨fun _ blocks => absent blocks.has, fun _ => ⟨_, rfl⟩⟩
  | some existing =>
      obtain ⟨⟨row, stored, own, start⟩, least⟩ := earliestTraceStart_eq_some found
      by_cases early : existing ≤ startedAt.toTimestamptz localInstant
      · rw [ensureTraceRow_of_kept aware found early]
        exact ⟨fun _ blocks => blocks.later ⟨row, stored, own, start ▸ early⟩,
          fun _ => ⟨_, rfl⟩⟩
      · rw [ensureTraceRow_of_later aware found early]
        have later : ¬ TraceTable.Covers traces projectId traceId
            (startedAt.toTimestamptz localInstant) := by
          rintro ⟨other, otherStored, otherOwn, covers⟩
          have first := least other otherStored otherOwn
          omega
        by_cases occupied : TraceTable.Occupied traces traceId
          (startedAt.toTimestamptz localInstant)
        · rw [ofRows?_moveTraceStart_of_occupied found early occupied]
          constructor
          · rintro ⟨_, impossible⟩
            cases impossible
          · intro free
            exact absurd ⟨⟨row, stored, own⟩, later, occupied⟩ free
        · obtain ⟨moved, checked, -⟩ := ofRows?_moveTraceStart projectId existing occupied
          rw [checked]
          exact ⟨fun _ blocks => occupied blocks.occupied, fun _ => ⟨_, rfl⟩⟩

theorem TraceEnsured.blocksMove_other
    (ensured : TraceEnsured localInstant projectId traceId startedAt traces next)
    {other : UUID} (different : other ≠ traceId) (instant : Int) :
    TraceTable.BlocksMove next projectId other instant ↔
      TraceTable.BlocksMove traces projectId other instant := by
  constructor
  · rintro ⟨has, later, occupied⟩
    exact ⟨(ensured.has_other different).mp has,
      fun covers => later ((ensured.covers_other different instant).mpr covers),
      (ensured.occupied_other different instant).mp occupied⟩
  · rintro ⟨has, later, occupied⟩
    exact ⟨(ensured.has_other different).mpr has,
      fun covers => later ((ensured.covers_other different instant).mp covers),
      (ensured.occupied_other different instant).mpr occupied⟩

end

/-- All traces of the map can be ensured exactly when each of them on its own
can. -/
theorem ensureTraceRows_isOk_iff (runtime : Runtime) {env : AttemptEnv} (projectId : UUID)
    {traceMap : List (UUID × PreparedSpan)} (traces : TraceTable)
    (returns : ∀ traceId, env.fault (.ensureTraceRow traceId) = none)
    (distinct : (traceMap.map Prod.fst).Nodup)
    (aware : ∀ entry ∈ traceMap, entry.2.startedAt.Aware) :
    (∃ result, ensureTraceRows runtime env projectId traceMap traces = .ok result) ↔
      ∀ entry ∈ traceMap, ¬ TraceTable.BlocksMove traces projectId entry.1
        (entry.2.startedAt.toTimestamptz runtime.localInstant) := by
  induction traceMap generalizing traces with
  | nil => simp [ensureTraceRows]
  | cons head rest inductionHypothesis =>
      obtain ⟨headId, span⟩ := head
      rw [List.map_cons, List.nodup_cons] at distinct
      have headAware := aware _ (List.mem_cons_self ..)
      have headOk := ensureTraceRow_isOk_iff runtime.localInstant projectId headId
        span.status traces headAware
      have others : ∀ {middle : TraceTable} {start : Datetime},
          ensureTraceRow runtime.localInstant projectId headId span.startedAt span.status
            traces = .ok (middle, start) →
          ((∃ result, ensureTraceRows runtime env projectId rest middle = .ok result) ↔
            ∀ entry ∈ rest, ¬ TraceTable.BlocksMove traces projectId entry.1
              (entry.2.startedAt.toTimestamptz runtime.localInstant)) := by
        intro middle start ensures
        rw [inductionHypothesis middle distinct.2
          fun entry member => aware entry (List.mem_cons_of_mem _ member)]
        refine forall₂_congr fun entry member => not_congr ?_
        refine (traceEnsured_of_ok headAware ensures).blocksMove_other ?_ _
        intro same
        exact distinct.1 (List.mem_map.mpr ⟨entry, member, same⟩)
      rw [List.forall_mem_cons, ← headOk]
      constructor
      · rintro ⟨⟨final, starts⟩, done⟩
        obtain ⟨middle, start, later, -, ensures, restDone, -⟩ := ensureTraceRows_cons done
        exact ⟨⟨_, ensures⟩, (others ensures).mp ⟨_, restDone⟩⟩
      · rintro ⟨⟨⟨middle, start⟩, ensures⟩, free⟩
        obtain ⟨⟨final, starts⟩, restDone⟩ := (others ensures).mpr free
        refine ⟨(final, (headId, start) :: starts), ?_⟩
        rw [ensureTraceRows, check_of_faultless (returns headId), ok_bind, ensures, ok_bind]
        simp only [restDone, ok_bind]
        rfl

/-! ### One attempt -/

section

variable {runtime : Runtime} {env : AttemptEnv} {projectId : UUID}

/-- The entries of the trace map are the earliest recognised spans. -/
theorem moveBlocked_iff_entry {localInstant : Int → Int} {db : Database}
    {prepared : List PreparedSpan} {traceMap : List (UUID × PreparedSpan)}
    (mapOf : TraceMapOf localInstant (recognisedSpans localInstant db.spans prepared) traceMap) :
    MoveBlocked localInstant projectId db prepared ↔
      ∃ entry ∈ traceMap, TraceTable.BlocksMove db.traces projectId entry.1
        (entry.2.startedAt.toTimestamptz localInstant) := by
  constructor
  · rintro ⟨span, ⟨recognised, first⟩, blocks⟩
    obtain ⟨earliest, listed⟩ := mapOf.complete span recognised
    obtain ⟨earliestRecognised, sameTrace⟩ := mapOf.sound _ listed
    have sameStart : earliest.startedAt.toTimestamptz localInstant =
        span.startedAt.toTimestamptz localInstant :=
      le_antisymm (mapOf.earliest _ listed span recognised rfl)
        (first earliest earliestRecognised sameTrace)
    exact ⟨_, listed, sameStart.symm ▸ blocks⟩
  · rintro ⟨entry, listed, blocks⟩
    obtain ⟨recognised, sameTrace⟩ := mapOf.sound entry listed
    rw [← sameTrace] at blocks
    refine ⟨entry.2, ⟨recognised, fun other otherRecognised same => ?_⟩, blocks⟩
    exact mapOf.earliest entry listed other otherRecognised (same.trans sameTrace)

variable (runtime projectId) in
/-- The transaction of an undisturbed attempt succeeds unless a move is blocked. -/
theorem storeBatch_isOk_iff (undisturbed : env.Undisturbed) {prepared : List PreparedSpan}
    {db : Database} {count : Nat} (fresh : FreshEventIds env count db.outboxEvents)
    (enough : prepared.length ≤ count) :
    (∃ result, storeBatch runtime env projectId prepared db = .ok result) ↔
      ¬ MoveBlocked runtime.localInstant projectId db prepared := by
  have aware : ∀ span ∈ recognisedSpans runtime.localInstant db.spans prepared,
      span.startedAt.Aware := fun span member => aware_of_mem_recognisedSpans member
  obtain ⟨traceMap, built, mapOf⟩ := traceMapOf_buildTraceMap runtime.localInstant aware
  have mapAware : ∀ entry ∈ traceMap, entry.2.startedAt.Aware :=
    fun entry member => aware _ (mapOf.sound entry member).1
  have rowsOk := ensureTraceRows_isOk_iff runtime projectId db.traces
    (fun traceId => undisturbed.fault_eq (by simp) (by simp)) mapOf.distinct mapAware
  have fewer : (recognisedSpans runtime.localInstant db.spans prepared).length ≤
      prepared.length :=
    ((firstNew_sublist _ _).trans (List.filter_sublist ..)).length_le
  have free : ¬ MoveBlocked runtime.localInstant projectId db prepared ↔
      ∀ entry ∈ traceMap, ¬ TraceTable.BlocksMove db.traces projectId entry.1
        (entry.2.startedAt.toTimestamptz runtime.localInstant) := by
    rw [moveBlocked_iff_entry mapOf]
    simp only [not_exists, not_and]
  rw [free, ← rowsOk]
  constructor
  · rintro ⟨⟨next, batch⟩, done⟩
    simp only [storeBatch, selectInsertedSpans_bulkInsertSpans, bind_eq_ok, orRaised_eq_ok,
      built, Except.ok.injEq] at done
    obtain ⟨_, -, _, rfl, result, ensured, -⟩ := done
    exact ⟨result, ensured⟩
  · rintro ⟨⟨traces, starts⟩, ensured⟩
    obtain ⟨events, enqueued⟩ := enqueueSpanEvents_isOk projectId 0
      (fun index => undisturbed.fault_eq (by simp) (by simp)) fresh.distinct
      (fun later below _ => fresh.unused later below)
      (show 0 + (recognisedSpans runtime.localInstant db.spans prepared).length ≤ count by omega)
    obtain ⟨buckets, updated⟩ := updateSpanMetricBuckets_isOk runtime projectId aware
      db.spanMetricBuckets
    have inserts : env.check .insertSpans = .ok () :=
      check_of_faultless (undisturbed.fault_eq (by simp) (by simp))
    have updates : env.check .updateBuckets = .ok () :=
      check_of_faultless (undisturbed.fault_eq (by simp) (by simp))
    refine ⟨({ db with
      spans := (bulkInsertSpans runtime.localInstant prepared db.spans).1
      traces := traces
      outboxEvents := events
      spanMetricBuckets := buckets },
      ⟨recognisedSpans runtime.localInstant db.spans prepared, starts⟩), ?_⟩
    simp only [storeBatch, inserts, updates, selectInsertedSpans_bulkInsertSpans, built,
      orRaised, ok_bind, ensured, enqueued, updated]
    rfl

/-- The counts of `mark_finished`, if the attempt gets there. -/
def AttemptRun.reported (run : AttemptRun) : Option (Nat × Nat) :=
  match run.halt with
  | none => run.world.batchStatus.map fun status => (status.processed, status.failed)
  | some _ => none

/-- The attempt ends without a report and leaves the database alone. -/
structure AttemptAborted (run : AttemptRun) (world : World) : Prop where
  db : run.world.db = world.db
  reported : run.reported = none

theorem aborted_of_failAttempt (halt : Halt) {after world : World}
    (sameDb : after.db = world.db) : AttemptAborted (failAttempt env halt none after) world := by
  obtain ⟨failedDb, -, halted⟩ := failAttempt_spec env halt none after
  refine ⟨failedDb.trans sameDb, ?_⟩
  unfold AttemptRun.reported
  split
  · rename_i returned
    exact absurd returned halted
  · rfl

variable {spans : List SpanSchema} {world : World}

/-- An attempt whose preparation raises aborts. -/
theorem aborted_of_unprepared (undisturbed : env.Undisturbed) {halt : Halt} {after : World}
    (raises : prepareBatch runtime env projectId spans (world.setStatus markProcessing) =
      (.error halt, after)) :
    AttemptAborted (processSpanBatch runtime env projectId spans world) world := by
  have sameDb := prepareBatch_db runtime env projectId spans (world.setStatus markProcessing)
  rw [raises] at sameDb
  simp only [processSpanBatch, startAttempt_undisturbed undisturbed, raises]
  exact aborted_of_failAttempt halt sameDb

/-- An attempt that prepares its spans aborts where a move is blocked. -/
theorem aborted_of_moveBlocked (undisturbed : env.Undisturbed)
    (fresh : FreshEventIds env spans.length world.db.outboxEvents)
    {prepared : List PreparedSpan} {failedCount : Nat} {after : World}
    (prepares : prepareBatch runtime env projectId spans (world.setStatus markProcessing) =
      (.ok (prepared, failedCount), after))
    (blocked : MoveBlocked runtime.localInstant projectId world.db prepared) :
    AttemptAborted (processSpanBatch runtime env projectId spans world) world := by
  obtain ⟨total, sameDb, -⟩ := prepareBatch_spec prepares
  have sameDb : after.db = world.db := sameDb
  have free := storeBatch_isOk_iff runtime projectId undisturbed fresh
    (show prepared.length ≤ spans.length by omega)
  simp only [processSpanBatch, startAttempt_undisturbed undisturbed, prepares, sameDb]
  cases stores : storeBatch runtime env projectId prepared world.db with
  | error halt => exact aborted_of_failAttempt halt sameDb
  | ok result => exact absurd blocked (free.mp ⟨result, stores⟩)

/-- It finishes where none is. -/
theorem finished_of_free (undisturbed : env.Undisturbed)
    (fresh : FreshEventIds env spans.length world.db.outboxEvents)
    {prepared : List PreparedSpan} {failedCount : Nat} {after : World}
    (prepares : prepareBatch runtime env projectId spans (world.setStatus markProcessing) =
      (.ok (prepared, failedCount), after))
    (free : ¬ MoveBlocked runtime.localInstant projectId world.db prepared) :
    ∃ batch, BatchStored runtime env projectId prepared world.db
        (processSpanBatch runtime env projectId spans world).world.db batch ∧
      (processSpanBatch runtime env projectId spans world).reported =
        some (batch.insertedSpans.length, failedCount) := by
  obtain ⟨total, sameDb, -⟩ := prepareBatch_spec prepares
  have sameDb : after.db = world.db := sameDb
  obtain ⟨⟨db, batch⟩, stores⟩ := (storeBatch_isOk_iff runtime projectId undisturbed fresh
    (show prepared.length ≤ spans.length by omega)).mpr free
  have behindDb := afterCommit_db env projectId batch failedCount { after with db := db }
  obtain ⟨returned, existing, marked⟩ := afterCommit_undisturbed undisturbed projectId batch
    failedCount { after with db := db }
  have commits : env.fault .commit = none := undisturbed.fault_eq (by simp) (by simp)
  have run : processSpanBatch runtime env projectId spans world =
      ⟨(afterCommit env projectId batch failedCount { after with db := db }).1, none,
        some ⟨prepared, failedCount, batch⟩⟩ := by
    simp only [processSpanBatch, startAttempt_undisturbed undisturbed, prepares, sameDb, stores,
      commitBatch, commits]
    cases behind : afterCommit env projectId batch failedCount { after with db := db } with
    | mk last halted =>
        rw [behind] at returned
        dsimp only at returned
        rw [returned]
  refine ⟨batch, ?_, ?_⟩
  · rw [run]
    exact behindDb ▸ batchStored_of_ok stores
  · rw [run]
    simp only [AttemptRun.reported, marked, Option.map_some]
    rfl

end

end LlmObs.Backend
