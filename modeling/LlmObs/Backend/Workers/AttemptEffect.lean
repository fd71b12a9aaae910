import LlmObs.Backend.Workers.DerivedRows
import LlmObs.Backend.Workers.StoredSpans
import LlmObs.Backend.Workers.TraceRows

/-!
Owns what one attempt does to the database: nothing unless its transaction
commits, and then exactly the rows that follow from the prepared spans and the
database before it.
-/

namespace LlmObs.Backend

open LlmObs.Foundation

/-! ### The transaction -/

/-- The database `next` that the transaction of a batch makes of `db`. -/
structure BatchStored (runtime : Runtime) (env : AttemptEnv) (projectId : UUID)
    (prepared : List PreparedSpan) (db next : Database) (batch : InsertedBatch) : Prop where
  inserted : batch.insertedSpans = recognisedSpans runtime.localInstant db.spans prepared
  spans : next.spans.rows = db.spans.rows ++
    (storedSpans runtime.localInstant db.spans prepared).map (·.toRow runtime.localInstant)
  traces : ∃ traceMap, buildTraceMap batch.insertedSpans = .ok traceMap ∧
    TraceMapOf runtime.localInstant batch.insertedSpans traceMap ∧
    ensureTraceRows runtime env projectId traceMap db.traces =
      .ok (next.traces, batch.stableTraceStarts)
  events : enqueueSpanEvents env projectId 0 batch.insertedSpans db.outboxEvents =
    .ok next.outboxEvents
  buckets : updateSpanMetricBuckets runtime projectId batch.insertedSpans
    db.spanMetricBuckets = .ok next.spanMetricBuckets
  projects : next.projects = db.projects
  prices : next.modelPricing = db.modelPricing

theorem orRaised_eq_ok {α : Type} {outcome : Except PyException α} {value : α} :
    orRaised outcome = .ok value ↔ outcome = .ok value := by
  cases outcome <;> simp [orRaised]

theorem batchStored_of_ok {runtime : Runtime} {env : AttemptEnv} {projectId : UUID}
    {prepared : List PreparedSpan} {db next : Database} {batch : InsertedBatch}
    (done : storeBatch runtime env projectId prepared db = .ok (next, batch)) :
    BatchStored runtime env projectId prepared db next batch := by
  simp only [storeBatch, selectInsertedSpans_bulkInsertSpans, bind_eq_ok, orRaised_eq_ok,
    Prod.exists, pure, Except.pure, Except.ok.injEq, Prod.mk.injEq] at done
  obtain ⟨_, -, traceMap, mapped, traces, starts, ensured, events, enqueued, _, -, buckets,
    updated, rfl, rfl⟩ := done
  obtain ⟨otherMap, built, mapOf⟩ := traceMapOf_buildTraceMap runtime.localInstant
    fun span (member : span ∈ recognisedSpans runtime.localInstant db.spans prepared) =>
      aware_of_mem_recognisedSpans member
  rw [mapped, Except.ok.injEq] at built
  subst built
  exact ⟨rfl, bulkInsertSpans_rows .., ⟨traceMap, mapped, mapOf, ensured⟩, enqueued, updated,
    rfl, rfl⟩

theorem BatchStored.inserted_aware {runtime : Runtime} {env : AttemptEnv} {projectId : UUID}
    {prepared : List PreparedSpan} {db next : Database} {batch : InsertedBatch}
    (stored : BatchStored runtime env projectId prepared db next batch) :
    ∀ span ∈ batch.insertedSpans, span.startedAt.Aware := by
  rw [stored.inserted]
  exact fun span member => aware_of_mem_recognisedSpans member

theorem BatchStored.traceMap_aware {runtime : Runtime} {env : AttemptEnv} {projectId : UUID}
    {prepared : List PreparedSpan} {db next : Database} {batch : InsertedBatch}
    {traceMap : List (UUID × PreparedSpan)}
    (stored : BatchStored runtime env projectId prepared db next batch)
    (mapOf : TraceMapOf runtime.localInstant batch.insertedSpans traceMap) :
    ∀ entry ∈ traceMap, entry.2.startedAt.Aware :=
  fun entry member => stored.inserted_aware entry.2 (mapOf.sound entry member).1

/-! ### The awaits around it -/

/-- An await leaves what its effect leaves. -/
theorem await_keeps {Value : Type} (env : AttemptEnv) (stage : BatchStage)
    (effect : World → World) (read : World → Value) (world : World)
    (keeps : read (effect world) = read world) :
    read (env.await stage effect world).1 = read world := by
  unfold AttemptEnv.await
  split
  · exact keeps
  · dsimp only
    split
    · exact keeps
    · rfl

theorem andThen_keeps {Value : Type} (read : World → Value) {value : Value}
    {sofar : World × Option Halt} {next : World → World × Option Halt}
    (before : read sofar.1 = value)
    (after : ∀ world, read world = value → read (next world).1 = value) :
    read (World.andThen sofar next).1 = value := by
  obtain ⟨world, halt⟩ := sofar
  cases halt with
  | none => exact after world before
  | some halt => exact before

/-- What no status update changes, the calls before the `try` leave. -/
theorem startAttempt_keeps {Value : Type} {read : World → Value}
    (keepsStatus : ∀ (world : World) update, read (world.setStatus update) = read world)
    (env : AttemptEnv) (world : World) : read (startAttempt env world).1 = read world :=
  andThen_keeps read (await_keeps env _ id read world rfl) fun next same =>
    andThen_keeps read ((await_keeps env _ id read next rfl).trans same)
      fun last same => (await_keeps env _ _ read last (keepsStatus last _)).trans same

theorem startAttempt_db (env : AttemptEnv) (world : World) :
    (startAttempt env world).1.db = world.db :=
  startAttempt_keeps (fun _ _ => rfl) env world

/-- The delivery leaves the world of its await, if it awaits. -/
theorem enqueueDelivery_cases (env : AttemptEnv) (projectId : UUID)
    (inserted : List PreparedSpan) (world : World) :
    (enqueueDelivery env projectId inserted world).1 = world ∨
      (enqueueDelivery env projectId inserted world).1 =
        (env.await .deliverOutbox (·.enqueue (.deliverSpanOutboxEvents projectId)) world).1 := by
  unfold enqueueDelivery
  split
  · exact Or.inl rfl
  · split
    · rename_i after same
      exact Or.inr (congrArg Prod.fst same).symm
    · rename_i after _ same
      exact Or.inr (congrArg Prod.fst same).symm

section

variable {Value : Type} {read : World → Value}

/-- What no enqueue changes, the enqueues behind the commit leave. -/
theorem enqueueDelivery_keeps
    (keeps : ∀ (world : World) task, read (world.enqueue task) = read world)
    (env : AttemptEnv) (projectId : UUID) (inserted : List PreparedSpan) (world : World) :
    read (enqueueDelivery env projectId inserted world).1 = read world := by
  rcases enqueueDelivery_cases env projectId inserted world with same | same
  · rw [same]
  · rw [same]
    exact await_keeps env _ _ read world (keeps world _)

theorem enqueueAggregates_keeps
    (keeps : ∀ (world : World) task, read (world.enqueue task) = read world)
    (env : AttemptEnv) (projectId : UUID) (starts : List (UUID × Datetime)) (world : World) :
    read (enqueueAggregates env projectId starts world).1 = read world := by
  induction starts generalizing world with
  | nil => rfl
  | cons head rest inductionHypothesis =>
      exact andThen_keeps read (await_keeps env _ _ read world (keeps world _)) fun next same =>
        (inductionHypothesis next).trans same

theorem afterCommit_keeps
    (keepsStatus : ∀ (world : World) update, read (world.setStatus update) = read world)
    (keepsQueue : ∀ (world : World) task, read (world.enqueue task) = read world)
    (env : AttemptEnv) (projectId : UUID) (batch : InsertedBatch) (failedCount : Nat)
    (world : World) : read (afterCommit env projectId batch failedCount world).1 = read world :=
  andThen_keeps read (enqueueDelivery_keeps keepsQueue env projectId _ world) fun next same =>
    andThen_keeps read ((enqueueAggregates_keeps keepsQueue env projectId _ next).trans same)
      fun next same =>
        andThen_keeps read ((await_keeps env _ _ read next (keepsQueue next _)).trans same)
          fun last same => (await_keeps env _ _ read last (keepsStatus last _)).trans same

theorem failAttempt_keeps
    (keepsStatus : ∀ (world : World) update, read (world.setStatus update) = read world)
    (env : AttemptEnv) (halt : Halt) (committed : Option CommittedBatch) (world : World) :
    read (failAttempt env halt committed world).world = read world := by
  cases halt with
  | killed => rfl
  | raised exception =>
      have awaited := await_keeps env .markFailed
        (·.setStatus (markBatchFailed exception.message)) read world (keepsStatus world _)
      simp only [failAttempt]
      split
      · rename_i after same
        rwa [same] at awaited
      · rename_i after halt same
        rwa [same] at awaited

end

theorem afterCommit_db (env : AttemptEnv) (projectId : UUID) (batch : InsertedBatch)
    (failedCount : Nat) (world : World) :
    (afterCommit env projectId batch failedCount world).1.db = world.db :=
  afterCommit_keeps (fun _ _ => rfl) (fun _ _ => rfl) env projectId batch failedCount world

theorem failAttempt_spec (env : AttemptEnv) (halt : Halt) (committed : Option CommittedBatch)
    (world : World) :
    (failAttempt env halt committed world).world.db = world.db ∧
      (failAttempt env halt committed world).committed = committed ∧
      (failAttempt env halt committed world).halt ≠ none := by
  refine ⟨failAttempt_keeps (fun _ _ => rfl) env halt committed world, ?_⟩
  cases halt with
  | killed => exact ⟨rfl, by simp [failAttempt]⟩
  | raised exception =>
      simp only [failAttempt]
      split
      · exact ⟨rfl, by simp⟩
      · exact ⟨rfl, by simp⟩

/-! ### One attempt -/

/-- The spans that an attempt prepares before it writes to the database. -/
def preparedSpans (runtime : Runtime) (env : AttemptEnv) (projectId : UUID)
    (spans : List SpanSchema) (world : World) : List PreparedSpan :=
  match (prepareBatch runtime env projectId spans (startAttempt env world).1).1 with
  | .ok (prepared, _) => prepared
  | .error _ => []

/-- What an attempt that committed had done up to then. -/
structure AttemptCommitted (runtime : Runtime) (env : AttemptEnv) (projectId : UUID)
    (spans : List SpanSchema) (world : World) (stored : CommittedBatch) : Prop where
  prepares : (prepareBatch runtime env projectId spans (startAttempt env world).1).1 =
    .ok (stored.prepared, stored.failedCount)
  stores : BatchStored runtime env projectId stored.prepared world.db
    (processSpanBatch runtime env projectId spans world).world.db stored.batch

theorem AttemptCommitted.prepared_eq {runtime : Runtime} {env : AttemptEnv} {projectId : UUID}
    {spans : List SpanSchema} {world : World} {stored : CommittedBatch}
    (attempt : AttemptCommitted runtime env projectId spans world stored) :
    stored.prepared = preparedSpans runtime env projectId spans world := by
  rw [preparedSpans, attempt.prepares]

theorem commitBatch_spec (env : AttemptEnv) (projectId : UUID) (stored : CommittedBatch)
    (db : Database) (world : World) :
    (commitBatch env projectId stored db world).committed = none ∧
        (commitBatch env projectId stored db world).world.db = world.db ∨
      (commitBatch env projectId stored db world).committed = some stored ∧
        (commitBatch env projectId stored db world).world.db = db := by
  simp only [commitBatch]
  split
  · rename_i halt _
    obtain ⟨sameDb, committed, -⟩ := failAttempt_spec env halt none world
    exact Or.inl ⟨committed, sameDb⟩
  · rename_i halt _
    obtain ⟨sameDb, committed, -⟩ :=
      failAttempt_spec env halt (some stored) { world with db := db }
    exact Or.inr ⟨committed, sameDb⟩
  · have sameDb := afterCommit_db env projectId stored.batch stored.failedCount
      { world with db := db }
    split
    · rename_i after same
      rw [same] at sameDb
      exact Or.inr ⟨rfl, sameDb⟩
    · rename_i after halt same
      rw [same] at sameDb
      obtain ⟨failedDb, committed, -⟩ := failAttempt_spec env halt (some stored) after
      exact Or.inr ⟨committed, failedDb.trans sameDb⟩

theorem prepareBatch_db (runtime : Runtime) (env : AttemptEnv) (projectId : UUID)
    (spans : List SpanSchema) (world : World) :
    (prepareBatch runtime env projectId spans world).2.db = world.db := by
  simp only [prepareBatch]
  split <;> rfl

/-- The ways through `process_span_batch`: it ends before the `try`, before the
commit, or at the commit or behind it. -/
inductive AttemptPath (runtime : Runtime) (env : AttemptEnv) (projectId : UUID)
    (spans : List SpanSchema) (world : World) : AttemptRun → Prop where
  | notStarted {begun : World} {halt : Halt}
      (started : startAttempt env world = (begun, some halt)) :
      AttemptPath runtime env projectId spans world ⟨begun, some halt, none⟩
  | notStored {begun after : World} {halt : Halt}
      (started : startAttempt env world = (begun, none))
      (prepares : (prepareBatch runtime env projectId spans begun).2 = after) :
      AttemptPath runtime env projectId spans world (failAttempt env halt none after)
  | stored {begun after : World} {db : Database} (stored : CommittedBatch)
      (started : startAttempt env world = (begun, none))
      (prepares : prepareBatch runtime env projectId spans begun =
        (.ok (stored.prepared, stored.failedCount), after))
      (stores : storeBatch runtime env projectId stored.prepared after.db =
        .ok (db, stored.batch)) :
      AttemptPath runtime env projectId spans world (commitBatch env projectId stored db after)

theorem attemptPath (runtime : Runtime) (env : AttemptEnv) (projectId : UUID)
    (spans : List SpanSchema) (world : World) :
    AttemptPath runtime env projectId spans world
      (processSpanBatch runtime env projectId spans world) := by
  unfold processSpanBatch
  split
  · rename_i begun halt started
    exact .notStarted started
  · rename_i begun started
    split
    · rename_i halt after prepares
      exact .notStored started (congrArg Prod.snd prepares)
    · rename_i prepared failedCount after prepares
      split
      · rename_i halt failed
        exact .notStored started (congrArg Prod.snd prepares)
      · rename_i db batch stores
        exact .stored ⟨prepared, failedCount, batch⟩ started prepares stores

/-- An attempt either leaves the database alone, or commits a stored batch. -/
theorem processSpanBatch_cases (runtime : Runtime) (env : AttemptEnv) (projectId : UUID)
    (spans : List SpanSchema) (world : World) :
    ((processSpanBatch runtime env projectId spans world).committed = none ∧
        (processSpanBatch runtime env projectId spans world).world.db = world.db) ∨
      ∃ stored, (processSpanBatch runtime env projectId spans world).committed = some stored ∧
        AttemptCommitted runtime env projectId spans world stored := by
  have startDb := startAttempt_db env world
  have path := attemptPath runtime env projectId spans world
  generalize result : processSpanBatch runtime env projectId spans world = run at path
  cases path with
  | notStarted started =>
      rw [started] at startDb
      exact Or.inl ⟨rfl, startDb⟩
  | @notStored begun after halt started prepares =>
      rw [started] at startDb
      have preparedDb := prepareBatch_db runtime env projectId spans begun
      rw [prepares] at preparedDb
      obtain ⟨failedDb, committed, -⟩ := failAttempt_spec env halt none after
      exact Or.inl ⟨committed, failedDb.trans (preparedDb.trans startDb)⟩
  | @stored begun after db stored started prepares stores =>
      rw [started] at startDb
      have preparedDb := prepareBatch_db runtime env projectId spans begun
      rw [prepares] at preparedDb
      have sameDb : after.db = world.db := preparedDb.trans startDb
      rcases commitBatch_spec env projectId stored db after with
        ⟨committed, finalDb⟩ | ⟨committed, finalDb⟩
      · exact Or.inl ⟨committed, finalDb.trans sameDb⟩
      · refine Or.inr ⟨stored, committed, ?_, ?_⟩
        · simp only [started, prepares]
        · rw [result, finalDb, ← sameDb]
          exact batchStored_of_ok stores

theorem attemptCommitted_of_committed {runtime : Runtime} {env : AttemptEnv} {projectId : UUID}
    {spans : List SpanSchema} {world : World} {stored : CommittedBatch}
    (committed : (processSpanBatch runtime env projectId spans world).committed = some stored) :
    AttemptCommitted runtime env projectId spans world stored := by
  rcases processSpanBatch_cases runtime env projectId spans world with
    ⟨uncommitted, -⟩ | ⟨other, same, attempt⟩
  · rw [uncommitted] at committed
    cases committed
  · rw [same, Option.some.injEq] at committed
    exact committed ▸ attempt

theorem db_of_not_committed {runtime : Runtime} {env : AttemptEnv} {projectId : UUID}
    {spans : List SpanSchema} {world : World}
    (uncommitted : (processSpanBatch runtime env projectId spans world).committed = none) :
    (processSpanBatch runtime env projectId spans world).world.db = world.db := by
  rcases processSpanBatch_cases runtime env projectId spans world with
    ⟨-, sameDb⟩ | ⟨stored, committed, -⟩
  · exact sameDb
  · rw [uncommitted] at committed
    cases committed

end LlmObs.Backend
