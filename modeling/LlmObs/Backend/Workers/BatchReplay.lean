import LlmObs.Backend.Workers.BatchConsistency
import LlmObs.Foundation.Machine

/-!
Owns the attempts at one batch: what a sequence of them leaves in the telemetry
tables, in the queue and in the batch status. Other writers may change the
database between two attempts. It does not own how Taskiq schedules retries.
-/

namespace LlmObs.Backend

open LlmObs.Foundation

/-- One attempt, and what other writers did to the database before it. -/
structure Attempt where
  env : AttemptEnv
  meanwhile : Database → Database

/-- The world in which the attempt starts. -/
def Attempt.start (attempt : Attempt) (world : World) : World :=
  { world with db := attempt.meanwhile world.db }

/-- Nobody else writes before the attempt. -/
def Attempt.alone (env : AttemptEnv) : Attempt := ⟨env, id⟩

section

variable (runtime : Runtime) (projectId : UUID) (spans : List SpanSchema)

/-- The attempt at the batch, from the world that the previous one left. -/
def attemptBatch (world : World) (attempt : Attempt) : AttemptRun :=
  processSpanBatch runtime attempt.env projectId spans (attempt.start world)

/-- The attempts at one batch, one after the other. -/
def attemptMachine : Machine World Attempt where
  step := fun world attempt => some (attemptBatch runtime projectId spans world attempt).world

/-- The span rows that the attempt inserts. -/
def insertedRows (world : World) (attempt : Attempt) : List SpanRow :=
  newRows (attempt.start world).db (attemptBatch runtime projectId spans world attempt).world.db

/-- The number of span rows that the attempts insert. -/
def insertedTotal (world : World) : List Attempt → Nat
  | [] => 0
  | attempt :: rest =>
      (insertedRows runtime projectId spans world attempt).length +
        insertedTotal (attemptBatch runtime projectId spans world attempt).world rest

/-- The world after the first attempt that commits, and the attempts after it. -/
def splitAtCommit (world : World) : List Attempt → Option (World × List Attempt)
  | [] => none
  | attempt :: rest =>
      let done := attemptBatch runtime projectId spans world attempt
      if done.committed.isSome then some (done.world, rest) else splitAtCommit done.world rest

/-- If the attempt commits, it prepares only spans that are stored in `db`. -/
def Replays (db : Database) (world : World) (attempt : Attempt) : Prop :=
  (attemptBatch runtime projectId spans world attempt).committed.isSome →
    ∀ span ∈ preparedSpans runtime attempt.env projectId spans (attempt.start world),
      span.identity runtime.localInstant ∈ SpanTable.identities db.spans

end

/-- The four telemetry tables hold the same rows. -/
structure SameTelemetry (left right : Database) : Prop where
  spans : left.spans = right.spans
  traces : left.traces = right.traces
  outboxEvents : left.outboxEvents = right.outboxEvents
  spanMetricBuckets : left.spanMetricBuckets = right.spanMetricBuckets

theorem SameTelemetry.refl (db : Database) : SameTelemetry db db := ⟨rfl, rfl, rfl, rfl⟩

theorem SameTelemetry.trans {first second third : Database}
    (left : SameTelemetry first second) (right : SameTelemetry second third) :
    SameTelemetry first third :=
  ⟨left.spans.trans right.spans, left.traces.trans right.traces,
    left.outboxEvents.trans right.outboxEvents,
    left.spanMetricBuckets.trans right.spanMetricBuckets⟩

/-! ### A batch that stores nothing -/

section

variable {runtime : Runtime} {env : AttemptEnv} {projectId : UUID}
  {prepared : List PreparedSpan} {before after : Database} {batch : InsertedBatch}

/-- Where every prepared span is stored already, nothing is written. -/
theorem BatchStored.same_of_stored
    (stored : BatchStored runtime env projectId prepared before after batch)
    (known : ∀ span ∈ prepared,
      span.identity runtime.localInstant ∈ SpanTable.identities before.spans) :
    SameTelemetry after before := by
  have noRows : storedSpans runtime.localInstant before.spans prepared = [] :=
    firstNew_eq_nil_iff.mpr known
  have noneInserted : batch.insertedSpans = [] := by
    rw [stored.inserted]
    exact firstNew_eq_nil_iff.mpr fun span member => known span (List.mem_filter.mp member).1
  obtain ⟨traceMap, -, mapOf, ensured⟩ := stored.traces
  have noTraces : traceMap = [] := by
    rw [List.eq_nil_iff_forall_not_mem]
    intro entry member
    have inserted := (mapOf.sound entry member).1
    rw [noneInserted] at inserted
    exact List.not_mem_nil inserted
  refine ⟨Table.ext_rows ?_, ?_, ?_, ?_⟩
  · rw [stored.spans, noRows, List.map_nil, List.append_nil]
  · rw [noTraces, ensureTraceRows, Except.ok.injEq, Prod.mk.injEq] at ensured
    exact ensured.1.symm
  · have events := stored.events
    rw [noneInserted, enqueueSpanEvents, Except.ok.injEq] at events
    exact events.symm
  · have buckets := stored.buckets
    rw [noneInserted] at buckets
    simpa [updateSpanMetricBuckets, pure, Except.pure] using buckets.symm

theorem BatchStored.known_of_same
    (stored : BatchStored runtime env projectId prepared before after batch)
    (same : after.spans = before.spans) :
    ∀ span ∈ prepared, span.identity runtime.localInstant ∈
      SpanTable.identities before.spans := by
  have rows := stored.spans
  rw [same, List.self_eq_append_right, List.map_eq_nil_iff] at rows
  exact firstNew_eq_nil_iff.mp rows

end

/-! ### Replays -/

section

variable {runtime : Runtime} {projectId : UUID} {spans : List SpanSchema}

theorem start_of_alone {attempt : Attempt} (alone : attempt.meanwhile = id) (world : World) :
    (attempt.start world).db = world.db := by
  rw [Attempt.start, alone]
  rfl

/-- What one attempt of its own does to the telemetry: it appends span rows, it
changes nothing when it replays, and it replays when it appends nothing. -/
structure AppendsUnlessReplay (runtime : Runtime) (projectId : UUID) (spans : List SpanSchema)
    (world : World) (attempt : Attempt) : Prop where
  appends : ∃ new, (attemptBatch runtime projectId spans world attempt).world.db.spans.rows =
    world.db.spans.rows ++ new
  unchanged : Replays runtime projectId spans world.db world attempt →
    SameTelemetry (attemptBatch runtime projectId spans world attempt).world.db world.db
  replays : (attemptBatch runtime projectId spans world attempt).world.db.spans =
    world.db.spans → Replays runtime projectId spans world.db world attempt

variable (runtime projectId spans) in
theorem appendsUnlessReplay {attempt : Attempt} (alone : attempt.meanwhile = id)
    (world : World) : AppendsUnlessReplay runtime projectId spans world attempt := by
  have startDb := start_of_alone alone world
  rcases processSpanBatch_cases runtime attempt.env projectId spans (attempt.start world) with
    ⟨uncommitted, sameDb⟩ | ⟨stored, committed, run⟩
  · have unchanged : (attemptBatch runtime projectId spans world attempt).world.db = world.db :=
      sameDb.trans startDb
    refine ⟨⟨[], by rw [unchanged, List.append_nil]⟩, fun _ => ?_, fun _ commits => ?_⟩
    · rw [unchanged]
      exact SameTelemetry.refl _
    · rw [attemptBatch, uncommitted] at commits
      cases commits
  · have stores := run.stores
    rw [startDb] at stores
    refine ⟨⟨_, stores.spans⟩, fun replays => ?_, fun same _ => ?_⟩
    · refine stores.same_of_stored ?_
      rw [run.prepared_eq]
      exact replays (by rw [attemptBatch, committed]; rfl)
    · rw [← run.prepared_eq]
      exact stores.known_of_same same

variable (runtime projectId spans) in
theorem replays_congr {left right : Database} (same : left.spans = right.spans) (world : World)
    (attempt : Attempt) : Replays runtime projectId spans left world attempt ↔
      Replays runtime projectId spans right world attempt := by
  rw [Replays, Replays, same]

/-- Span rows are only appended. -/
theorem spans_appended_of_run {world final : World} {attempts : List Attempt}
    (alone : ∀ attempt ∈ attempts, attempt.meanwhile = id)
    (reached : (attemptMachine runtime projectId spans).run world attempts = some final) :
    ∃ new, final.db.spans.rows = world.db.spans.rows ++ new := by
  induction attempts generalizing world with
  | nil =>
      simp only [Machine.run, Option.some.injEq] at reached
      exact ⟨[], by rw [reached, List.append_nil]⟩
  | cons attempt rest inductionHypothesis =>
      obtain ⟨next, stepped, remaining⟩ := (Machine.run_cons _).mp reached
      simp only [attemptMachine, Option.some.injEq] at stepped
      subst stepped
      obtain ⟨new, appended⟩ := (appendsUnlessReplay runtime projectId spans
        (alone attempt (List.mem_cons_self ..)) world).appends
      obtain ⟨later, appendedLater⟩ := inductionHypothesis
        (fun other member => alone other (List.mem_cons_of_mem _ member)) remaining
      exact ⟨new ++ later, by rw [appendedLater, appended, List.append_assoc]⟩

/-- The attempts leave the telemetry as it is exactly when all of them replay. -/
theorem sameTelemetry_run_iff {db : Database} {world final : World} {attempts : List Attempt}
    (alone : ∀ attempt ∈ attempts, attempt.meanwhile = id)
    (same : SameTelemetry world.db db)
    (reached : (attemptMachine runtime projectId spans).run world attempts = some final) :
    SameTelemetry final.db db ↔
      (attemptMachine runtime projectId spans).Along (Replays runtime projectId spans db)
        world attempts := by
  induction attempts generalizing world with
  | nil =>
      simp only [Machine.run, Option.some.injEq] at reached
      exact ⟨fun _ => trivial, fun _ => reached ▸ same⟩
  | cons attempt rest inductionHypothesis =>
      obtain ⟨next, stepped, remaining⟩ := (Machine.run_cons _).mp reached
      have restAlone : ∀ other ∈ rest, other.meanwhile = id :=
        fun other member => alone other (List.mem_cons_of_mem _ member)
      have effect := appendsUnlessReplay runtime projectId spans
        (alone attempt (List.mem_cons_self ..)) world
      have here := replays_congr runtime projectId spans same.spans world attempt
      rw [Machine.along_cons, stepped]
      simp only [attemptMachine, Option.some.injEq] at stepped
      subst stepped
      constructor
      · intro finalSame
        obtain ⟨new, appended⟩ := effect.appends
        obtain ⟨later, appendedLater⟩ := spans_appended_of_run restAlone remaining
        have noneNew : new = [] := by
          rw [appended, finalSame.spans, same.spans, List.append_assoc,
            List.self_eq_append_right, List.append_eq_nil_iff] at appendedLater
          exact appendedLater.1
        have replays := effect.replays
          (Table.ext_rows (by rw [appended, noneNew, List.append_nil]))
        exact ⟨here.mp replays, (inductionHypothesis restAlone
          ((effect.unchanged replays).trans same) remaining).mp finalSame⟩
      · rintro ⟨replays, along⟩
        exact (inductionHypothesis restAlone
          ((effect.unchanged (here.mpr replays)).trans same) remaining).mpr along

theorem run_of_splitAtCommit {world final first : World} {attempts later : List Attempt}
    (split : splitAtCommit runtime projectId spans world attempts = some (first, later))
    (reached : (attemptMachine runtime projectId spans).run world attempts = some final) :
    later ⊆ attempts ∧
      (attemptMachine runtime projectId spans).run first later = some final := by
  induction attempts generalizing world with
  | nil => cases split
  | cons attempt rest inductionHypothesis =>
      obtain ⟨next, stepped, remaining⟩ := (Machine.run_cons _).mp reached
      simp only [attemptMachine, Option.some.injEq] at stepped
      subst stepped
      simp only [splitAtCommit] at split
      split at split
      · rw [Option.some.injEq, Prod.mk.injEq] at split
        obtain ⟨rfl, rfl⟩ := split
        exact ⟨List.subset_cons_self .., remaining⟩
      · obtain ⟨included, ran⟩ := inductionHypothesis split remaining
        exact ⟨List.subset_cons_of_subset _ included, ran⟩

end

/-- With no other writer in between, the tables are those that the first
committing attempt left exactly when every later attempt that commits prepares
only spans that were stored by then. -/
theorem sameTelemetry_iff_replays {runtime : Runtime} {projectId : UUID}
    {spans : List SpanSchema} {world final first : World} {attempts later : List Attempt}
    (alone : ∀ attempt ∈ attempts, attempt.meanwhile = id)
    (reached : (attemptMachine runtime projectId spans).run world attempts = some final)
    (split : splitAtCommit runtime projectId spans world attempts = some (first, later)) :
    SameTelemetry final.db first.db ↔
      (attemptMachine runtime projectId spans).Along
        (Replays runtime projectId spans first.db) first later := by
  obtain ⟨included, ran⟩ := run_of_splitAtCommit split reached
  exact sameTelemetry_run_iff (fun attempt member => alone attempt (included member))
    (SameTelemetry.refl _) ran

/-- The enqueue of the anomaly check fails after the commit. -/
def checkAnomaliesFails : AttemptEnv :=
  { AttemptEnv.faultless with
    fault := fun stage =>
      if stage = .checkAnomalies then some ⟨.raised ⟨.connectionError, "broker closed"⟩, false⟩
      else none }

theorem sameTelemetry_iff_replays_awareStart :
    ∃ first later final,
      splitAtCommit .inUtc 1 [spanStartingAt (.utc 0)] (.ofDatabase (.ofProject 1))
        [.alone checkAnomaliesFails, .alone .faultless] = some (first, later) ∧
      (attemptMachine .inUtc 1 [spanStartingAt (.utc 0)]).run (.ofDatabase (.ofProject 1))
        [.alone checkAnomaliesFails, .alone .faultless] = some final ∧
      (SameTelemetry final.db first.db ↔
        (attemptMachine .inUtc 1 [spanStartingAt (.utc 0)]).Along
          (Replays .inUtc 1 [spanStartingAt (.utc 0)] first.db) first later) := by
  obtain ⟨first, later, split⟩ : ∃ first later, splitAtCommit .inUtc 1
      [spanStartingAt (.utc 0)] (.ofDatabase (.ofProject 1))
      [.alone checkAnomaliesFails, .alone .faultless] = some (first, later) := ⟨_, _, rfl⟩
  obtain ⟨final, reached⟩ : ∃ final, (attemptMachine .inUtc 1 [spanStartingAt (.utc 0)]).run
      (.ofDatabase (.ofProject 1)) [.alone checkAnomaliesFails, .alone .faultless] =
        some final := ⟨_, rfl⟩
  exact ⟨first, later, final, split, reached,
    sameTelemetry_iff_replays (by simp [Attempt.alone]) reached split⟩

/-- A price without end, and Redis holding it. -/
def cachedPrice : World :=
  let price : ModelPrice := ⟨"openai", "gpt-4o", 1 / 400, 1 / 100, 0, none⟩
  { World.ofDatabase { Database.ofProject 1 with
      modelPricing := Table.empty.insertOrSkip price } with
    pricingCache := fun key => if key = ("openai", "gpt-4o") then some price.pricing else none }

/-- The cached price has expired. -/
def priceExpired : AttemptEnv := { AttemptEnv.faultless with cacheDrift := fun _ _ _ => none }

/-- A start without offset cannot be compared with a cached price, so the first
attempt drops the span; once the cache has expired, the next attempt stores it. -/
theorem naiveStart_storedByReplay :
    ∃ first later final,
      splitAtCommit .inUtc 1 [spanStartingAt ⟨0, none⟩] cachedPrice
        [.alone checkAnomaliesFails, .alone priceExpired] = some (first, later) ∧
      (attemptMachine .inUtc 1 [spanStartingAt ⟨0, none⟩]).run cachedPrice
        [.alone checkAnomaliesFails, .alone priceExpired] = some final ∧
      ¬ SameTelemetry final.db first.db := by
  refine ⟨_, _, _, rfl, rfl, fun same => ?_⟩
  have rows := congrArg (fun table => table.rows.length) same.spans
  revert rows
  decide +kernel

end LlmObs.Backend
