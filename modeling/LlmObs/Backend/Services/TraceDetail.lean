import LlmObs.Backend.Workers.BucketRefinement
import LlmObs.Backend.Workers.TracePaging

/-!
Owns the detail of one trace and the links to it. A link carries the start that the list
showed; it finds the trace with all of its spans until a batch stores an earlier span of
the trace, or moves its row.
-/

namespace LlmObs.Backend

open LlmObs.Foundation

/-! ### One trace -/

/-- `one_or_none` -/
def oneOrNone {α : Type} : List α → Except PyException (Option α)
  | [] => .ok none
  | [row] => .ok (some row)
  | _ => .error
      ⟨.sqlAlchemyError, "Multiple rows were found when one or none was required"⟩

/-- The spans of a trace from a start on, `ORDER BY started_at ASC`. -/
def spansFrom (projectId traceId : UUID) (startedAt : Int) (spans : SpanTable) : List SpanRow :=
  (spans.rows.filter fun span => decide (span.traceId = traceId) &&
    decide (span.projectId = projectId) && decide (startedAt ≤ span.startedAt)).insertionSort
    fun left right => left.startedAt ≤ right.startedAt

/-- `get_with_spans`; a text that is no UUID is refused by the driver. -/
def getWithSpans (session : TraceSession) (db : Database) (traceId : String) (projectId : UUID)
    (startedAt : Option Datetime) : Except PyException (Option (TraceRow × List SpanRow)) :=
  match UUID.ofText? traceId with
  | none => .error invalidTextError
  | some traceId =>
      let start :=
        match startedAt with
        | some startedAt => some (startedAt.toTimestamptz session.localInstant)
        | none => earliestTraceStart projectId traceId db.traces
      match start with
      | none => .ok none
      | some start => do
          match ← oneOrNone (db.traces.rows.filter (·.startsAt projectId traceId start)) with
          | none => return none
          | some trace => return some (trace, spansFrom projectId traceId start db.spans)

/-- The link of a trace finds it with all of its stored spans. -/
def LinkValid (session : TraceSession) (db : Database) (projectId traceId : UUID)
    (startedAt : Int) : Prop :=
  ∃ trace spans,
    getWithSpans session db traceId.str projectId (some (.utc startedAt)) =
      .ok (some (trace, spans)) ∧
    trace.Of projectId traceId ∧
    ∀ span, span ∈ spans ↔
      span ∈ db.spans.rows ∧ span.projectId = projectId ∧ span.traceId = traceId

/-- No stored span of the trace starts before `startedAt`. -/
def Database.NoEarlierSpan (db : Database) (projectId traceId : UUID) (startedAt : Int) : Prop :=
  ∀ span ∈ db.spans.rows, span.projectId = projectId → span.traceId = traceId →
    startedAt ≤ span.startedAt

/-- The project has a row of the trace at exactly this start. -/
def TraceTable.StartsAt (traces : TraceTable) (projectId traceId : UUID) (startedAt : Int) :
    Prop :=
  ∃ row ∈ traces.rows, row.Of projectId traceId ∧ row.startedAt = startedAt

section

variable {session : TraceSession} {db : Database} {projectId traceId : UUID} {startedAt : Int}

theorem mem_spansFrom {span : SpanRow} :
    span ∈ spansFrom projectId traceId startedAt db.spans ↔
      span ∈ db.spans.rows ∧ span.projectId = projectId ∧ span.traceId = traceId ∧
        startedAt ≤ span.startedAt := by
  rw [spansFrom, List.mem_insertionSort, List.mem_filter]
  simp only [Bool.and_eq_true, decide_eq_true_eq]
  constructor
  · rintro ⟨stored, ⟨ofTrace, own⟩, late⟩
    exact ⟨stored, own, ofTrace, late⟩
  · rintro ⟨stored, own, ofTrace, late⟩
    exact ⟨stored, ⟨ofTrace, own⟩, late⟩

/-- The primary key leaves one row at a start. -/
theorem filter_startsAt {row : TraceRow} (stored : row ∈ db.traces.rows)
    (isOf : row.Of projectId traceId) (starts : row.startedAt = startedAt) :
    db.traces.rows.filter (·.startsAt projectId traceId startedAt) = [row] := by
  have member : row ∈ db.traces.rows.filter (·.startsAt projectId traceId startedAt) :=
    List.mem_filter.mpr ⟨stored, startsAt_iff.mpr ⟨isOf, starts⟩⟩
  have apart := db.traces.unique.filter (·.startsAt projectId traceId startedAt)
  have keys : ∀ other ∈ db.traces.rows.filter (·.startsAt projectId traceId startedAt),
      other.primaryKey = (traceId, startedAt) := by
    intro other kept
    obtain ⟨otherOf, otherStarts⟩ := startsAt_iff.mp (List.mem_filter.mp kept).2
    rw [TraceRow.primaryKey, otherOf.2, otherStarts]
  cases rows : db.traces.rows.filter (·.startsAt projectId traceId startedAt) with
  | nil =>
      rw [rows] at member
      cases member
  | cons first rest =>
      rw [rows] at member apart keys
      cases rest with
      | nil => rw [List.mem_singleton.mp member]
      | cons second others =>
          have distinct := List.rel_of_pairwise_cons apart (List.mem_cons_self ..)
          rw [keys first (List.mem_cons_self ..),
            keys second (List.mem_cons_of_mem _ (List.mem_cons_self ..))] at distinct
          exact absurd rfl distinct

theorem getWithSpans_of_row {row : TraceRow} (stored : row ∈ db.traces.rows)
    (isOf : row.Of projectId traceId) (starts : row.startedAt = startedAt) :
    getWithSpans session db traceId.str projectId (some (.utc startedAt)) =
      .ok (some (row, spansFrom projectId traceId startedAt db.spans)) := by
  simp only [getWithSpans, UUID.ofText?_str, Datetime.toTimestamptz_utc,
    filter_startsAt stored isOf starts]
  rfl

theorem getWithSpans_eq_some {trace : TraceRow} {spans : List SpanRow}
    (found : getWithSpans session db traceId.str projectId (some (.utc startedAt)) =
      .ok (some (trace, spans))) :
    TraceTable.StartsAt db.traces projectId traceId startedAt ∧
      spans = spansFrom projectId traceId startedAt db.spans := by
  simp only [getWithSpans, UUID.ofText?_str, Datetime.toTimestamptz_utc] at found
  cases rows : db.traces.rows.filter (·.startsAt projectId traceId startedAt) with
  | nil =>
      rw [rows] at found
      cases found
  | cons first rest =>
      have kept : first ∈ db.traces.rows.filter (·.startsAt projectId traceId startedAt) := by
        rw [rows]
        exact List.mem_cons_self ..
      obtain ⟨stored, starts⟩ := List.mem_filter.mp kept
      obtain ⟨isOf, startsThere⟩ := startsAt_iff.mp starts
      refine ⟨⟨first, stored, isOf, startsThere⟩, ?_⟩
      rw [filter_startsAt stored isOf startsThere] at found
      exact (Prod.mk.inj (Option.some.inj (Except.ok.inj found))).2.symm

/-- A link is valid where a row starts there and no stored span earlier. -/
theorem linkValid_iff :
    LinkValid session db projectId traceId startedAt ↔
      TraceTable.StartsAt db.traces projectId traceId startedAt ∧
        db.NoEarlierSpan projectId traceId startedAt := by
  constructor
  · rintro ⟨trace, spans, found, isOf, complete⟩
    obtain ⟨startsThere, rfl⟩ := getWithSpans_eq_some found
    refine ⟨startsThere, fun span stored own ofTrace => ?_⟩
    exact (mem_spansFrom.mp ((complete span).mpr ⟨stored, own, ofTrace⟩)).2.2.2
  · rintro ⟨⟨row, stored, isOf, starts⟩, noEarlier⟩
    refine ⟨row, _, getWithSpans_of_row stored isOf starts, isOf, fun span => ?_⟩
    rw [mem_spansFrom]
    constructor
    · rintro ⟨stored, own, ofTrace, -⟩
      exact ⟨stored, own, ofTrace⟩
    · rintro ⟨stored, own, ofTrace⟩
      exact ⟨stored, own, ofTrace, noEarlier span stored own ofTrace⟩

end

/-! ### Rows that move away -/

/-- The ways through `ensure_trace_row` for an aware start. -/
inductive EnsurePath (localInstant : Int → Int) (projectId traceId : UUID) (startedAt : Datetime)
    (status : SpanStatus) (traces next : TraceTable) : Prop where
  | inserted (absent : ¬ TraceTable.Has traces projectId traceId)
      (inserts : next = traces.insertOrSkip
        (newTraceRow projectId traceId (startedAt.toTimestamptz localInstant) status))
  | kept (same : next = traces)
      (early : ∀ existing, earliestTraceStart projectId traceId traces = some existing →
        existing ≤ startedAt.toTimestamptz localInstant)
  | moved {existing : Int}
      (found : earliestTraceStart projectId traceId traces = some existing)
      (late : startedAt.toTimestamptz localInstant < existing)
      (rows : next.rows = moveTraceStart projectId traceId existing
        (startedAt.toTimestamptz localInstant) traces.rows)

theorem ensurePath {localInstant : Int → Int} {projectId traceId : UUID} {startedAt : Datetime}
    {status : SpanStatus} {traces next : TraceTable} {start : Datetime}
    (aware : startedAt.Aware)
    (done : ensureTraceRow localInstant projectId traceId startedAt status traces =
      .ok (next, start)) :
    EnsurePath localInstant projectId traceId startedAt status traces next := by
  rcases ensureTraceRow_cases aware done with
    ⟨absent, inserts⟩ | ⟨existing, found, ⟨early, same⟩ | ⟨late, rows⟩⟩
  · exact .inserted absent inserts
  · refine .kept same fun other known => ?_
    rw [found] at known
    rw [← Option.some.inj known]
    exact early
  · exact .moved found (by omega) rows

/-- The trace has no row at `startedAt`, and one that starts before. -/
structure TraceTable.MovedAway (traces : TraceTable) (projectId traceId : UUID)
    (startedAt : Int) : Prop where
  gone : ∀ row ∈ traces.rows, row.Of projectId traceId → row.startedAt ≠ startedAt
  earlier : ∃ row ∈ traces.rows, row.Of projectId traceId ∧ row.startedAt < startedAt

theorem TraceTable.MovedAway.not_startsAt {traces : TraceTable} {projectId traceId : UUID}
    {startedAt : Int} (away : traces.MovedAway projectId traceId startedAt) :
    ¬ traces.StartsAt projectId traceId startedAt := by
  rintro ⟨row, stored, isOf, starts⟩
  exact away.gone row stored isOf starts

section Ensure

variable {localInstant : Int → Int} {projectId traceId : UUID} {startedAt : Datetime}
  {status : SpanStatus} {traces next : TraceTable} {linked : Int}

/-- A row stays unless it is the earliest one of the trace and starts after the span. -/
theorem EnsurePath.startsAt
    (path : EnsurePath localInstant projectId traceId startedAt status traces next)
    (starts : traces.StartsAt projectId traceId linked)
    (notMoved : earliestTraceStart projectId traceId traces = some linked →
      linked ≤ startedAt.toTimestamptz localInstant) :
    next.StartsAt projectId traceId linked := by
  obtain ⟨row, stored, isOf, startsThere⟩ := starts
  cases path with
  | inserted absent inserts => exact absurd ⟨row, stored, isOf⟩ absent
  | kept same early => exact same ▸ ⟨row, stored, isOf, startsThere⟩
  | @moved existing found late rows =>
      refine ⟨row, ?_, isOf, startsThere⟩
      rw [rows]
      refine mem_moveTraceStart_of_not stored (fun target => ?_) _
      have isEarliest := (startsAt_iff.mp target).2
      rw [startsThere] at isEarliest
      have noLater := notMoved (isEarliest ▸ found)
      omega

/-- The earliest row of a trace moves away under an earlier span. -/
theorem EnsurePath.movesAway
    (path : EnsurePath localInstant projectId traceId startedAt status traces next)
    (earliest : earliestTraceStart projectId traceId traces = some linked)
    (before : startedAt.toTimestamptz localInstant < linked) :
    next.MovedAway projectId traceId linked := by
  cases path with
  | inserted absent inserts =>
      rw [earliestTraceStart_eq_none_iff.mpr absent] at earliest
      cases earliest
  | kept same early =>
      have noLater := early linked earliest
      omega
  | @moved existing found late rows =>
      rw [found] at earliest
      have same := Option.some.inj earliest
      subst same
      obtain ⟨⟨row, stored, isOf, starts⟩, least⟩ := earliestTraceStart_eq_some found
      constructor
      · intro other otherStored otherOf
        rw [rows] at otherStored
        rcases mem_moveTraceStart_cases otherStored with ⟨-, start⟩ | ⟨-, notEarliest⟩
        · omega
        · exact fun startsThere => notEarliest (startsAt_iff.mpr ⟨otherOf, startsThere⟩)
      · refine ⟨{ row with startedAt := startedAt.toTimestamptz localInstant }, ?_, isOf, before⟩
        rw [rows]
        exact moved_mem_moveTraceStart stored (startsAt_iff.mpr ⟨isOf, starts⟩) _

/-- A trace that has moved away does not come back. -/
theorem EnsurePath.staysAway
    (path : EnsurePath localInstant projectId traceId startedAt status traces next)
    (away : traces.MovedAway projectId traceId linked) :
    next.MovedAway projectId traceId linked := by
  obtain ⟨row, stored, isOf, before⟩ := away.earlier
  cases path with
  | inserted absent inserts => exact absurd ⟨row, stored, isOf⟩ absent
  | kept same early => exact same ▸ away
  | @moved existing found late rows =>
      have least := (earliestTraceStart_eq_some found).2 row stored isOf
      constructor
      · intro other otherStored otherOf
        rw [rows] at otherStored
        rcases mem_moveTraceStart_cases otherStored with ⟨-, start⟩ | ⟨kept, -⟩
        · omega
        · exact away.gone other kept otherOf
      · by_cases target : row.startsAt projectId traceId existing = true
        · refine ⟨{ row with startedAt := startedAt.toTimestamptz localInstant }, ?_, isOf, ?_⟩
          · rw [rows]
            exact moved_mem_moveTraceStart stored target _
          · show startedAt.toTimestamptz localInstant < linked
            omega
        · refine ⟨row, ?_, isOf, before⟩
          rw [rows]
          exact mem_moveTraceStart_of_not stored target _

end Ensure

/-- The two tables hold the same rows of the trace. -/
def TraceTable.SameTrace (projectId traceId : UUID) (traces next : TraceTable) : Prop :=
  ∀ row : TraceRow, row.Of projectId traceId → (row ∈ next.rows ↔ row ∈ traces.rows)

section SameTrace

variable {projectId traceId : UUID} {traces next : TraceTable} {linked : Int}

theorem earliestTraceStart_eq_some_iff :
    earliestTraceStart projectId traceId traces = some linked ↔
      traces.StartsAt projectId traceId linked ∧
        ∀ row ∈ traces.rows, row.Of projectId traceId → linked ≤ row.startedAt := by
  constructor
  · intro found
    exact earliestTraceStart_eq_some found
  · rintro ⟨⟨row, stored, isOf, starts⟩, least⟩
    cases found : earliestTraceStart projectId traceId traces with
    | none => exact absurd ⟨row, stored, isOf⟩ (earliestTraceStart_eq_none_iff.mp found)
    | some existing =>
        obtain ⟨⟨other, otherStored, otherOf, otherStarts⟩, otherLeast⟩ :=
          earliestTraceStart_eq_some found
        have noLater := otherLeast row stored isOf
        have noEarlier := least other otherStored otherOf
        rw [show existing = linked by omega]

theorem TraceTable.SameTrace.startsAt (same : SameTrace projectId traceId traces next)
    (starts : traces.StartsAt projectId traceId linked) :
    next.StartsAt projectId traceId linked := by
  obtain ⟨row, stored, isOf, startsThere⟩ := starts
  exact ⟨row, (same row isOf).mpr stored, isOf, startsThere⟩

theorem TraceTable.SameTrace.symm (same : SameTrace projectId traceId traces next) :
    SameTrace projectId traceId next traces :=
  fun row isOf => (same row isOf).symm

theorem TraceTable.SameTrace.earliest (same : SameTrace projectId traceId traces next)
    (found : earliestTraceStart projectId traceId traces = some linked) :
    earliestTraceStart projectId traceId next = some linked := by
  obtain ⟨starts, least⟩ := earliestTraceStart_eq_some_iff.mp found
  refine earliestTraceStart_eq_some_iff.mpr ⟨same.startsAt starts, fun row stored isOf => ?_⟩
  exact least row ((same row isOf).mp stored) isOf

theorem TraceTable.SameTrace.movedAway (same : SameTrace projectId traceId traces next)
    (away : traces.MovedAway projectId traceId linked) :
    next.MovedAway projectId traceId linked := by
  obtain ⟨row, stored, isOf, before⟩ := away.earlier
  exact ⟨fun other otherStored otherOf => away.gone other ((same other otherOf).mp otherStored)
    otherOf, row, (same row isOf).mpr stored, isOf, before⟩

end SameTrace

/-! ### All traces of a batch -/

section Batch

variable {runtime : Runtime} {env : AttemptEnv} {ingested projectId traceId : UUID}
  {traceMap : List (UUID × PreparedSpan)} {traces next : TraceTable}
  {starts : List (UUID × Datetime)} {linked : Int}

theorem sameTrace_of_ensured {ensuredId : UUID} {startedAt : Datetime}
    (ensured : TraceEnsured runtime.localInstant ingested ensuredId startedAt traces next)
    (other : ¬ (ingested = projectId ∧ ensuredId = traceId)) :
    TraceTable.SameTrace projectId traceId traces next := by
  intro row isOf
  apply ensured.others
  rintro ⟨sameProject, sameId⟩
  exact other ⟨sameProject.symm.trans isOf.1, sameId.symm.trans isOf.2⟩

/-- Induction on the traces of the batch. -/
theorem staysAway_ensureTraceRows (aware : ∀ entry ∈ traceMap, entry.2.startedAt.Aware)
    (done : ensureTraceRows runtime env ingested traceMap traces = .ok (next, starts))
    (away : traces.MovedAway projectId traceId linked) :
    next.MovedAway projectId traceId linked := by
  induction traceMap generalizing traces next starts with
  | nil =>
      simp only [ensureTraceRows, Except.ok.injEq, Prod.mk.injEq] at done
      exact done.1 ▸ away
  | cons head rest inductionHypothesis =>
      obtain ⟨middle, start, later, -, ensures, others, -⟩ := ensureTraceRows_cons done
      have headAware := aware head (List.mem_cons_self ..)
      apply inductionHypothesis (fun entry member => aware entry (List.mem_cons_of_mem _ member))
        others
      by_cases target : ingested = projectId ∧ head.1 = traceId
      · rw [← target.1, ← target.2] at away ⊢
        exact (ensurePath headAware ensures).staysAway away
      · exact (sameTrace_of_ensured (traceEnsured_of_ok headAware ensures) target).movedAway away

/-- A row stays unless the batch has an earlier span for it, and it is the earliest. -/
theorem startsAt_ensureTraceRows (distinct : (traceMap.map Prod.fst).Nodup)
    (aware : ∀ entry ∈ traceMap, entry.2.startedAt.Aware)
    (done : ensureTraceRows runtime env ingested traceMap traces = .ok (next, starts))
    (startsThere : traces.StartsAt projectId traceId linked)
    (notMoved : ingested = projectId →
      earliestTraceStart projectId traceId traces = some linked →
      ∀ span, (traceId, span) ∈ traceMap →
        linked ≤ span.startedAt.toTimestamptz runtime.localInstant) :
    next.StartsAt projectId traceId linked := by
  induction traceMap generalizing traces next starts with
  | nil =>
      simp only [ensureTraceRows, Except.ok.injEq, Prod.mk.injEq] at done
      exact done.1 ▸ startsThere
  | cons head rest inductionHypothesis =>
      obtain ⟨headId, span⟩ := head
      rw [List.map_cons, List.nodup_cons] at distinct
      obtain ⟨middle, start, later, -, ensures, others, -⟩ := ensureTraceRows_cons done
      have headAware := aware (headId, span) (List.mem_cons_self ..)
      have restAware : ∀ entry ∈ rest, entry.2.startedAt.Aware := fun entry member =>
        aware entry (List.mem_cons_of_mem _ member)
      by_cases target : ingested = projectId ∧ headId = traceId
      · obtain ⟨sameProject, sameId⟩ := target
        subst sameProject sameId
        apply inductionHypothesis distinct.2 restAware others
        · exact (ensurePath headAware ensures).startsAt startsThere fun earliest =>
            notMoved rfl earliest span (List.mem_cons_self ..)
        · intro _ _ other member
          exact absurd (List.mem_map_of_mem member) distinct.1
      · have same : TraceTable.SameTrace projectId traceId traces middle :=
          sameTrace_of_ensured (traceEnsured_of_ok headAware ensures) target
        apply inductionHypothesis distinct.2 restAware others (same.startsAt startsThere)
        intro sameProject earliest other member
        exact notMoved sameProject (same.symm.earliest earliest) other
          (List.mem_cons_of_mem _ member)

/-- The earliest row of a trace moves away under an earlier span of the batch. -/
theorem movesAway_ensureTraceRows (distinct : (traceMap.map Prod.fst).Nodup)
    (aware : ∀ entry ∈ traceMap, entry.2.startedAt.Aware)
    (done : ensureTraceRows runtime env projectId traceMap traces = .ok (next, starts))
    (earliest : earliestTraceStart projectId traceId traces = some linked)
    {span : PreparedSpan} (listed : (traceId, span) ∈ traceMap)
    (before : span.startedAt.toTimestamptz runtime.localInstant < linked) :
    next.MovedAway projectId traceId linked := by
  induction traceMap generalizing traces next starts with
  | nil => cases listed
  | cons head rest inductionHypothesis =>
      obtain ⟨headId, headSpan⟩ := head
      rw [List.map_cons, List.nodup_cons] at distinct
      obtain ⟨middle, start, later, -, ensures, others, -⟩ := ensureTraceRows_cons done
      have headAware := aware (headId, headSpan) (List.mem_cons_self ..)
      have restAware : ∀ entry ∈ rest, entry.2.startedAt.Aware := fun entry member =>
        aware entry (List.mem_cons_of_mem _ member)
      rcases List.mem_cons.mp listed with isHead | inRest
      · rw [Prod.mk.injEq] at isHead
        rw [isHead.1] at earliest ⊢
        rw [isHead.2] at before
        exact staysAway_ensureTraceRows restAware others
          ((ensurePath headAware ensures).movesAway earliest before)
      · have different : headId ≠ traceId := by
          rintro rfl
          exact distinct.1 (List.mem_map.mpr ⟨_, inRest, rfl⟩)
        have same : TraceTable.SameTrace projectId traceId traces middle :=
          sameTrace_of_ensured (traceEnsured_of_ok headAware ensures) fun both => different both.2
        exact inductionHypothesis distinct.2 restAware others (same.earliest earliest) inRest

end Batch

/-! ### Links over later runs -/

/-- The world in which a later run starts; other tasks may have changed all but the spans
and the traces. -/
def BatchRun.worldOf (run : BatchRun) (db : Database) : World :=
  { run.surroundings with
    db := { run.surroundings.db with
      spans := db.spans
      traces := db.traces } }

def BatchRun.attemptOn (run : BatchRun) (db : Database) : AttemptRun :=
  processSpanBatch run.runtime run.env run.projectId run.spans (run.worldOf db)

/-- Later runs of `process_span_batch`, failed ones included. -/
def laterRuns : Machine Database BatchRun := ⟨fun db run => some (run.attemptOn db).world.db⟩

/-- The run stores no span of the trace before its linked start and, while the linked row
is the earliest of the trace, takes none for inserted. -/
structure KeepsLink (projectId traceId : UUID) (startedAt : Int) (db : Database)
    (run : BatchRun) : Prop where
  stored : ∀ span ∈ newRows db (run.attemptOn db).world.db, span.projectId = projectId →
    span.traceId = traceId → startedAt ≤ span.startedAt
  inserted : run.projectId = projectId →
    earliestTraceStart projectId traceId db.traces = some startedAt →
    ∀ committed, (run.attemptOn db).committed = some committed →
      ∀ span ∈ committed.batch.insertedSpans, span.traceId = traceId →
        startedAt ≤ span.startedAt.toTimestamptz run.runtime.localInstant

section Runs

variable {projectId traceId : UUID} {startedAt : Int} {db final : Database} {run : BatchRun}
  {runs : List BatchRun}

theorem attemptOn_cases (run : BatchRun) (db : Database) :
    ((run.attemptOn db).committed = none ∧
        (run.attemptOn db).world.db = (run.worldOf db).db) ∨
      ∃ stored, (run.attemptOn db).committed = some stored ∧
        BatchStored run.runtime run.env run.projectId stored.prepared (run.worldOf db).db
          (run.attemptOn db).world.db stored.batch := by
  rcases processSpanBatch_cases run.runtime run.env run.projectId run.spans (run.worldOf db) with
    ⟨none, unchanged⟩ | ⟨stored, some, attempt⟩
  · exact .inl ⟨none, unchanged⟩
  · exact .inr ⟨stored, some, attempt.stores⟩

/-- A run only adds spans. -/
theorem spans_attemptOn (run : BatchRun) (db : Database) :
    (run.attemptOn db).world.db.spans.rows =
      db.spans.rows ++ newRows db (run.attemptOn db).world.db := by
  rcases attemptOn_cases run db with ⟨-, unchanged⟩ | ⟨stored, -, stores⟩
  · have same : (run.attemptOn db).world.db.spans = db.spans := by rw [unchanged]; rfl
    rw [newRows, same, List.drop_length, List.append_nil]
  · have rows : (run.attemptOn db).world.db.spans.rows = db.spans.rows ++ _ := stores.spans
    rw [newRows, rows, List.drop_left]

theorem noEarlierSpan_attemptOn :
    (run.attemptOn db).world.db.NoEarlierSpan projectId traceId startedAt ↔
      db.NoEarlierSpan projectId traceId startedAt ∧
        ∀ span ∈ newRows db (run.attemptOn db).world.db, span.projectId = projectId →
          span.traceId = traceId → startedAt ≤ span.startedAt := by
  simp only [Database.NoEarlierSpan, spans_attemptOn, List.forall_mem_append]

theorem startsAt_attemptOn (startsThere : db.traces.StartsAt projectId traceId startedAt)
    (keeps : KeepsLink projectId traceId startedAt db run) :
    (run.attemptOn db).world.db.traces.StartsAt projectId traceId startedAt := by
  rcases attemptOn_cases run db with ⟨-, unchanged⟩ | ⟨stored, committed, stores⟩
  · rw [unchanged]
    exact startsThere
  · obtain ⟨traceMap, -, mapOf, ensured⟩ := stores.traces
    apply startsAt_ensureTraceRows mapOf.distinct (stores.traceMap_aware mapOf) ensured
      startsThere
    intro sameProject earliest span member
    obtain ⟨isInserted, ofTrace⟩ := mapOf.sound _ member
    exact keeps.inserted sameProject earliest stored committed span isInserted ofTrace

theorem staysAway_attemptOn (run : BatchRun)
    (away : db.traces.MovedAway projectId traceId startedAt) :
    (run.attemptOn db).world.db.traces.MovedAway projectId traceId startedAt := by
  rcases attemptOn_cases run db with ⟨-, unchanged⟩ | ⟨stored, -, stores⟩
  · rw [unchanged]
    exact away
  · obtain ⟨traceMap, -, mapOf, ensured⟩ := stores.traces
    exact staysAway_ensureTraceRows (stores.traceMap_aware mapOf) ensured away

/-- A row that does not move away tells that the run kept it. -/
theorem keepsLink_of_stays (noEarlier : ∀ span ∈ newRows db (run.attemptOn db).world.db,
      span.projectId = projectId → span.traceId = traceId → startedAt ≤ span.startedAt)
    (stays : ¬ (run.attemptOn db).world.db.traces.MovedAway projectId traceId startedAt) :
    KeepsLink projectId traceId startedAt db run := by
  refine ⟨noEarlier, ?_⟩
  intro sameProject earliest committed isCommitted span isInserted ofTrace
  by_contra before
  apply stays
  rcases attemptOn_cases run db with ⟨none, -⟩ | ⟨stored, some, stores⟩
  · rw [none] at isCommitted
    cases isCommitted
  · rw [some] at isCommitted
    have same := Option.some.inj isCommitted
    subst same
    obtain ⟨traceMap, -, mapOf, ensured⟩ := stores.traces
    obtain ⟨first, listed⟩ := mapOf.complete span isInserted
    have least := mapOf.earliest _ listed span isInserted rfl
    rw [ofTrace] at listed
    rw [sameProject] at ensured
    exact movesAway_ensureTraceRows mapOf.distinct (stores.traceMap_aware mapOf) ensured
      earliest listed (by simp only at least; omega)

theorem staysAway_run (away : db.traces.MovedAway projectId traceId startedAt)
    (reached : laterRuns.run db runs = some final) :
    final.traces.MovedAway projectId traceId startedAt := by
  have preserved : ∀ db run next, db.traces.MovedAway projectId traceId startedAt →
      laterRuns.step db run = some next →
      next.traces.MovedAway projectId traceId startedAt := by
    intro db run next away stepped
    rw [← Option.some.inj stepped]
    exact staysAway_attemptOn run away
  exact laterRuns.run_invariant_always preserved away reached

theorem noEarlierSpan_run (reached : laterRuns.run db runs = some final)
    (noEarlier : final.NoEarlierSpan projectId traceId startedAt) :
    db.NoEarlierSpan projectId traceId startedAt := by
  induction runs generalizing db with
  | nil => exact Option.some.inj reached ▸ noEarlier
  | cons run rest inductionHypothesis =>
      obtain ⟨next, stepped, remaining⟩ := laterRuns.run_cons.mp reached
      rw [← Option.some.inj stepped] at remaining
      exact (noEarlierSpan_attemptOn.mp (inductionHypothesis remaining)).1

/-- Induction on the runs, from a state that has the linked row. -/
theorem link_run (startsThere : db.traces.StartsAt projectId traceId startedAt)
    (reached : laterRuns.run db runs = some final) :
    final.traces.StartsAt projectId traceId startedAt ∧
        final.NoEarlierSpan projectId traceId startedAt ↔
      db.NoEarlierSpan projectId traceId startedAt ∧
        laterRuns.Along (KeepsLink projectId traceId startedAt) db runs := by
  induction runs generalizing db with
  | nil =>
      have same : db = final := Option.some.inj reached
      rw [← same]
      exact ⟨fun valid => ⟨valid.2, trivial⟩, fun kept => ⟨startsThere, kept.1⟩⟩
  | cons run rest inductionHypothesis =>
      obtain ⟨next, stepped, remaining⟩ := laterRuns.run_cons.mp reached
      have isNext : (run.attemptOn db).world.db = next := Option.some.inj stepped
      constructor
      · rintro ⟨stays, noEarlier⟩
        have nextSpans := noEarlierSpan_run remaining noEarlier
        rw [← isNext] at nextSpans remaining
        obtain ⟨before, added⟩ := noEarlierSpan_attemptOn.mp nextSpans
        have keeps := keepsLink_of_stays added fun away =>
          (staysAway_run away remaining).not_startsAt stays
        have later := (inductionHypothesis (startsAt_attemptOn startsThere keeps) remaining).mp
          ⟨stays, noEarlier⟩
        refine ⟨before, keeps, fun other isOther => ?_⟩
        rw [← Option.some.inj isOther]
        exact later.2
      · rintro ⟨before, keeps, along⟩
        rw [← isNext] at remaining
        have nextSpans := noEarlierSpan_attemptOn.mpr ⟨before, keeps.stored⟩
        exact (inductionHypothesis (startsAt_attemptOn startsThere keeps) remaining).mpr
          ⟨nextSpans, along _ rfl⟩

end Runs

/-! ### The traces of a list -/

theorem mem_listWithCursor {library : CursorLibrary} {session : TraceSession}
    {traces : TraceTable} {projectId : UUID} {cursor nextCursor : Option PyStr} {limit : Nat}
    {filters : TraceFilters} {items : List TraceRow} {row : TraceRow}
    (listed : listWithCursor library session traces projectId cursor limit filters =
      .ok (items, nextCursor)) (member : row ∈ items) :
    row ∈ traces.rows ∧ row.projectId = projectId := by
  simp only [listWithCursor, bind_eq_ok, pure, Except.pure, Except.ok.injEq,
    Prod.mk.injEq] at listed
  obtain ⟨before, -, rows, selected, rfl, -⟩ := listed
  have found := List.mem_of_mem_take member
  rw [selectTraces] at selected
  split at selected
  · cases selected
  · split at selected
    · rw [← Except.ok.inj selected] at found
      have kept := List.mem_of_mem_take found
      rw [Keyset.descending, List.mem_insertionSort, List.mem_filter, List.all_eq_true] at kept
      have own := kept.2 (.inProject projectId) (by simp [TraceFilters.conditions])
      exact ⟨kept.1, of_decide_eq_true own⟩
    · cases selected

/-- A link of the list stays valid over exactly the runs that keep it, where no stored
span of the trace starts before it when it is listed. -/
theorem linkValid_iff_keeps {library : CursorLibrary} {session : TraceSession}
    {db final : Database} {projectId : UUID} {cursor nextCursor : Option PyStr} {limit : Nat}
    {filters : TraceFilters} {items : List TraceRow} {row : TraceRow} {runs : List BatchRun}
    (listed : listWithCursor library session db.traces projectId cursor limit filters =
      .ok (items, nextCursor)) (member : row ∈ items)
    (reached : laterRuns.run db runs = some final) :
    LinkValid session final projectId row.id row.startedAt ↔
      db.NoEarlierSpan projectId row.id row.startedAt ∧
        laterRuns.Along (KeepsLink projectId row.id row.startedAt) db runs := by
  obtain ⟨stored, own⟩ := mem_listWithCursor listed member
  rw [linkValid_iff]
  exact link_run ⟨row, stored, ⟨own, rfl⟩, rfl⟩ reached

/-- One trace that starts at 100. -/
def linkedDatabase : Database :=
  { Database.empty with traces := ⟨[newTraceRow 9 3 100 .ok], List.pairwise_singleton _ _⟩ }

/-- A batch with one span of the trace. -/
def batchAt (startedAt : Int) : BatchRun :=
  ⟨.inUtc, .faultless, 9, [spanStartingAt (.utc startedAt)], .ofDatabase (.ofProject 9)⟩

theorem linkedDatabase_listed :
    listWithCursor .inZeros .ofUuids linkedDatabase.traces 9 none 50 noFilters =
      .ok ([newTraceRow 9 3 100 .ok], none) := by
  rfl

theorem linkValid_iff_keeps_laterSpan :
    LinkValid .ofUuids ((batchAt 200).attemptOn linkedDatabase).world.db 9 3 100 := by
  have added : (newRows linkedDatabase
      ((batchAt 200).attemptOn linkedDatabase).world.db).map (·.startedAt) = [200] := by
    decide +kernel
  have inserted : ((batchAt 200).attemptOn linkedDatabase).committed.map (fun stored =>
      stored.batch.insertedSpans.map (·.startedAt)) = some [.utc 200] := by
    decide +kernel
  have keeps : KeepsLink 9 3 100 linkedDatabase (batchAt 200) := by
    constructor
    · intro span member _ _
      have start : span.startedAt ∈ (newRows linkedDatabase
          ((batchAt 200).attemptOn linkedDatabase).world.db).map (·.startedAt) :=
        List.mem_map_of_mem member
      rw [added, List.mem_singleton] at start
      omega
    · intro _ _ committed isCommitted span member _
      rw [isCommitted, Option.map_some, Option.some.injEq] at inserted
      have start : span.startedAt ∈ committed.batch.insertedSpans.map (·.startedAt) :=
        List.mem_map_of_mem member
      rw [inserted, List.mem_singleton] at start
      rw [start]
      decide
  have reached : laterRuns.run linkedDatabase [batchAt 200] =
      some ((batchAt 200).attemptOn linkedDatabase).world.db := rfl
  exact (linkValid_iff_keeps linkedDatabase_listed (List.mem_singleton_self _) reached).mpr
    ⟨fun span stored => absurd stored List.not_mem_nil, keeps, fun _ _ => trivial⟩

/-- A span that starts at 50 arrives after the list was read. -/
theorem earlierSpan_breaksLink :
    listWithCursor .inZeros .ofUuids linkedDatabase.traces 9 none 50 noFilters =
        .ok ([newTraceRow 9 3 100 .ok], none) ∧
      ∃ final, laterRuns.run linkedDatabase [batchAt 50] = some final ∧
        final.traces.Has 9 3 ∧ ¬ LinkValid .ofUuids final 9 3 100 := by
  have rows : ((batchAt 50).attemptOn linkedDatabase).world.db.traces.rows =
      [newTraceRow 9 3 50 .ok] := by
    decide +kernel
  refine ⟨linkedDatabase_listed, _, rfl, ⟨newTraceRow 9 3 50 .ok, ?_, rfl, rfl⟩, ?_⟩
  · rw [rows]
    exact List.mem_singleton_self _
  · rw [linkValid_iff]
    rintro ⟨⟨row, stored, -, starts⟩, -⟩
    rw [rows, List.mem_singleton] at stored
    rw [stored] at starts
    cases starts

end LlmObs.Backend
