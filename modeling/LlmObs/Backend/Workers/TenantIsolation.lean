import LlmObs.Backend.Workers.UndisturbedAttempt

/-!
Owns two runs of one batch on databases that differ in the rows of other
projects: when the project sees the same rows and counts in both. The primary
keys of spans and traces do not name the project, so a row of another project
can stand in the way of an insert or a move.
-/

namespace LlmObs.Backend

open LlmObs.Foundation

/-! ### What a project sees -/

def SpanTable.ofProject (projectId : UUID) (table : SpanTable) : List SpanRow :=
  table.rows.filter fun row => row.projectId = projectId

def TraceTable.ofProject (projectId : UUID) (table : TraceTable) : List TraceRow :=
  table.rows.filter fun row => row.projectId = projectId

/-- The databases differ only in rows of other projects. -/
structure DiffersElsewhere (projectId : UUID) (left right : Database) : Prop where
  spans : SpanTable.ofProject projectId left.spans = SpanTable.ofProject projectId right.spans
  traces : TraceTable.ofProject projectId left.traces =
    TraceTable.ofProject projectId right.traces
  outboxEvents : (left.outboxEvents.rows.filter fun row => row.projectId = projectId) =
    right.outboxEvents.rows.filter fun row => row.projectId = projectId
  spanMetricBuckets : (left.spanMetricBuckets.rows.filter fun row => row.projectId = projectId) =
    right.spanMetricBuckets.rows.filter fun row => row.projectId = projectId
  projects : (left.projects.rows.filter fun row => row.id = projectId) =
    right.projects.rows.filter fun row => row.id = projectId
  modelPricing : left.modelPricing = right.modelPricing

def World.withDb (world : World) (db : Database) : World := { world with db := db }

/-- The rows of a project after an attempt, and the counts that it reports. -/
structure TenantView where
  spans : List SpanRow
  traces : List TraceRow
  reported : Option (Nat × Nat)

def AttemptRun.viewOf (projectId : UUID) (run : AttemptRun) : TenantView where
  spans := SpanTable.ofProject projectId run.world.db.spans
  traces := TraceTable.ofProject projectId run.world.db.traces
  reported := run.reported

/-- The databases agree on what the batch collides with: which prepared spans are
stored, and which first rows of a trace are taken. -/
structure AgreesFor (localInstant : Int → Int) (projectId : UUID) (left right : Database)
    (prepared : List PreparedSpan) : Prop where
  identities : ∀ span ∈ prepared,
    span.identity localInstant ∈ SpanTable.identities left.spans ↔
      span.identity localInstant ∈ SpanTable.identities right.spans
  starts : ∀ span, EarliestRecognised localInstant left prepared span →
    ¬ TraceTable.Has left.traces projectId span.traceId →
      (TraceTable.Occupied left.traces span.traceId
          (span.startedAt.toTimestamptz localInstant) ↔
        TraceTable.Occupied right.traces span.traceId
          (span.startedAt.toTimestamptz localInstant))

/-! ### The traces of the project -/

section

variable {projectId traceId : UUID} {left right : TraceTable}

theorem mem_ofProject {row : TraceRow} (own : row.Of projectId traceId) :
    row ∈ TraceTable.ofProject projectId left ↔ row ∈ left.rows := by
  rw [TraceTable.ofProject, List.mem_filter, decide_eq_true_eq]
  exact and_iff_left own.1

theorem covers_congr (same : TraceTable.ofProject projectId left =
      TraceTable.ofProject projectId right) (traceId : UUID) (instant : Int) :
    TraceTable.Covers left projectId traceId instant ↔
      TraceTable.Covers right projectId traceId instant := by
  refine exists_congr fun row => and_congr_left fun ⟨own, _⟩ => ?_
  rw [← mem_ofProject own, same, mem_ofProject own]

theorem has_congr (same : TraceTable.ofProject projectId left =
      TraceTable.ofProject projectId right) (traceId : UUID) :
    TraceTable.Has left projectId traceId ↔ TraceTable.Has right projectId traceId := by
  refine exists_congr fun row => and_congr_left fun own => ?_
  rw [← mem_ofProject own, same, mem_ofProject own]

theorem earliestTraceStart_congr (same : TraceTable.ofProject projectId left =
      TraceTable.ofProject projectId right) (traceId : UUID) :
    earliestTraceStart projectId traceId left = earliestTraceStart projectId traceId right := by
  have ofOwn : ∀ table : TraceTable,
      (table.rows.filter fun row => row.projectId = projectId ∧ row.id = traceId) =
        (TraceTable.ofProject projectId table).filter fun row => row.id = traceId := by
    intro table
    rw [TraceTable.ofProject, List.filter_filter]
    refine List.filter_congr fun row _ => ?_
    simp [and_comm]
  rw [earliestTraceStart, earliestTraceStart, selectTraceStart, selectTraceStart, ofOwn, ofOwn,
    same]

theorem ofProject_moveTraceStart (existing startedAt : Int) (rows : List TraceRow) :
    ((moveTraceStart projectId traceId existing startedAt rows).filter
        fun row => row.projectId = projectId) =
      moveTraceStart projectId traceId existing startedAt
        (rows.filter fun row => row.projectId = projectId) := by
  rw [moveTraceStart, moveTraceStart, List.filter_map]
  congr 1
  refine List.filter_congr fun row _ => ?_
  dsimp only [Function.comp_apply]
  split <;> rfl

/-- One call does the same to the project's rows in both tables, if the tables
agree on the key that a first row would take. -/
theorem ofProject_ensureTraceRow {localInstant : Int → Int} {startedAt : Datetime}
    {status : SpanStatus} (aware : startedAt.Aware)
    (same : TraceTable.ofProject projectId left = TraceTable.ofProject projectId right)
    (agree : ¬ TraceTable.Has left projectId traceId →
      (TraceTable.Occupied left traceId (startedAt.toTimestamptz localInstant) ↔
        TraceTable.Occupied right traceId (startedAt.toTimestamptz localInstant)))
    {leftNext rightNext : TraceTable} {leftStart rightStart : Datetime}
    (leftDone : ensureTraceRow localInstant projectId traceId startedAt status left =
      .ok (leftNext, leftStart))
    (rightDone : ensureTraceRow localInstant projectId traceId startedAt status right =
      .ok (rightNext, rightStart)) :
    TraceTable.ofProject projectId leftNext = TraceTable.ofProject projectId rightNext := by
  cases found : earliestTraceStart projectId traceId left with
  | none =>
      have leftAbsent := earliestTraceStart_eq_none_iff.mp found
      have rightAbsent := earliestTraceStart_eq_none_iff.mp
        ((earliestTraceStart_congr same traceId).symm.trans found)
      rw [ensureTraceRow_of_absent leftAbsent, Except.ok.injEq, Prod.mk.injEq] at leftDone
      rw [ensureTraceRow_of_absent rightAbsent, Except.ok.injEq, Prod.mk.injEq] at rightDone
      obtain ⟨rfl, -⟩ := leftDone
      obtain ⟨rfl, -⟩ := rightDone
      by_cases occupied : TraceTable.Occupied left traceId (startedAt.toTimestamptz localInstant)
      · rw [insertOrSkip_of_occupied (by exact occupied),
          insertOrSkip_of_occupied (by exact (agree leftAbsent).mp occupied)]
        exact same
      · have rightFree := fun taken => occupied ((agree leftAbsent).mpr taken)
        rw [TraceTable.ofProject, insertOrSkip_of_free (by exact occupied), List.filter_append,
          TraceTable.ofProject, insertOrSkip_of_free (by exact rightFree), List.filter_append]
        exact congrArg (· ++ _) same
  | some existing =>
      have rightFound := (earliestTraceStart_congr same traceId).symm.trans found
      by_cases early : existing ≤ startedAt.toTimestamptz localInstant
      · rw [ensureTraceRow_of_kept aware found early, Except.ok.injEq, Prod.mk.injEq] at leftDone
        rw [ensureTraceRow_of_kept aware rightFound early, Except.ok.injEq,
          Prod.mk.injEq] at rightDone
        rw [← leftDone.1, ← rightDone.1]
        exact same
      · rw [ensureTraceRow_of_later aware found early] at leftDone
        rw [ensureTraceRow_of_later aware rightFound early] at rightDone
        split at leftDone
        · rename_i leftMoved leftChecked
          split at rightDone
          · rename_i rightMoved rightChecked
            rw [Except.ok.injEq, Prod.mk.injEq] at leftDone rightDone
            obtain ⟨rfl, -⟩ := leftDone
            obtain ⟨rfl, -⟩ := rightDone
            rw [TraceTable.ofProject, Table.ofRows?_rows leftChecked, ofProject_moveTraceStart,
              TraceTable.ofProject, Table.ofRows?_rows rightChecked, ofProject_moveTraceStart]
            exact congrArg (moveTraceStart projectId traceId existing _) same
          · cases rightDone
        · cases leftDone

end

theorem ofProject_ensureTraceRows {runtime : Runtime} {env : AttemptEnv} {projectId : UUID}
    {traceMap : List (UUID × PreparedSpan)} {left right leftNext rightNext : TraceTable}
    {leftStarts rightStarts : List (UUID × Datetime)}
    (distinct : (traceMap.map Prod.fst).Nodup)
    (aware : ∀ entry ∈ traceMap, entry.2.startedAt.Aware)
    (same : TraceTable.ofProject projectId left = TraceTable.ofProject projectId right)
    (agree : ∀ entry ∈ traceMap, ¬ TraceTable.Has left projectId entry.1 →
      (TraceTable.Occupied left entry.1
          (entry.2.startedAt.toTimestamptz runtime.localInstant) ↔
        TraceTable.Occupied right entry.1
          (entry.2.startedAt.toTimestamptz runtime.localInstant)))
    (leftDone : ensureTraceRows runtime env projectId traceMap left = .ok (leftNext, leftStarts))
    (rightDone : ensureTraceRows runtime env projectId traceMap right =
      .ok (rightNext, rightStarts)) :
    TraceTable.ofProject projectId leftNext = TraceTable.ofProject projectId rightNext := by
  induction traceMap generalizing left right leftStarts rightStarts with
  | nil =>
      simp only [ensureTraceRows, Except.ok.injEq, Prod.mk.injEq] at leftDone rightDone
      rw [← leftDone.1, ← rightDone.1]
      exact same
  | cons head rest inductionHypothesis =>
      obtain ⟨headId, span⟩ := head
      rw [List.map_cons, List.nodup_cons] at distinct
      rw [List.forall_mem_cons] at aware agree
      obtain ⟨leftMiddle, leftStart, leftLater, -, leftEnsures, leftRest, -⟩ :=
        ensureTraceRows_cons leftDone
      obtain ⟨rightMiddle, rightStart, rightLater, -, rightEnsures, rightRest, -⟩ :=
        ensureTraceRows_cons rightDone
      have middleSame := ofProject_ensureTraceRow aware.1 same agree.1 leftEnsures rightEnsures
      have leftEnsured := traceEnsured_of_ok aware.1 leftEnsures
      have rightEnsured := traceEnsured_of_ok aware.1 rightEnsures
      refine inductionHypothesis distinct.2 aware.2 middleSame ?_ leftRest rightRest
      intro entry member absent
      have different : entry.1 ≠ headId := by
        intro sameId
        exact distinct.1 (List.mem_map.mpr ⟨entry, member, sameId⟩)
      rw [leftEnsured.occupied_other different, rightEnsured.occupied_other different]
      exact agree.2 entry member fun has => absent ((leftEnsured.has_other different).mpr has)

/-! ### The preparation -/

theorem loadPayloadPrivacySettings_congr {projectId : UUID} {left right : ProjectTable}
    (same : (left.rows.filter fun row => row.id = projectId) =
      right.rows.filter fun row => row.id = projectId) :
    loadPayloadPrivacySettings projectId left = loadPayloadPrivacySettings projectId right := by
  have found : (left.rows.find? fun row => row.id = projectId) =
      right.rows.find? fun row => row.id = projectId := by
    rw [← List.head?_filter, ← List.head?_filter, same]
  rw [loadPayloadPrivacySettings, loadPayloadPrivacySettings, found]

/-- Rows of other projects do not matter to the preparation. -/
theorem prepareBatch_congr {projectId : UUID} {left right : Database}
    (elsewhere : DiffersElsewhere projectId left right) (runtime : Runtime) (env : AttemptEnv)
    (spans : List SpanSchema) (world other : World) (leftDb : world.db = left)
    (sameRest : other = world.withDb right) :
    (prepareBatch runtime env projectId spans world).1 =
      (prepareBatch runtime env projectId spans other).1 := by
  subst leftDb sameRest
  unfold prepareBatch
  cases env.check .loadSettings with
  | error halt => rfl
  | ok checked =>
      simp only [World.withDb, ← elsewhere.modelPricing,
        loadPayloadPrivacySettings_congr elsewhere.projects]

/-! ### Two stored batches -/

section

variable {localInstant : Int → Int} {projectId : UUID} {left right : Database}
  {prepared : List PreparedSpan}

theorem storedSpans_congr (agree : ∀ span ∈ prepared,
      span.identity localInstant ∈ SpanTable.identities left.spans ↔
        span.identity localInstant ∈ SpanTable.identities right.spans) :
    storedSpans localInstant left.spans prepared = storedSpans localInstant right.spans prepared :=
  firstNew_congr agree

theorem recognisedSpans_congr (agree : ∀ span ∈ prepared,
      span.identity localInstant ∈ SpanTable.identities left.spans ↔
        span.identity localInstant ∈ SpanTable.identities right.spans) :
    recognisedSpans localInstant left.spans prepared =
      recognisedSpans localInstant right.spans prepared :=
  firstNew_congr fun span member => agree span (List.mem_filter.mp member).1

/-- Where the new rows agree, the databases agreed on which spans were stored. -/
theorem identities_agree_of_storedSpans
    (same : (storedSpans localInstant left.spans prepared).map (·.toRow localInstant) =
      (storedSpans localInstant right.spans prepared).map (·.toRow localInstant)) :
    ∀ span ∈ prepared, span.identity localInstant ∈ SpanTable.identities left.spans ↔
      span.identity localInstant ∈ SpanTable.identities right.spans := by
  have sameIdentities := congrArg (List.map SpanRow.primaryKey) same
  rw [List.map_map, List.map_map] at sameIdentities
  intro span member
  have new := @mem_identities_storedSpans localInstant left prepared (span.identity localInstant)
  have new' := @mem_identities_storedSpans localInstant right prepared
    (span.identity localInstant)
  have inBatch : ∃ other ∈ prepared, other.identity localInstant = span.identity localInstant :=
    ⟨span, member, rfl⟩
  have listed : span.identity localInstant ∈
        (storedSpans localInstant left.spans prepared).map (·.identity localInstant) ↔
      span.identity localInstant ∈
        (storedSpans localInstant right.spans prepared).map (·.identity localInstant) :=
    iff_of_eq (congrArg (span.identity localInstant ∈ ·) sameIdentities)
  rw [new, new', and_iff_left inBatch, and_iff_left inBatch] at listed
  exact not_iff_not.mp listed

variable {runtime : Runtime} {env : AttemptEnv} {leftNext rightNext : Database}
  {leftBatch rightBatch : InsertedBatch}

theorem BatchStored.spans_ofProject {next : Database} {batch : InsertedBatch}
    (stored : BatchStored runtime env projectId prepared left next batch)
    (ofProject : ∀ span ∈ prepared, span.projectId = projectId) :
    SpanTable.ofProject projectId next.spans = SpanTable.ofProject projectId left.spans ++
      (storedSpans runtime.localInstant left.spans prepared).map
        (·.toRow runtime.localInstant) := by
  rw [SpanTable.ofProject, stored.spans, List.filter_append, SpanTable.ofProject]
  congr 1
  rw [List.filter_eq_self]
  intro row member
  obtain ⟨span, stored, rfl⟩ := List.mem_map.mp member
  exact decide_eq_true (ofProject span ((firstNew_sublist _ _).subset stored))

/-- After the batch a trace without a row is covered from its earliest recognised
start on, unless that key was taken. -/
theorem BatchStored.covers_first {next : Database} {batch : InsertedBatch}
    (stored : BatchStored runtime env projectId prepared left next batch) {span : PreparedSpan}
    (first : EarliestRecognised runtime.localInstant left prepared span)
    (absent : ¬ TraceTable.Has left.traces projectId span.traceId) :
    TraceTable.Covers next.traces projectId span.traceId
        (span.startedAt.toTimestamptz runtime.localInstant) ↔
      ¬ TraceTable.Occupied left.traces span.traceId
        (span.startedAt.toTimestamptz runtime.localInstant) := by
  obtain ⟨traceMap, -, mapOf, ensured⟩ := stored.traces
  have aware := stored.traceMap_aware mapOf
  have recognised : span ∈ batch.insertedSpans := stored.inserted ▸ first.recognised
  have uncovered : ¬ TraceTable.Covers left.traces projectId span.traceId
      (span.startedAt.toTimestamptz runtime.localInstant) :=
    fun ⟨row, rowStored, own, _⟩ => absent ⟨row, rowStored, own⟩
  have sameStart : ∀ earliest, (span.traceId, earliest) ∈ traceMap →
      earliest.startedAt.toTimestamptz runtime.localInstant =
        span.startedAt.toTimestamptz runtime.localInstant := by
    intro earliest listed
    obtain ⟨inserted, sameTrace⟩ := mapOf.sound _ listed
    exact le_antisymm (mapOf.earliest _ listed span recognised rfl)
      (first.earliest earliest (stored.inserted ▸ inserted) sameTrace)
  rw [covers_ensureTraceRows mapOf.distinct aware ensured]
  constructor
  · rintro (covers | ⟨earliest, listed, -, has | free⟩)
    · exact absurd covers uncovered
    · exact absurd has absent
    · rwa [sameStart earliest listed] at free
  · intro free
    obtain ⟨earliest, listed⟩ := mapOf.complete span recognised
    refine Or.inr ⟨earliest, listed, (sameStart earliest listed).le, Or.inr ?_⟩
    rwa [sameStart earliest listed]

/-- Two stored batches look the same to the project exactly when the databases
agreed on what the batch collides with. -/
theorem sameRows_iff_agreesFor (elsewhere : DiffersElsewhere projectId left right)
    (ofProject : ∀ span ∈ prepared, span.projectId = projectId)
    (leftStored : BatchStored runtime env projectId prepared left leftNext leftBatch)
    (rightStored : BatchStored runtime env projectId prepared right rightNext rightBatch) :
    (SpanTable.ofProject projectId leftNext.spans =
          SpanTable.ofProject projectId rightNext.spans ∧
        TraceTable.ofProject projectId leftNext.traces =
          TraceTable.ofProject projectId rightNext.traces) ↔
      AgreesFor runtime.localInstant projectId left right prepared := by
  have spansIff : SpanTable.ofProject projectId leftNext.spans =
        SpanTable.ofProject projectId rightNext.spans ↔
      (storedSpans runtime.localInstant left.spans prepared).map
          (·.toRow runtime.localInstant) =
        (storedSpans runtime.localInstant right.spans prepared).map
          (·.toRow runtime.localInstant) := by
    rw [leftStored.spans_ofProject ofProject, rightStored.spans_ofProject ofProject,
      elsewhere.spans, List.append_cancel_left_eq]
  constructor
  · rintro ⟨sameSpans, sameTraces⟩
    have identities := identities_agree_of_storedSpans (spansIff.mp sameSpans)
    refine ⟨identities, fun span first absent => ?_⟩
    have rightFirst : EarliestRecognised runtime.localInstant right prepared span := by
      have same := recognisedSpans_congr identities
      exact ⟨same ▸ first.recognised, same ▸ first.earliest⟩
    have rightAbsent := fun has => absent ((has_congr elsewhere.traces span.traceId).mpr has)
    rw [← not_iff_not, ← leftStored.covers_first first absent,
      ← rightStored.covers_first rightFirst rightAbsent]
    exact covers_congr sameTraces _ _
  · rintro ⟨identities, starts⟩
    refine ⟨spansIff.mpr (by rw [storedSpans_congr identities]), ?_⟩
    obtain ⟨traceMap, leftBuilt, mapOf, leftEnsured⟩ := leftStored.traces
    obtain ⟨rightMap, rightBuilt, -, rightEnsured⟩ := rightStored.traces
    have sameInserted : rightBatch.insertedSpans = leftBatch.insertedSpans := by
      rw [leftStored.inserted, rightStored.inserted, recognisedSpans_congr identities]
    rw [sameInserted, leftBuilt, Except.ok.injEq] at rightBuilt
    subst rightBuilt
    have aware := leftStored.traceMap_aware mapOf
    refine ofProject_ensureTraceRows mapOf.distinct aware elsewhere.traces ?_ leftEnsured
      rightEnsured
    intro entry member absent
    obtain ⟨inserted, sameTrace⟩ := mapOf.sound entry member
    rw [← sameTrace] at absent ⊢
    refine starts entry.2 ⟨leftStored.inserted ▸ inserted, fun other recognised same => ?_⟩ absent
    exact mapOf.earliest entry member other (leftStored.inserted ▸ recognised)
      (same.trans sameTrace)

end

/-! ### Two runs -/

section

variable {runtime : Runtime} {env : AttemptEnv} {projectId : UUID} {spans : List SpanSchema}

theorem viewOf_of_aborted {run : AttemptRun} {world : World}
    (aborted : AttemptAborted run world) : run.viewOf projectId =
      ⟨SpanTable.ofProject projectId world.db.spans,
        TraceTable.ofProject projectId world.db.traces, none⟩ := by
  rw [AttemptRun.viewOf, aborted.db, aborted.reported]

theorem preparedSpans_undisturbed (undisturbed : env.Undisturbed) (world : World) :
    preparedSpans runtime env projectId spans world =
      match (prepareBatch runtime env projectId spans (world.setStatus markProcessing)).1 with
      | .ok (prepared, _) => prepared
      | .error _ => [] := by
  show (match (prepareBatch runtime env projectId spans (startAttempt env world).1).1 with
    | .ok (prepared, _) => prepared
    | .error _ => []) = _
  rw [startAttempt_undisturbed undisturbed]

end

/-- Of two databases that differ only in rows of other projects, an undisturbed
attempt at a batch leaves and reports the same for its project exactly when both
block the move of a trace row, or neither does and they agree on which prepared
spans are stored and which first trace keys are taken. -/
theorem sameView_iff {runtime : Runtime} {env : AttemptEnv} {projectId : UUID}
    {spans : List SpanSchema} {world : World} {left right : Database}
    (undisturbed : env.Undisturbed) (elsewhere : DiffersElsewhere projectId left right)
    (leftFresh : FreshEventIds env spans.length left.outboxEvents)
    (rightFresh : FreshEventIds env spans.length right.outboxEvents) :
    (processSpanBatch runtime env projectId spans (world.withDb left)).viewOf projectId =
        (processSpanBatch runtime env projectId spans (world.withDb right)).viewOf projectId ↔
      (MoveBlocked runtime.localInstant projectId left
          (preparedSpans runtime env projectId spans (world.withDb left)) ∧
        MoveBlocked runtime.localInstant projectId right
          (preparedSpans runtime env projectId spans (world.withDb left))) ∨
      (¬ MoveBlocked runtime.localInstant projectId left
          (preparedSpans runtime env projectId spans (world.withDb left)) ∧
        ¬ MoveBlocked runtime.localInstant projectId right
          (preparedSpans runtime env projectId spans (world.withDb left)) ∧
        AgreesFor runtime.localInstant projectId left right
          (preparedSpans runtime env projectId spans (world.withDb left))) := by
  have samePrepared := prepareBatch_congr elsewhere runtime env spans
    ((world.withDb left).setStatus markProcessing)
    ((world.withDb right).setStatus markProcessing) rfl rfl
  rw [preparedSpans_undisturbed undisturbed]
  cases leftPrepares : prepareBatch runtime env projectId spans
    ((world.withDb left).setStatus markProcessing) with
  | mk leftOutcome leftAfter =>
  cases rightPrepares : prepareBatch runtime env projectId spans
    ((world.withDb right).setStatus markProcessing) with
  | mk rightOutcome rightAfter =>
  rw [leftPrepares, rightPrepares] at samePrepared
  dsimp only at samePrepared
  subst samePrepared
  cases leftOutcome with
  | error halt =>
      have leftAborted := aborted_of_unprepared undisturbed leftPrepares
      have rightAborted := aborted_of_unprepared undisturbed rightPrepares
      have nothing : ∀ db span, ¬ EarliestRecognised runtime.localInstant db [] span :=
        fun _ _ first => List.not_mem_nil first.recognised
      have free : ∀ db, ¬ MoveBlocked runtime.localInstant projectId db [] :=
        fun db ⟨span, first, _⟩ => nothing db span first
      rw [viewOf_of_aborted leftAborted, viewOf_of_aborted rightAborted]
      refine iff_of_true ?_ (Or.inr ⟨free left, free right, by simp, ?_⟩)
      · simp only [World.withDb, elsewhere.spans, elsewhere.traces]
      · exact fun span first => absurd first (nothing left span)
  | ok result =>
  obtain ⟨prepared, failedCount⟩ := result
  obtain ⟨-, -, sources⟩ := prepareBatch_spec leftPrepares
  have ofProject : ∀ span ∈ prepared, span.projectId = projectId := by
    intro span member
    obtain ⟨source, -, preparesTo⟩ := sources span member
    exact preparesTo.projectId
  dsimp only
  by_cases leftBlocked : MoveBlocked runtime.localInstant projectId left prepared
  · have leftAborted := aborted_of_moveBlocked undisturbed leftFresh leftPrepares leftBlocked
    by_cases rightBlocked : MoveBlocked runtime.localInstant projectId right prepared
    · have rightAborted := aborted_of_moveBlocked undisturbed rightFresh rightPrepares rightBlocked
      rw [viewOf_of_aborted leftAborted, viewOf_of_aborted rightAborted]
      refine iff_of_true ?_ (Or.inl ⟨leftBlocked, rightBlocked⟩)
      simp only [World.withDb, elsewhere.spans, elsewhere.traces]
    · obtain ⟨batch, -, reported⟩ := finished_of_free undisturbed rightFresh rightPrepares
        rightBlocked
      refine iff_of_false (fun same => ?_) (by simp [leftBlocked, rightBlocked])
      have sameReport := congrArg TenantView.reported same
      simp only [AttemptRun.viewOf, leftAborted.reported, reported] at sameReport
      cases sameReport
  · obtain ⟨leftBatch, leftStored, leftReported⟩ := finished_of_free undisturbed leftFresh
      leftPrepares leftBlocked
    by_cases rightBlocked : MoveBlocked runtime.localInstant projectId right prepared
    · have rightAborted := aborted_of_moveBlocked undisturbed rightFresh rightPrepares rightBlocked
      refine iff_of_false (fun same => ?_) (by simp [leftBlocked, rightBlocked])
      have sameReport := congrArg TenantView.reported same
      simp only [AttemptRun.viewOf, rightAborted.reported, leftReported] at sameReport
      cases sameReport
    · obtain ⟨rightBatch, rightStored, rightReported⟩ := finished_of_free undisturbed rightFresh
        rightPrepares rightBlocked
      have rows := sameRows_iff_agreesFor elsewhere ofProject leftStored rightStored
      simp only [leftBlocked, rightBlocked, not_false_eq_true, true_and, false_and, false_or]
      rw [← rows]
      constructor
      · intro same
        exact ⟨congrArg TenantView.spans same, congrArg TenantView.traces same⟩
      · rintro ⟨sameSpans, sameTraces⟩
        have sameInserted : recognisedSpans runtime.localInstant (world.withDb left).db.spans
            prepared = recognisedSpans runtime.localInstant (world.withDb right).db.spans
              prepared :=
          recognisedSpans_congr (rows.mp ⟨sameSpans, sameTraces⟩).identities
        rw [AttemptRun.viewOf, AttemptRun.viewOf, sameSpans, sameTraces, leftReported,
          rightReported, leftStored.inserted, rightStored.inserted, sameInserted]

/-- The database of project 1 after project 9 has sent a span with the same id,
trace and start. -/
def takenDatabase : Database :=
  (processSpanBatch .inUtc .faultless 9 [spanStartingAt (.utc 0)]
    (.ofDatabase (.ofProject 1))).world.db

/-- A worker whose event ids are not those that project 9 got. -/
def laterEventIds : AttemptEnv :=
  { AttemptEnv.faultless with eventId := fun index => BitVec.ofNat 128 (index + 1) }

theorem takenDatabase_differsElsewhere :
    DiffersElsewhere 1 takenDatabase (.ofProject 1) :=
  ⟨rfl, rfl, rfl, rfl, rfl, rfl⟩

theorem sameView_iff_takenSpan :
    (processSpanBatch .inUtc laterEventIds 1 [spanStartingAt (.utc 0)]
          ((World.ofDatabase .empty).withDb takenDatabase)).viewOf 1 =
        (processSpanBatch .inUtc laterEventIds 1 [spanStartingAt (.utc 0)]
          ((World.ofDatabase .empty).withDb (.ofProject 1))).viewOf 1 ↔
      (MoveBlocked id 1 takenDatabase (preparedSpans .inUtc laterEventIds 1
            [spanStartingAt (.utc 0)] ((World.ofDatabase .empty).withDb takenDatabase)) ∧
        MoveBlocked id 1 (.ofProject 1) (preparedSpans .inUtc laterEventIds 1
            [spanStartingAt (.utc 0)] ((World.ofDatabase .empty).withDb takenDatabase))) ∨
      (¬ MoveBlocked id 1 takenDatabase (preparedSpans .inUtc laterEventIds 1
            [spanStartingAt (.utc 0)] ((World.ofDatabase .empty).withDb takenDatabase)) ∧
        ¬ MoveBlocked id 1 (.ofProject 1) (preparedSpans .inUtc laterEventIds 1
            [spanStartingAt (.utc 0)] ((World.ofDatabase .empty).withDb takenDatabase)) ∧
        AgreesFor id 1 takenDatabase (.ofProject 1) (preparedSpans .inUtc laterEventIds 1
            [spanStartingAt (.utc 0)] ((World.ofDatabase .empty).withDb takenDatabase))) := by
  have oneSpan : [spanStartingAt (.utc 0)].length = 1 := rfl
  have oneId : ∀ first < 1, ∀ second < 1,
      laterEventIds.eventId first = laterEventIds.eventId second → first = second := by
    intro first firstBelow second secondBelow _
    omega
  have notTaken : ∀ index < 1, ∀ row ∈ takenDatabase.outboxEvents.rows,
      row.id ≠ laterEventIds.eventId index := by
    intro index below row stored
    obtain rfl : index = 0 := by omega
    rw [show takenDatabase.outboxEvents.rows = [_] from rfl, List.mem_singleton] at stored
    rw [stored]
    decide
  exact sameView_iff (fun _ => Or.inl rfl) takenDatabase_differsElsewhere
    ⟨oneSpan ▸ oneId, oneSpan ▸ notTaken⟩ ⟨oneSpan ▸ oneId, fun _ _ row stored => by cases stored⟩

/-- The span of project 1 is silently dropped where project 9 has sent its
identity first. -/
theorem takenSpan_changesView :
    DiffersElsewhere 1 takenDatabase (.ofProject 1) ∧
      (processSpanBatch .inUtc laterEventIds 1 [spanStartingAt (.utc 0)]
          ((World.ofDatabase .empty).withDb takenDatabase)).viewOf 1 ≠
        (processSpanBatch .inUtc laterEventIds 1 [spanStartingAt (.utc 0)]
          ((World.ofDatabase .empty).withDb (.ofProject 1))).viewOf 1 := by
  refine ⟨takenDatabase_differsElsewhere, fun same => ?_⟩
  have reported : some (0, 0) = some (1, 0) := congrArg TenantView.reported same
  simp at reported

end LlmObs.Backend
