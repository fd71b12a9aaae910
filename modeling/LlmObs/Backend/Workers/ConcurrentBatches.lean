import LlmObs.Backend.Workers.AttemptEffect
import LlmObs.Foundation.Machine
import LlmObs.Foundation.ReadCommitted

/-!
Owns the batch transactions of any number of workers and the aggregate tasks
that follow them, interleaved statement by statement under read committed. A
statement that would wait for another transaction is not enabled until that one
ends. It does not own the outbox and the buckets, whose statements touch no
trace row.
-/

namespace LlmObs.Backend

open LlmObs.Foundation

/-! ### Trace rows with open transactions -/

abbrev TraceSlot := Slot TraceRow

/-- The rows that a statement of the transaction sees. -/
def visibleTraces (reader : Nat) (traces : List TraceSlot) : List TraceRow :=
  traces.filterMap (·.visible reader)

/-- Another open transaction has written the row to or from this key. -/
def TraceSlot.holdsKey (writer : Nat) (key : UUID × Int) (slot : TraceSlot) : Bool :=
  match slot.uncommitted with
  | some (owner, row) =>
      decide (owner ≠ writer) && (decide (row.primaryKey = key) ||
        slot.committed.any fun old => decide (old.primaryKey = key))
  | none => false

/-- The row that the `UPDATE` of `ensure_trace_row` finds. -/
def TraceSlot.isTarget (writer : Nat) (projectId traceId : UUID) (existing : Int)
    (slot : TraceSlot) : Bool :=
  (slot.visible writer).any (·.startsAt projectId traceId existing)

/-- A write of `ensure_trace_row` waits, raises, or leaves these rows. -/
inductive TraceWrite where
  | waits
  | raises
  | leaves (traces : List TraceSlot)

/-- `INSERT .. ON CONFLICT (id, started_at) DO NOTHING`. -/
def insertTraceRow (writer : Nat) (row : TraceRow) (traces : List TraceSlot) : TraceWrite :=
  if traces.any (·.holdsKey writer row.primaryKey) then .waits
  else if (visibleTraces writer traces).any fun stored =>
      decide (stored.primaryKey = row.primaryKey) then .leaves traces
  else .leaves (traces ++ [⟨none, some (writer, row)⟩])

/-- `SET started_at = :started_at` on one row. -/
def TraceSlot.move (writer : Nat) (projectId traceId : UUID) (existing startedAt : Int)
    (slot : TraceSlot) : TraceSlot :=
  match slot.visible writer with
  | some row =>
      if row.startsAt projectId traceId existing then
        slot.write writer { row with startedAt := startedAt }
      else slot
  | none => slot

/-- `UPDATE .. SET started_at = :started_at WHERE .. started_at = :existing`. -/
def moveTraceRow (writer : Nat) (projectId traceId : UUID) (existing startedAt : Int)
    (traces : List TraceSlot) : TraceWrite :=
  if traces.any (·.isTarget writer projectId traceId existing) then
    if (traces.any fun slot =>
        slot.isTarget writer projectId traceId existing && !decide (slot.Free writer)) ||
        traces.any (·.holdsKey writer (traceId, startedAt)) then .waits
    else if (visibleTraces writer traces).any fun stored =>
        decide (stored.primaryKey = (traceId, startedAt)) then .raises
    else .leaves (traces.map (·.move writer projectId traceId existing startedAt))
  else .leaves traces

/-! ### Batch transactions -/

/-- A trace of `trace_map` whose `ensure_trace_row` has returned. -/
structure EnsuredTrace where
  traceId : UUID
  earliest : PreparedSpan
  stableStart : Datetime

/-- Where the transaction of a batch stands. -/
inductive BatchPhase where
  /-- Before `bulk_insert_spans`. -/
  | started
  /-- Before the next `SELECT` of `ensure_trace_row`, or behind the loop. -/
  | ensuring (ensured : List EnsuredTrace) (remaining : List (UUID × PreparedSpan))
  /-- Before the write that follows a `SELECT`. -/
  | writing (ensured : List EnsuredTrace) (traceId : UUID) (span : PreparedSpan)
      (plan : TracePlan) (remaining : List (UUID × PreparedSpan))
  /-- Committed, with the aggregate tasks that are still to be enqueued. -/
  | committed (starts : List (UUID × Datetime))
  | rolledBack

/-- Neither committed nor rolled back. -/
def BatchPhase.Open (phase : BatchPhase) : Prop :=
  match phase with
  | .committed _ | .rolledBack => False
  | _ => True

instance (phase : BatchPhase) : Decidable phase.Open := by
  unfold BatchPhase.Open
  split <;> infer_instance

/-- `spanRows` are the rows that the transaction has inserted. -/
structure BatchTransaction where
  projectId : UUID
  prepared : List PreparedSpan
  spanRows : List SpanRow
  phase : BatchPhase

/-- The span rows that are not committed yet. -/
def BatchTransaction.pendingRows (transaction : BatchTransaction) : List SpanRow :=
  if transaction.phase.Open then transaction.spanRows else []

/-- The span rows that the transaction has inserted and not committed. -/
def pendingSpans (transactions : List BatchTransaction) (index : Nat) : List SpanRow :=
  (transactions[index]?.map (·.pendingRows)).getD []

structure AggregateTask where
  projectId : UUID
  traceId : UUID
  startedAt : Int
deriving DecidableEq, Repr

structure TelemetryState where
  spans : SpanTable
  traces : List TraceSlot
  transactions : List BatchTransaction
  aggregateTasks : List AggregateTask

def TelemetryState.initial : TelemetryState := ⟨Table.empty, [], [], []⟩

def TelemetryState.setTransaction (state : TelemetryState) (index : Nat)
    (transaction : BatchTransaction) : TelemetryState :=
  { state with transactions := state.transactions.set index transaction }

/-- The rollback of a transaction. -/
def TelemetryState.rollback (state : TelemetryState) (index : Nat)
    (transaction : BatchTransaction) : TelemetryState :=
  { state with
    traces := state.traces.map (·.rollback index)
    transactions := state.transactions.set index { transaction with phase := .rolledBack } }

/-- Another open transaction has inserted a row with this identity. -/
def TelemetryState.holdsIdentity (state : TelemetryState) (index : Nat)
    (identity : UUID × Int) : Prop :=
  ∃ other < state.transactions.length, other ≠ index ∧
    ∃ row ∈ pendingSpans state.transactions other, row.primaryKey = identity

instance (state : TelemetryState) (index : Nat) (identity : UUID × Int) :
    Decidable (state.holdsIdentity index identity) := by
  unfold TelemetryState.holdsIdentity
  infer_instance

/-! ### Aggregates -/

/-- The columns that `update_trace_aggregates` sets. -/
structure TraceAggregates where
  totalCostUsd : ℚ
  totalTokens : Nat
  spanCount : Nat
  endedAt : Option Int
  status : SpanStatus
deriving DecidableEq, Repr

def TraceRow.aggregates (row : TraceRow) : TraceAggregates where
  totalCostUsd := row.totalCostUsd
  totalTokens := row.totalTokens
  spanCount := row.spanCount
  endedAt := row.endedAt
  status := row.status

def TraceRow.withAggregates (row : TraceRow) (aggregates : TraceAggregates) : TraceRow :=
  { row with
    totalCostUsd := aggregates.totalCostUsd
    totalTokens := aggregates.totalTokens
    spanCount := aggregates.spanCount
    endedAt := aggregates.endedAt
    status := aggregates.status }

/-- The spans of one trace of the project. -/
def traceSpans (projectId traceId : UUID) (rows : List SpanRow) : List SpanRow :=
  rows.filter fun row => row.projectId = projectId ∧ row.traceId = traceId

theorem mem_traceSpans {projectId traceId : UUID} {rows : List SpanRow} {span : SpanRow} :
    span ∈ traceSpans projectId traceId rows ↔
      span ∈ rows ∧ span.projectId = projectId ∧ span.traceId = traceId := by
  simp [traceSpans]

/-- The fold over spans: `interval` is `make_interval(secs => latency_ms /
1000.0)` in microseconds. -/
def aggregateSpans (interval : ℚ → Int) (rows : List SpanRow) : TraceAggregates where
  totalCostUsd := (rows.map (·.costUsd)).sum
  totalTokens := (rows.map fun row => row.inputTokens + row.outputTokens).sum
  spanCount := rows.length
  endedAt := (rows.map fun row => row.startedAt + interval row.latencyMs).max?
  status := if rows.any fun row => decide (row.status = .error) then .error else .ok

/-- The values fit `integer` and `NUMERIC(12, 8)` columns; otherwise the task
raises. -/
def TraceAggregates.Fits (aggregates : TraceAggregates) : Prop :=
  aggregates.totalCostUsd < 10000 ∧ aggregates.totalTokens < 2 ^ 31 ∧
    aggregates.spanCount < 2 ^ 31

instance (aggregates : TraceAggregates) : Decidable aggregates.Fits :=
  inferInstanceAs (Decidable (_ ∧ _ ∧ _))

/-- What the task writes. -/
def AggregateTask.values (interval : ℚ → Int) (spans : SpanTable) (task : AggregateTask) :
    TraceAggregates :=
  aggregateSpans interval ((traceSpans task.projectId task.traceId spans.rows).filter
    fun row => task.startedAt ≤ row.startedAt)

/-- The committed row that the task addresses. -/
def AggregateTask.addresses (task : AggregateTask) (slot : TraceSlot) : Bool :=
  slot.committed.any (·.startsAt task.projectId task.traceId task.startedAt)

/-- The `UPDATE` of `update_trace_aggregates`, committed. -/
def AggregateTask.update (interval : ℚ → Int) (spans : SpanTable) (task : AggregateTask)
    (slot : TraceSlot) : TraceSlot :=
  if task.addresses slot then
    { slot with committed := slot.committed.map (·.withAggregates (task.values interval spans)) }
  else slot

/-! ### Steps -/

inductive BatchAction where
  | beginBatch (projectId : UUID) (prepared : List PreparedSpan)
  | insertSpans (index : Nat)
  | select (index : Nat)
  | write (index : Nat)
  | commit (index : Nat)
  /-- An exception or a crash before the commit. -/
  | abort (index : Nat)
  /-- The next `update_trace_aggregates.kiq` of a committed batch. -/
  | enqueue (index : Nat)
  /-- One whole run of a queued task. -/
  | aggregate (task : AggregateTask)

/-- `bulk_insert_spans`, `select_inserted_spans` and `trace_map`. -/
def TelemetryState.insertSpans (localInstant : Int → Int) (state : TelemetryState)
    (index : Nat) (transaction : BatchTransaction) : Option TelemetryState :=
  match transaction.phase with
  | .started =>
      if ∃ span ∈ transaction.prepared, state.holdsIdentity index (span.identity localInstant)
      then none
      else
        let (table, identities) := bulkInsertSpans localInstant transaction.prepared state.spans
        let inserted :=
          selectInsertedSpans transaction.prepared (identities.map SpanIdentity.key)
        match buildTraceMap inserted with
        | .ok traceMap => some (state.setTransaction index { transaction with
            spanRows := table.rows.drop state.spans.rows.length
            phase := .ensuring [] traceMap })
        | .error _ => some (state.rollback index transaction)
  | _ => none

/-- The `SELECT` of `ensure_trace_row`, and its return if the row is kept. -/
def TelemetryState.select (state : TelemetryState) (index : Nat)
    (transaction : BatchTransaction) : Option TelemetryState :=
  match transaction.phase with
  | .ensuring ensured ((traceId, span) :: remaining) =>
      match planTraceRow (selectTraceStart transaction.projectId traceId
        (visibleTraces index state.traces)) span.startedAt with
      | .error _ => some (state.rollback index transaction)
      | .ok (.keep existing) => some (state.setTransaction index { transaction with
          phase := .ensuring (ensured ++ [⟨traceId, span, .utc existing⟩]) remaining })
      | .ok plan => some (state.setTransaction index { transaction with
          phase := .writing ensured traceId span plan remaining })
  | _ => none

/-- The `INSERT` or `UPDATE` of `ensure_trace_row`. -/
def TelemetryState.write (localInstant : Int → Int) (state : TelemetryState) (index : Nat)
    (transaction : BatchTransaction) : Option TelemetryState :=
  match transaction.phase with
  | .writing ensured traceId span plan remaining =>
      let startedAt := span.startedAt.toTimestamptz localInstant
      let outcome := match plan with
        | .insert => insertTraceRow index
            (newTraceRow transaction.projectId traceId startedAt span.status) state.traces
        | .move existing =>
            moveTraceRow index transaction.projectId traceId existing startedAt state.traces
        | .keep _ => .waits
      match outcome with
      | .waits => none
      | .raises => some (state.rollback index transaction)
      | .leaves traces => some { state with
          traces := traces
          transactions := state.transactions.set index { transaction with
            phase := .ensuring (ensured ++ [⟨traceId, span, span.startedAt⟩]) remaining } }
  | _ => none

def TelemetryState.commit (state : TelemetryState) (index : Nat)
    (transaction : BatchTransaction) : Option TelemetryState :=
  match transaction.phase with
  | .ensuring ensured [] => some { state with
      spans := (state.spans.insertAll transaction.spanRows).1
      traces := state.traces.map (·.commit index)
      transactions := state.transactions.set index { transaction with
        phase := .committed (ensured.map fun trace => (trace.traceId, trace.stableStart)) } }
  | _ => none

def TelemetryState.enqueue (localInstant : Int → Int) (state : TelemetryState) (index : Nat)
    (transaction : BatchTransaction) : Option TelemetryState :=
  match transaction.phase with
  | .committed ((traceId, startedAt) :: starts) => some { state with
      aggregateTasks := state.aggregateTasks ++
        [⟨transaction.projectId, traceId, startedAt.toTimestamptz localInstant⟩]
      transactions := state.transactions.set index { transaction with
        phase := .committed starts } }
  | _ => none

def TelemetryState.aggregate (interval : ℚ → Int) (state : TelemetryState)
    (task : AggregateTask) : Option TelemetryState :=
  if task ∈ state.aggregateTasks ∧ (task.values interval state.spans).Fits ∧
      ∀ slot ∈ state.traces, task.addresses slot → slot.uncommitted = none then
    some { state with
      traces := state.traces.map (task.update interval state.spans)
      aggregateTasks := state.aggregateTasks.erase task }
  else none

/-- The workers, with the local time zone of their processes and the rounding of
intervals in the database. -/
def telemetryMachine (localInstant : Int → Int) (interval : ℚ → Int) :
    Machine TelemetryState BatchAction where
  step := fun state action =>
    match action with
    | .beginBatch projectId prepared =>
        if ∀ span ∈ prepared, span.projectId = projectId then
          some { state with
            transactions := state.transactions ++ [⟨projectId, prepared, [], .started⟩] }
        else none
    | .insertSpans index => state.transactions[index]?.bind (state.insertSpans localInstant index)
    | .select index => state.transactions[index]?.bind (state.select index)
    | .write index => state.transactions[index]?.bind (state.write localInstant index)
    | .commit index => state.transactions[index]?.bind (state.commit index)
    | .abort index => state.transactions[index]?.bind fun transaction =>
        if transaction.phase.Open then some (state.rollback index transaction) else none
    | .enqueue index => state.transactions[index]?.bind (state.enqueue localInstant index)
    | .aggregate task => state.aggregate interval task

/-! ### What a step does -/

/-- What a write of `ensure_trace_row` leaves where it neither waits nor raises:
the rows as they were, a new row, or the moved row. -/
inductive TraceWrites (localInstant : Int → Int) (writer : Nat) (projectId traceId : UUID)
    (span : PreparedSpan) : TracePlan → List TraceSlot → List TraceSlot → Prop where
  | skipped {traces : List TraceSlot} {stored : TraceRow}
      (known : stored ∈ visibleTraces writer traces)
      (sameKey : stored.primaryKey = (traceId, span.startedAt.toTimestamptz localInstant)) :
      TraceWrites localInstant writer projectId traceId span .insert traces traces
  | inserted {traces : List TraceSlot}
      (alone : ∀ slot ∈ traces,
        slot.holdsKey writer (traceId, span.startedAt.toTimestamptz localInstant) = false)
      (new : ∀ stored ∈ visibleTraces writer traces,
        stored.primaryKey ≠ (traceId, span.startedAt.toTimestamptz localInstant)) :
      TraceWrites localInstant writer projectId traceId span .insert traces
        (traces ++ [⟨none, some (writer, newTraceRow projectId traceId
          (span.startedAt.toTimestamptz localInstant) span.status)⟩])
  | missed {traces : List TraceSlot} {existing : Int}
      (gone : ∀ slot ∈ traces, slot.isTarget writer projectId traceId existing = false) :
      TraceWrites localInstant writer projectId traceId span (.move existing) traces traces
  | moved {traces : List TraceSlot} {existing : Int}
      (free : ∀ slot ∈ traces, slot.isTarget writer projectId traceId existing →
        slot.Free writer) :
      TraceWrites localInstant writer projectId traceId span (.move existing) traces
        (traces.map (·.move writer projectId traceId existing
          (span.startedAt.toTimestamptz localInstant)))

theorem traceWrites_of_insert {localInstant : Int → Int} {writer : Nat}
    {projectId traceId : UUID} {span : PreparedSpan} {traces next : List TraceSlot}
    (leaves : insertTraceRow writer (newTraceRow projectId traceId
      (span.startedAt.toTimestamptz localInstant) span.status) traces = .leaves next) :
    TraceWrites localInstant writer projectId traceId span .insert traces next := by
  unfold insertTraceRow at leaves
  split at leaves
  · cases leaves
  · rename_i notWaiting
    split at leaves
    · rename_i conflict
      rw [List.any_eq_true] at conflict
      obtain ⟨stored, known, sameKey⟩ := conflict
      cases leaves
      exact .skipped known (of_decide_eq_true sameKey)
    · rename_i noConflict
      cases leaves
      refine .inserted (fun slot member => ?_) fun stored known sameKey => noConflict ?_
      · rw [Bool.not_eq_true, List.any_eq_false] at notWaiting
        simpa [newTraceRow, TraceRow.primaryKey] using notWaiting slot member
      · rw [List.any_eq_true]
        exact ⟨stored, known, decide_eq_true sameKey⟩

theorem traceWrites_of_move {localInstant : Int → Int} {writer : Nat}
    {projectId traceId : UUID} {span : PreparedSpan} {existing : Int}
    {traces next : List TraceSlot}
    (leaves : moveTraceRow writer projectId traceId existing
      (span.startedAt.toTimestamptz localInstant) traces = .leaves next) :
    TraceWrites localInstant writer projectId traceId span (.move existing) traces next := by
  unfold moveTraceRow at leaves
  split at leaves
  · split at leaves
    · cases leaves
    · rename_i notWaiting
      split at leaves
      · cases leaves
      · cases leaves
        refine .moved fun slot member target => ?_
        by_contra held
        refine notWaiting ?_
        rw [Bool.or_eq_true, List.any_eq_true]
        exact Or.inl ⟨slot, member, by simp [target, held]⟩
  · rename_i noTarget
    cases leaves
    refine .missed fun slot member => ?_
    rw [Bool.not_eq_true, List.any_eq_false] at noTarget
    simpa using noTarget slot member

/-- The ways a step can go. An exception or a crash of an open transaction is
`rolledBack`, whichever statement meets it. -/
inductive BatchStep (localInstant : Int → Int) (interval : ℚ → Int) (state : TelemetryState) :
    BatchAction → TelemetryState → Prop where
  | began {projectId : UUID} {prepared : List PreparedSpan}
      (ofProject : ∀ span ∈ prepared, span.projectId = projectId) :
      BatchStep localInstant interval state (.beginBatch projectId prepared) { state with
        transactions := state.transactions ++ [⟨projectId, prepared, [], .started⟩] }
  | inserted {index : Nat} {transaction : BatchTransaction}
      {traceMap : List (UUID × PreparedSpan)}
      (known : state.transactions[index]? = some transaction)
      (started : transaction.phase = .started)
      (alone : ∀ span ∈ transaction.prepared,
        ¬ state.holdsIdentity index (span.identity localInstant))
      (built : buildTraceMap (recognisedSpans localInstant state.spans transaction.prepared) =
        .ok traceMap) :
      BatchStep localInstant interval state (.insertSpans index) (state.setTransaction index
        { transaction with
          spanRows := (storedSpans localInstant state.spans transaction.prepared).map
            (·.toRow localInstant)
          phase := .ensuring [] traceMap })
  | kept {index : Nat} {transaction : BatchTransaction} {ensured : List EnsuredTrace}
      {traceId : UUID} {span : PreparedSpan} {remaining : List (UUID × PreparedSpan)}
      {existing : Int} (known : state.transactions[index]? = some transaction)
      (ensuring : transaction.phase = .ensuring ensured ((traceId, span) :: remaining))
      (plans : planTraceRow (selectTraceStart transaction.projectId traceId
        (visibleTraces index state.traces)) span.startedAt = .ok (.keep existing)) :
      BatchStep localInstant interval state (.select index) (state.setTransaction index
        { transaction with
          phase := .ensuring (ensured ++ [⟨traceId, span, .utc existing⟩]) remaining })
  | planned {index : Nat} {transaction : BatchTransaction} {ensured : List EnsuredTrace}
      {traceId : UUID} {span : PreparedSpan} {remaining : List (UUID × PreparedSpan)}
      {plan : TracePlan} (known : state.transactions[index]? = some transaction)
      (ensuring : transaction.phase = .ensuring ensured ((traceId, span) :: remaining))
      (plans : planTraceRow (selectTraceStart transaction.projectId traceId
        (visibleTraces index state.traces)) span.startedAt = .ok plan) :
      BatchStep localInstant interval state (.select index) (state.setTransaction index
        { transaction with phase := .writing ensured traceId span plan remaining })
  | wrote {index : Nat} {transaction : BatchTransaction} {ensured : List EnsuredTrace}
      {traceId : UUID} {span : PreparedSpan} {plan : TracePlan}
      {remaining : List (UUID × PreparedSpan)} {traces : List TraceSlot}
      (known : state.transactions[index]? = some transaction)
      (writing : transaction.phase = .writing ensured traceId span plan remaining)
      (leaves : TraceWrites localInstant index transaction.projectId traceId span plan
        state.traces traces) :
      BatchStep localInstant interval state (.write index) { state with
        traces := traces
        transactions := state.transactions.set index { transaction with
          phase := .ensuring (ensured ++ [⟨traceId, span, span.startedAt⟩]) remaining } }
  | rolledBack {action : BatchAction} {index : Nat} {transaction : BatchTransaction}
      (known : state.transactions[index]? = some transaction) (isOpen : transaction.phase.Open) :
      BatchStep localInstant interval state action (state.rollback index transaction)
  | committed {index : Nat} {transaction : BatchTransaction} {ensured : List EnsuredTrace}
      (known : state.transactions[index]? = some transaction)
      (ensuring : transaction.phase = .ensuring ensured []) :
      BatchStep localInstant interval state (.commit index) { state with
        spans := (state.spans.insertAll transaction.spanRows).1
        traces := state.traces.map (·.commit index)
        transactions := state.transactions.set index { transaction with
          phase := .committed (ensured.map fun trace => (trace.traceId, trace.stableStart)) } }
  | enqueued {index : Nat} {transaction : BatchTransaction} {traceId : UUID}
      {startedAt : Datetime} {starts : List (UUID × Datetime)}
      (known : state.transactions[index]? = some transaction)
      (committed : transaction.phase = .committed ((traceId, startedAt) :: starts)) :
      BatchStep localInstant interval state (.enqueue index) { state with
        aggregateTasks := state.aggregateTasks ++
          [⟨transaction.projectId, traceId, startedAt.toTimestamptz localInstant⟩]
        transactions := state.transactions.set index { transaction with
          phase := .committed starts } }
  | aggregated {task : AggregateTask} (queued : task ∈ state.aggregateTasks)
      (unlocked : ∀ slot ∈ state.traces, task.addresses slot → slot.uncommitted = none) :
      BatchStep localInstant interval state (.aggregate task) { state with
        traces := state.traces.map (task.update interval state.spans)
        aggregateTasks := state.aggregateTasks.erase task }

/-- Every step goes one of these ways. -/
theorem batchStep_of_step {localInstant : Int → Int} {interval : ℚ → Int}
    {state next : TelemetryState} {action : BatchAction}
    (stepped : (telemetryMachine localInstant interval).step state action = some next) :
    BatchStep localInstant interval state action next := by
  cases action with
  | beginBatch projectId prepared =>
      simp only [telemetryMachine] at stepped
      split at stepped
      · rename_i ofProject
        cases stepped
        exact .began ofProject
      · cases stepped
  | insertSpans index =>
      obtain ⟨transaction, known, inserts⟩ := Option.bind_eq_some_iff.mp stepped
      unfold TelemetryState.insertSpans at inserts
      split at inserts
      · rename_i started
        split at inserts
        · cases inserts
        · rename_i noneHeld
          simp only [selectInsertedSpans_bulkInsertSpans] at inserts
          split at inserts
          · rename_i traceMap built
            rw [bulkInsertSpans_rows, List.drop_left] at inserts
            cases inserts
            exact .inserted known started
              (fun span member held => noneHeld ⟨span, member, held⟩) built
          · cases inserts
            exact .rolledBack known (by simp [BatchPhase.Open, started])
      · cases inserts
  | select index =>
      obtain ⟨transaction, known, selects⟩ := Option.bind_eq_some_iff.mp stepped
      unfold TelemetryState.select at selects
      split at selects
      · rename_i ensured traceId span remaining ensuring
        split at selects
        · cases selects
          exact .rolledBack known (by simp [BatchPhase.Open, ensuring])
        · rename_i existing plans
          cases selects
          exact .kept known ensuring plans
        · rename_i plan _ plans
          cases selects
          exact .planned known ensuring plans
      · cases selects
  | write index =>
      obtain ⟨transaction, known, writes⟩ := Option.bind_eq_some_iff.mp stepped
      unfold TelemetryState.write at writes
      split at writes
      · rename_i ensured traceId span plan remaining writing
        have isOpen : transaction.phase.Open := by simp [BatchPhase.Open, writing]
        cases plan with
        | insert =>
            dsimp only at writes
            split at writes
            · cases writes
            · cases writes
              exact .rolledBack known isOpen
            · rename_i traces leaves
              cases writes
              exact .wrote known writing (traceWrites_of_insert leaves)
        | move existing =>
            dsimp only at writes
            split at writes
            · cases writes
            · cases writes
              exact .rolledBack known isOpen
            · rename_i traces leaves
              cases writes
              exact .wrote known writing (traceWrites_of_move leaves)
        | keep existing => cases writes
      · cases writes
  | commit index =>
      obtain ⟨transaction, known, commits⟩ := Option.bind_eq_some_iff.mp stepped
      unfold TelemetryState.commit at commits
      split at commits
      · rename_i ensured ensuring
        cases commits
        exact .committed known ensuring
      · cases commits
  | abort index =>
      obtain ⟨transaction, known, aborts⟩ := Option.bind_eq_some_iff.mp stepped
      split at aborts
      · rename_i isOpen
        cases aborts
        exact .rolledBack known isOpen
      · cases aborts
  | enqueue index =>
      obtain ⟨transaction, known, enqueues⟩ := Option.bind_eq_some_iff.mp stepped
      unfold TelemetryState.enqueue at enqueues
      split at enqueues
      · rename_i traceId startedAt starts committed
        cases enqueues
        exact .enqueued known committed
      · cases enqueues
  | aggregate task =>
      simp only [telemetryMachine, TelemetryState.aggregate] at stepped
      split at stepped
      · rename_i enabled
        cases stepped
        exact .aggregated enabled.1 enabled.2.2
      · cases stepped

end LlmObs.Backend
