import LlmObs.Backend.Workers.OneTraceRow

/-!
Owns what the aggregates of trace rows amount to when nothing is left to run: when
every row of a trace carries the fold over all committed spans of it. An aggregate
task addresses its row by the start that its batch has ensured, so this rests on the
starts that batches hand to their tasks.
-/

namespace LlmObs.Backend

open LlmObs.Foundation

/-! ### Tasks that are still to run -/

/-- The starts that a committed batch has still to enqueue tasks for. -/
def BatchPhase.pendingStarts : BatchPhase → List (UUID × Datetime)
  | .committed starts => starts
  | _ => []

/-- A task for the row is queued, or a committed batch is about to enqueue it. -/
def TelemetryState.Pending (localInstant : Int → Int) (state : TelemetryState)
    (projectId traceId : UUID) (startedAt : Int) : Prop :=
  ⟨projectId, traceId, startedAt⟩ ∈ state.aggregateTasks ∨
    ∃ transaction ∈ state.transactions, transaction.projectId = projectId ∧
      ∃ start ∈ transaction.phase.pendingStarts, start.1 = traceId ∧
        start.2.toTimestamptz localInstant = startedAt

instance (localInstant : Int → Int) (state : TelemetryState) (projectId traceId : UUID)
    (startedAt : Int) : Decidable (state.Pending localInstant projectId traceId startedAt) :=
  inferInstanceAs (Decidable (_ ∈ _ ∨ ∃ _ ∈ _, _ ∧ ∃ _ ∈ _, _ ∧ _))

/-- A batch has no step left. -/
def BatchPhase.Done : BatchPhase → Prop
  | .committed starts => starts = []
  | .rolledBack => True
  | _ => False

/-- No batch and no aggregate task is left to run. -/
def TelemetryState.Quiet (state : TelemetryState) : Prop :=
  state.aggregateTasks = [] ∧ ∀ transaction ∈ state.transactions, transaction.phase.Done

instance (phase : BatchPhase) : Decidable phase.Done :=
  match phase with
  | .committed [] | .rolledBack => isTrue (by simp [BatchPhase.Done])
  | .committed (_ :: _) => isFalse (by simp [BatchPhase.Done])
  | .started | .ensuring _ _ | .writing _ _ _ _ _ => isFalse (by simp [BatchPhase.Done])

instance (state : TelemetryState) : Decidable state.Quiet :=
  inferInstanceAs (Decidable (_ ∧ ∀ _ ∈ _, _))

/-- A trace with committed spans has a row, and its rows carry the fold over them. -/
def TelemetryState.Converged (interval : ℚ → Int) (state : TelemetryState)
    (projectId traceId : UUID) : Prop :=
  traceSpans projectId traceId state.spans.rows ≠ [] →
    (∃ row ∈ committedTraces state.traces, row.Of projectId traceId) ∧
      ∀ row ∈ committedTraces state.traces, row.Of projectId traceId →
        row.aggregates = aggregateSpans interval (traceSpans projectId traceId state.spans.rows)

instance (interval : ℚ → Int) (state : TelemetryState) (projectId traceId : UUID) :
    Decidable (state.Converged interval projectId traceId) :=
  inferInstanceAs (Decidable (_ ≠ [] → (∃ _ ∈ _, _) ∧ ∀ _ ∈ _, _ → _))

/-! ### Batches that hand on current starts -/

/-- The rows that the transaction sees of each trace it has ensured start together,
no later than its spans, and a task for them is to run after the commit: its own one,
or one that is still pending. -/
def BatchTransaction.HandsOnStarts (localInstant : Int → Int) (state : TelemetryState)
    (index : Nat) (transaction : BatchTransaction) : Prop :=
  ∀ trace ∈ transaction.phase.ensured, ∃ row ∈ visibleTraces index state.traces,
    row.Of transaction.projectId trace.traceId ∧
    row.startedAt ≤ trace.earliest.startedAt.toTimestamptz localInstant ∧
    (∀ other ∈ visibleTraces index state.traces,
      other.Of transaction.projectId trace.traceId → other.startedAt = row.startedAt) ∧
    (row.startedAt = trace.stableStart.toTimestamptz localInstant ∨
      state.Pending localInstant transaction.projectId trace.traceId row.startedAt)

instance (localInstant : Int → Int) (state : TelemetryState) (index : Nat)
    (transaction : BatchTransaction) :
    Decidable (transaction.HandsOnStarts localInstant state index) :=
  inferInstanceAs (Decidable (∀ _ ∈ _, ∃ _ ∈ _, _ ∧ _ ∧ (∀ _ ∈ _, _) ∧ (_ ∨ _)))

/-- Batches have aware starts, and commit with starts that are still current. -/
def CommitsCurrentStarts (localInstant : Int → Int) (state : TelemetryState) :
    BatchAction → Prop
  | .beginBatch _ prepared => ∀ span ∈ prepared, span.startedAt.Aware
  | .commit index => ∀ transaction ∈ state.transactions[index]?,
      transaction.HandsOnStarts localInstant state index
  | _ => True

instance (localInstant : Int → Int) (state : TelemetryState) (action : BatchAction) :
    Decidable (CommitsCurrentStarts localInstant state action) :=
  match action with
  | .beginBatch _ _ => inferInstanceAs (Decidable (∀ _ ∈ _, _))
  | .commit _ => inferInstanceAs (Decidable (∀ _ ∈ _, _))
  | .insertSpans _ | .select _ | .write _ | .abort _ | .enqueue _ | .aggregate _ => isTrue trivial

theorem aware_of_commitsCurrentStarts {localInstant : Int → Int} {state : TelemetryState}
    {action : BatchAction} (meets : CommitsCurrentStarts localInstant state action) :
    action.Aware := by
  cases action with
  | beginBatch projectId prepared => exact meets
  | _ => trivial

/-! ### Invariant -/

/-- The rows of a trace start together, no later than its spans, and carry the fold
over them where no task for them is still to run. -/
structure Converging (localInstant : Int → Int) (interval : ℚ → Int) (state : TelemetryState) :
    Prop where
  least : ∀ row ∈ committedTraces state.traces, ∀ span ∈ state.spans.rows,
    row.Of span.projectId span.traceId → row.startedAt ≤ span.startedAt
  rowed : ∀ span ∈ state.spans.rows, ∃ row ∈ committedTraces state.traces,
    row.Of span.projectId span.traceId
  together : ∀ row ∈ committedTraces state.traces, ∀ other ∈ committedTraces state.traces,
    row.Of other.projectId other.id → row.startedAt = other.startedAt
  current : ∀ row ∈ committedTraces state.traces,
    row.aggregates = aggregateSpans interval (traceSpans row.projectId row.id state.spans.rows) ∨
      state.Pending localInstant row.projectId row.id row.startedAt

section

variable {localInstant : Int → Int} {interval : ℚ → Int} {state next : TelemetryState}

theorem converging_initial : Converging localInstant interval .initial where
  least := by intro row member; cases member
  rowed := by intro span member; cases member
  together := by intro row member; cases member
  current := by intro row member; cases member

/-- A step that changes neither spans nor committed rows, and drops no pending task. -/
theorem Converging.same (converging : Converging localInstant interval state)
    (spans : next.spans = state.spans)
    (traces : committedTraces next.traces = committedTraces state.traces)
    (pending : ∀ projectId traceId startedAt,
      state.Pending localInstant projectId traceId startedAt →
        next.Pending localInstant projectId traceId startedAt) :
    Converging localInstant interval next where
  least := by rw [spans, traces]; exact converging.least
  rowed := by rw [spans, traces]; exact converging.rowed
  together := by rw [traces]; exact converging.together
  current := by
    rw [spans, traces]
    intro row member
    exact (converging.current row member).imp_right (pending _ _ _)

/-- A quiet state has converged. -/
theorem Converging.converged (converging : Converging localInstant interval state)
    (quiet : state.Quiet) (projectId traceId : UUID) :
    state.Converged interval projectId traceId := by
  intro spans
  obtain ⟨span, listed⟩ := List.exists_mem_of_ne_nil _ spans
  obtain ⟨stored, ofTrace⟩ := mem_traceSpans.mp listed
  constructor
  · obtain ⟨row, member, ofSpan⟩ := converging.rowed span stored
    exact ⟨row, member, ofSpan.1.trans ofTrace.1, ofSpan.2.trans ofTrace.2⟩
  · intro row member ofRow
    rcases converging.current row member with
      fresh | queued | ⟨transaction, known, _, start, listed, _⟩
    · rw [fresh, ofRow.1, ofRow.2]
    · rw [quiet.1] at queued
      cases queued
    · have done := quiet.2 transaction known
      unfold BatchPhase.pendingStarts at listed
      split at listed
      · rename_i starts committed
        rw [committed] at done
        rw [show starts = [] from done] at listed
        cases listed
      · cases listed

/-! ### Steps that commit nothing -/

variable {index : Nat} {transaction changed : BatchTransaction}

/-- No start is lost when a transaction goes on that has none left to hand on. -/
theorem pending_set {tasks : List AggregateTask} {traces : List TraceSlot} {spans : SpanTable}
    (known : state.transactions[index]? = some transaction)
    (nothing : transaction.phase.pendingStarts = []) (more : state.aggregateTasks ⊆ tasks)
    {projectId traceId : UUID} {startedAt : Int}
    (pending : state.Pending localInstant projectId traceId startedAt) :
    TelemetryState.Pending localInstant
      ⟨spans, traces, state.transactions.set index changed, tasks⟩ projectId traceId startedAt := by
  rcases pending with queued | ⟨other, member, ofProject, start, listed, ofTrace⟩
  · exact Or.inl (more queued)
  · right
    obtain ⟨number, otherKnown⟩ := List.mem_iff_getElem?.mp member
    have different : number ≠ index := by
      rintro rfl
      rw [known, Option.some.injEq] at otherKnown
      rw [← otherKnown, nothing] at listed
      cases listed
    have placed : (state.transactions.set index changed)[number]? = some other :=
      (List.getElem?_set_ne (Ne.symm different)).trans otherKnown
    exact ⟨other, List.mem_of_getElem? placed, ofProject, start, listed, ofTrace⟩

theorem pendingStarts_of_open (isOpen : transaction.phase.Open) :
    transaction.phase.pendingStarts = [] := by
  cases phase : transaction.phase with
  | committed starts =>
      rw [phase] at isOpen
      exact isOpen.elim
  | _ => rfl

/-- A statement of an open transaction, or its rollback. -/
theorem Converging.ofOpen (converging : Converging localInstant interval state)
    (known : state.transactions[index]? = some transaction) (isOpen : transaction.phase.Open)
    {traces : List TraceSlot} (same : committedTraces traces = committedTraces state.traces) :
    Converging localInstant interval { state with
      traces := traces
      transactions := state.transactions.set index changed } := by
  refine converging.same rfl same ?_
  intro projectId traceId startedAt pending
  exact pending_set known (pendingStarts_of_open isOpen) (List.Subset.refl _) pending

theorem Converging.enqueue (converging : Converging localInstant interval state)
    (known : state.transactions[index]? = some transaction) {traceId : UUID}
    {startedAt : Datetime} {starts : List (UUID × Datetime)}
    (committed : transaction.phase = .committed ((traceId, startedAt) :: starts)) :
    Converging localInstant interval { state with
      aggregateTasks := state.aggregateTasks ++
        [⟨transaction.projectId, traceId, startedAt.toTimestamptz localInstant⟩]
      transactions := state.transactions.set index
        { transaction with phase := .committed starts } } := by
  refine converging.same rfl rfl ?_
  rintro projectId otherTrace instant (queued | ⟨other, member, rfl, start, listed, rfl, rfl⟩)
  · exact Or.inl (List.mem_append_left _ queued)
  · obtain ⟨number, otherKnown⟩ := List.mem_iff_getElem?.mp member
    by_cases same : number = index
    · subst same
      rw [known, Option.some.injEq] at otherKnown
      subst otherKnown
      rw [committed] at listed
      rcases List.mem_cons.mp listed with rfl | later
      · exact Or.inl (List.mem_append_right _ (List.mem_singleton_self _))
      · right
        refine ⟨{ transaction with phase := .committed starts }, ?_, rfl, start, later, rfl, rfl⟩
        exact List.mem_of_getElem? (getElem?_set_self known)
    · right
      have placed : (state.transactions.set index
          { transaction with phase := .committed starts })[number]? = some other :=
        (List.getElem?_set_ne (Ne.symm same)).trans otherKnown
      exact ⟨other, List.mem_of_getElem? placed, rfl, start, listed, rfl, rfl⟩

/-! ### Aggregate tasks -/

/-- A row after a task is the row that it addressed with its values, or another row
as it was. -/
theorem mem_committedTraces_update {task : AggregateTask} {spans : SpanTable}
    {traces : List TraceSlot} {row : TraceRow}
    (member : row ∈ committedTraces (traces.map (task.update interval spans))) :
    ∃ before ∈ committedTraces traces,
      (before.Of task.projectId task.traceId ∧ before.startedAt = task.startedAt ∧
          row = before.withAggregates (task.values interval spans)) ∨
        ((before.Of task.projectId task.traceId → before.startedAt ≠ task.startedAt) ∧
          row = before) := by
  obtain ⟨slot, slotMember, known⟩ := mem_committedTraces.mp member
  obtain ⟨old, oldMember, rfl⟩ := List.mem_map.mp slotMember
  unfold AggregateTask.update at known
  split at known
  · rename_i addresses
    obtain ⟨before, beforeKnown, rfl⟩ := Option.map_eq_some_iff.mp known
    rw [AggregateTask.addresses, beforeKnown, Option.any_some] at addresses
    obtain ⟨ofTask, start⟩ := startsAt_iff.mp addresses
    exact ⟨before, mem_committedTraces.mpr ⟨old, oldMember, beforeKnown⟩,
      Or.inl ⟨ofTask, start, rfl⟩⟩
  · rename_i addressesNot
    refine ⟨row, mem_committedTraces.mpr ⟨old, oldMember, known⟩, Or.inr ⟨?_, rfl⟩⟩
    intro ofTask start
    apply addressesNot
    rw [AggregateTask.addresses, known, Option.any_some]
    exact startsAt_iff.mpr ⟨ofTask, start⟩

/-- Where no span starts before the task, it folds over all spans of its trace. -/
theorem AggregateTask.values_eq {task : AggregateTask} {spans : SpanTable}
    (least : ∀ span ∈ traceSpans task.projectId task.traceId spans.rows,
      task.startedAt ≤ span.startedAt) :
    task.values interval spans =
      aggregateSpans interval (traceSpans task.projectId task.traceId spans.rows) := by
  have all : (traceSpans task.projectId task.traceId spans.rows).filter
      (fun row => task.startedAt ≤ row.startedAt) =
        traceSpans task.projectId task.traceId spans.rows := by
    apply List.filter_eq_self.mpr
    intro span member
    exact decide_eq_true (least span member)
  rw [AggregateTask.values, all]

theorem Converging.aggregate (converging : Converging localInstant interval state)
    (task : AggregateTask) :
    Converging localInstant interval { state with
      traces := state.traces.map (task.update interval state.spans)
      aggregateTasks := state.aggregateTasks.erase task } := by
  have back : ∀ row ∈ committedTraces (state.traces.map (task.update interval state.spans)),
      ∃ before ∈ committedTraces state.traces, row.projectId = before.projectId ∧
        row.id = before.id ∧ row.startedAt = before.startedAt := by
    intro row member
    obtain ⟨before, stored, ⟨_, _, rfl⟩ | ⟨_, rfl⟩⟩ := mem_committedTraces_update member
    · exact ⟨before, stored, rfl, rfl, rfl⟩
    · exact ⟨row, stored, rfl, rfl, rfl⟩
  constructor
  · intro row member span stored ofSpan
    obtain ⟨before, beforeStored, project, trace, start⟩ := back row member
    rw [start]
    exact converging.least before beforeStored span stored
      ⟨project.symm.trans ofSpan.1, trace.symm.trans ofSpan.2⟩
  · intro span stored
    obtain ⟨row, member, ofSpan⟩ := converging.rowed span stored
    obtain ⟨slot, slotMember, known⟩ := mem_committedTraces.mp member
    obtain ⟨after, afterKnown, same, _⟩ := AggregateTask.update_of_committed task state.spans known
    refine ⟨after, mem_committedTraces.mpr ⟨_, List.mem_map_of_mem slotMember, afterKnown⟩, ?_⟩
    rw [same]
    exact ofSpan
  · intro row member other otherMember same
    obtain ⟨before, stored, project, trace, start⟩ := back row member
    obtain ⟨otherBefore, otherStored, otherProject, otherTrace, otherStart⟩ :=
      back other otherMember
    rw [start, otherStart]
    apply converging.together before stored otherBefore otherStored
    exact ⟨project.symm.trans (same.1.trans otherProject),
      trace.symm.trans (same.2.trans otherTrace)⟩
  · intro row member
    obtain ⟨before, stored, ⟨ofTask, start, rfl⟩ | ⟨elsewhere, rfl⟩⟩ :=
      mem_committedTraces_update member
    · left
      have least : ∀ span ∈ traceSpans task.projectId task.traceId state.spans.rows,
          task.startedAt ≤ span.startedAt := by
        intro span listed
        obtain ⟨spanStored, ofTrace⟩ := mem_traceSpans.mp listed
        rw [← start]
        exact converging.least before stored span spanStored
          ⟨ofTask.1.trans ofTrace.1.symm, ofTask.2.trans ofTrace.2.symm⟩
      show task.values interval state.spans = _
      rw [AggregateTask.values_eq least, ← ofTask.1, ← ofTask.2]
      rfl
    · rcases converging.current row stored with fresh | queued | batch
      · exact Or.inl fresh
      · right
        left
        apply (List.mem_erase_of_ne _).mpr queued
        rintro rfl
        exact elsewhere ⟨rfl, rfl⟩ rfl
      · exact Or.inr (Or.inr batch)

/-! ### Commits -/

/-- A commit publishes what its transaction sees. -/
theorem committedTraces_commit (writer : Nat) (traces : List TraceSlot) :
    committedTraces (traces.map (·.commit writer)) = visibleTraces writer traces := by
  rw [committedTraces, visibleTraces, List.filterMap_map]
  apply congrArg (List.filterMap · traces)
  funext slot
  show (slot.commit writer).committed = slot.visible writer
  rcases slot.held_or_untouched writer with ⟨row, held⟩ | untouched
  · rw [Slot.commit_of_held held]
    simp [Slot.visible, held]
  · rw [Slot.commit_of_untouched untouched, Slot.visible_of_untouched untouched]

/-- The row is of a trace that the transaction has ensured. -/
def BatchTransaction.Ensures (transaction : BatchTransaction) (row : TraceRow) : Prop :=
  ∃ trace ∈ transaction.phase.ensured, row.Of transaction.projectId trace.traceId

theorem BatchTransaction.Ensures.of_same {row other : TraceRow}
    (ensures : transaction.Ensures row) (same : row.Of other.projectId other.id) :
    transaction.Ensures other := by
  obtain ⟨trace, member, ofTrace⟩ := ensures
  exact ⟨trace, member, same.1.symm.trans ofTrace.1, same.2.symm.trans ofTrace.2⟩

/-- A row of a trace that the transaction has not ensured is committed if it is
visible. -/
theorem committed_of_visible (sound : state.Sound localInstant)
    (known : state.transactions[index]? = some transaction) {row : TraceRow}
    (visible : row ∈ visibleTraces index state.traces)
    (notEnsured : ¬ transaction.Ensures row) :
    row ∈ committedTraces state.traces := by
  obtain ⟨slot, member, isVisible⟩ := List.mem_filterMap.mp visible
  apply mem_committedTraces.mpr
  refine ⟨slot, member, ?_⟩
  have untouched : slot.Untouched index := by
    intro version held
    simp only [Slot.visible, held, if_true, Option.some.injEq] at isVisible
    subst isVisible
    obtain ⟨ofProject, trace, ensured, ofTrace, _⟩ := sound.version known member held
    exact notEnsured ⟨trace, ensured, ofProject, ofTrace.symm⟩
  rw [← Slot.visible_of_untouched untouched]
  exact isVisible

/-- The visible row of a trace with committed spans starts no later than them. -/
theorem Converging.visible_after (converging : Converging localInstant interval state)
    (sound : state.Sound localInstant) {span : SpanRow} (stored : span ∈ state.spans.rows)
    (reader : Nat) :
    ∃ row ∈ visibleTraces reader state.traces, row.Of span.projectId span.traceId ∧
      row.startedAt ≤ span.startedAt := by
  obtain ⟨row, member, ofSpan⟩ := converging.rowed span stored
  obtain ⟨slot, slotMember, known⟩ := mem_committedTraces.mp member
  obtain ⟨after, afterKnown, same, earlier⟩ := sound.committed_after slotMember known reader
  refine ⟨after, ?_, ⟨same.1.trans ofSpan.1, same.2.trans ofSpan.2⟩,
    earlier.trans (converging.least row member span stored ofSpan)⟩
  rw [← committedTraces_commit]
  exact mem_committedTraces.mpr ⟨_, List.mem_map_of_mem slotMember, afterKnown⟩

/-- What a batch with current starts sees of a trace that it has ensured. -/
theorem BatchTransaction.HandsOnStarts.visible
    (handsOn : transaction.HandsOnStarts localInstant state index) {row : TraceRow}
    (visible : row ∈ visibleTraces index state.traces) {trace : EnsuredTrace}
    (member : trace ∈ transaction.phase.ensured)
    (ofTrace : row.Of transaction.projectId trace.traceId) :
    row.startedAt ≤ trace.earliest.startedAt.toTimestamptz localInstant ∧
      (∀ other ∈ visibleTraces index state.traces,
        other.Of transaction.projectId trace.traceId → other.startedAt = row.startedAt) ∧
      (row.startedAt = trace.stableStart.toTimestamptz localInstant ∨
        state.Pending localInstant transaction.projectId trace.traceId row.startedAt) := by
  obtain ⟨first, _, _, early, together, current⟩ := handsOn trace member
  have start := together row visible ofTrace
  rw [start]
  exact ⟨early, together, current⟩

section

variable {ensured : List EnsuredTrace}

/-- The rows that the batch sees of a trace start together. -/
theorem Converging.visible_together (converging : Converging localInstant interval state)
    (sound : state.Sound localInstant) (known : state.transactions[index]? = some transaction)
    (handsOn : transaction.HandsOnStarts localInstant state index) {row other : TraceRow}
    (visible : row ∈ visibleTraces index state.traces)
    (otherVisible : other ∈ visibleTraces index state.traces)
    (same : row.Of other.projectId other.id) : row.startedAt = other.startedAt := by
  by_cases ensures : transaction.Ensures row
  · obtain ⟨trace, member, ofTrace⟩ := ensures
    obtain ⟨_, together, _⟩ := handsOn.visible visible member ofTrace
    exact (together other otherVisible
      ⟨same.1.symm.trans ofTrace.1, same.2.symm.trans ofTrace.2⟩).symm
  · have notOther : ¬ transaction.Ensures other :=
      fun otherEnsures => ensures (otherEnsures.of_same same.symm)
    exact converging.together row (committed_of_visible sound known visible ensures) other
      (committed_of_visible sound known otherVisible notOther) same

/-- A row that the batch sees starts no later than its trace's spans after the commit. -/
theorem Converging.visible_least (converging : Converging localInstant interval state)
    (sound : state.Sound localInstant) (known : state.transactions[index]? = some transaction)
    (handsOn : transaction.HandsOnStarts localInstant state index)
    (ensuring : transaction.phase = .ensuring ensured []) {row : TraceRow}
    (visible : row ∈ visibleTraces index state.traces) {span : SpanRow}
    (stored : span ∈ state.spans.rows ++ transaction.spanRows)
    (ofSpan : row.Of span.projectId span.traceId) : row.startedAt ≤ span.startedAt := by
  rcases List.mem_append.mp stored with old | new
  · obtain ⟨after, afterVisible, ofAfter, early⟩ := converging.visible_after sound old index
    have same : row.Of after.projectId after.id :=
      ⟨ofSpan.1.trans ofAfter.1.symm, ofSpan.2.trans ofAfter.2.symm⟩
    rw [converging.visible_together sound known handsOn visible afterVisible same]
    exact early
  · obtain ⟨ofProject, trace, member, ofTrace, early⟩ :=
      (sound_of_known sound known).ensured_of_stored ensuring new
    obtain ⟨covers, _⟩ := handsOn.visible visible member
      ⟨ofSpan.1.trans ofProject, ofSpan.2.trans ofTrace.symm⟩
    exact covers.trans early

/-- The batch sees a row for every span after the commit. -/
theorem Converging.visible_rowed (converging : Converging localInstant interval state)
    (sound : state.Sound localInstant) (known : state.transactions[index]? = some transaction)
    (handsOn : transaction.HandsOnStarts localInstant state index)
    (ensuring : transaction.phase = .ensuring ensured []) {span : SpanRow}
    (stored : span ∈ state.spans.rows ++ transaction.spanRows) :
    ∃ row ∈ visibleTraces index state.traces, row.Of span.projectId span.traceId := by
  rcases List.mem_append.mp stored with old | new
  · obtain ⟨row, visible, ofSpan, _⟩ := converging.visible_after sound old index
    exact ⟨row, visible, ofSpan⟩
  · obtain ⟨ofProject, trace, member, ofTrace, _⟩ :=
      (sound_of_known sound known).ensured_of_stored ensuring new
    obtain ⟨row, visible, ofRow, _⟩ := handsOn trace member
    exact ⟨row, visible, ofRow.1.trans ofProject.symm, ofRow.2.trans ofTrace⟩

/-- A batch stores no span of a trace that it has not ensured. -/
theorem traceSpans_of_not_ensures (sound : state.Sound localInstant)
    (known : state.transactions[index]? = some transaction)
    (ensuring : transaction.phase = .ensuring ensured []) {row : TraceRow}
    (notEnsured : ¬ transaction.Ensures row) :
    traceSpans row.projectId row.id (state.spans.rows ++ transaction.spanRows) =
      traceSpans row.projectId row.id state.spans.rows := by
  have noSpans : traceSpans row.projectId row.id transaction.spanRows = [] := by
    apply List.eq_nil_iff_forall_not_mem.mpr
    intro span listed
    obtain ⟨stored, ofRow⟩ := mem_traceSpans.mp listed
    obtain ⟨ofProject, trace, member, ofTrace, _⟩ :=
      (sound_of_known sound known).ensured_of_stored ensuring stored
    exact notEnsured ⟨trace, member, ofRow.1.symm.trans ofProject,
      ofRow.2.symm.trans ofTrace.symm⟩
  rw [traceSpans] at noSpans
  rw [traceSpans, List.filter_append, noSpans, List.append_nil, traceSpans]

theorem Converging.commit (converging : Converging localInstant interval state)
    (sound : state.Sound localInstant) (known : state.transactions[index]? = some transaction)
    (handsOn : transaction.HandsOnStarts localInstant state index)
    (ensuring : transaction.phase = .ensuring ensured []) :
    Converging localInstant interval { state with
      spans := (state.spans.insertAll transaction.spanRows).1
      traces := state.traces.map (·.commit index)
      transactions := state.transactions.set index { transaction with
        phase := .committed (ensured.map fun trace => (trace.traceId, trace.stableStart)) } } := by
  have isOpen : transaction.phase.Open := by simp [ensuring, BatchPhase.Open]
  have rows : (state.spans.insertAll transaction.spanRows).1.rows =
      state.spans.rows ++ transaction.spanRows := sound.apart.commit_rows known isOpen
  have traces : committedTraces (state.traces.map (·.commit index)) =
      visibleTraces index state.traces := committedTraces_commit index state.traces
  constructor
  · dsimp only
    rw [traces, rows]
    intro row visible span stored ofSpan
    exact converging.visible_least sound known handsOn ensuring visible stored ofSpan
  · dsimp only
    rw [traces, rows]
    intro span stored
    exact converging.visible_rowed sound known handsOn ensuring stored
  · dsimp only
    rw [traces]
    intro row visible other otherVisible same
    exact converging.visible_together sound known handsOn visible otherVisible same
  · dsimp only
    rw [traces, rows]
    intro row visible
    by_cases ensures : transaction.Ensures row
    · obtain ⟨trace, member, ofTrace⟩ := ensures
      obtain ⟨_, _, start | pending⟩ := handsOn.visible visible member ofTrace
      · right
        right
        refine ⟨_, List.mem_of_getElem? (getElem?_set_self known), ofTrace.1.symm,
          (trace.traceId, trace.stableStart), ?_, ofTrace.2.symm, start.symm⟩
        rw [ensuring] at member
        exact List.mem_map.mpr ⟨trace, member, rfl⟩
      · right
        rw [ofTrace.1, ofTrace.2]
        exact pending_set known (pendingStarts_of_open isOpen) (List.Subset.refl _) pending
    · rw [traceSpans_of_not_ensures sound known ensuring ensures]
      apply (converging.current row (committed_of_visible sound known visible ensures)).imp_right
      intro pending
      exact pending_set known (pendingStarts_of_open isOpen) (List.Subset.refl _) pending

end

/-! ### Runs -/

theorem converging_step (converging : Converging localInstant interval state)
    (sound : state.Sound localInstant) {action : BatchAction}
    (meets : CommitsCurrentStarts localInstant state action)
    (stepped : BatchStep localInstant interval state action next) :
    Converging localInstant interval next := by
  cases stepped with
  | began ofProject =>
      refine converging.same rfl rfl ?_
      rintro projectId traceId startedAt (queued | ⟨other, member, rest⟩)
      · exact Or.inl queued
      · exact Or.inr ⟨other, List.mem_append_left _ member, rest⟩
  | inserted known started alone built =>
      exact converging.ofOpen known (by simp [started, BatchPhase.Open]) rfl
  | kept known ensuring plans =>
      exact converging.ofOpen known (by simp [ensuring, BatchPhase.Open]) rfl
  | planned known ensuring plans =>
      exact converging.ofOpen known (by simp [ensuring, BatchPhase.Open]) rfl
  | wrote known writing leaves =>
      exact converging.ofOpen known (by simp [writing, BatchPhase.Open])
        (committedTraces_of_writes leaves)
  | rolledBack known isOpen =>
      exact converging.ofOpen known isOpen
        (committedTraces_map fun slot => (slot.rollback_spec _).1)
  | committed known ensuring =>
      exact converging.commit sound known (meets _ known) ensuring
  | enqueued known committed => exact converging.enqueue known committed
  | aggregated queued unlocked => exact converging.aggregate _

end

/-- In a run of any number of batches and aggregate tasks, in which each batch commits
with starts that are still the starts of its rows, a state in which nothing is left to
run has every trace row carry the fold over the committed spans of its trace. -/
theorem converged_of_commitsCurrentStarts (localInstant : Int → Int) (interval : ℚ → Int)
    (actions : List BatchAction) (state : TelemetryState)
    (along : (telemetryMachine localInstant interval).Along (CommitsCurrentStarts localInstant)
      .initial actions)
    (reached : (telemetryMachine localInstant interval).run .initial actions = some state)
    (quiet : state.Quiet) (projectId traceId : UUID) :
    state.Converged interval projectId traceId := by
  have invariant : state.Sound localInstant ∧ Converging localInstant interval state := by
    apply Machine.run_invariant _
      (fun state => state.Sound localInstant ∧ Converging localInstant interval state) _
      ⟨sound_initial, converging_initial⟩ along reached
    intro state action next ⟨sound, converging⟩ meets stepped
    have step := batchStep_of_step stepped
    exact ⟨sound_step sound (aware_of_commitsCurrentStarts meets) step,
      converging_step converging sound meets step⟩
  exact invariant.2.converged quiet projectId traceId

/-! ### Three batches of one trace -/

/-- The start of the trace moves between the two tasks of an earlier batch. -/
def moveBeforeTask : List BatchAction :=
  [.beginBatch 1 [spanOfTrace 2 10], .beginBatch 1 [spanOfTrace 4 5]] ++ runWholeBatch 0 ++
    [.enqueue 0] ++ runWholeBatch 1 ++
    [.enqueue 1, .aggregate ⟨1, 3, 5⟩, .aggregate ⟨1, 3, 10⟩]

theorem converged_of_commitsCurrentStarts_moved :
    ∃ state, (telemetryMachine id fun _ => 0).run .initial moveBeforeTask = some state ∧
      state.Converged (fun _ => 0) 1 3 := by
  have quiet : ∃ state ∈ (telemetryMachine id fun _ => 0).run .initial moveBeforeTask,
      state.Quiet := by
    decide +kernel
  obtain ⟨state, reached, isQuiet⟩ := quiet
  exact ⟨state, reached, converged_of_commitsCurrentStarts id (fun _ => 0) moveBeforeTask state
    (by decide +kernel) reached isQuiet 1 3⟩

/-- A batch keeps the row that starts at 10; before it commits, another batch moves
the row to 5 and has its task run. -/
def moveBeforeCommit : List BatchAction :=
  [.beginBatch 1 [spanOfTrace 2 10], .beginBatch 1 [spanOfTrace 4 20],
    .beginBatch 1 [spanOfTrace 5 5]] ++ runWholeBatch 0 ++
    [.enqueue 0, .aggregate ⟨1, 3, 10⟩, .insertSpans 1, .select 1] ++ runWholeBatch 2 ++
    [.enqueue 2, .aggregate ⟨1, 3, 5⟩, .commit 1, .enqueue 1, .aggregate ⟨1, 3, 10⟩]

/-- The task of the first batch finds no row at 10, and no other task is left. -/
theorem moveBeforeCommit_notConverged :
    ∃ state, (telemetryMachine id fun _ => 0).run .initial moveBeforeCommit = some state ∧
      state.Quiet ∧ ¬ state.Converged (fun _ => 0) 1 3 := by
  have lost : ∃ state ∈ (telemetryMachine id fun _ => 0).run .initial moveBeforeCommit,
      state.Quiet ∧ ¬ state.Converged (fun _ => 0) 1 3 := by
    decide +kernel
  exact lost

end LlmObs.Backend
