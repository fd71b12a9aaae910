import LlmObs.Backend.Workers.OpenTransactions

/-!
Owns what the trace rows of concurrent batches amount to: when every trace that has
committed spans has exactly one row, starting with the earliest of them. It does not
own the aggregates on that row.
-/

namespace LlmObs.Backend

open LlmObs.Foundation

/-! ### Rows and their starts -/

/-- The committed row and the version of an open transaction. -/
def TraceSlot.versions (slot : TraceSlot) : List TraceRow :=
  slot.committed.toList ++ (slot.uncommitted.map Prod.snd).toList

theorem TraceSlot.mem_versions {slot : TraceSlot} {row : TraceRow} :
    row ∈ slot.versions ↔
      slot.committed = some row ∨ ∃ owner, slot.uncommitted = some (owner, row) := by
  simp [TraceSlot.versions]

/-- The rows of a quiet database. -/
def committedTraces (traces : List TraceSlot) : List TraceRow :=
  traces.filterMap (·.committed)

theorem mem_committedTraces {traces : List TraceSlot} {row : TraceRow} :
    row ∈ committedTraces traces ↔ ∃ slot ∈ traces, slot.committed = some row :=
  List.mem_filterMap

theorem committedTraces_map {traces : List TraceSlot} {change : TraceSlot → TraceSlot}
    (keeps : ∀ slot, (change slot).committed = slot.committed) :
    committedTraces (traces.map change) = committedTraces traces := by
  rw [committedTraces, committedTraces, List.filterMap_map]
  exact congrArg (List.filterMap · traces) (funext keeps)

theorem committedTraces_of_writes {localInstant : Int → Int} {index : Nat}
    {projectId traceId : UUID} {span : PreparedSpan}
    {plan : TracePlan} {traces after : List TraceSlot}
    (leaves : TraceWrites localInstant index projectId traceId span plan traces after) :
    committedTraces after = committedTraces traces := by
  cases leaves with
  | skipped stored sameKey => rfl
  | missed gone => rfl
  | inserted alone new => simp [committedTraces]
  | moved free => exact committedTraces_map fun slot => slot.move_committed ..

theorem committed_of_same {traces next : List TraceSlot}
    (same : committedTraces next = committedTraces traces) {slot : TraceSlot}
    (member : slot ∈ next) {row : TraceRow} (known : slot.committed = some row) :
    ∃ old ∈ traces, old.committed = some row := by
  rw [← mem_committedTraces, ← same]
  exact mem_committedTraces.mpr ⟨slot, member, known⟩

/-- The committed rows of a trace: none without committed spans, else one that starts
with the earliest of them. -/
def TelemetryState.OneRow (state : TelemetryState) (projectId traceId : UUID) : Prop :=
  ((committedTraces state.traces).filter (·.Of projectId traceId)).map (·.startedAt) =
    ((traceSpans projectId traceId state.spans.rows).map (·.startedAt)).min?.toList

instance (state : TelemetryState) (projectId traceId : UUID) :
    Decidable (state.OneRow projectId traceId) :=
  inferInstanceAs (Decidable (_ = _))

/-- The write of `ensure_trace_row` does not meet a race: an `INSERT` finds every
version of a row of the trace at its own start, and at its own key none of another
project; an `UPDATE` finds its row, or a row that starts early enough. -/
def BatchTransaction.WritesOneRow (localInstant : Int → Int) (index : Nat)
    (traces : List TraceSlot) (transaction : BatchTransaction) : Prop :=
  match transaction.phase with
  | .writing _ traceId span .insert _ =>
      ∀ slot ∈ traces, ∀ row ∈ slot.versions,
        (row.Of transaction.projectId traceId →
          row.startedAt = span.startedAt.toTimestamptz localInstant) ∧
        (row.primaryKey = (traceId, span.startedAt.toTimestamptz localInstant) →
          row.projectId = transaction.projectId)
  | .writing _ traceId span (.move existing) _ =>
      (∃ slot ∈ traces, slot.isTarget index transaction.projectId traceId existing = true) ∨
        ∃ row ∈ committedTraces traces, row.Of transaction.projectId traceId ∧
          row.startedAt ≤ span.startedAt.toTimestamptz localInstant
  | _ => True

instance (localInstant : Int → Int) (index : Nat) (traces : List TraceSlot)
    (transaction : BatchTransaction) :
    Decidable (transaction.WritesOneRow localInstant index traces) :=
  match transaction with
  | ⟨_, _, _, .writing _ _ _ .insert _⟩ =>
      inferInstanceAs (Decidable (∀ _ ∈ _, ∀ _ ∈ _, _ ∧ _))
  | ⟨_, _, _, .writing _ _ _ (.move _) _⟩ =>
      inferInstanceAs (Decidable ((∃ _ ∈ _, _) ∨ ∃ _ ∈ _, _))
  | ⟨_, _, _, .writing _ _ _ (.keep _) _⟩ | ⟨_, _, _, .started⟩ | ⟨_, _, _, .ensuring _ _⟩
  | ⟨_, _, _, .committed _⟩ | ⟨_, _, _, .rolledBack⟩ => isTrue trivial

/-- Batches have aware starts, and their writes meet no race. -/
def KeepsOneRow (localInstant : Int → Int) (state : TelemetryState) : BatchAction → Prop
  | .beginBatch _ prepared => ∀ span ∈ prepared, span.startedAt.Aware
  | .write index => ∀ transaction ∈ state.transactions[index]?,
      transaction.WritesOneRow localInstant index state.traces
  | _ => True

instance (localInstant : Int → Int) (state : TelemetryState) (action : BatchAction) :
    Decidable (KeepsOneRow localInstant state action) :=
  match action with
  | .beginBatch _ _ => inferInstanceAs (Decidable (∀ _ ∈ _, _))
  | .write _ => inferInstanceAs (Decidable (∀ _ ∈ _, _))
  | .insertSpans _ | .select _ | .commit _ | .abort _ | .enqueue _ | .aggregate _ => isTrue trivial

/-! ### Invariant -/

/-- No version of one slot and of the other are rows of one trace. -/
def SlotsApart (left right : TraceSlot) : Prop :=
  ∀ row ∈ left.versions, ∀ other ∈ right.versions, ¬ row.Of other.projectId other.id

/-- The transaction has a version of the trace's row, or the committed row starts
early enough for it. -/
def EnsuredBy (localInstant : Int → Int) (traces : List TraceSlot) (owner : Nat)
    (projectId : UUID) (trace : EnsuredTrace) : Prop :=
  (∃ slot ∈ traces, ∃ row, slot.uncommitted = some (owner, row) ∧
      row.Of projectId trace.traceId) ∨
    ∃ slot ∈ traces, ∃ row, slot.committed = some row ∧ row.Of projectId trace.traceId ∧
      row.startedAt ≤ trace.earliest.startedAt.toTimestamptz localInstant

structure OneRowEach (localInstant : Int → Int) (state : TelemetryState) : Prop where
  single : state.traces.Pairwise SlotsApart
  attained : ∀ slot ∈ state.traces, ∀ row, slot.committed = some row →
    ∃ span ∈ state.spans.rows, row.Of span.projectId span.traceId ∧
      span.startedAt = row.startedAt
  least : ∀ slot ∈ state.traces, ∀ row, slot.committed = some row →
    ∀ span ∈ state.spans.rows, row.Of span.projectId span.traceId →
      row.startedAt ≤ span.startedAt
  rowed : ∀ span ∈ state.spans.rows, ∃ slot ∈ state.traces, ∃ row,
    slot.committed = some row ∧ row.Of span.projectId span.traceId
  ensured : ∀ index transaction, state.transactions[index]? = some transaction →
    ∀ trace ∈ transaction.phase.ensured,
      EnsuredBy localInstant state.traces index transaction.projectId trace

section

variable {localInstant : Int → Int} {interval : ℚ → Int} {state : TelemetryState}

theorem TraceRow.Of.symm {row other : TraceRow} (same : row.Of other.projectId other.id) :
    other.Of row.projectId row.id := ⟨same.1.symm, same.2.symm⟩

theorem TraceRow.Of.self (row : TraceRow) : row.Of row.projectId row.id := ⟨rfl, rfl⟩

/-- Two slots with rows of one trace are one slot. -/
theorem OneRowEach.slot_eq (single : state.traces.Pairwise SlotsApart) {slot other : TraceSlot}
    (member : slot ∈ state.traces) (otherMember : other ∈ state.traces) {row otherRow : TraceRow}
    (version : row ∈ slot.versions) (otherVersion : otherRow ∈ other.versions)
    {projectId traceId : UUID} (ofTrace : row.Of projectId traceId)
    (otherOfTrace : otherRow.Of projectId traceId) : slot = other := by
  have symmetric : Std.Symm SlotsApart :=
    ⟨fun left right apart row rowMember other otherMember same =>
      apart other otherMember row rowMember same.symm⟩
  by_contra different
  apply single.forall member otherMember different row version otherRow otherVersion
  exact ⟨ofTrace.1.trans otherOfTrace.1.symm, ofTrace.2.trans otherOfTrace.2.symm⟩

/-- Slots stay apart where versions stay with their traces. -/
theorem single_map {traces : List TraceSlot} {change : TraceSlot → TraceSlot}
    (single : traces.Pairwise SlotsApart)
    (stays : ∀ slot ∈ traces, ∀ row ∈ (change slot).versions,
      ∃ before ∈ slot.versions, row.Of before.projectId before.id) :
    (traces.map change).Pairwise SlotsApart := by
  rw [List.pairwise_map]
  apply single.imp_of_mem
  intro left right leftMember rightMember apart row version other otherVersion same
  obtain ⟨before, beforeVersion, ofBefore⟩ := stays left leftMember row version
  obtain ⟨otherBefore, otherBeforeVersion, ofOtherBefore⟩ :=
    stays right rightMember other otherVersion
  apply apart before beforeVersion otherBefore otherBeforeVersion
  exact ⟨ofBefore.1.symm.trans (same.1.trans ofOtherBefore.1),
    ofBefore.2.symm.trans (same.2.trans ofOtherBefore.2)⟩

/-- No two committed rows are rows of one trace. -/
theorem OneRowEach.committed_apart (each : OneRowEach localInstant state) :
    (committedTraces state.traces).Pairwise fun row other => ¬ row.Of other.projectId other.id := by
  rw [committedTraces, List.pairwise_filterMap]
  apply each.single.imp
  intro left right apart row known other otherKnown
  exact apart row (TraceSlot.mem_versions.mpr (Or.inl known)) other
    (TraceSlot.mem_versions.mpr (Or.inl otherKnown))

theorem mem_rows_of_trace {projectId traceId : UUID} {rows : List TraceRow} {row : TraceRow} :
    row ∈ rows.filter (·.Of projectId traceId) ↔ row ∈ rows ∧ row.Of projectId traceId := by
  simp

/-- The committed row of a trace starts with the earliest of its committed spans. -/
theorem OneRowEach.min_eq (each : OneRowEach localInstant state) {projectId traceId : UUID}
    {row : TraceRow} (stored : row ∈ committedTraces state.traces)
    (ofTrace : row.Of projectId traceId) :
    ((traceSpans projectId traceId state.spans.rows).map (·.startedAt)).min? =
      some row.startedAt := by
  obtain ⟨slot, member, known⟩ := mem_committedTraces.mp stored
  obtain ⟨span, spanStored, ofSpan, start⟩ := each.attained slot member row known
  apply List.min?_eq_some_iff.mpr
  constructor
  · rw [← start]
    apply List.mem_map_of_mem
    exact mem_traceSpans.mpr
      ⟨spanStored, ofSpan.1.symm.trans ofTrace.1, ofSpan.2.symm.trans ofTrace.2⟩
  · intro other otherMember
    obtain ⟨otherSpan, otherListed, rfl⟩ := List.mem_map.mp otherMember
    obtain ⟨otherStored, otherOf⟩ := mem_traceSpans.mp otherListed
    exact each.least slot member row known otherSpan otherStored
      ⟨ofTrace.1.trans otherOf.1.symm, ofTrace.2.trans otherOf.2.symm⟩

/-- One committed row for each trace with committed spans, at their earliest start. -/
theorem OneRowEach.oneRow (each : OneRowEach localInstant state) (projectId traceId : UUID) :
    state.OneRow projectId traceId := by
  unfold TelemetryState.OneRow
  cases rows : (committedTraces state.traces).filter (·.Of projectId traceId) with
  | nil =>
      have noSpans : traceSpans projectId traceId state.spans.rows = [] := by
        apply List.eq_nil_iff_forall_not_mem.mpr
        intro span member
        obtain ⟨stored, ofTrace⟩ := mem_traceSpans.mp member
        obtain ⟨slot, slotMember, row, known, ofSpan⟩ := each.rowed span stored
        have listed : row ∈ (committedTraces state.traces).filter (·.Of projectId traceId) :=
          mem_rows_of_trace.mpr ⟨mem_committedTraces.mpr ⟨slot, slotMember, known⟩,
            ofSpan.1.trans ofTrace.1, ofSpan.2.trans ofTrace.2⟩
        rw [rows] at listed
        cases listed
      simp [noSpans]
  | cons row rest =>
      have listed : ∀ other ∈ row :: rest, other ∈ committedTraces state.traces ∧
          other.Of projectId traceId := by
        intro other member
        rw [← rows] at member
        exact mem_rows_of_trace.mp member
      obtain ⟨stored, ofTrace⟩ := listed row (List.mem_cons_self ..)
      have alone : rest = [] := by
        cases rest with
        | nil => rfl
        | cons other others =>
            have pairwise := each.committed_apart.filter (·.Of projectId traceId)
            rw [rows] at pairwise
            have different := List.rel_of_pairwise_cons pairwise (List.mem_cons_self ..)
            obtain ⟨_, otherOfTrace⟩ :=
              listed other (List.mem_cons_of_mem _ (List.mem_cons_self ..))
            exact absurd ⟨ofTrace.1.trans otherOfTrace.1.symm,
              ofTrace.2.trans otherOfTrace.2.symm⟩ different
      rw [alone, each.min_eq stored ofTrace]
      rfl

/-! ### Steps -/

/-- The owner keeps its versions, and committed rows only move to earlier starts. -/
structure KeepsVersions (owner : Nat) (traces next : List TraceSlot) : Prop where
  versions : ∀ slot ∈ traces, ∀ row, slot.uncommitted = some (owner, row) →
    ∃ after ∈ next, ∃ version, after.uncommitted = some (owner, version) ∧
      version.Of row.projectId row.id
  committed : ∀ slot ∈ traces, ∀ row, slot.committed = some row →
    ∃ after ∈ next, ∃ version, after.committed = some version ∧
      version.Of row.projectId row.id ∧ version.startedAt ≤ row.startedAt

theorem KeepsVersions.refl (owner : Nat) (traces : List TraceSlot) :
    KeepsVersions owner traces traces where
  versions := fun slot member row held => ⟨slot, member, row, held, .self row⟩
  committed := fun slot member row known => ⟨slot, member, row, known, .self row, le_refl _⟩

/-- A step that commits nothing. -/
theorem KeepsVersions.ofSame {owner : Nat} {traces next : List TraceSlot}
    (same : committedTraces next = committedTraces traces)
    (versions : ∀ slot ∈ traces, ∀ row, slot.uncommitted = some (owner, row) →
      ∃ after ∈ next, after.uncommitted = some (owner, row)) :
    KeepsVersions owner traces next where
  versions := by
    intro slot member row held
    obtain ⟨after, afterMember, afterHeld⟩ := versions slot member row held
    exact ⟨after, afterMember, row, afterHeld, .self row⟩
  committed := by
    intro slot member row known
    obtain ⟨after, afterMember, afterKnown⟩ := committed_of_same same.symm member known
    exact ⟨after, afterMember, row, afterKnown, .self row, le_refl _⟩

theorem EnsuredBy.keep {traces next : List TraceSlot} {owner : Nat} {projectId : UUID}
    {trace : EnsuredTrace} (ensured : EnsuredBy localInstant traces owner projectId trace)
    (keeps : KeepsVersions owner traces next) :
    EnsuredBy localInstant next owner projectId trace := by
  rcases ensured with
    ⟨slot, member, row, held, ofTrace⟩ | ⟨slot, member, row, known, ofTrace, early⟩
  · obtain ⟨after, afterMember, version, afterHeld, same⟩ := keeps.versions slot member row held
    exact Or.inl ⟨after, afterMember, version, afterHeld, same.1.trans ofTrace.1,
      same.2.trans ofTrace.2⟩
  · obtain ⟨after, afterMember, version, afterKnown, same, earlier⟩ :=
      keeps.committed slot member row known
    exact Or.inr ⟨after, afterMember, version, afterKnown,
      ⟨same.1.trans ofTrace.1, same.2.trans ofTrace.2⟩, earlier.trans early⟩

variable {index : Nat} {transaction changed : BatchTransaction}

/-- What the transactions have ensured, after one of them has gone on. -/
theorem OneRowEach.ensured_set (each : OneRowEach localInstant state) {next : List TraceSlot}
    (keeps : ∀ owner ≠ index, KeepsVersions owner state.traces next)
    (own : ∀ trace ∈ changed.phase.ensured,
      EnsuredBy localInstant next index changed.projectId trace) :
    ∀ other otherTransaction,
      (state.transactions.set index changed)[other]? = some otherTransaction →
        ∀ trace ∈ otherTransaction.phase.ensured,
          EnsuredBy localInstant next other otherTransaction.projectId trace := by
  intro other otherTransaction known trace member
  by_cases same : other = index
  · subst same
    obtain ⟨inRange, isChanged⟩ := List.getElem?_eq_some_iff.mp known
    rw [List.getElem_set_self] at isChanged
    subst isChanged
    exact own trace member
  · rw [List.getElem?_set_ne (Ne.symm same)] at known
    exact (each.ensured other otherTransaction known trace member).keep (keeps other same)

/-- A step of one transaction that commits nothing. -/
theorem OneRowEach.ofSame (each : OneRowEach localInstant state) {tasks : List AggregateTask}
    {next : List TraceSlot} (same : committedTraces next = committedTraces state.traces)
    (single : next.Pairwise SlotsApart)
    (keeps : ∀ owner ≠ index, KeepsVersions owner state.traces next)
    (own : ∀ trace ∈ changed.phase.ensured,
      EnsuredBy localInstant next index changed.projectId trace) :
    OneRowEach localInstant { state with
      traces := next
      aggregateTasks := tasks
      transactions := state.transactions.set index changed } where
  single := single
  attained := by
    intro slot member row known
    obtain ⟨old, oldMember, oldKnown⟩ := committed_of_same same member known
    exact each.attained old oldMember row oldKnown
  least := by
    intro slot member row known
    obtain ⟨old, oldMember, oldKnown⟩ := committed_of_same same member known
    exact each.least old oldMember row oldKnown
  rowed := by
    intro span stored
    obtain ⟨slot, member, row, known, ofSpan⟩ := each.rowed span stored
    obtain ⟨after, afterMember, afterKnown⟩ := committed_of_same same.symm member known
    exact ⟨after, afterMember, row, afterKnown, ofSpan⟩
  ensured := each.ensured_set keeps own

/-- A step of one transaction that changes no row. -/
theorem OneRowEach.goOn (each : OneRowEach localInstant state) {tasks : List AggregateTask}
    (own : ∀ trace ∈ changed.phase.ensured,
      EnsuredBy localInstant state.traces index changed.projectId trace) :
    OneRowEach localInstant { state with
      aggregateTasks := tasks
      transactions := state.transactions.set index changed } :=
  each.ofSame rfl each.single (fun _ _ => .refl _ _) own

theorem oneRowEach_initial : OneRowEach localInstant .initial where
  single := List.Pairwise.nil
  attained := by intro slot member; cases member
  least := by intro slot member; cases member
  rowed := by intro span member; cases member
  ensured := by intro index transaction known; cases known

theorem OneRowEach.beginBatch (each : OneRowEach localInstant state) (projectId : UUID)
    (prepared : List PreparedSpan) :
    OneRowEach localInstant { state with
      transactions := state.transactions ++ [⟨projectId, prepared, [], .started⟩] } where
  single := each.single
  attained := each.attained
  least := each.least
  rowed := each.rowed
  ensured := by
    intro other transaction known trace member
    rcases getElem?_concat_cases known with old | rfl
    · exact each.ensured other transaction old trace member
    · cases member

theorem OneRowEach.rollback (each : OneRowEach localInstant state) :
    OneRowEach localInstant (state.rollback index transaction) := by
  have same : committedTraces (state.traces.map (·.rollback index)) =
      committedTraces state.traces :=
    committedTraces_map fun slot => (slot.rollback_spec index).1
  apply each.ofSame same
  · apply single_map each.single
    intro slot member row version
    refine ⟨row, ?_, .self row⟩
    obtain ⟨sameCommitted, others⟩ := slot.rollback_spec index
    rcases TraceSlot.mem_versions.mp version with known | ⟨owner, held⟩
    · exact TraceSlot.mem_versions.mpr (Or.inl (sameCommitted ▸ known))
    · exact TraceSlot.mem_versions.mpr (Or.inr ⟨owner, (others owner row held).2⟩)
  · intro owner different
    apply KeepsVersions.ofSame same
    intro slot member row held
    refine ⟨slot.rollback index, List.mem_map_of_mem member, ?_⟩
    rw [Slot.rollback_of_untouched (Slot.untouched_of_held held different), held]
  · intro trace member
    cases member

theorem OneRowEach.aggregate (each : OneRowEach localInstant state) (task : AggregateTask) :
    OneRowEach localInstant { state with
      traces := state.traces.map (task.update interval state.spans)
      aggregateTasks := state.aggregateTasks.erase task } where
  single := by
    apply single_map each.single
    intro slot member row version
    rcases TraceSlot.mem_versions.mp version with known | ⟨owner, held⟩
    · obtain ⟨before, beforeKnown, same, _⟩ := AggregateTask.update_committed known
      refine ⟨before, TraceSlot.mem_versions.mpr (Or.inl beforeKnown), ?_⟩
      rw [same]
      exact .self before
    · rw [AggregateTask.update_uncommitted] at held
      exact ⟨row, TraceSlot.mem_versions.mpr (Or.inr ⟨owner, held⟩), .self row⟩
  attained := by
    intro slot member row known
    obtain ⟨old, oldMember, rfl⟩ := List.mem_map.mp member
    obtain ⟨before, beforeKnown, same, start⟩ := AggregateTask.update_committed known
    obtain ⟨span, stored, ofSpan, spanStart⟩ := each.attained old oldMember before beforeKnown
    refine ⟨span, stored, ?_, spanStart.trans start.symm⟩
    rw [same]
    exact ofSpan
  least := by
    intro slot member row known span stored ofSpan
    obtain ⟨old, oldMember, rfl⟩ := List.mem_map.mp member
    obtain ⟨before, beforeKnown, same, start⟩ := AggregateTask.update_committed known
    rw [same] at ofSpan
    rw [start]
    exact each.least old oldMember before beforeKnown span stored ofSpan
  rowed := by
    intro span stored
    obtain ⟨slot, member, row, known, ofSpan⟩ := each.rowed span stored
    obtain ⟨after, afterKnown, same, _⟩ := AggregateTask.update_of_committed task state.spans known
    refine ⟨_, List.mem_map_of_mem member, after, afterKnown, ?_⟩
    rw [same]
    exact ofSpan
  ensured := by
    intro other transaction known trace member
    apply (each.ensured other transaction known trace member).keep
    constructor
    · intro slot slotMember row held
      refine ⟨_, List.mem_map_of_mem slotMember, row, ?_, .self row⟩
      rw [AggregateTask.update_uncommitted, held]
    · intro slot slotMember row rowKnown
      obtain ⟨after, afterKnown, same, start⟩ :=
        AggregateTask.update_of_committed task state.spans rowKnown
      refine ⟨_, List.mem_map_of_mem slotMember, after, afterKnown, ?_, le_of_eq start⟩
      rw [same]
      exact .self row

/-- The committed row of a span's trace after a commit. -/
theorem OneRowEach.rowed_after (each : OneRowEach localInstant state)
    (sound : state.Sound localInstant) {span : SpanRow} (stored : span ∈ state.spans.rows)
    (writer : Nat) :
    ∃ slot ∈ state.traces, ∃ row, (slot.commit writer).committed = some row ∧
      row.Of span.projectId span.traceId := by
  obtain ⟨slot, member, row, known, ofSpan⟩ := each.rowed span stored
  obtain ⟨after, afterKnown, same, _⟩ := sound.committed_after member known writer
  exact ⟨slot, member, after, afterKnown, same.1.trans ofSpan.1, same.2.trans ofSpan.2⟩

/-- The version that a commit publishes starts no later than the spans of its trace,
committed before or with it. -/
theorem OneRowEach.least_version (each : OneRowEach localInstant state)
    (sound : state.Sound localInstant) (known : state.transactions[index]? = some transaction)
    {ensured : List EnsuredTrace} (ensuring : transaction.phase = .ensuring ensured [])
    {slot : TraceSlot} (member : slot ∈ state.traces) {row : TraceRow}
    (held : slot.uncommitted = some (index, row)) :
    (∀ span ∈ state.spans.rows, row.Of span.projectId span.traceId →
      row.startedAt ≤ span.startedAt) ∧
    ∀ span ∈ transaction.spanRows, row.Of span.projectId span.traceId →
      row.startedAt ≤ span.startedAt := by
  have own := sound_of_known sound known
  obtain ⟨_, trace, traceEnsured, ofRow, start⟩ := sound.version known member held
  constructor
  · intro span stored ofSpan
    obtain ⟨other, otherMember, committed, committedKnown, ofCommitted⟩ := each.rowed span stored
    have sameSlot : slot = other :=
      slot_eq each.single member otherMember
        (TraceSlot.mem_versions.mpr (Or.inr ⟨index, held⟩))
        (TraceSlot.mem_versions.mpr (Or.inl committedKnown)) ofSpan ofCommitted
    subst sameSlot
    have earlier := (sound.moved slot member index row committed held committedKnown).2
    exact (le_of_lt earlier).trans
      (each.least slot member committed committedKnown span stored ofCommitted)
  · intro span stored ofSpan
    obtain ⟨_, covering, coveringEnsured, ofCovering, early⟩ :=
      own.ensured_of_stored ensuring stored
    have sameTrace : trace.traceId = covering.traceId :=
      ofRow.trans (ofSpan.2.trans ofCovering.symm)
    rw [own.earliest_eq traceEnsured coveringEnsured sameTrace] at start
    exact start ▸ early

/-- A committed row that the committing transaction has no version of starts no later
than the spans of the transaction. -/
theorem OneRowEach.least_untouched (each : OneRowEach localInstant state)
    (sound : state.Sound localInstant) (known : state.transactions[index]? = some transaction)
    {ensured : List EnsuredTrace} (ensuring : transaction.phase = .ensuring ensured [])
    {slot : TraceSlot} (member : slot ∈ state.traces) (untouched : slot.Untouched index)
    {row : TraceRow} (committed : slot.committed = some row) {span : SpanRow}
    (stored : span ∈ transaction.spanRows) (ofSpan : row.Of span.projectId span.traceId) :
    row.startedAt ≤ span.startedAt := by
  have own := sound_of_known sound known
  obtain ⟨ofProject, trace, traceEnsured, ofTrace, early⟩ := own.ensured_of_stored ensuring stored
  have rowOf : row.Of transaction.projectId trace.traceId :=
    ⟨ofSpan.1.trans ofProject, ofSpan.2.trans ofTrace.symm⟩
  have version : row ∈ slot.versions := TraceSlot.mem_versions.mpr (Or.inl committed)
  rcases each.ensured index transaction known trace traceEnsured with
    ⟨other, otherMember, mine, held, ofMine⟩ |
      ⟨other, otherMember, otherRow, otherKnown, otherOf, otherEarly⟩
  · have sameSlot : slot = other :=
      slot_eq each.single member otherMember version
        (TraceSlot.mem_versions.mpr (Or.inr ⟨index, held⟩)) rowOf ofMine
    exact absurd (sameSlot ▸ held) (untouched mine)
  · have sameSlot : slot = other :=
      slot_eq each.single member otherMember version
        (TraceSlot.mem_versions.mpr (Or.inl otherKnown)) rowOf otherOf
    rw [sameSlot, otherKnown, Option.some.injEq] at committed
    rw [← committed]
    exact otherEarly.trans early

theorem OneRowEach.commit (each : OneRowEach localInstant state)
    (sound : state.Sound localInstant) (known : state.transactions[index]? = some transaction)
    {ensured : List EnsuredTrace} (ensuring : transaction.phase = .ensuring ensured [])
    (starts : List (UUID × Datetime)) :
    OneRowEach localInstant { state with
      spans := (state.spans.insertAll transaction.spanRows).1
      traces := state.traces.map (·.commit index)
      transactions := state.transactions.set index
        { transaction with phase := .committed starts } } := by
  have own := sound_of_known sound known
  have isOpen : transaction.phase.Open := by simp [ensuring, BatchPhase.Open]
  have rows : (state.spans.insertAll transaction.spanRows).1.rows =
      state.spans.rows ++ transaction.spanRows := sound.apart.commit_rows known isOpen
  constructor
  · apply single_map each.single
    intro slot member row version
    refine ⟨row, ?_, .self row⟩
    rcases TraceSlot.mem_versions.mp version with committed | ⟨owner, held⟩
    · rcases Slot.commit_cases committed with mine | ⟨_, old⟩
      · exact TraceSlot.mem_versions.mpr (Or.inr ⟨index, mine⟩)
      · exact TraceSlot.mem_versions.mpr (Or.inl old)
    · exact TraceSlot.mem_versions.mpr (Or.inr ⟨owner, (Slot.commit_uncommitted held).2⟩)
  · intro slot member row committed
    obtain ⟨old, oldMember, rfl⟩ := List.mem_map.mp member
    rw [rows]
    rcases Slot.commit_cases committed with mine | ⟨_, before⟩
    · obtain ⟨ofProject, trace, traceEnsured, ofRow, start⟩ := sound.version known oldMember mine
      obtain ⟨span, stored, spanProject, spanTrace, spanStart⟩ :=
        own.stored_of_ensured isOpen traceEnsured
      exact ⟨span, List.mem_append_right _ stored,
        ⟨ofProject.trans spanProject.symm, ofRow.symm.trans spanTrace.symm⟩,
        spanStart.trans start⟩
    · obtain ⟨span, stored, ofSpan, start⟩ := each.attained old oldMember row before
      exact ⟨span, List.mem_append_left _ stored, ofSpan, start⟩
  · intro slot member row committed span stored ofSpan
    obtain ⟨old, oldMember, rfl⟩ := List.mem_map.mp member
    rw [rows] at stored
    rcases Slot.commit_cases committed with mine | ⟨untouched, before⟩
    · obtain ⟨earlier, new⟩ := each.least_version sound known ensuring oldMember mine
      rcases List.mem_append.mp stored with storedBefore | storedNow
      · exact earlier span storedBefore ofSpan
      · exact new span storedNow ofSpan
    · rcases List.mem_append.mp stored with storedBefore | storedNow
      · exact each.least old oldMember row before span storedBefore ofSpan
      · exact each.least_untouched sound known ensuring oldMember untouched before storedNow ofSpan
  · intro span stored
    rw [rows] at stored
    rcases List.mem_append.mp stored with storedBefore | storedNow
    · obtain ⟨slot, member, row, committed, ofSpan⟩ := each.rowed_after sound storedBefore index
      exact ⟨_, List.mem_map_of_mem member, row, committed, ofSpan⟩
    · obtain ⟨ofProject, trace, traceEnsured, ofTrace, _⟩ :=
        own.ensured_of_stored ensuring storedNow
      rcases each.ensured index transaction known trace traceEnsured with
        ⟨slot, member, row, held, ofRow⟩ | ⟨slot, member, row, committed, ofRow, _⟩
      · refine ⟨_, List.mem_map_of_mem member, row, ?_,
          ⟨ofRow.1.trans ofProject.symm, ofRow.2.trans ofTrace⟩⟩
        rw [Slot.commit_of_held held]
      · obtain ⟨after, afterKnown, same, _⟩ := sound.committed_after member committed index
        exact ⟨_, List.mem_map_of_mem member, after, afterKnown,
          same.1.trans (ofRow.1.trans ofProject.symm), same.2.trans (ofRow.2.trans ofTrace)⟩
  · apply each.ensured_set
    · intro owner different
      constructor
      · intro slot member row held
        refine ⟨_, List.mem_map_of_mem member, row, ?_, .self row⟩
        rw [Slot.commit_of_untouched (Slot.untouched_of_held held different), held]
      · intro slot member row committed
        obtain ⟨after, afterKnown, same, earlier⟩ := sound.committed_after member committed index
        exact ⟨_, List.mem_map_of_mem member, after, afterKnown, same, earlier⟩
    · intro trace member
      cases member

/-- No row of the trace stands in the way of an `INSERT` that meets no race. -/
theorem no_version_of_inserted (sound : state.Sound localInstant)
    (known : state.transactions[index]? = some transaction) {projectId traceId : UUID}
    {startedAt : Int}
    (notEnsured : ∀ trace ∈ transaction.phase.ensured, trace.traceId ≠ traceId)
    (alone : ∀ slot ∈ state.traces, slot.holdsKey index (traceId, startedAt) = false)
    (new : ∀ stored ∈ visibleTraces index state.traces,
      stored.primaryKey ≠ (traceId, startedAt))
    (starts : ∀ slot ∈ state.traces, ∀ row ∈ slot.versions, row.Of projectId traceId →
      row.startedAt = startedAt)
    {slot : TraceSlot} (member : slot ∈ state.traces) {row : TraceRow}
    (version : row ∈ slot.versions) : ¬ row.Of projectId traceId := by
  intro ofTrace
  have key : row.primaryKey = (traceId, startedAt) :=
    Prod.ext ofTrace.2 (starts slot member row version ofTrace)
  rcases TraceSlot.mem_versions.mp version with committed | ⟨owner, held⟩
  · have untouched : slot.Untouched index := by
      intro mine held
      have sameTrace := (sound.moved slot member index mine row held committed).1
      exact sound.untouched known notEnsured member held (sameTrace.2.symm.trans ofTrace.2)
    apply new row _ key
    apply List.mem_filterMap.mpr
    exact ⟨slot, member, (Slot.visible_of_untouched untouched).trans committed⟩
  · by_cases mine : owner = index
    · subst mine
      exact sound.untouched known notEnsured member held ofTrace.2
    · have holds := alone slot member
      simp [TraceSlot.holdsKey, held, mine, key] at holds

section

variable {ensured : List EnsuredTrace} {traceId : UUID} {span : PreparedSpan} {plan : TracePlan}
  {remaining : List (UUID × PreparedSpan)} {traces : List TraceSlot}

/-- A write replaces no version of an open transaction. -/
theorem keepsVersions_of_writes (sound : state.Sound localInstant)
    (known : state.transactions[index]? = some transaction)
    (writing : transaction.phase = .writing ensured traceId span plan remaining)
    (leaves : TraceWrites localInstant index transaction.projectId traceId span plan
      state.traces traces) (owner : Nat) :
    KeepsVersions owner state.traces traces := by
  have notEnsured := (sound_of_known sound known).not_ensured writing
  apply KeepsVersions.ofSame (committedTraces_of_writes leaves)
  intro slot member row held
  cases leaves with
  | skipped stored sameKey => exact ⟨slot, member, held⟩
  | missed gone => exact ⟨slot, member, held⟩
  | inserted alone new => exact ⟨slot, List.mem_append_left _ member, held⟩
  | @moved _ existing free =>
      refine ⟨_, List.mem_map_of_mem member, ?_⟩
      rcases slot.move_cases index transaction.projectId traceId existing
        (span.startedAt.toTimestamptz localInstant) with
        ⟨target, visible, ofTarget, start, _⟩ | ⟨_, stays⟩
      · have isFree := free slot member (isTarget_of_visible visible ofTarget start)
        obtain ⟨_, untouched⟩ := sound.visible_eq known notEnsured member visible ofTarget.2
        rw [Slot.uncommitted_of_free isFree untouched] at held
        cases held
      · rw [stays, held]

/-- A write that meets no race keeps the slots apart. -/
theorem OneRowEach.single_of_writes (each : OneRowEach localInstant state)
    (sound : state.Sound localInstant) (known : state.transactions[index]? = some transaction)
    (meets : transaction.WritesOneRow localInstant index state.traces)
    (writing : transaction.phase = .writing ensured traceId span plan remaining)
    (leaves : TraceWrites localInstant index transaction.projectId traceId span plan
      state.traces traces) : traces.Pairwise SlotsApart := by
  have notEnsured := (sound_of_known sound known).not_ensured writing
  unfold BatchTransaction.WritesOneRow at meets
  rw [writing] at meets
  cases leaves with
  | skipped stored sameKey => exact each.single
  | missed gone => exact each.single
  | inserted alone new =>
      apply List.pairwise_append.mpr
      refine ⟨each.single, List.pairwise_singleton _ _, fun slot member other isNew => ?_⟩
      intro row version otherRow otherVersion same
      rw [List.mem_singleton.mp isNew] at otherVersion
      have isNewRow := List.mem_singleton.mp otherVersion
      subst isNewRow
      exact no_version_of_inserted sound known notEnsured alone new
        (fun slot member row version => (meets slot member row version).1) member version same
  | @moved _ existing free =>
      apply single_map each.single
      intro slot member row version
      rcases slot.move_cases index transaction.projectId traceId existing
        (span.startedAt.toTimestamptz localInstant) with
        ⟨target, visible, ofTarget, start, moves⟩ | ⟨_, stays⟩
      · obtain ⟨committed, _⟩ := sound.visible_eq known notEnsured member visible ofTarget.2
        rw [moves, TraceSlot.mem_versions] at version
        rcases version with old | ⟨owner, held⟩
        · exact ⟨row, TraceSlot.mem_versions.mpr (Or.inl old), .self row⟩
        · obtain ⟨rfl, rfl⟩ := Slot.write_uncommitted held
          exact ⟨target, TraceSlot.mem_versions.mpr (Or.inl committed), rfl, rfl⟩
      · rw [stays] at version
        exact ⟨row, version, .self row⟩

/-- A write that meets no race leaves a row of the trace that starts early enough. -/
theorem ensuredBy_of_writes (sound : state.Sound localInstant)
    (known : state.transactions[index]? = some transaction)
    (meets : transaction.WritesOneRow localInstant index state.traces)
    (writing : transaction.phase = .writing ensured traceId span plan remaining)
    (leaves : TraceWrites localInstant index transaction.projectId traceId span plan
      state.traces traces) :
    EnsuredBy localInstant traces index transaction.projectId
      ⟨traceId, span, span.startedAt⟩ := by
  have notEnsured := (sound_of_known sound known).not_ensured writing
  unfold BatchTransaction.WritesOneRow at meets
  rw [writing] at meets
  cases leaves with
  | skipped stored sameKey =>
      obtain ⟨slot, member, visible⟩ := List.mem_filterMap.mp stored
      obtain ⟨committed, _⟩ :=
        sound.visible_eq known notEnsured member visible (congrArg Prod.fst sameKey)
      have sameProject := (meets slot member _
        (TraceSlot.mem_versions.mpr (Or.inl committed))).2 sameKey
      exact Or.inr ⟨slot, member, _, committed, ⟨sameProject, congrArg Prod.fst sameKey⟩,
        le_of_eq (congrArg Prod.snd sameKey)⟩
  | missed gone =>
      rcases meets with ⟨slot, member, target⟩ | ⟨row, listed, ofTrace, early⟩
      · rw [gone slot member] at target
        cases target
      · obtain ⟨slot, member, committed⟩ := mem_committedTraces.mp listed
        exact Or.inr ⟨slot, member, row, committed, ofTrace, early⟩
  | inserted alone new =>
      exact Or.inl ⟨_, List.mem_append_right _ (List.mem_singleton_self _), _, rfl, rfl, rfl⟩
  | @moved _ existing free =>
      rcases meets with ⟨slot, member, target⟩ | ⟨row, listed, ofTrace, early⟩
      · rcases slot.move_cases index transaction.projectId traceId existing
          (span.startedAt.toTimestamptz localInstant) with
          ⟨row, visible, ofRow, start, moves⟩ | ⟨notTarget, _⟩
        · exact Or.inl ⟨_, List.mem_map_of_mem member,
            { row with startedAt := span.startedAt.toTimestamptz localInstant },
            congrArg Slot.uncommitted moves, ofRow.1, ofRow.2⟩
        · rw [notTarget] at target
          cases target
      · obtain ⟨slot, member, committed⟩ := mem_committedTraces.mp listed
        refine Or.inr ⟨_, List.mem_map_of_mem member, row, ?_, ofTrace, early⟩
        rw [TraceSlot.move_committed, committed]

theorem OneRowEach.write (each : OneRowEach localInstant state)
    (sound : state.Sound localInstant) (known : state.transactions[index]? = some transaction)
    (meets : transaction.WritesOneRow localInstant index state.traces)
    (writing : transaction.phase = .writing ensured traceId span plan remaining)
    (leaves : TraceWrites localInstant index transaction.projectId traceId span plan
      state.traces traces) :
    OneRowEach localInstant { state with
      traces := traces
      transactions := state.transactions.set index { transaction with
        phase := .ensuring (ensured ++ [⟨traceId, span, span.startedAt⟩]) remaining } } := by
  have keeps := keepsVersions_of_writes sound known writing leaves
  have written := ensuredBy_of_writes sound known meets writing leaves
  apply each.ofSame (committedTraces_of_writes leaves)
    (each.single_of_writes sound known meets writing leaves) fun owner _ => keeps owner
  intro trace member
  rcases List.mem_append.mp member with old | isNew
  · apply (each.ensured index transaction known trace _).keep (keeps index)
    rw [writing]
    exact old
  · rw [List.mem_singleton.mp isNew]
    exact written

end

/-- A `SELECT` that keeps the row has seen it committed. -/
theorem OneRowEach.ensuredBy_of_kept (sound : state.Sound localInstant)
    (known : state.transactions[index]? = some transaction) {traceId : UUID}
    {span : PreparedSpan} {existing : Int} (aware : span.startedAt.Aware)
    (notEnsured : ∀ trace ∈ transaction.phase.ensured, trace.traceId ≠ traceId)
    (plans : planTraceRow (selectTraceStart transaction.projectId traceId
      (visibleTraces index state.traces)) span.startedAt = .ok (.keep existing)) :
    EnsuredBy localInstant state.traces index transaction.projectId
      ⟨traceId, span, .utc existing⟩ := by
  obtain ⟨⟨row, stored, ofTrace, start⟩, _⟩ := selectTraceStart_eq_some (found_of_keep plans)
  obtain ⟨slot, member, visible⟩ := List.mem_filterMap.mp stored
  obtain ⟨committed, _⟩ := sound.visible_eq known notEnsured member visible ofTrace.2
  refine Or.inr ⟨slot, member, row, committed, ofTrace, ?_⟩
  rw [start]
  exact (plan_of_aware aware plans).1 existing rfl

theorem oneRowEach_step (each : OneRowEach localInstant state) (sound : state.Sound localInstant)
    {action : BatchAction} (meets : KeepsOneRow localInstant state action)
    {next : TelemetryState} (stepped : BatchStep localInstant interval state action next) :
    OneRowEach localInstant next := by
  cases stepped with
  | began ofProject => exact each.beginBatch _ _
  | inserted known started alone built =>
      apply each.goOn
      intro trace member
      cases member
  | @kept index transaction ensured traceId span remaining existing known ensuring plans =>
      have own := sound_of_known sound known
      have listed : (traceId, span) ∈ transaction.phase.entries := by
        simp [ensuring, BatchPhase.entries]
      apply each.goOn
      intro trace member
      rcases List.mem_append.mp member with old | isNew
      · apply each.ensured index transaction known trace
        rw [ensuring]
        exact old
      · rw [List.mem_singleton.mp isNew]
        exact OneRowEach.ensuredBy_of_kept sound known (own.entryAware _ listed)
          (own.not_ensured_next ensuring) plans
  | @planned index transaction ensured traceId span remaining plan known ensuring plans =>
      apply each.goOn
      intro trace member
      apply each.ensured index transaction known trace
      rw [ensuring]
      exact member
  | wrote known writing leaves => exact each.write sound known (meets _ known) writing leaves
  | rolledBack known isOpen => exact each.rollback
  | committed known ensuring => exact each.commit sound known ensuring _
  | enqueued known committed =>
      apply each.goOn
      intro trace member
      cases member
  | aggregated queued unlocked => exact each.aggregate _

end

theorem aware_of_keepsOneRow {localInstant : Int → Int} {state : TelemetryState}
    {action : BatchAction} (meets : KeepsOneRow localInstant state action) : action.Aware := by
  cases action with
  | beginBatch projectId prepared => exact meets
  | _ => trivial

/-- In a run of any number of batches whose writes meet no race, every trace has one
committed row for its committed spans, at the start of the earliest of them. -/
theorem oneRow_of_keepsOneRow (localInstant : Int → Int) (interval : ℚ → Int)
    (actions : List BatchAction) (state : TelemetryState)
    (along : (telemetryMachine localInstant interval).Along (KeepsOneRow localInstant) .initial
      actions)
    (reached : (telemetryMachine localInstant interval).run .initial actions = some state)
    (projectId traceId : UUID) : state.OneRow projectId traceId := by
  have invariant : state.Sound localInstant ∧ OneRowEach localInstant state := by
    apply Machine.run_invariant _
      (fun state => state.Sound localInstant ∧ OneRowEach localInstant state) _
      ⟨sound_initial, oneRowEach_initial⟩ along reached
    intro state action next ⟨sound, each⟩ meets stepped
    have step := batchStep_of_step stepped
    exact ⟨sound_step sound (aware_of_keepsOneRow meets) step,
      oneRowEach_step each sound meets step⟩
  exact invariant.2.oneRow projectId traceId

/-! ### Two batches of one trace -/

/-- A prepared span of trace 3 in project 1. -/
def spanOfTrace (spanId : UUID) (startedAt : Int) : PreparedSpan where
  id := spanId
  traceId := 3
  projectId := 1
  parentSpanId := none
  name := "llm_call"
  provider := "cohere"
  model := "command-r"
  inputTokens := 1
  outputTokens := 1
  costUsd := 0
  latencyMs := 0
  status := .ok
  error := none
  startedAt := .utc startedAt
  payloadS3Key := none
  payloadStatus := .omitted
  payloadDropReason := none
  metadata := []

def runWholeBatch (index : Nat) : List BatchAction :=
  [.insertSpans index, .select index, .write index, .commit index]

/-- The second batch starts earlier and runs when the first one is committed. -/
theorem oneRow_of_keepsOneRow_afterCommit :
    ∃ state, (telemetryMachine id fun _ => 0).run .initial
        ([.beginBatch 1 [spanOfTrace 2 10], .beginBatch 1 [spanOfTrace 4 5]] ++
          runWholeBatch 0 ++ runWholeBatch 1) = some state ∧ state.OneRow 1 3 := by
  have runs : ((telemetryMachine id fun _ => 0).run .initial
      ([.beginBatch 1 [spanOfTrace 2 10], .beginBatch 1 [spanOfTrace 4 5]] ++
        runWholeBatch 0 ++ runWholeBatch 1)).isSome = true := by
    decide +kernel
  obtain ⟨state, reached⟩ := Option.isSome_iff_exists.mp runs
  exact ⟨state, reached, oneRow_of_keepsOneRow id (fun _ => 0) _ state (by decide +kernel) reached
    1 3⟩

/-- Both batches find no row and insert one, at their own starts. -/
def insertRace : List BatchAction :=
  [.beginBatch 1 [spanOfTrace 2 10], .beginBatch 1 [spanOfTrace 4 5], .insertSpans 0,
    .insertSpans 1, .select 0, .select 1, .write 0, .write 1, .commit 0, .commit 1]

theorem insertRace_twoRows :
    ∃ state, (telemetryMachine id fun _ => 0).run .initial insertRace = some state ∧
      ¬ state.OneRow 1 3 := by
  have twoRows : ∃ state ∈ (telemetryMachine id fun _ => 0).run .initial insertRace,
      ¬ state.OneRow 1 3 := by
    decide +kernel
  exact twoRows

end LlmObs.Backend
