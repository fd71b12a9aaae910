import LlmObs.Backend.Workers.ProcessSpan

/-!
Owns what `ensure_trace_row` does to the traces of one project: when it inserts,
keeps or moves a row, when a row of another project stands in its way, and which
starts are covered once all traces of a batch have been ensured.
-/

namespace LlmObs.Backend

open LlmObs.Foundation

/-- The row is one of the project's rows of the trace. -/
def TraceRow.Of (projectId traceId : UUID) (row : TraceRow) : Prop :=
  row.projectId = projectId ∧ row.id = traceId

instance (projectId traceId : UUID) (row : TraceRow) : Decidable (row.Of projectId traceId) :=
  inferInstanceAs (Decidable (_ ∧ _))

namespace TraceTable

/-- The project has a row of the trace that starts no later than `instant`. -/
def Covers (traces : TraceTable) (projectId traceId : UUID) (instant : Int) : Prop :=
  ∃ row ∈ traces.rows, row.Of projectId traceId ∧ row.startedAt ≤ instant

/-- The project has a row of the trace. -/
def Has (traces : TraceTable) (projectId traceId : UUID) : Prop :=
  ∃ row ∈ traces.rows, row.Of projectId traceId

/-- Some project has a row of the trace at exactly this start. -/
def Occupied (traces : TraceTable) (traceId : UUID) (instant : Int) : Prop :=
  ∃ row ∈ traces.rows, row.primaryKey = (traceId, instant)

instance (traces : TraceTable) (projectId traceId : UUID) (instant : Int) :
    Decidable (Covers traces projectId traceId instant) :=
  inferInstanceAs (Decidable (∃ row ∈ traces.rows, _))

instance (traces : TraceTable) (projectId traceId : UUID) :
    Decidable (Has traces projectId traceId) :=
  inferInstanceAs (Decidable (∃ row ∈ traces.rows, _))

instance (traces : TraceTable) (traceId : UUID) (instant : Int) :
    Decidable (Occupied traces traceId instant) :=
  inferInstanceAs (Decidable (∃ row ∈ traces.rows, _))

end TraceTable

/-! ### The earliest row -/

theorem selectTraceStart_eq_none_iff {projectId traceId : UUID} {rows : List TraceRow} :
    selectTraceStart projectId traceId rows = none ↔
      ∀ row ∈ rows, ¬ row.Of projectId traceId := by
  simp only [selectTraceStart, List.min?_eq_none_iff, List.map_eq_nil_iff,
    List.filter_eq_nil_iff, decide_eq_true_eq, TraceRow.Of]

theorem selectTraceStart_eq_some {projectId traceId : UUID} {rows : List TraceRow}
    {existing : Int} (found : selectTraceStart projectId traceId rows = some existing) :
    (∃ row ∈ rows, row.Of projectId traceId ∧ row.startedAt = existing) ∧
      ∀ row ∈ rows, row.Of projectId traceId → existing ≤ row.startedAt := by
  rw [selectTraceStart, List.min?_eq_some_iff] at found
  obtain ⟨member, least⟩ := found
  refine ⟨?_, fun row stored own => ?_⟩
  · obtain ⟨row, kept, start⟩ := List.mem_map.mp member
    rw [List.mem_filter, decide_eq_true_eq] at kept
    exact ⟨row, kept.1, kept.2, start⟩
  · refine least row.startedAt (List.mem_map_of_mem ?_)
    rw [List.mem_filter, decide_eq_true_eq]
    exact ⟨stored, own⟩

theorem earliestTraceStart_eq_none_iff {projectId traceId : UUID} {traces : TraceTable} :
    earliestTraceStart projectId traceId traces = none ↔
      ¬ TraceTable.Has traces projectId traceId := by
  rw [earliestTraceStart, selectTraceStart_eq_none_iff, TraceTable.Has]
  simp only [not_exists, not_and]

theorem earliestTraceStart_eq_some {projectId traceId : UUID} {traces : TraceTable}
    {existing : Int} (found : earliestTraceStart projectId traceId traces = some existing) :
    (∃ row ∈ traces.rows, row.Of projectId traceId ∧ row.startedAt = existing) ∧
      ∀ row ∈ traces.rows, row.Of projectId traceId → existing ≤ row.startedAt :=
  selectTraceStart_eq_some found

/-! ### One call -/

section

variable {localInstant : Int → Int} {projectId traceId : UUID} {startedAt : Datetime}
  {status : SpanStatus} {traces : TraceTable}

theorem planTraceRow_of_aware (aware : startedAt.Aware) (existing : Int) :
    planTraceRow (some existing) startedAt =
      .ok (if existing ≤ startedAt.toTimestamptz localInstant then .keep existing
        else .move existing) := by
  have ordered := (Datetime.aware_utc existing).le?_eq localInstant aware
  rw [Datetime.toTimestamptz_utc] at ordered
  simp only [planTraceRow, ordered, orTypeError]
  by_cases early : existing ≤ startedAt.toTimestamptz localInstant
  · simp [early, bind, Except.bind, pure, Except.pure]
  · simp [early, bind, Except.bind, pure, Except.pure]

theorem ensureTraceRow_of_absent (absent : ¬ TraceTable.Has traces projectId traceId) :
    ensureTraceRow localInstant projectId traceId startedAt status traces =
      .ok (traces.insertOrSkip
        (newTraceRow projectId traceId (startedAt.toTimestamptz localInstant) status),
        startedAt) := by
  rw [ensureTraceRow, earliestTraceStart_eq_none_iff.mpr absent]
  rfl

theorem ensureTraceRow_of_kept (aware : startedAt.Aware) {existing : Int}
    (found : earliestTraceStart projectId traceId traces = some existing)
    (early : existing ≤ startedAt.toTimestamptz localInstant) :
    ensureTraceRow localInstant projectId traceId startedAt status traces =
      .ok (traces, .utc existing) := by
  rw [ensureTraceRow, found, planTraceRow_of_aware aware existing, if_pos early]
  rfl

/-- The rows after the start of the trace has moved. -/
def moveTraceStart (projectId traceId : UUID) (existing startedAt : Int)
    (rows : List TraceRow) : List TraceRow :=
  rows.map fun row =>
    if row.startsAt projectId traceId existing then { row with startedAt := startedAt } else row

theorem startsAt_iff {row : TraceRow} {existing : Int} :
    row.startsAt projectId traceId existing = true ↔
      row.Of projectId traceId ∧ row.startedAt = existing := by
  simp [TraceRow.startsAt, TraceRow.Of, and_assoc]

/-- The row that the `UPDATE` selects, with its new start. -/
theorem moved_mem_moveTraceStart {row : TraceRow} {rows : List TraceRow} {existing : Int}
    (stored : row ∈ rows) (starts : row.startsAt projectId traceId existing = true)
    (instant : Int) :
    { row with startedAt := instant } ∈
      moveTraceStart projectId traceId existing instant rows :=
  List.mem_map.mpr ⟨row, stored, if_pos starts⟩

theorem mem_moveTraceStart_of_not {row : TraceRow} {rows : List TraceRow} {existing : Int}
    (stored : row ∈ rows) (other : ¬ row.startsAt projectId traceId existing = true)
    (instant : Int) :
    row ∈ moveTraceStart projectId traceId existing instant rows :=
  List.mem_map.mpr ⟨row, stored, if_neg other⟩

theorem mem_moveTraceStart_cases {row : TraceRow} {rows : List TraceRow}
    {existing instant : Int}
    (member : row ∈ moveTraceStart projectId traceId existing instant rows) :
    (row.Of projectId traceId ∧ row.startedAt = instant) ∨
      row ∈ rows ∧ ¬ row.startsAt projectId traceId existing = true := by
  obtain ⟨old, stored, became⟩ := List.mem_map.mp member
  by_cases starts : old.startsAt projectId traceId existing = true
  · rw [if_pos starts] at became
    rw [← became]
    exact Or.inl ⟨(startsAt_iff.mp starts).1, rfl⟩
  · rw [if_neg starts] at became
    rw [← became]
    exact Or.inr ⟨stored, starts⟩

theorem ensureTraceRow_of_later (aware : startedAt.Aware) {existing : Int}
    (found : earliestTraceStart projectId traceId traces = some existing)
    (late : ¬ existing ≤ startedAt.toTimestamptz localInstant) :
    ensureTraceRow localInstant projectId traceId startedAt status traces =
      match (Table.ofRows? (moveTraceStart projectId traceId existing
          (startedAt.toTimestamptz localInstant) traces.rows) : Option TraceTable) with
      | some moved => .ok (moved, startedAt)
      | none => .error (.raised integrityError) := by
  rw [ensureTraceRow, found, planTraceRow_of_aware aware existing, if_neg late]
  simp only [orRaised, bind, Except.bind, Table.updateWhere?, moveTraceStart]
  generalize (Table.ofRows? _ : Option TraceTable) = checked
  cases checked <;> rfl

/-- A move succeeds unless the new start is occupied. -/
theorem ofRows?_moveTraceStart (projectId : UUID) (existing : Int) {instant : Int}
    (free : ¬ TraceTable.Occupied traces traceId instant) :
    ∃ moved, (Table.ofRows? (moveTraceStart projectId traceId existing instant traces.rows) :
        Option TraceTable) = some moved ∧
      moved.rows = moveTraceStart projectId traceId existing instant traces.rows := by
  have unique : (moveTraceStart projectId traceId existing instant traces.rows).Pairwise
      fun earlier later => ¬ earlier.primaryKey = later.primaryKey := by
    rw [moveTraceStart, List.pairwise_map]
    refine traces.unique.imp_of_mem fun {left right} leftStored rightStored distinct same => ?_
    by_cases leftMoves : left.startsAt projectId traceId existing = true
    · by_cases rightMoves : right.startsAt projectId traceId existing = true
      · obtain ⟨leftOwn, leftStart⟩ := startsAt_iff.mp leftMoves
        obtain ⟨rightOwn, rightStart⟩ := startsAt_iff.mp rightMoves
        exact distinct (by simp [TraceRow.primaryKey, leftOwn.2, rightOwn.2, leftStart,
          rightStart])
      · rw [if_pos leftMoves, if_neg rightMoves] at same
        exact free ⟨right, rightStored, same.symm.trans (by
          simp [TraceRow.primaryKey, (startsAt_iff.mp leftMoves).1.2])⟩
    · by_cases rightMoves : right.startsAt projectId traceId existing = true
      · rw [if_neg leftMoves, if_pos rightMoves] at same
        exact free ⟨left, leftStored, same.trans (by
          simp [TraceRow.primaryKey, (startsAt_iff.mp rightMoves).1.2])⟩
      · rw [if_neg leftMoves, if_neg rightMoves] at same
        exact distinct same
  cases checked : (Table.ofRows? (moveTraceStart projectId traceId existing instant
      traces.rows) : Option TraceTable) with
  | none => exact absurd unique (Table.ofRows?_eq_none_iff.mp checked)
  | some moved => exact ⟨moved, rfl, Table.ofRows?_rows checked⟩

theorem ofRows?_moveTraceStart_of_occupied {existing instant : Int}
    (found : earliestTraceStart projectId traceId traces = some existing)
    (late : ¬ existing ≤ instant) (occupied : TraceTable.Occupied traces traceId instant) :
    (Table.ofRows? (moveTraceStart projectId traceId existing instant traces.rows) :
      Option TraceTable) = none := by
  obtain ⟨⟨own, ownStored, isOwn, ownStart⟩, least⟩ := earliestTraceStart_eq_some found
  obtain ⟨other, otherStored, otherKey⟩ := occupied
  simp only [TraceRow.primaryKey, Prod.mk.injEq] at otherKey
  have foreign : ¬ other.Of projectId traceId := by
    intro otherOwn
    exact late (otherKey.2 ▸ least other otherStored otherOwn)
  rw [Table.ofRows?_eq_none_iff]
  intro unique
  have distinctSymmetric : Std.Symm fun first second : TraceRow =>
      ¬ first.primaryKey = second.primaryKey :=
    ⟨fun _ _ distinct same => distinct same.symm⟩
  have ownMoved : { own with startedAt := instant } ∈
      moveTraceStart projectId traceId existing instant traces.rows :=
    moved_mem_moveTraceStart ownStored (startsAt_iff.mpr ⟨isOwn, ownStart⟩) instant
  have otherKept : other ∈ moveTraceStart projectId traceId existing instant traces.rows :=
    mem_moveTraceStart_of_not otherStored (fun starts => foreign (startsAt_iff.mp starts).1)
      instant
  refine unique.forall ownMoved otherKept (fun same => ?_) ?_
  · exact foreign (same ▸ isOwn)
  · simp [TraceRow.primaryKey, isOwn.2, otherKey]

theorem insertOrSkip_of_occupied {row : TraceRow}
    (occupied : TraceTable.Occupied traces row.id row.startedAt) :
    traces.insertOrSkip row = traces :=
  Table.insertOrSkip_of_clash occupied

theorem insertOrSkip_of_free {row : TraceRow}
    (free : ¬ TraceTable.Occupied traces row.id row.startedAt) :
    (traces.insertOrSkip row).rows = traces.rows ++ [row] :=
  Table.insertOrSkip_rows_of_new free

/-- What one call leaves of the starts: other traces and other projects are as
they were, and the trace is covered from its new start on unless a row of
another project stood in the way of its first row. -/
structure TraceEnsured (localInstant : Int → Int) (projectId traceId : UUID)
    (startedAt : Datetime) (traces next : TraceTable) : Prop where
  others : ∀ row : TraceRow, ¬ row.Of projectId traceId →
    (row ∈ next.rows ↔ row ∈ traces.rows)
  covers : ∀ instant, TraceTable.Covers next projectId traceId instant ↔
    TraceTable.Covers traces projectId traceId instant ∨
      (startedAt.toTimestamptz localInstant ≤ instant ∧
        (TraceTable.Has traces projectId traceId ∨
          ¬ TraceTable.Occupied traces traceId (startedAt.toTimestamptz localInstant)))

theorem traceEnsured_insert (absent : ¬ TraceTable.Has traces projectId traceId) :
    TraceEnsured localInstant projectId traceId startedAt traces (traces.insertOrSkip
      (newTraceRow projectId traceId (startedAt.toTimestamptz localInstant) status)) := by
  have uncovered : ∀ instant, ¬ TraceTable.Covers traces projectId traceId instant :=
    fun _ ⟨row, stored, own, _⟩ => absent ⟨row, stored, own⟩
  by_cases occupied : TraceTable.Occupied traces traceId (startedAt.toTimestamptz localInstant)
  · rw [insertOrSkip_of_occupied (by exact occupied)]
    exact ⟨fun _ _ => Iff.rfl, fun instant => by simp [uncovered, absent, occupied]⟩
  · have rows : (traces.insertOrSkip (newTraceRow projectId traceId
          (startedAt.toTimestamptz localInstant) status)).rows = traces.rows ++
        [newTraceRow projectId traceId (startedAt.toTimestamptz localInstant) status] :=
      insertOrSkip_of_free occupied
    refine ⟨fun row foreign => ?_, fun instant => ?_⟩
    · rw [rows, List.mem_append, List.mem_singleton]
      refine ⟨fun either => either.elim id fun new => ?_, Or.inl⟩
      exact absurd (new ▸ ⟨rfl, rfl⟩) foreign
    · simp only [uncovered, absent, occupied, false_or, not_false_eq_true, and_true]
      constructor
      · rintro ⟨row, stored, own, early⟩
        rw [rows, List.mem_append, List.mem_singleton] at stored
        rcases stored with old | rfl
        · exact absurd ⟨row, old, own⟩ absent
        · exact early
      · intro early
        refine ⟨newTraceRow projectId traceId (startedAt.toTimestamptz localInstant) status,
          ?_, ⟨rfl, rfl⟩, early⟩
        rw [rows]
        exact List.mem_append_right _ (List.mem_singleton_self _)

theorem traceEnsured_keep {existing : Int}
    (found : earliestTraceStart projectId traceId traces = some existing)
    (early : existing ≤ startedAt.toTimestamptz localInstant) :
    TraceEnsured localInstant projectId traceId startedAt traces traces := by
  obtain ⟨⟨row, stored, own, start⟩, -⟩ := earliestTraceStart_eq_some found
  refine ⟨fun _ _ => Iff.rfl, fun instant => ⟨Or.inl, fun either => either.elim id fun late => ?_⟩⟩
  exact ⟨row, stored, own, by omega⟩

theorem traceEnsured_move {existing : Int} {next : TraceTable}
    (found : earliestTraceStart projectId traceId traces = some existing)
    (late : ¬ existing ≤ startedAt.toTimestamptz localInstant)
    (rows : next.rows = moveTraceStart projectId traceId existing
      (startedAt.toTimestamptz localInstant) traces.rows) :
    TraceEnsured localInstant projectId traceId startedAt traces next := by
  obtain ⟨⟨earliest, earliestStored, isOwn, earliestStart⟩, least⟩ :=
    earliestTraceStart_eq_some found
  have has : TraceTable.Has traces projectId traceId := ⟨earliest, earliestStored, isOwn⟩
  have moved : { earliest with startedAt := startedAt.toTimestamptz localInstant } ∈
      next.rows := by
    rw [rows]
    exact moved_mem_moveTraceStart earliestStored (startsAt_iff.mpr ⟨isOwn, earliestStart⟩) _
  refine ⟨fun row foreign => ?_, fun instant => ?_⟩
  · rw [rows]
    constructor
    · intro stored
      rcases mem_moveTraceStart_cases stored with ⟨own, -⟩ | ⟨kept, -⟩
      · exact absurd own foreign
      · exact kept
    · intro stored
      exact mem_moveTraceStart_of_not stored
        (fun starts => foreign (startsAt_iff.mp starts).1) _
  · simp only [has, true_or, and_true]
    constructor
    · rintro ⟨row, stored, own, early⟩
      rw [rows] at stored
      rcases mem_moveTraceStart_cases stored with ⟨-, started⟩ | ⟨kept, -⟩
      · rw [started] at early
        exact Or.inr early
      · exact Or.inl ⟨row, kept, own, early⟩
    · rintro (⟨row, stored, own, early⟩ | early)
      · refine ⟨_, moved, isOwn, ?_⟩
        have first := least row stored own
        show startedAt.toTimestamptz localInstant ≤ instant
        omega
      · exact ⟨_, moved, isOwn, early⟩

/-- The ways through `ensure_trace_row`: a first row, no change, or a move. -/
theorem ensureTraceRow_cases (aware : startedAt.Aware) {next : TraceTable} {start : Datetime}
    (done : ensureTraceRow localInstant projectId traceId startedAt status traces =
      .ok (next, start)) :
    (¬ TraceTable.Has traces projectId traceId ∧
        next = traces.insertOrSkip
          (newTraceRow projectId traceId (startedAt.toTimestamptz localInstant) status)) ∨
      ∃ existing, earliestTraceStart projectId traceId traces = some existing ∧
        ((existing ≤ startedAt.toTimestamptz localInstant ∧ next = traces) ∨
          (¬ existing ≤ startedAt.toTimestamptz localInstant ∧
            next.rows = moveTraceStart projectId traceId existing
              (startedAt.toTimestamptz localInstant) traces.rows)) := by
  cases found : earliestTraceStart projectId traceId traces with
  | none =>
      have absent := earliestTraceStart_eq_none_iff.mp found
      rw [ensureTraceRow_of_absent absent, Except.ok.injEq, Prod.mk.injEq] at done
      exact Or.inl ⟨absent, done.1.symm⟩
  | some existing =>
      refine Or.inr ⟨existing, rfl, ?_⟩
      by_cases early : existing ≤ startedAt.toTimestamptz localInstant
      · rw [ensureTraceRow_of_kept aware found early, Except.ok.injEq, Prod.mk.injEq] at done
        exact Or.inl ⟨early, done.1.symm⟩
      · rw [ensureTraceRow_of_later aware found early] at done
        split at done
        · rename_i moved checked
          rw [Except.ok.injEq, Prod.mk.injEq] at done
          exact Or.inr ⟨early, done.1 ▸ Table.ofRows?_rows checked⟩
        · cases done

theorem traceEnsured_of_ok (aware : startedAt.Aware) {next : TraceTable} {start : Datetime}
    (done : ensureTraceRow localInstant projectId traceId startedAt status traces =
      .ok (next, start)) :
    TraceEnsured localInstant projectId traceId startedAt traces next := by
  rcases ensureTraceRow_cases aware done with
    ⟨absent, rfl⟩ | ⟨existing, found, ⟨early, rfl⟩ | ⟨late, rows⟩⟩
  · exact traceEnsured_insert absent
  · exact traceEnsured_keep found early
  · exact traceEnsured_move found late rows

end

/-! ### The trace map -/

/-- The map holds the earliest of the spans for each of their traces. -/
structure TraceMapOf (localInstant : Int → Int) (spans : List PreparedSpan)
    (traceMap : List (UUID × PreparedSpan)) : Prop where
  distinct : (traceMap.map Prod.fst).Nodup
  sound : ∀ entry ∈ traceMap, entry.2 ∈ spans ∧ entry.2.traceId = entry.1
  earliest : ∀ entry ∈ traceMap, ∀ span ∈ spans, span.traceId = entry.1 →
    entry.2.startedAt.toTimestamptz localInstant ≤ span.startedAt.toTimestamptz localInstant
  complete : ∀ span ∈ spans, ∃ earliest, (span.traceId, earliest) ∈ traceMap

section

variable {localInstant : Int → Int} {traceMap : List (UUID × PreparedSpan)}
  {span : PreparedSpan}

/-- The earlier of two spans, the second one on a tie. -/
def earlierSpan (localInstant : Int → Int) (span earliest : PreparedSpan) : PreparedSpan :=
  if span.startedAt.toTimestamptz localInstant < earliest.startedAt.toTimestamptz localInstant
  then span else earliest

/-- One iteration adds an entry for the span's trace, or replaces its entry by
the earlier span. -/
theorem addToTraceMap_spec (localInstant : Int → Int) (aware : span.startedAt.Aware)
    (allAware : ∀ entry ∈ traceMap, entry.2.startedAt.Aware) :
    (span.traceId ∉ traceMap.map Prod.fst ∧
      addToTraceMap span traceMap = .ok (traceMap ++ [(span.traceId, span)])) ∨
    ∃ before earliest after, traceMap = before ++ (span.traceId, earliest) :: after ∧
      addToTraceMap span traceMap =
        .ok (before ++ (span.traceId, earlierSpan localInstant span earliest) :: after) := by
  induction traceMap with
  | nil => exact Or.inl ⟨by simp, rfl⟩
  | cons head rest inductionHypothesis =>
      obtain ⟨traceId, earliest⟩ := head
      by_cases same : traceId = span.traceId
      · subst same
        have ordered := aware.lt?_eq localInstant (allAware _ (List.mem_cons_self ..))
        refine Or.inr ⟨[], earliest, rest, rfl, ?_⟩
        by_cases earlier : span.startedAt.toTimestamptz localInstant <
            earliest.startedAt.toTimestamptz localInstant
        · simp [addToTraceMap, ordered, orTypeError, earlier, earlierSpan, bind, Except.bind,
            pure, Except.pure]
        · simp [addToTraceMap, ordered, orTypeError, earlier, earlierSpan, bind, Except.bind,
            pure, Except.pure]
      · rcases inductionHypothesis fun entry member =>
            allAware entry (List.mem_cons_of_mem _ member) with
          ⟨absent, done⟩ | ⟨before, found, after, rfl, done⟩
        · refine Or.inl ⟨by simpa [Ne.symm same] using absent, ?_⟩
          simp [addToTraceMap, same, done, bind, Except.bind, pure, Except.pure]
        · refine Or.inr ⟨(traceId, earliest) :: before, found, after, rfl, ?_⟩
          simp [addToTraceMap, same, done, bind, Except.bind, pure, Except.pure]

/-- The span of a trace that is not in the map yet. -/
theorem TraceMapOf.append {spans : List PreparedSpan}
    (mapOf : TraceMapOf localInstant spans traceMap)
    (absent : span.traceId ∉ traceMap.map Prod.fst) :
    TraceMapOf localInstant (spans ++ [span]) (traceMap ++ [(span.traceId, span)]) where
  distinct := by
    rw [List.map_append, List.nodup_append]
    refine ⟨mapOf.distinct, by simp, fun known member other isNew => ?_⟩
    rw [List.map_singleton, List.mem_singleton] at isNew
    rintro rfl
    rw [isNew] at member
    exact absent member
  sound := by
    intro entry member
    rcases List.mem_append.mp member with old | new
    · exact ⟨List.mem_append_left _ (mapOf.sound entry old).1, (mapOf.sound entry old).2⟩
    · rw [List.mem_singleton.mp new]
      exact ⟨List.mem_append_right _ (List.mem_singleton_self _), rfl⟩
  earliest := by
    intro entry member other otherMember sameTrace
    rcases List.mem_append.mp member with old | new
    · rcases List.mem_append.mp otherMember with before | last
      · exact mapOf.earliest entry old other before sameTrace
      · rw [List.mem_singleton.mp last] at sameTrace
        exact absurd (sameTrace ▸ List.mem_map_of_mem old) absent
    · rw [List.mem_singleton.mp new] at sameTrace ⊢
      rcases List.mem_append.mp otherMember with before | last
      · obtain ⟨known, knownMember⟩ := mapOf.complete other before
        have listed : other.traceId ∈ traceMap.map Prod.fst :=
          List.mem_map.mpr ⟨_, knownMember, rfl⟩
        rw [sameTrace] at listed
        exact absurd listed absent
      · rw [List.mem_singleton.mp last]
  complete := by
    intro other otherMember
    rcases List.mem_append.mp otherMember with before | last
    · obtain ⟨known, knownMember⟩ := mapOf.complete other before
      exact ⟨known, List.mem_append_left _ knownMember⟩
    · rw [List.mem_singleton.mp last]
      exact ⟨span, List.mem_append_right _ (List.mem_singleton_self _)⟩

theorem earlierSpan_le (localInstant : Int → Int) (span earliest : PreparedSpan) :
    (earlierSpan localInstant span earliest).startedAt.toTimestamptz localInstant ≤
        span.startedAt.toTimestamptz localInstant ∧
      (earlierSpan localInstant span earliest).startedAt.toTimestamptz localInstant ≤
        earliest.startedAt.toTimestamptz localInstant := by
  unfold earlierSpan
  split <;> omega

/-- A replaced entry is the only one of its key. -/
theorem mem_replaced {before after : List (UUID × PreparedSpan)} {traceId : UUID}
    {earliest replacement : PreparedSpan}
    (distinct : ((before ++ (traceId, earliest) :: after).map Prod.fst).Nodup)
    {entry : UUID × PreparedSpan}
    (member : entry ∈ before ++ (traceId, replacement) :: after) :
    entry = (traceId, replacement) ∨
      (entry ∈ before ++ (traceId, earliest) :: after ∧ entry.1 ≠ traceId) := by
  rw [List.map_append, List.map_cons, List.nodup_append, List.nodup_cons] at distinct
  obtain ⟨-, ⟨notAfter, -⟩, notBefore⟩ := distinct
  rcases List.mem_append.mp member with inBefore | inRest
  · refine Or.inr ⟨List.mem_append_left _ inBefore, ?_⟩
    exact notBefore _ (List.mem_map_of_mem inBefore) _ (List.mem_cons_self ..)
  · rcases List.mem_cons.mp inRest with rfl | inAfter
    · exact Or.inl rfl
    · refine Or.inr ⟨List.mem_append_right _ (List.mem_cons_of_mem _ inAfter), ?_⟩
      intro same
      have listed : entry.1 ∈ after.map Prod.fst := List.mem_map_of_mem inAfter
      rw [same] at listed
      exact notAfter listed

/-- The span of a trace that is in the map. -/
theorem TraceMapOf.replace {spans : List PreparedSpan}
    {before after : List (UUID × PreparedSpan)} {earliest : PreparedSpan}
    (mapOf : TraceMapOf localInstant spans (before ++ (span.traceId, earliest) :: after)) :
    TraceMapOf localInstant (spans ++ [span])
      (before ++ (span.traceId, earlierSpan localInstant span earliest) :: after) := by
  have old : (span.traceId, earliest) ∈ before ++ (span.traceId, earliest) :: after := by simp
  have isEarlier := earlierSpan_le localInstant span earliest
  constructor
  · simpa using mapOf.distinct
  · intro entry member
    rcases mem_replaced mapOf.distinct member with rfl | ⟨kept, -⟩
    · refine ⟨?_, ?_⟩ <;> dsimp only <;> unfold earlierSpan <;> split
      · exact List.mem_append_right _ (List.mem_singleton_self _)
      · exact List.mem_append_left _ (mapOf.sound _ old).1
      · rfl
      · exact (mapOf.sound _ old).2
    · exact ⟨List.mem_append_left _ (mapOf.sound entry kept).1, (mapOf.sound entry kept).2⟩
  · intro entry member other otherMember sameTrace
    rcases mem_replaced mapOf.distinct member with rfl | ⟨kept, different⟩
    · rcases List.mem_append.mp otherMember with before | last
      · exact isEarlier.2.trans (mapOf.earliest _ old other before sameTrace)
      · rw [List.mem_singleton.mp last]
        exact isEarlier.1
    · rcases List.mem_append.mp otherMember with before | last
      · exact mapOf.earliest entry kept other before sameTrace
      · rw [List.mem_singleton.mp last] at sameTrace
        exact absurd sameTrace.symm different
  · intro other otherMember
    rcases List.mem_append.mp otherMember with before | last
    · obtain ⟨known, knownMember⟩ := mapOf.complete other before
      rcases List.mem_append.mp knownMember with inBefore | inRest
      · exact ⟨known, List.mem_append_left _ inBefore⟩
      · rcases List.mem_cons.mp inRest with same | inAfter
        · rw [Prod.mk.injEq] at same
          exact ⟨earlierSpan localInstant span earliest, by simp [same.1]⟩
        · exact ⟨known, List.mem_append_right _ (List.mem_cons_of_mem _ inAfter)⟩
    · rw [List.mem_singleton.mp last]
      exact ⟨earlierSpan localInstant span earliest, by simp⟩

theorem TraceMapOf.add {spans : List PreparedSpan} (mapOf : TraceMapOf localInstant spans traceMap)
    (aware : span.startedAt.Aware) (allAware : ∀ entry ∈ traceMap, entry.2.startedAt.Aware) :
    ∃ next, addToTraceMap span traceMap = .ok next ∧
      TraceMapOf localInstant (spans ++ [span]) next := by
  rcases addToTraceMap_spec localInstant aware allAware with
    ⟨absent, done⟩ | ⟨before, earliest, after, rfl, done⟩
  · exact ⟨_, done, mapOf.append absent⟩
  · exact ⟨_, done, mapOf.replace⟩

theorem traceMapOf_foldlM {spans : List PreparedSpan} (rest : List PreparedSpan)
    (mapOf : TraceMapOf localInstant spans traceMap)
    (spansAware : ∀ span ∈ spans, span.startedAt.Aware)
    (restAware : ∀ span ∈ rest, span.startedAt.Aware) :
    ∃ final, rest.foldlM (fun traceMap span => addToTraceMap span traceMap) traceMap =
        .ok final ∧ TraceMapOf localInstant (spans ++ rest) final := by
  induction rest generalizing spans traceMap with
  | nil => exact ⟨traceMap, rfl, by rwa [List.append_nil]⟩
  | cons span rest inductionHypothesis =>
      have spanAware := restAware span (List.mem_cons_self ..)
      obtain ⟨next, done, nextOf⟩ := mapOf.add spanAware fun entry member =>
        spansAware _ (mapOf.sound entry member).1
      obtain ⟨final, finished, finalOf⟩ := inductionHypothesis nextOf
        (fun other member => (List.mem_append.mp member).elim (spansAware other)
          fun last => List.mem_singleton.mp last ▸ spanAware)
        fun other member => restAware other (List.mem_cons_of_mem _ member)
      refine ⟨final, ?_, ?_⟩
      · rw [List.foldlM_cons, done]
        exact finished
      · rwa [List.append_assoc, List.singleton_append] at finalOf

/-- Aware spans always have a trace map. -/
theorem traceMapOf_buildTraceMap (localInstant : Int → Int) {spans : List PreparedSpan}
    (aware : ∀ span ∈ spans, span.startedAt.Aware) :
    ∃ traceMap, buildTraceMap spans = .ok traceMap ∧ TraceMapOf localInstant spans traceMap := by
  have start : TraceMapOf localInstant [] [] :=
    ⟨List.nodup_nil, by simp, by simp, by simp⟩
  simpa [buildTraceMap] using traceMapOf_foldlM spans start (by simp) aware

end

/-! ### All traces of a batch -/

section

variable {localInstant : Int → Int} {projectId traceId : UUID} {startedAt : Datetime}
  {traces next : TraceTable}

theorem TraceEnsured.covers_other
    (ensured : TraceEnsured localInstant projectId traceId startedAt traces next)
    {other : UUID} (different : other ≠ traceId) (instant : Int) :
    TraceTable.Covers next projectId other instant ↔
      TraceTable.Covers traces projectId other instant :=
  exists_congr fun row => and_congr_left fun ⟨own, _⟩ =>
    ensured.others row fun same => different (own.2.symm.trans same.2)

theorem TraceEnsured.has_other
    (ensured : TraceEnsured localInstant projectId traceId startedAt traces next)
    {other : UUID} (different : other ≠ traceId) :
    TraceTable.Has next projectId other ↔ TraceTable.Has traces projectId other :=
  exists_congr fun row => and_congr_left fun own =>
    ensured.others row fun same => different (own.2.symm.trans same.2)

theorem TraceEnsured.occupied_other
    (ensured : TraceEnsured localInstant projectId traceId startedAt traces next)
    {other : UUID} (different : other ≠ traceId) (instant : Int) :
    TraceTable.Occupied next other instant ↔ TraceTable.Occupied traces other instant := by
  refine exists_congr fun row => and_congr_left fun key => ensured.others row fun same => ?_
  simp only [TraceRow.primaryKey, Prod.mk.injEq] at key
  exact different (key.1.symm.trans same.2)

end

theorem ensureTraceRows_cons {runtime : Runtime} {env : AttemptEnv} {projectId traceId : UUID}
    {span : PreparedSpan} {rest : List (UUID × PreparedSpan)} {traces next : TraceTable}
    {starts : List (UUID × Datetime)}
    (done : ensureTraceRows runtime env projectId ((traceId, span) :: rest) traces =
      .ok (next, starts)) :
    ∃ middle start later, env.check (.ensureTraceRow traceId) = .ok () ∧
      ensureTraceRow runtime.localInstant projectId traceId span.startedAt span.status traces =
        .ok (middle, start) ∧
      ensureTraceRows runtime env projectId rest middle = .ok (next, later) ∧
      starts = (traceId, start) :: later := by
  simp only [ensureTraceRows, bind_eq_ok, Prod.exists, pure, Except.pure, Except.ok.injEq,
    Prod.mk.injEq] at done
  obtain ⟨_, checked, middle, start, ensured, final, later, others, rfl, rfl⟩ := done
  exact ⟨middle, start, later, checked, ensured, others, rfl⟩

/-- Ensuring all traces of the map covers exactly what ensuring each of them on
its own would. -/
theorem covers_ensureTraceRows {runtime : Runtime} {env : AttemptEnv} {projectId : UUID}
    {traceMap : List (UUID × PreparedSpan)} {traces next : TraceTable}
    {starts : List (UUID × Datetime)} (distinct : (traceMap.map Prod.fst).Nodup)
    (aware : ∀ entry ∈ traceMap, entry.2.startedAt.Aware)
    (done : ensureTraceRows runtime env projectId traceMap traces = .ok (next, starts))
    (traceId : UUID) (instant : Int) :
    TraceTable.Covers next projectId traceId instant ↔
      TraceTable.Covers traces projectId traceId instant ∨
        ∃ earliest, (traceId, earliest) ∈ traceMap ∧
          earliest.startedAt.toTimestamptz runtime.localInstant ≤ instant ∧
          (TraceTable.Has traces projectId traceId ∨ ¬ TraceTable.Occupied traces traceId
            (earliest.startedAt.toTimestamptz runtime.localInstant)) := by
  induction traceMap generalizing traces next starts with
  | nil =>
      simp only [ensureTraceRows, Except.ok.injEq, Prod.mk.injEq] at done
      simp [done.1]
  | cons head rest inductionHypothesis =>
      obtain ⟨headId, span⟩ := head
      rw [List.map_cons, List.nodup_cons] at distinct
      obtain ⟨middle, start, later, -, ensures, others, -⟩ := ensureTraceRows_cons done
      have ensured := traceEnsured_of_ok (aware _ (List.mem_cons_self ..)) ensures
      rw [inductionHypothesis distinct.2
        (fun entry member => aware entry (List.mem_cons_of_mem _ member)) others]
      by_cases same : traceId = headId
      · subst same
        have notLater : ∀ earliest, (traceId, earliest) ∉ rest := fun earliest member =>
          distinct.1 (List.mem_map.mpr ⟨_, member, rfl⟩)
        simp only [ensured.covers, notLater, List.mem_cons, Prod.mk.injEq, true_and, false_and,
          exists_false, or_false, exists_eq_left]
      · simp only [ensured.covers_other same, ensured.has_other same,
          ensured.occupied_other same, List.mem_cons, Prod.mk.injEq, same, false_and, false_or]

/-- The starts are listed in the order of the map. -/
theorem keys_ensureTraceRows {runtime : Runtime} {env : AttemptEnv} {projectId : UUID}
    {traceMap : List (UUID × PreparedSpan)} {traces next : TraceTable}
    {starts : List (UUID × Datetime)}
    (done : ensureTraceRows runtime env projectId traceMap traces = .ok (next, starts)) :
    starts.map Prod.fst = traceMap.map Prod.fst := by
  induction traceMap generalizing traces next starts with
  | nil =>
      simp only [ensureTraceRows, Except.ok.injEq, Prod.mk.injEq] at done
      simp [← done.2]
  | cons head rest inductionHypothesis =>
      obtain ⟨middle, start, later, -, -, others, rfl⟩ := ensureTraceRows_cons done
      rw [List.map_cons, List.map_cons, inductionHypothesis others]

end LlmObs.Backend
