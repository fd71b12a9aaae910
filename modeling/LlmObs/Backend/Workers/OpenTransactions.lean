import LlmObs.Backend.Workers.ConcurrentBatches

/-!
Owns what holds of the open batch transactions in every interleaving: what they
have inserted, which traces they have ensured, and which row versions they hold.
It does not own what the committed trace rows amount to.
-/

namespace LlmObs.Backend

open LlmObs.Foundation

/-! ### One transaction -/

namespace BatchPhase

/-- The traces whose `ensure_trace_row` has returned, before the commit. -/
def ensured : BatchPhase → List EnsuredTrace
  | .ensuring ensured _ => ensured
  | .writing ensured _ _ _ _ => ensured
  | _ => []

/-- The entries of `trace_map`, before the commit. -/
def entries : BatchPhase → List (UUID × PreparedSpan)
  | .ensuring ensured remaining =>
      ensured.map (fun trace => (trace.traceId, trace.earliest)) ++ remaining
  | .writing ensured traceId span _ remaining =>
      ensured.map (fun trace => (trace.traceId, trace.earliest)) ++ (traceId, span) :: remaining
  | _ => []

theorem entries_of_closed {phase : BatchPhase} (closed : ¬ phase.Open) : phase.entries = [] := by
  cases phase with
  | committed starts => rfl
  | rolledBack => rfl
  | started => rfl
  | ensuring ensured remaining => exact absurd trivial closed
  | writing ensured traceId span plan remaining => exact absurd trivial closed

theorem ensured_of_closed {phase : BatchPhase} (closed : ¬ phase.Open) : phase.ensured = [] := by
  cases phase with
  | committed starts => rfl
  | rolledBack => rfl
  | started => rfl
  | ensuring ensured remaining => exact absurd trivial closed
  | writing ensured traceId span plan remaining => exact absurd trivial closed

end BatchPhase

/-- What a transaction knows about its own spans and traces. -/
structure BatchTransaction.Sound (localInstant : Int → Int) (transaction : BatchTransaction) :
    Prop where
  aware : ∀ span ∈ transaction.prepared, span.startedAt.Aware
  ofProject : ∀ span ∈ transaction.prepared, span.projectId = transaction.projectId
  fresh : transaction.phase = .started → transaction.spanRows = []
  distinct : (transaction.phase.entries.map Prod.fst).Nodup
  entryAware : ∀ entry ∈ transaction.phase.entries, entry.2.startedAt.Aware
  entryStored : ∀ entry ∈ transaction.phase.entries, ∃ row ∈ transaction.spanRows,
    row.traceId = entry.1 ∧ row.startedAt = entry.2.startedAt.toTimestamptz localInstant
  covered : transaction.phase.Open → ∀ row ∈ transaction.spanRows,
    row.projectId = transaction.projectId ∧ ∃ entry ∈ transaction.phase.entries,
      entry.1 = row.traceId ∧ entry.2.startedAt.toTimestamptz localInstant ≤ row.startedAt
  stable : ∀ trace ∈ transaction.phase.ensured,
    trace.stableStart.toTimestamptz localInstant ≤
      trace.earliest.startedAt.toTimestamptz localInstant
  moves : ∀ ensured traceId span existing remaining,
    transaction.phase = .writing ensured traceId span (.move existing) remaining →
      span.startedAt.toTimestamptz localInstant < existing

section

variable {localInstant : Int → Int} {transaction : BatchTransaction}

theorem plan_of_aware {existing : Option Int} {startedAt : Datetime} {plan : TracePlan}
    (aware : startedAt.Aware) (plans : planTraceRow existing startedAt = .ok plan) :
    (∀ start, plan = .keep start → start ≤ startedAt.toTimestamptz localInstant) ∧
      ∀ start, plan = .move start → startedAt.toTimestamptz localInstant < start := by
  cases existing with
  | none =>
      cases plans
      exact ⟨fun start same => (by cases same), fun start same => (by cases same)⟩
  | some existing =>
      have planned : planTraceRow (some existing) startedAt =
          .ok (if existing ≤ startedAt.toTimestamptz localInstant then .keep existing
            else .move existing) :=
        planTraceRow_of_aware aware existing
      rw [planned] at plans
      split at plans
      · rename_i early
        cases plans
        refine ⟨fun start same => ?_, fun start same => (by cases same)⟩
        cases same
        exact early
      · rename_i late
        cases plans
        refine ⟨fun start same => (by cases same), fun start same => ?_⟩
        cases same
        omega

theorem found_of_keep {found : Option Int} {startedAt : Datetime} {existing : Int}
    (plans : planTraceRow found startedAt = .ok (.keep existing)) : found = some existing := by
  cases found with
  | none => cases plans
  | some start =>
      simp only [planTraceRow] at plans
      cases compared : orTypeError ((Datetime.utc start).le? startedAt) with
      | error exception =>
          rw [compared] at plans
          cases plans
      | ok early =>
          rw [compared] at plans
          cases early with
          | true =>
              cases plans
              rfl
          | false => cases plans

theorem sound_started {projectId : UUID} {prepared : List PreparedSpan}
    (aware : ∀ span ∈ prepared, span.startedAt.Aware)
    (ofProject : ∀ span ∈ prepared, span.projectId = projectId) :
    BatchTransaction.Sound localInstant ⟨projectId, prepared, [], .started⟩ where
  aware := aware
  ofProject := ofProject
  fresh := fun _ => rfl
  distinct := List.nodup_nil
  entryAware := by simp [BatchPhase.entries]
  entryStored := by simp [BatchPhase.entries]
  covered := by simp
  stable := by simp [BatchPhase.ensured]
  moves := by intros; contradiction

/-- After `bulk_insert_spans` the trace map covers the inserted rows. -/
theorem BatchTransaction.Sound.insert (sound : transaction.Sound localInstant)
    {spans : SpanTable} {traceMap : List (UUID × PreparedSpan)}
    (built : buildTraceMap (recognisedSpans localInstant spans transaction.prepared) =
      .ok traceMap) :
    BatchTransaction.Sound localInstant { transaction with
      spanRows := (storedSpans localInstant spans transaction.prepared).map
        (·.toRow localInstant)
      phase := .ensuring [] traceMap } := by
  have stored : recognisedSpans localInstant spans transaction.prepared =
      storedSpans localInstant spans transaction.prepared :=
    recognisedSpans_of_aware sound.aware
  have storedPrepared : ∀ span ∈ storedSpans localInstant spans transaction.prepared,
      span ∈ transaction.prepared := fun span member => (firstNew_sublist _ _).subset member
  obtain ⟨other, otherBuilt, mapOf⟩ := traceMapOf_buildTraceMap localInstant
    fun span (member : span ∈ recognisedSpans localInstant spans transaction.prepared) =>
      aware_of_mem_recognisedSpans member
  rw [built, Except.ok.injEq] at otherBuilt
  subst otherBuilt
  rw [stored] at mapOf
  constructor
  · exact sound.aware
  · exact sound.ofProject
  · exact fun impossible => by cases impossible
  · exact mapOf.distinct
  · intro entry member
    exact sound.aware _ (storedPrepared _ (mapOf.sound entry member).1)
  · intro entry member
    obtain ⟨inserted, sameTrace⟩ := mapOf.sound entry member
    exact ⟨_, List.mem_map_of_mem inserted, sameTrace, rfl⟩
  · intro _ row member
    obtain ⟨span, inserted, rfl⟩ := List.mem_map.mp member
    obtain ⟨earliest, listed⟩ := mapOf.complete span inserted
    exact ⟨sound.ofProject span (storedPrepared span inserted), _, listed, rfl,
      mapOf.earliest _ listed span inserted rfl⟩
  · simp [BatchPhase.ensured]
  · intros
    contradiction

/-- Moving on in the loop keeps the entries. -/
theorem BatchTransaction.Sound.advance (sound : transaction.Sound localInstant)
    (isOpen : transaction.phase.Open) {phase : BatchPhase}
    (entries : phase.entries = transaction.phase.entries) (notStarted : phase ≠ .started)
    (stable : ∀ trace ∈ phase.ensured, trace.stableStart.toTimestamptz localInstant ≤
      trace.earliest.startedAt.toTimestamptz localInstant)
    (moves : ∀ ensured traceId span existing remaining,
      phase = .writing ensured traceId span (.move existing) remaining →
        span.startedAt.toTimestamptz localInstant < existing) :
    BatchTransaction.Sound localInstant { transaction with phase := phase } where
  aware := sound.aware
  ofProject := sound.ofProject
  fresh := fun started => absurd started notStarted
  distinct := entries ▸ sound.distinct
  entryAware := entries ▸ sound.entryAware
  entryStored := entries ▸ sound.entryStored
  covered := fun _ => entries ▸ sound.covered isOpen
  stable := stable
  moves := moves

/-- Nothing is left to know once it has ended. -/
theorem BatchTransaction.Sound.close (sound : transaction.Sound localInstant)
    {phase : BatchPhase} (closed : ¬ phase.Open) :
    BatchTransaction.Sound localInstant { transaction with phase := phase } := by
  have noEntries := BatchPhase.entries_of_closed closed
  have noneEnsured := BatchPhase.ensured_of_closed closed
  constructor
  · exact sound.aware
  · exact sound.ofProject
  · intro started
    exact absurd (show phase.Open by rw [show phase = .started from started]; trivial) closed
  · simp [noEntries]
  · simp [noEntries]
  · simp [noEntries]
  · exact fun isOpen => absurd isOpen closed
  · simp [noneEnsured]
  · intro ensured traceId span existing remaining writing
    exact absurd (show phase.Open by rw [show phase = _ from writing]; trivial) closed

end

/-! ### Traces of one transaction -/

section

variable {localInstant : Int → Int} {transaction : BatchTransaction}

theorem BatchPhase.mem_entries {phase : BatchPhase} {trace : EnsuredTrace}
    (member : trace ∈ phase.ensured) : (trace.traceId, trace.earliest) ∈ phase.entries := by
  have listed : ∀ {ensured : List EnsuredTrace}, trace ∈ ensured →
      (trace.traceId, trace.earliest) ∈
        ensured.map fun trace => (trace.traceId, trace.earliest) :=
    fun member => List.mem_map.mpr ⟨trace, member, rfl⟩
  cases phase with
  | ensuring ensured remaining => exact List.mem_append_left _ (listed member)
  | writing ensured traceId span plan remaining => exact List.mem_append_left _ (listed member)
  | started => cases member
  | committed starts => cases member
  | rolledBack => cases member

/-- A trace is ensured once. -/
theorem BatchTransaction.Sound.earliest_eq (sound : transaction.Sound localInstant)
    {first second : EnsuredTrace} (firstMember : first ∈ transaction.phase.ensured)
    (secondMember : second ∈ transaction.phase.ensured)
    (same : first.traceId = second.traceId) : first.earliest = second.earliest := by
  have sameEntry := List.inj_on_of_nodup_map sound.distinct
    (BatchPhase.mem_entries firstMember) (BatchPhase.mem_entries secondMember) same
  exact congrArg Prod.snd sameEntry

theorem BatchTransaction.Sound.not_ensured_entry (sound : transaction.Sound localInstant)
    {ensured : List EnsuredTrace} {traceId : UUID} {span : PreparedSpan}
    {remaining : List (UUID × PreparedSpan)}
    (same : transaction.phase.ensured = ensured)
    (entries : transaction.phase.entries =
      ensured.map (fun trace => (trace.traceId, trace.earliest)) ++ (traceId, span) :: remaining) :
    ∀ trace ∈ transaction.phase.ensured, trace.traceId ≠ traceId := by
  intro trace member sameTrace
  rw [same] at member
  have distinct := sound.distinct
  rw [entries, List.map_append, List.map_cons, List.nodup_append] at distinct
  apply distinct.2.2 traceId _ traceId (List.mem_cons_self ..) rfl
  rw [List.map_map]
  exact List.mem_map.mpr ⟨trace, member, sameTrace⟩

/-- The trace that is looked for is not ensured yet. -/
theorem BatchTransaction.Sound.not_ensured_next (sound : transaction.Sound localInstant)
    {ensured : List EnsuredTrace} {traceId : UUID} {span : PreparedSpan}
    {remaining : List (UUID × PreparedSpan)}
    (ensuring : transaction.phase = .ensuring ensured ((traceId, span) :: remaining)) :
    ∀ trace ∈ transaction.phase.ensured, trace.traceId ≠ traceId :=
  sound.not_ensured_entry (congrArg BatchPhase.ensured ensuring)
    (congrArg BatchPhase.entries ensuring)

/-- The trace that is written to is not ensured yet. -/
theorem BatchTransaction.Sound.not_ensured (sound : transaction.Sound localInstant)
    {ensured : List EnsuredTrace} {traceId : UUID} {span : PreparedSpan} {plan : TracePlan}
    {remaining : List (UUID × PreparedSpan)}
    (writing : transaction.phase = .writing ensured traceId span plan remaining) :
    ∀ trace ∈ transaction.phase.ensured, trace.traceId ≠ traceId :=
  sound.not_ensured_entry (congrArg BatchPhase.ensured writing)
    (congrArg BatchPhase.entries writing)

/-- Its earliest span is one of the transaction. -/
theorem BatchTransaction.Sound.stored_of_ensured (sound : transaction.Sound localInstant)
    (isOpen : transaction.phase.Open) {trace : EnsuredTrace}
    (member : trace ∈ transaction.phase.ensured) :
    ∃ row ∈ transaction.spanRows, row.projectId = transaction.projectId ∧
      row.traceId = trace.traceId ∧
      row.startedAt = trace.earliest.startedAt.toTimestamptz localInstant := by
  obtain ⟨row, stored, ofTrace, start⟩ :=
    sound.entryStored _ (BatchPhase.mem_entries member)
  exact ⟨row, stored, (sound.covered isOpen row stored).1, ofTrace, start⟩

/-- Behind the loop every span has its trace ensured. -/
theorem BatchTransaction.Sound.ensured_of_stored (sound : transaction.Sound localInstant)
    {ensured : List EnsuredTrace} (ensuring : transaction.phase = .ensuring ensured [])
    {row : SpanRow} (stored : row ∈ transaction.spanRows) :
    row.projectId = transaction.projectId ∧ ∃ trace ∈ transaction.phase.ensured,
      trace.traceId = row.traceId ∧
      trace.earliest.startedAt.toTimestamptz localInstant ≤ row.startedAt := by
  obtain ⟨ofProject, entry, listed, ofTrace, early⟩ :=
    sound.covered (by simp [ensuring, BatchPhase.Open]) row stored
  rw [ensuring, BatchPhase.entries, List.append_nil] at listed
  obtain ⟨trace, member, rfl⟩ := List.mem_map.mp listed
  refine ⟨ofProject, trace, ?_, ofTrace, early⟩
  rw [ensuring]
  exact member

end

/-! ### All transactions -/

/-- No two open transactions, and no open one and the table, have an identity in
common. -/
structure SpansApart (spans : SpanTable) (transactions : List BatchTransaction) : Prop where
  nodup : ∀ index, ((pendingSpans transactions index).map SpanRow.primaryKey).Nodup
  new : ∀ index, ∀ row ∈ pendingSpans transactions index,
    row.primaryKey ∉ SpanTable.identities spans
  distinct : ∀ first second, first ≠ second → ∀ row ∈ pendingSpans transactions first,
    ∀ other ∈ pendingSpans transactions second, row.primaryKey ≠ other.primaryKey

/-- The owner of a row version is open and has ensured the trace from that
start. -/
def Owns (localInstant : Int → Int) (transactions : List BatchTransaction) (owner : Nat)
    (row : TraceRow) : Prop :=
  ∃ transaction, transactions[owner]? = some transaction ∧ transaction.phase.Open ∧
    row.projectId = transaction.projectId ∧
    ∃ trace ∈ transaction.phase.ensured, trace.traceId = row.id ∧
      trace.earliest.startedAt.toTimestamptz localInstant = row.startedAt

/-- What holds between the steps. -/
structure TelemetryState.Sound (localInstant : Int → Int) (state : TelemetryState) : Prop where
  transactions : ∀ transaction ∈ state.transactions, transaction.Sound localInstant
  owned : ∀ slot ∈ state.traces, ∀ owner row, slot.uncommitted = some (owner, row) →
    Owns localInstant state.transactions owner row
  moved : ∀ slot ∈ state.traces, ∀ owner row old, slot.uncommitted = some (owner, row) →
    slot.committed = some old → old.Of row.projectId row.id ∧ row.startedAt < old.startedAt
  apart : SpansApart state.spans state.transactions

/-- The batches of the run have aware starts. -/
def BatchAction.Aware : BatchAction → Prop
  | .beginBatch _ prepared => ∀ span ∈ prepared, span.startedAt.Aware
  | _ => True

section

variable {transactions : List BatchTransaction} {index : Nat}
  {transaction changed : BatchTransaction}

theorem getElem?_set_self (known : transactions[index]? = some transaction) :
    (transactions.set index changed)[index]? = some changed := by
  obtain ⟨inRange, -⟩ := List.getElem?_eq_some_iff.mp known
  rw [List.getElem?_set_self inRange]

theorem pendingSpans_of_known (known : transactions[index]? = some transaction) :
    pendingSpans transactions index = transaction.pendingRows := by
  rw [pendingSpans, known]
  rfl

theorem pendingSpans_set_other {other : Nat} (different : other ≠ index) :
    pendingSpans (transactions.set index changed) other = pendingSpans transactions other := by
  rw [pendingSpans, List.getElem?_set_ne (Ne.symm different), pendingSpans]

theorem pendingSpans_append (nothing : changed.pendingRows = []) (other : Nat) :
    pendingSpans (transactions ++ [changed]) other = pendingSpans transactions other := by
  rw [pendingSpans, pendingSpans]
  by_cases inRange : other < transactions.length
  · rw [List.getElem?_append_left inRange]
  · have atEnd : transactions.length ≤ other := by omega
    rw [List.getElem?_append_right atEnd, List.getElem?_eq_none atEnd]
    cases position : other - transactions.length with
    | zero => simpa using nothing
    | succ rest => simp

theorem pendingRows_of_closed (closed : ¬ transaction.phase.Open) :
    transaction.pendingRows = [] :=
  if_neg closed

theorem pendingRows_of_open (isOpen : transaction.phase.Open) :
    transaction.pendingRows = transaction.spanRows :=
  if_pos isOpen

theorem SpansApart.shrink {spans : SpanTable} {next : List BatchTransaction}
    (apart : SpansApart spans transactions)
    (fewer : ∀ index, (pendingSpans next index).Sublist (pendingSpans transactions index)) :
    SpansApart spans next where
  nodup := fun index => (apart.nodup index).sublist ((fewer index).map _)
  new := fun index row member => apart.new index row ((fewer index).subset member)
  distinct := fun first second different row member other otherMember =>
    apart.distinct first second different row ((fewer first).subset member) other
      ((fewer second).subset otherMember)

theorem SpansApart.set {spans : SpanTable} (apart : SpansApart spans transactions)
    (known : transactions[index]? = some transaction)
    (fewer : changed.pendingRows.Sublist transaction.pendingRows) :
    SpansApart spans (transactions.set index changed) := by
  refine apart.shrink fun other => ?_
  by_cases same : other = index
  · subst same
    rwa [pendingSpans_of_known (getElem?_set_self known), pendingSpans_of_known known]
  · rw [pendingSpans_set_other same]

/-- The rows of a transaction are new to the table when it commits. -/
theorem SpansApart.commit_rows {spans : SpanTable} (apart : SpansApart spans transactions)
    (known : transactions[index]? = some transaction) (isOpen : transaction.phase.Open) :
    (spans.insertAll transaction.spanRows).1.rows = spans.rows ++ transaction.spanRows := by
  have pending := (pendingSpans_of_known known).trans (pendingRows_of_open isOpen)
  have all : firstNew SpanRow.primaryKey (SpanTable.identities spans) transaction.spanRows =
      transaction.spanRows := by
    rw [firstNew_eq_self_iff, ← pending]
    exact ⟨apart.nodup index, apart.new index⟩
  rw [Table.insertAll_rows, insertAll_eq_firstNew]
  exact congrArg (spans.rows ++ ·) all

theorem SpansApart.commit {spans : SpanTable} (apart : SpansApart spans transactions)
    (known : transactions[index]? = some transaction) (isOpen : transaction.phase.Open)
    (closed : ¬ changed.phase.Open) :
    SpansApart (spans.insertAll transaction.spanRows).1 (transactions.set index changed) := by
  have pending := (pendingSpans_of_known known).trans (pendingRows_of_open isOpen)
  have shrunk : SpansApart spans (transactions.set index changed) :=
    apart.set known (by simp [pendingRows_of_closed closed])
  refine ⟨shrunk.nodup, fun other row member => ?_, shrunk.distinct⟩
  rw [SpanTable.identities, apart.commit_rows known isOpen, List.map_append, List.mem_append,
    not_or]
  refine ⟨shrunk.new other row member, fun committed => ?_⟩
  obtain ⟨own, ownMember, sameKey⟩ := List.mem_map.mp committed
  by_cases same : other = index
  · subst same
    rw [pendingSpans_of_known (getElem?_set_self known), pendingRows_of_closed closed] at member
    cases member
  · rw [pendingSpans_set_other same] at member
    exact apart.distinct other index same row member own (pending ▸ ownMember) sameKey.symm

theorem SpansApart.insert {localInstant : Int → Int} {spans : SpanTable}
    {prepared : List PreparedSpan} (apart : SpansApart spans transactions)
    (known : transactions[index]? = some transaction)
    (alone : ∀ span ∈ prepared, ∀ other ≠ index, ∀ row ∈ pendingSpans transactions other,
      row.primaryKey ≠ span.identity localInstant)
    (rows : changed.pendingRows =
      (storedSpans localInstant spans prepared).map (·.toRow localInstant)) :
    SpansApart spans (transactions.set index changed) := by
  have here : pendingSpans (transactions.set index changed) index =
      (storedSpans localInstant spans prepared).map (·.toRow localInstant) :=
    (pendingSpans_of_known (getElem?_set_self known)).trans rows
  have against : ∀ row ∈ pendingSpans (transactions.set index changed) index,
      ∀ other ≠ index, ∀ old ∈ pendingSpans transactions other,
        old.primaryKey ≠ row.primaryKey := by
    intro row member other different old oldMember
    rw [here] at member
    obtain ⟨span, stored, rfl⟩ := List.mem_map.mp member
    exact alone span ((firstNew_sublist _ _).subset stored) other different old oldMember
  constructor
  · intro other
    by_cases same : other = index
    · subst same
      rw [here, List.map_map]
      exact firstNew_nodup _ _
    · rw [pendingSpans_set_other same]
      exact apart.nodup other
  · intro other row member
    by_cases same : other = index
    · subst same
      rw [here] at member
      obtain ⟨span, stored, rfl⟩ := List.mem_map.mp member
      have new : span.identity localInstant ∉ SpanTable.identities spans :=
        not_mem_seen_of_mem_firstNew stored
      exact new
    · rw [pendingSpans_set_other same] at member
      exact apart.new other row member
  · intro first second different row member other otherMember
    by_cases firstHere : first = index
    · subst firstHere
      rw [pendingSpans_set_other (Ne.symm different)] at otherMember
      exact (against row member second (Ne.symm different) other otherMember).symm
    · rw [pendingSpans_set_other firstHere] at member
      by_cases secondHere : second = index
      · subst secondHere
        exact against other otherMember first firstHere row member
      · rw [pendingSpans_set_other secondHere] at otherMember
        exact apart.distinct first second different row member other otherMember

/-! ### Row versions -/

theorem Owns.append {localInstant : Int → Int} {owner : Nat} {row : TraceRow}
    (owns : Owns localInstant transactions owner row) (new : BatchTransaction) :
    Owns localInstant (transactions ++ [new]) owner row := by
  obtain ⟨transaction, known, rest⟩ := owns
  obtain ⟨inRange, -⟩ := List.getElem?_eq_some_iff.mp known
  exact ⟨transaction, (List.getElem?_append_left inRange).trans known, rest⟩

theorem Owns.set_other {localInstant : Int → Int} {owner : Nat} {row : TraceRow}
    (owns : Owns localInstant transactions owner row) (different : owner ≠ index) :
    Owns localInstant (transactions.set index changed) owner row := by
  obtain ⟨transaction, known, rest⟩ := owns
  exact ⟨transaction, (List.getElem?_set_ne (Ne.symm different)).trans known, rest⟩

/-- What the owner of a row version has ensured. -/
theorem Owns.of_known {localInstant : Int → Int} {row : TraceRow}
    (owns : Owns localInstant transactions index row)
    (known : transactions[index]? = some transaction) :
    transaction.phase.Open ∧ row.projectId = transaction.projectId ∧
      ∃ trace ∈ transaction.phase.ensured, trace.traceId = row.id ∧
        trace.earliest.startedAt.toTimestamptz localInstant = row.startedAt := by
  obtain ⟨owning, owningKnown, isOpen, ofProject, trace⟩ := owns
  rw [known, Option.some.injEq] at owningKnown
  subst owningKnown
  exact ⟨isOpen, ofProject, trace⟩

/-- A transaction that goes on keeps what it owns. -/
theorem Owns.set {localInstant : Int → Int} {owner : Nat} {row : TraceRow}
    (owns : Owns localInstant transactions owner row)
    (known : transactions[index]? = some transaction)
    (sameProject : changed.projectId = transaction.projectId) (isOpen : changed.phase.Open)
    (more : transaction.phase.ensured ⊆ changed.phase.ensured) :
    Owns localInstant (transactions.set index changed) owner row := by
  by_cases same : owner = index
  · subst same
    obtain ⟨-, ofProject, trace, ensured, sameTrace⟩ := owns.of_known known
    exact ⟨changed, getElem?_set_self known, isOpen, ofProject.trans sameProject.symm, trace,
      more ensured, sameTrace⟩
  · exact owns.set_other same

end

section

variable {localInstant : Int → Int} {state : TelemetryState} {index : Nat}
  {transaction : BatchTransaction}

/-- A version of a transaction starts with the earliest span of its trace. -/
theorem TelemetryState.Sound.version (sound : state.Sound localInstant)
    (known : state.transactions[index]? = some transaction) {slot : TraceSlot}
    (member : slot ∈ state.traces) {row : TraceRow}
    (held : slot.uncommitted = some (index, row)) :
    row.projectId = transaction.projectId ∧ ∃ trace ∈ transaction.phase.ensured,
      trace.traceId = row.id ∧
      trace.earliest.startedAt.toTimestamptz localInstant = row.startedAt :=
  ((sound.owned slot member _ _ held).of_known known).2

/-- A transaction that has not ensured the trace holds no version of its rows. -/
theorem TelemetryState.Sound.untouched (sound : state.Sound localInstant)
    (known : state.transactions[index]? = some transaction) {traceId : UUID}
    (notEnsured : ∀ trace ∈ transaction.phase.ensured, trace.traceId ≠ traceId)
    {slot : TraceSlot} (member : slot ∈ state.traces) {row : TraceRow}
    (held : slot.uncommitted = some (index, row)) : row.id ≠ traceId := by
  intro sameTrace
  obtain ⟨-, trace, ensured, ofRow, -⟩ := sound.version known member held
  exact notEnsured trace ensured (ofRow.trans sameTrace)

/-- A commit leaves every committed row in place, or a version of it that starts
earlier. -/
theorem TelemetryState.Sound.committed_after (sound : state.Sound localInstant)
    {slot : TraceSlot} (member : slot ∈ state.traces) {row : TraceRow}
    (known : slot.committed = some row) (writer : Nat) :
    ∃ after, (slot.commit writer).committed = some after ∧ after.Of row.projectId row.id ∧
      after.startedAt ≤ row.startedAt := by
  rcases slot.held_or_untouched writer with ⟨version, held⟩ | untouched
  · rw [Slot.commit_of_held held]
    obtain ⟨ofTrace, earlier⟩ := sound.moved slot member writer version row held known
    exact ⟨version, rfl, ⟨ofTrace.1.symm, ofTrace.2.symm⟩, le_of_lt earlier⟩
  · rw [Slot.commit_of_untouched untouched]
    exact ⟨row, known, ⟨rfl, rfl⟩, le_refl _⟩

/-- Before it writes to a trace, a transaction sees the committed row. -/
theorem TelemetryState.Sound.visible_eq (sound : state.Sound localInstant)
    (known : state.transactions[index]? = some transaction) {traceId : UUID}
    (notEnsured : ∀ trace ∈ transaction.phase.ensured, trace.traceId ≠ traceId)
    {slot : TraceSlot} (member : slot ∈ state.traces) {row : TraceRow}
    (visible : slot.visible index = some row) (ofTrace : row.id = traceId) :
    slot.committed = some row ∧ ∀ version, slot.uncommitted ≠ some (index, version) := by
  have notHeld : ∀ version, slot.uncommitted ≠ some (index, version) := by
    intro version held
    have different := sound.untouched known notEnsured member held
    simp only [Slot.visible, held, if_true, Option.some.injEq] at visible
    exact different (visible ▸ ofTrace)
  rw [Slot.visible_of_untouched notHeld] at visible
  exact ⟨visible, notHeld⟩

/-- The `UPDATE` writes the target and leaves every other row. -/
theorem TraceSlot.move_cases (writer : Nat) (projectId traceId : UUID) (existing startedAt : Int)
    (slot : TraceSlot) :
    (∃ row, slot.visible writer = some row ∧ row.Of projectId traceId ∧
        row.startedAt = existing ∧ slot.move writer projectId traceId existing startedAt =
          slot.write writer { row with startedAt := startedAt }) ∨
      (slot.isTarget writer projectId traceId existing = false ∧
        slot.move writer projectId traceId existing startedAt = slot) := by
  unfold TraceSlot.move TraceSlot.isTarget
  cases visible : slot.visible writer with
  | none => exact Or.inr ⟨rfl, rfl⟩
  | some row =>
      by_cases starts : row.startsAt projectId traceId existing = true
      · obtain ⟨own, start⟩ := startsAt_iff.mp starts
        exact Or.inl ⟨row, rfl, own, start, if_pos starts⟩
      · exact Or.inr ⟨by simpa using starts, if_neg starts⟩

@[simp] theorem TraceSlot.move_committed (writer : Nat) (projectId traceId : UUID)
    (existing startedAt : Int) (slot : TraceSlot) :
    (slot.move writer projectId traceId existing startedAt).committed = slot.committed := by
  rcases slot.move_cases writer projectId traceId existing startedAt with
    ⟨row, _, _, _, moves⟩ | ⟨_, stays⟩
  · rw [moves]
    rfl
  · rw [stays]

theorem isTarget_of_visible {writer : Nat} {projectId traceId : UUID} {existing : Int}
    {slot : TraceSlot} {row : TraceRow} (visible : slot.visible writer = some row)
    (own : row.Of projectId traceId) (start : row.startedAt = existing) :
    slot.isTarget writer projectId traceId existing = true := by
  rw [TraceSlot.isTarget, visible, Option.any_some]
  exact startsAt_iff.mpr ⟨own, start⟩

end

/-! ### Every step -/

section

variable {localInstant : Int → Int} {interval : ℚ → Int} {state : TelemetryState} {index : Nat}
  {transaction : BatchTransaction}

theorem sound_of_known (sound : state.Sound localInstant)
    (known : state.transactions[index]? = some transaction) :
    transaction.Sound localInstant :=
  sound.transactions transaction (List.mem_of_getElem? known)

theorem TelemetryState.Sound.transactions_set (sound : state.Sound localInstant)
    {changed : BatchTransaction} (changedSound : changed.Sound localInstant) :
    ∀ other ∈ state.transactions.set index changed, other.Sound localInstant := by
  intro other member
  rcases List.mem_or_eq_of_mem_set member with old | rfl
  · exact sound.transactions other old
  · exact changedSound

/-- A step that changes one transaction and no row. -/
theorem TelemetryState.Sound.setTransaction (sound : state.Sound localInstant)
    (known : state.transactions[index]? = some transaction) {changed : BatchTransaction}
    (changedSound : changed.Sound localInstant)
    (sameProject : changed.projectId = transaction.projectId) (isOpen : changed.phase.Open)
    (more : transaction.phase.ensured ⊆ changed.phase.ensured)
    (apart : SpansApart state.spans (state.transactions.set index changed)) :
    (state.setTransaction index changed).Sound localInstant where
  transactions := sound.transactions_set changedSound
  owned := fun slot member owner row held =>
    (sound.owned slot member owner row held).set known sameProject isOpen more
  moved := sound.moved
  apart := apart

theorem TelemetryState.Sound.rollback (sound : state.Sound localInstant)
    (known : state.transactions[index]? = some transaction) :
    (state.rollback index transaction).Sound localInstant where
  transactions :=
    sound.transactions_set ((sound_of_known sound known).close (by simp [BatchPhase.Open]))
  owned := by
    intro slot member owner row held
    obtain ⟨old, oldMember, rfl⟩ := List.mem_map.mp member
    obtain ⟨different, oldHeld⟩ := (old.rollback_spec index).2 owner row held
    exact (sound.owned old oldMember owner row oldHeld).set_other different
  moved := by
    intro slot member owner row committed held known
    obtain ⟨old, oldMember, rfl⟩ := List.mem_map.mp member
    obtain ⟨-, oldHeld⟩ := (old.rollback_spec index).2 owner row held
    rw [(old.rollback_spec index).1] at known
    exact sound.moved old oldMember owner row committed oldHeld known
  apart := sound.apart.set known (by simp [BatchTransaction.pendingRows, BatchPhase.Open])

/-- A step that changes one transaction behind its commit. -/
theorem TelemetryState.Sound.commit (sound : state.Sound localInstant)
    (known : state.transactions[index]? = some transaction) (isOpen : transaction.phase.Open)
    (starts : List (UUID × Datetime)) :
    TelemetryState.Sound localInstant { state with
      spans := (state.spans.insertAll transaction.spanRows).1
      traces := state.traces.map (·.commit index)
      transactions := state.transactions.set index
        { transaction with phase := .committed starts } } where
  transactions :=
    sound.transactions_set ((sound_of_known sound known).close (by simp [BatchPhase.Open]))
  owned := by
    intro slot member owner row held
    obtain ⟨old, oldMember, rfl⟩ := List.mem_map.mp member
    obtain ⟨different, oldHeld⟩ := Slot.commit_uncommitted held
    exact (sound.owned old oldMember owner row oldHeld).set_other different
  moved := by
    intro slot member owner row committed held known
    obtain ⟨old, oldMember, rfl⟩ := List.mem_map.mp member
    obtain ⟨different, oldHeld⟩ := Slot.commit_uncommitted held
    rw [Slot.commit_of_untouched (Slot.untouched_of_held oldHeld different)] at known
    exact sound.moved old oldMember owner row committed oldHeld known
  apart := sound.apart.commit known isOpen (by simp [BatchPhase.Open])

/-- What the write of `ensure_trace_row` leaves of the row versions. -/
theorem TelemetryState.Sound.write (sound : state.Sound localInstant)
    (known : state.transactions[index]? = some transaction) {ensured : List EnsuredTrace}
    {traceId : UUID} {span : PreparedSpan} {plan : TracePlan}
    {remaining : List (UUID × PreparedSpan)} {traces : List TraceSlot}
    (writing : transaction.phase = .writing ensured traceId span plan remaining)
    (leaves : TraceWrites localInstant index transaction.projectId traceId span plan
      state.traces traces) :
    TelemetryState.Sound localInstant { state with
      traces := traces
      transactions := state.transactions.set index { transaction with
        phase := .ensuring (ensured ++ [⟨traceId, span, span.startedAt⟩]) remaining } } := by
  have own := sound_of_known sound known
  have isOpen : transaction.phase.Open := by simp [BatchPhase.Open, writing]
  have ensuredEq : transaction.phase.ensured = ensured := by rw [writing]; rfl
  have notEnsured := own.not_ensured writing
  have changedSound : BatchTransaction.Sound localInstant { transaction with
      phase := .ensuring (ensured ++ [⟨traceId, span, span.startedAt⟩]) remaining } := by
    refine own.advance isOpen ?_ (by simp) ?_ (by simp)
    · simp [BatchPhase.entries, writing]
    · intro trace member
      rcases List.mem_append.mp member with old | new
      · exact own.stable trace (ensuredEq ▸ old)
      · rw [List.mem_singleton.mp new]
  have base := sound.setTransaction known changedSound rfl trivial
    (by rw [ensuredEq]; exact List.subset_append_left _ _)
    (sound.apart.set known (by simp [BatchTransaction.pendingRows, BatchPhase.Open, writing]))
  have ownsNew : ∀ row : TraceRow, row.Of transaction.projectId traceId →
      row.startedAt = span.startedAt.toTimestamptz localInstant →
      Owns localInstant (state.transactions.set index { transaction with
        phase := .ensuring (ensured ++ [⟨traceId, span, span.startedAt⟩]) remaining })
        index row := by
    intro row ofRow start
    exact ⟨_, getElem?_set_self known, trivial, ofRow.1, ⟨traceId, span, span.startedAt⟩,
      List.mem_append_right _ (List.mem_singleton_self _), ofRow.2.symm, start.symm⟩
  cases leaves with
  | skipped stored sameKey => exact base
  | missed gone => exact base
  | inserted alone new =>
      refine ⟨base.transactions, ?_, ?_, base.apart⟩
      · intro slot member owner row held
        rcases List.mem_append.mp member with old | isNew
        · exact base.owned slot old owner row held
        · rw [List.mem_singleton.mp isNew, Option.some.injEq, Prod.mk.injEq] at held
          obtain ⟨rfl, rfl⟩ := held
          exact ownsNew _ ⟨rfl, rfl⟩ rfl
      · intro slot member owner row committed held committedKnown
        rcases List.mem_append.mp member with old | isNew
        · exact base.moved slot old owner row committed held committedKnown
        · rw [List.mem_singleton.mp isNew] at committedKnown
          cases committedKnown
  | @moved _ existing free =>
      have later := own.moves ensured traceId span existing remaining writing
      refine ⟨base.transactions, ?_, ?_, base.apart⟩
      · intro slot member owner row held
        obtain ⟨old, oldMember, rfl⟩ := List.mem_map.mp member
        rcases old.move_cases index transaction.projectId traceId existing
          (span.startedAt.toTimestamptz localInstant) with
          ⟨target, visible, ofTarget, start, moves⟩ | ⟨-, stays⟩
        · rw [moves] at held
          obtain ⟨rfl, rfl⟩ := Slot.write_uncommitted held
          exact ownsNew _ ofTarget rfl
        · rw [stays] at held
          exact base.owned old oldMember owner row held
      · intro slot member owner row committed held committedKnown
        obtain ⟨old, oldMember, rfl⟩ := List.mem_map.mp member
        rw [TraceSlot.move_committed] at committedKnown
        rcases old.move_cases index transaction.projectId traceId existing
          (span.startedAt.toTimestamptz localInstant) with
          ⟨target, visible, ofTarget, start, moves⟩ | ⟨-, stays⟩
        · rw [moves] at held
          obtain ⟨rfl, rfl⟩ := Slot.write_uncommitted held
          obtain ⟨targetCommitted, -⟩ :=
            sound.visible_eq known notEnsured oldMember visible ofTarget.2
          rw [targetCommitted, Option.some.injEq] at committedKnown
          subst committedKnown
          exact ⟨⟨rfl, rfl⟩, start ▸ later⟩
        · rw [stays] at held
          exact base.moved old oldMember owner row committed held committedKnown

theorem AggregateTask.update_uncommitted (task : AggregateTask) (spans : SpanTable)
    (slot : TraceSlot) : (task.update interval spans slot).uncommitted = slot.uncommitted := by
  unfold AggregateTask.update
  split <;> rfl

theorem AggregateTask.update_committed {task : AggregateTask} {spans : SpanTable}
    {slot : TraceSlot} {row : TraceRow}
    (known : (task.update interval spans slot).committed = some row) :
    ∃ before, slot.committed = some before ∧
      (∀ projectId traceId, row.Of projectId traceId = before.Of projectId traceId) ∧
      row.startedAt = before.startedAt := by
  unfold AggregateTask.update at known
  split at known
  · obtain ⟨before, beforeKnown, rfl⟩ := Option.map_eq_some_iff.mp known
    exact ⟨before, beforeKnown, fun _ _ => rfl, rfl⟩
  · exact ⟨row, known, fun _ _ => rfl, rfl⟩

theorem AggregateTask.update_of_committed (task : AggregateTask) (spans : SpanTable)
    {slot : TraceSlot} {row : TraceRow} (known : slot.committed = some row) :
    ∃ after, (task.update interval spans slot).committed = some after ∧
      (∀ projectId traceId, after.Of projectId traceId = row.Of projectId traceId) ∧
      after.startedAt = row.startedAt := by
  unfold AggregateTask.update
  split
  · refine ⟨row.withAggregates (task.values interval spans), ?_, fun _ _ => rfl, rfl⟩
    rw [known]
    rfl
  · exact ⟨row, known, fun _ _ => rfl, rfl⟩

/-- A transaction of a longer list, or the new one. -/
theorem getElem?_concat_cases {transactions : List BatchTransaction} {new : BatchTransaction}
    {other : Nat} (known : (transactions ++ [new])[other]? = some transaction) :
    transactions[other]? = some transaction ∨ transaction = new := by
  by_cases inRange : other < transactions.length
  · rw [List.getElem?_append_left inRange] at known
    exact Or.inl known
  · have atEnd : transactions.length ≤ other := by omega
    rw [List.getElem?_append_right atEnd] at known
    exact Or.inr (List.mem_singleton.mp (List.mem_of_getElem? known))

theorem sound_initial : TelemetryState.initial.Sound localInstant where
  transactions := by intro transaction member; cases member
  owned := by intro slot member; cases member
  moved := by intro slot member; cases member
  apart := by
    constructor
    · intro index
      exact List.nodup_nil
    · intro index row member
      cases member
    · intro first second different row member
      cases member

theorem TelemetryState.Sound.beginBatch (sound : state.Sound localInstant) {projectId : UUID}
    {prepared : List PreparedSpan} (aware : ∀ span ∈ prepared, span.startedAt.Aware)
    (ofProject : ∀ span ∈ prepared, span.projectId = projectId) :
    TelemetryState.Sound localInstant { state with
      transactions := state.transactions ++ [⟨projectId, prepared, [], .started⟩] } where
  transactions := by
    intro other member
    rcases List.mem_append.mp member with old | new
    · exact sound.transactions other old
    · rw [List.mem_singleton.mp new]
      exact sound_started aware ofProject
  owned := fun slot member owner row held => (sound.owned slot member owner row held).append _
  moved := sound.moved
  apart := by
    apply sound.apart.shrink
    intro other
    rw [pendingSpans_append (by simp [BatchTransaction.pendingRows, BatchPhase.Open]) other]

theorem TelemetryState.Sound.insertSpans (sound : state.Sound localInstant)
    (known : state.transactions[index]? = some transaction)
    (started : transaction.phase = .started) {traceMap : List (UUID × PreparedSpan)}
    (alone : ∀ span ∈ transaction.prepared,
      ¬ state.holdsIdentity index (span.identity localInstant))
    (built : buildTraceMap (recognisedSpans localInstant state.spans transaction.prepared) =
      .ok traceMap) :
    (state.setTransaction index { transaction with
      spanRows := (storedSpans localInstant state.spans transaction.prepared).map
        (·.toRow localInstant)
      phase := .ensuring [] traceMap }).Sound localInstant := by
  have rows : BatchTransaction.pendingRows { transaction with
      spanRows := (storedSpans localInstant state.spans transaction.prepared).map
        (·.toRow localInstant)
      phase := .ensuring [] traceMap } =
        (storedSpans localInstant state.spans transaction.prepared).map
          (·.toRow localInstant) := rfl
  apply sound.setTransaction known ((sound_of_known sound known).insert built) rfl trivial
  · simp [started, BatchPhase.ensured]
  · apply sound.apart.insert known _ rows
    intro span member other different row pending same
    apply alone span member
    have inRange : other < state.transactions.length := by
      by_contra outOfRange
      rw [pendingSpans, List.getElem?_eq_none (not_lt.mp outOfRange)] at pending
      cases pending
    exact ⟨other, inRange, different, row, pending, same⟩

/-- The step after a `SELECT` that neither writes nor ends the transaction. -/
theorem TelemetryState.Sound.goOn (sound : state.Sound localInstant)
    (known : state.transactions[index]? = some transaction) (isOpen : transaction.phase.Open)
    {phase : BatchPhase} (phaseOpen : phase.Open) (notStarted : phase ≠ .started)
    (entries : phase.entries = transaction.phase.entries)
    (more : transaction.phase.ensured ⊆ phase.ensured)
    (stable : ∀ trace ∈ phase.ensured, trace.stableStart.toTimestamptz localInstant ≤
      trace.earliest.startedAt.toTimestamptz localInstant)
    (moves : ∀ ensured traceId span existing remaining,
      phase = .writing ensured traceId span (.move existing) remaining →
        span.startedAt.toTimestamptz localInstant < existing) :
    (state.setTransaction index { transaction with phase := phase }).Sound localInstant := by
  have changedSound : BatchTransaction.Sound localInstant { transaction with phase := phase } :=
    (sound_of_known sound known).advance isOpen entries notStarted stable moves
  have changedOpen : BatchPhase.Open { transaction with phase := phase }.phase := phaseOpen
  have rows : BatchTransaction.pendingRows { transaction with phase := phase } =
      transaction.pendingRows := by
    rw [pendingRows_of_open isOpen, pendingRows_of_open changedOpen]
  apply sound.setTransaction known changedSound rfl changedOpen more
  apply sound.apart.set known
  rw [rows]

/-- A step of a transaction that has ended. -/
theorem TelemetryState.Sound.closed (sound : state.Sound localInstant)
    (known : state.transactions[index]? = some transaction) (closed : ¬ transaction.phase.Open)
    {phase : BatchPhase} (stillClosed : ¬ phase.Open) (tasks : List AggregateTask) :
    TelemetryState.Sound localInstant { state with
      aggregateTasks := tasks
      transactions := state.transactions.set index { transaction with phase := phase } } where
  transactions := sound.transactions_set ((sound_of_known sound known).close stillClosed)
  owned := by
    intro slot member owner row held
    have owns := sound.owned slot member owner row held
    apply owns.set_other
    rintro rfl
    exact closed (owns.of_known known).1
  moved := sound.moved
  apart := by
    apply sound.apart.set known
    have changedClosed : ¬ BatchPhase.Open { transaction with phase := phase }.phase := stillClosed
    rw [pendingRows_of_closed changedClosed]
    exact List.nil_sublist _

/-- An aggregate task changes no key and no version of an open transaction. -/
theorem TelemetryState.Sound.aggregate (sound : state.Sound localInstant) (task : AggregateTask) :
    TelemetryState.Sound localInstant { state with
      traces := state.traces.map (task.update interval state.spans)
      aggregateTasks := state.aggregateTasks.erase task } where
  transactions := sound.transactions
  owned := by
    intro slot member owner row held
    obtain ⟨old, oldMember, rfl⟩ := List.mem_map.mp member
    rw [AggregateTask.update_uncommitted] at held
    exact sound.owned old oldMember owner row held
  moved := by
    intro slot member owner row committed held known
    obtain ⟨old, oldMember, rfl⟩ := List.mem_map.mp member
    rw [AggregateTask.update_uncommitted] at held
    obtain ⟨before, beforeKnown, ofRow, start⟩ := AggregateTask.update_committed known
    rw [ofRow, start]
    exact sound.moved old oldMember owner row before held beforeKnown
  apart := sound.apart

/-- What has not ended keeps its invariants through every step of a run with aware
starts. -/
theorem sound_step (sound : state.Sound localInstant) {action : BatchAction}
    (aware : action.Aware) {next : TelemetryState}
    (stepped : BatchStep localInstant interval state action next) : next.Sound localInstant := by
  cases stepped with
  | began ofProject => exact sound.beginBatch aware ofProject
  | inserted known started alone built => exact sound.insertSpans known started alone built
  | @kept index transaction ensured traceId span remaining existing known ensuring plans =>
      have own := sound_of_known sound known
      have spanAware : span.startedAt.Aware := by
        apply own.entryAware (traceId, span)
        simp [ensuring, BatchPhase.entries]
      have isOpen : transaction.phase.Open := by simp [ensuring, BatchPhase.Open]
      have goesOn : BatchPhase.Open
          (.ensuring (ensured ++ [⟨traceId, span, .utc existing⟩]) remaining) := trivial
      apply sound.goOn known isOpen goesOn (by simp)
      · simp [ensuring, BatchPhase.entries]
      · simp [ensuring, BatchPhase.ensured]
      · intro trace member
        rcases List.mem_append.mp member with old | new
        · apply own.stable
          rw [ensuring]
          exact old
        · rw [List.mem_singleton.mp new, Datetime.toTimestamptz_utc]
          exact (plan_of_aware spanAware plans).1 existing rfl
      · intros
        contradiction
  | @planned index transaction ensured traceId span remaining plan known ensuring plans =>
      have own := sound_of_known sound known
      have spanAware : span.startedAt.Aware := by
        apply own.entryAware (traceId, span)
        simp [ensuring, BatchPhase.entries]
      have isOpen : transaction.phase.Open := by simp [ensuring, BatchPhase.Open]
      have goesOn : BatchPhase.Open (.writing ensured traceId span plan remaining) := trivial
      apply sound.goOn known isOpen goesOn (by simp)
      · simp [ensuring, BatchPhase.entries]
      · simp [ensuring, BatchPhase.ensured]
      · intro trace member
        apply own.stable
        rw [ensuring]
        exact member
      · intro _ _ _ existing _ same
        cases same
        exact (plan_of_aware spanAware plans).2 existing rfl
  | wrote known writing leaves => exact sound.write known writing leaves
  | rolledBack known isOpen => exact sound.rollback known
  | committed known ensuring =>
      exact sound.commit known (by simp [ensuring, BatchPhase.Open]) _
  | @enqueued index transaction traceId startedAt starts known committed =>
      have closed : ¬ transaction.phase.Open := by simp [committed, BatchPhase.Open]
      exact sound.closed known closed (by simp [BatchPhase.Open]) _
  | aggregated queued unlocked => exact sound.aggregate _

end

end LlmObs.Backend
