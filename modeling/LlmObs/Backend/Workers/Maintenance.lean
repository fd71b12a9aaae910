import Mathlib.Data.List.Sort
import LlmObs.Backend.Workers.ProcessSpan
import LlmObs.Foundation.Loop

/-!
Owns the data retention of one project: the loop of `run_data_retention` with
its batches of expired spans, the deletion of their payload objects and of their
rows, and the deletion of stale traces behind it. The object store answers each
call or raises; other transactions may delete rows at any time. Logs are left
out.
-/

namespace LlmObs.Backend

open LlmObs.Foundation

def retentionBatchSize : Nat := 1000
def s3DeleteBatchSize : Nat := 1000

/-- `now - timedelta(days=retention_days)` -/
def retentionCutoff (now : Int) (retentionDays : Nat) : Int :=
  now - retentionDays * (24 * 60 * microsecondsPerMinute)

/-- `_is_project_payload_key` -/
def isProjectPayloadKey (projectId : UUID) (key : String) : Bool :=
  ("payloads/" ++ projectId.str ++ "/").toList.isPrefixOf key.toList

/-! ### Deleting payload objects -/

/-- How one call of `delete_objects` ends. -/
inductive DeleteAnswer where
  /-- With a response whose errors name these keys. -/
  | answered (errorKeys : List String)
  /-- With an exception, after some objects were removed. -/
  | raised (removed : String → Bool)

structure DeleteCall where
  batch : List String
  answer : DeleteAnswer

/-- `successful_keys`; an empty key names no object. -/
def DeleteCall.successfulKeys (call : DeleteCall) : List String :=
  match call.answer with
  | .answered errorKeys =>
      let failedKeys := errorKeys.filter (· ≠ "")
      call.batch.filter fun key => key ∉ failedKeys
  | .raised _ => []

/-- The objects that a call removes; each error names the key it is about. -/
def DeleteCall.removes (call : DeleteCall) (key : String) : Bool :=
  decide (key ∈ call.batch) &&
    match call.answer with
    | .answered errorKeys => decide (key ∉ errorKeys)
    | .raised removed => removed key

/-- `batch` for `i in range(0, len(keys), S3_DELETE_BATCH_SIZE)`. -/
def deleteBatches (keys : List String) : List (List String) :=
  (List.range ((keys.length + (s3DeleteBatchSize - 1)) / s3DeleteBatchSize)).map fun index =>
    (keys.drop (index * s3DeleteBatchSize)).take s3DeleteBatchSize

/-- The calls of the loop over the batches; one that raises is the last. -/
def deleteCalls (answer : Nat → DeleteAnswer) : Nat → List (List String) → List DeleteCall
  | _, [] => []
  | index, batch :: rest =>
      match answer index with
      | .answered errorKeys =>
          ⟨batch, .answered errorKeys⟩ :: deleteCalls answer (index + 1) rest
      | .raised removed => [⟨batch, .raised removed⟩]

/-- `_delete_s3_objects`: the calls it makes. -/
def deleteS3Objects (projectId : UUID) (answer : Nat → DeleteAnswer) (s3Keys : List String) :
    List DeleteCall :=
  deleteCalls answer 0 (deleteBatches (s3Keys.filter (isProjectPayloadKey projectId)))

/-- `deleted_keys`, which `_delete_s3_objects` returns. -/
def deletedKeys (calls : List DeleteCall) : List String :=
  calls.flatMap (·.successfulKeys)

/-- The objects that the calls leave. -/
def objectsAfter (calls : List DeleteCall) (objects : ObjectStore) : ObjectStore :=
  fun key => if calls.any (·.removes key) then none else objects key

/-! ### Deleting rows -/

/-- `row.get("payload_s3_key")`, unless it is falsy. -/
def SpanRow.payloadKey? (row : SpanRow) : Option String :=
  row.payloadS3Key.filter (· ≠ "")

def SpanRow.expired (projectId : UUID) (cutoff : Int) (row : SpanRow) : Bool :=
  decide (row.projectId = projectId) && decide (row.startedAt < cutoff)

/-- `_fetch_retention_batch`, over the rows in the order of its scan. -/
def fetchRetentionBatch (projectId : UUID) (cutoff : Int) (rows : List SpanRow) :
    List SpanRow :=
  ((rows.filter (SpanRow.expired projectId cutoff)).insertionSort
    fun left right => left.startedAt ≤ right.startedAt).take retentionBatchSize

/-- Whether `span_keys_to_delete` has the key of a fetched row. -/
def SpanRow.deletable (projectId : UUID) (deletedPayloadKeys : List String) (row : SpanRow) :
    Bool :=
  match SpanRow.payloadKey? row with
  | none => true
  | some key => decide (key ∈ deletedPayloadKeys) || !isProjectPayloadKey projectId key

/-- The rows that the statement of `_delete_span_batch` selects. -/
def SpanRow.selectedBy (projectId : UUID) (spanKeys : List (UUID × Int)) (row : SpanRow) :
    Bool :=
  decide (row.projectId = projectId) && decide (SpanRow.primaryKey row ∈ spanKeys)

/-- `_delete_span_batch`: the table, and the rows that `rowcount` counts. -/
def deleteSpanBatch (projectId : UUID) (spanKeys : List (UUID × Int)) (spans : SpanTable) :
    SpanTable × List SpanRow :=
  (spans.deleteWhere (SpanRow.selectedBy projectId spanKeys),
    spans.rows.filter (SpanRow.selectedBy projectId spanKeys))

/-! ### The loop of one project -/

/-- What the surroundings do during one run, by the round of its loop. -/
structure RetentionEnv where
  /-- The order in which the fetch meets the rows. -/
  scanOrder : Nat → List SpanRow → List SpanRow
  scanOrder_perm : ∀ round rows, (scanOrder round rows).Perm rows
  /-- How the calls of `delete_objects` end. -/
  answer : Nat → Nat → DeleteAnswer
  /-- The rows that others delete before the fetch. -/
  lostBeforeFetch : Nat → SpanRow → Bool
  /-- The rows that others delete between the fetch and the delete. -/
  lostBeforeDelete : Nat → SpanRow → Bool

/-- What one round with a batch did. -/
structure RetentionRound where
  batch : List SpanRow
  calls : List DeleteCall
  deleted : List SpanRow

/-- The data of a run and its rounds so far, the last one first. -/
structure RetentionState where
  spans : SpanTable
  objects : ObjectStore
  rounds : List RetentionRound

/-- The body of `while True`; `done` is `break`. -/
def retentionRound (env : RetentionEnv) (projectId : UUID) (cutoff : Int)
    (state : RetentionState) : Round RetentionState RetentionState :=
  let round := state.rounds.length
  let spans := state.spans.deleteWhere (env.lostBeforeFetch round)
  let batch := fetchRetentionBatch projectId cutoff (env.scanOrder round spans.rows)
  if batch.isEmpty then .done { state with spans := spans }
  else
    let payloadKeys := batch.filterMap SpanRow.payloadKey?
    let calls := deleteS3Objects projectId (env.answer round) payloadKeys
    let spanKeysToDelete :=
      (batch.filter (SpanRow.deletable projectId (deletedKeys calls))).map SpanRow.primaryKey
    let (spans, deleted) := deleteSpanBatch projectId spanKeysToDelete
      (spans.deleteWhere (env.lostBeforeDelete round))
    let next : RetentionState :=
      ⟨spans, objectsAfter calls state.objects, ⟨batch, calls, deleted⟩ :: state.rounds⟩
    if deleted.isEmpty then .done next else .again next

/-- The loop of `run_data_retention` for one project. -/
def retentionLoop (env : RetentionEnv) (projectId : UUID) (cutoff : Int) (fuel : Nat)
    (state : RetentionState) : Option RetentionState :=
  Round.loop (retentionRound env projectId cutoff) fuel state

/-- `_delete_stale_traces` -/
def deleteStaleTraces (projectId : UUID) (cutoff : Int) (spans : SpanTable)
    (traces : TraceTable) : TraceTable :=
  traces.deleteWhere fun trace =>
    decide (trace.projectId = projectId) && decide (trace.startedAt < cutoff) &&
      !(spans.rows.any fun span =>
        decide (span.projectId = trace.projectId) && decide (span.traceId = trace.id))

/-- What `run_data_retention` does for one project: the loop, and the stale traces. -/
def runProjectRetention (env : RetentionEnv) (projectId : UUID) (cutoff : Int)
    (world : World) : Option World :=
  (retentionLoop env projectId cutoff (world.db.spans.rows.length + 1)
      ⟨world.db.spans, world.objects, []⟩).map fun final =>
    { world with
      objects := final.objects
      db := { world.db with
        spans := final.spans
        traces := deleteStaleTraces projectId cutoff final.spans world.db.traces } }

/-! ### What the calls confirm -/

/-- The call was answered without an error for an object that it asked to delete. -/
def DeleteCall.Confirms (call : DeleteCall) (key : String) : Prop :=
  key ∈ call.batch ∧ ∃ errorKeys, call.answer = .answered errorKeys ∧ key ∉ errorKeys

theorem ne_empty_of_isProjectPayloadKey {projectId : UUID} {key : String}
    (under : isProjectPayloadKey projectId key = true) : key ≠ "" := by
  rintro rfl
  simp [isProjectPayloadKey] at under

theorem DeleteCall.confirms_of_successful {call : DeleteCall} {key : String}
    (named : key ≠ "") (successful : key ∈ call.successfulKeys) : call.Confirms key := by
  obtain ⟨batch, answer⟩ := call
  cases answer with
  | answered errorKeys =>
      simp only [successfulKeys, List.mem_filter, decide_eq_true_eq, not_and] at successful
      exact ⟨successful.1, errorKeys, rfl, fun failed => successful.2 failed (by simpa using named)⟩
  | raised removed => simp [successfulKeys] at successful

theorem DeleteCall.removes_of_confirms {call : DeleteCall} {key : String}
    (confirmed : call.Confirms key) : call.removes key = true := by
  obtain ⟨asked, errorKeys, answered, unfailed⟩ := confirmed
  simp [removes, asked, answered, unfailed]

/-- A row that is deleted although its payload lies under the prefix of the project
had the deletion of the object confirmed. -/
theorem confirmed_of_deletable {projectId : UUID} {calls : List DeleteCall} {row : SpanRow}
    {key : String} (deletable : SpanRow.deletable projectId (deletedKeys calls) row = true)
    (stored : row.payloadS3Key = some key) (under : isProjectPayloadKey projectId key = true) :
    ∃ call ∈ calls, call.Confirms key := by
  have named := ne_empty_of_isProjectPayloadKey under
  have payloadKey : SpanRow.payloadKey? row = some key := by
    simp [SpanRow.payloadKey?, stored, named]
  simp only [SpanRow.deletable, payloadKey, under, Bool.not_true, Bool.or_false,
    decide_eq_true_eq, deletedKeys, List.mem_flatMap] at deletable
  obtain ⟨call, made, successful⟩ := deletable
  exact ⟨call, made, DeleteCall.confirms_of_successful named successful⟩

theorem DeleteCall.mem_batch_of_removes {call : DeleteCall} {key : String}
    (removed : call.removes key = true) : key ∈ call.batch := by
  simp only [removes, Bool.and_eq_true, decide_eq_true_eq] at removed
  exact removed.1

theorem mem_of_mem_deleteBatches {keys batch : List String} {key : String}
    (cut : batch ∈ deleteBatches keys) (member : key ∈ batch) : key ∈ keys := by
  obtain ⟨index, -, rfl⟩ := List.mem_map.mp cut
  exact List.mem_of_mem_drop (List.mem_of_mem_take member)

theorem batch_mem_of_mem_deleteCalls {answer : Nat → DeleteAnswer} {index : Nat}
    {batches : List (List String)} {call : DeleteCall}
    (made : call ∈ deleteCalls answer index batches) : call.batch ∈ batches := by
  induction batches generalizing index with
  | nil => cases made
  | cons batch rest inductionHypothesis =>
      simp only [deleteCalls] at made
      split at made
      · rcases List.mem_cons.mp made with rfl | later
        · exact List.mem_cons_self ..
        · exact List.mem_cons_of_mem _ (inductionHypothesis later)
      · rw [List.mem_singleton.mp made]
        exact List.mem_cons_self ..

/-- The calls ask for keys of the project only. -/
theorem mem_of_mem_deleteS3Objects {projectId : UUID} {answer : Nat → DeleteAnswer}
    {s3Keys : List String} {call : DeleteCall} {key : String}
    (made : call ∈ deleteS3Objects projectId answer s3Keys) (asked : key ∈ call.batch) :
    key ∈ s3Keys ∧ isProjectPayloadKey projectId key = true :=
  List.mem_filter.mp (mem_of_mem_deleteBatches (batch_mem_of_mem_deleteCalls made) asked)

/-! ### What a round does -/

theorem mem_fetchRetentionBatch {projectId : UUID} {cutoff : Int} {rows : List SpanRow}
    {row : SpanRow} (fetched : row ∈ fetchRetentionBatch projectId cutoff rows) :
    row ∈ rows ∧ row.expired projectId cutoff = true := by
  have sorted := List.mem_of_mem_take fetched
  rw [(List.perm_insertionSort _ _).mem_iff, List.mem_filter] at sorted
  exact sorted

/-- The rows that a delete by primary key meets are rows that were fetched. -/
theorem fetched_of_selected {projectId : UUID} {fetched : List SpanRow} {spans : SpanTable}
    {row : SpanRow} (subset : ∀ other ∈ fetched, other ∈ spans.rows) (stored : row ∈ spans.rows)
    (selected : SpanRow.selectedBy projectId (fetched.map SpanRow.primaryKey) row = true) :
    row ∈ fetched := by
  simp only [SpanRow.selectedBy, Bool.and_eq_true, decide_eq_true_eq, List.mem_map] at selected
  obtain ⟨-, other, member, sameKey⟩ := selected
  have same := Table.eq_of_clash (fun _ _ clash => clash.symm) (subset other member) stored sameKey
  exact same ▸ member

/-- What a round with a batch makes of the state. -/
structure RoundDone (env : RetentionEnv) (projectId : UUID) (cutoff : Int)
    (state next : RetentionState) (done : RetentionRound) : Prop where
  rounds : next.rounds = done :: state.rounds
  objects : next.objects = objectsAfter done.calls state.objects
  remaining : next.spans.rows.Sublist state.spans.rows
  shrinks : next.spans.rows.length + done.deleted.length ≤ state.spans.rows.length
  accounted : ∀ row ∈ state.spans.rows, row ∈ next.spans.rows ∨ row ∈ done.deleted ∨
    env.lostBeforeFetch state.rounds.length row = true ∨
    env.lostBeforeDelete state.rounds.length row = true
  deleted : ∀ row ∈ done.deleted, row ∈ state.spans.rows ∧
    row.expired projectId cutoff = true ∧
    SpanRow.deletable projectId (deletedKeys done.calls) row = true
  asked : ∀ call ∈ done.calls, ∀ key ∈ call.batch, ∃ row ∈ state.spans.rows,
    row.expired projectId cutoff = true ∧ row.payloadS3Key = some key

/-- A round finds no batch, or deletes what it may and goes on if that was something. -/
theorem retentionRound_cases (env : RetentionEnv) (projectId : UUID) (cutoff : Int)
    (state : RetentionState) :
    retentionRound env projectId cutoff state =
        .done { state with
          spans := state.spans.deleteWhere (env.lostBeforeFetch state.rounds.length) } ∨
      ∃ next done, RoundDone env projectId cutoff state next done ∧
        (retentionRound env projectId cutoff state = .done next ∨
          done.deleted ≠ [] ∧ retentionRound env projectId cutoff state = .again next) := by
  let round := state.rounds.length
  let visible := state.spans.deleteWhere (env.lostBeforeFetch round)
  let batch := fetchRetentionBatch projectId cutoff (env.scanOrder round visible.rows)
  let calls := deleteS3Objects projectId (env.answer round) (batch.filterMap SpanRow.payloadKey?)
  let wanted := batch.filter (SpanRow.deletable projectId (deletedKeys calls))
  let present := visible.deleteWhere (env.lostBeforeDelete round)
  let deletion := deleteSpanBatch projectId (wanted.map SpanRow.primaryKey) present
  by_cases empty : batch.isEmpty = true
  · left
    simp only [retentionRound]
    rw [if_pos empty]
  right
  refine ⟨⟨deletion.1, objectsAfter calls state.objects,
    ⟨batch, calls, deletion.2⟩ :: state.rounds⟩, ⟨batch, calls, deletion.2⟩, ?_, ?_⟩
  · have visibleRows : visible.rows.Sublist state.spans.rows := List.filter_sublist
    have presentRows : present.rows.Sublist visible.rows := List.filter_sublist
    have fetched : ∀ row ∈ batch, row ∈ visible.rows ∧ row.expired projectId cutoff = true := by
      intro row inBatch
      obtain ⟨scanned, expired⟩ := mem_fetchRetentionBatch inBatch
      exact ⟨(env.scanOrder_perm round visible.rows).mem_iff.mp scanned, expired⟩
    refine ⟨rfl, rfl, List.filter_sublist.trans (presentRows.trans visibleRows), ?_, ?_, ?_, ?_⟩
    · have split := List.length_eq_length_filter_add
        (SpanRow.selectedBy projectId (wanted.map SpanRow.primaryKey)) (l := present.rows)
      have bound := (presentRows.trans visibleRows).length_le
      show (present.rows.filter fun row => !SpanRow.selectedBy projectId
          (wanted.map SpanRow.primaryKey) row).length +
        (present.rows.filter (SpanRow.selectedBy projectId
          (wanted.map SpanRow.primaryKey))).length ≤ state.spans.rows.length
      omega
    · intro row stored
      simp only [deletion, deleteSpanBatch, Table.mem_deleteWhere, List.mem_filter, present,
        visible, stored, true_and]
      cases env.lostBeforeFetch round row <;> cases env.lostBeforeDelete round row <;>
        cases SpanRow.selectedBy projectId (wanted.map SpanRow.primaryKey) row <;> simp
    · intro row member
      simp only [deletion, deleteSpanBatch, List.mem_filter] at member
      have wantedRows : ∀ other ∈ wanted, other ∈ visible.rows :=
        fun other otherWanted => (fetched other (List.mem_filter.mp otherWanted).1).1
      obtain ⟨inBatch, deletable⟩ := List.mem_filter.mp
        (fetched_of_selected wantedRows (presentRows.subset member.1) member.2)
      exact ⟨visibleRows.subset (fetched row inBatch).1, (fetched row inBatch).2, deletable⟩
    · intro call made key asked
      obtain ⟨row, inBatch, payloadKey⟩ :=
        List.mem_filterMap.mp (mem_of_mem_deleteS3Objects made asked).1
      simp only [SpanRow.payloadKey?, Option.filter_eq_some_iff] at payloadKey
      exact ⟨row, visibleRows.subset (fetched row inBatch).1, (fetched row inBatch).2,
        payloadKey.1⟩
  · simp only [retentionRound]
    rw [if_neg empty]
    by_cases nothing : deletion.2.isEmpty = true
    · left
      exact if_pos nothing
    · right
      exact ⟨by simpa using nothing, if_neg nothing⟩

/-! ### Runs -/

/-- What a run over the rows `spans` and `objects` may have done by the time it is in a
state. -/
structure RetentionSafe (env : RetentionEnv) (projectId : UUID) (cutoff : Int)
    (spans : SpanTable) (objects : ObjectStore) (state : RetentionState) : Prop where
  remaining : state.spans.rows.Sublist spans.rows
  /-- A row is deleted because it is an expired one of the project. -/
  expired : ∀ done ∈ state.rounds, ∀ row ∈ done.deleted,
    row ∈ spans.rows ∧ row.projectId = projectId ∧ row.startedAt < cutoff
  /-- A row with a payload of the project goes after its object. -/
  confirmed : ∀ done ∈ state.rounds, ∀ row ∈ done.deleted, ∀ key,
    row.payloadS3Key = some key → isProjectPayloadKey projectId key = true →
      ∃ call ∈ done.calls, call.Confirms key
  /-- A row that is gone was deleted by a round, or by others. -/
  accounted : ∀ row ∈ spans.rows, row ∈ state.spans.rows ∨
    (∃ done ∈ state.rounds, row ∈ done.deleted) ∨
    ∃ round, env.lostBeforeFetch round row = true ∨ env.lostBeforeDelete round row = true
  /-- A confirmed object is gone. -/
  removed : ∀ done ∈ state.rounds, ∀ call ∈ done.calls, ∀ key, call.Confirms key →
    state.objects key = none
  /-- An object that no expired row of the project has is left alone. -/
  untouched : ∀ key, (∀ row ∈ spans.rows, row.expired projectId cutoff = true →
    row.payloadS3Key ≠ some key) → state.objects key = objects key

section

variable {env : RetentionEnv} {projectId : UUID} {cutoff : Int} {spans : SpanTable}
  {objects : ObjectStore}

variable (env projectId cutoff spans objects) in
theorem RetentionSafe.initial :
    RetentionSafe env projectId cutoff spans objects ⟨spans, objects, []⟩ where
  remaining := List.Sublist.refl _
  expired := by simp
  confirmed := by simp
  accounted := fun _ stored => Or.inl stored
  removed := by simp
  untouched := fun _ _ => rfl

theorem RetentionSafe.lost {state : RetentionState}
    (safe : RetentionSafe env projectId cutoff spans objects state) (round : Nat) :
    RetentionSafe env projectId cutoff spans objects
      { state with spans := state.spans.deleteWhere (env.lostBeforeFetch round) } where
  remaining := List.filter_sublist.trans safe.remaining
  expired := safe.expired
  confirmed := safe.confirmed
  accounted := by
    intro row stored
    rcases safe.accounted row stored with remains | gone
    · by_cases isLost : env.lostBeforeFetch round row = true
      · exact Or.inr (Or.inr ⟨round, Or.inl isLost⟩)
      · exact Or.inl (Table.mem_deleteWhere.mpr ⟨remains, by simpa using isLost⟩)
    · exact Or.inr gone
  removed := safe.removed
  untouched := safe.untouched

theorem RetentionSafe.next {state next : RetentionState} {done : RetentionRound}
    (safe : RetentionSafe env projectId cutoff spans objects state)
    (round : RoundDone env projectId cutoff state next done) :
    RetentionSafe env projectId cutoff spans objects next where
  remaining := round.remaining.trans safe.remaining
  expired := by
    rw [round.rounds]
    intro other member row deleted
    rcases List.mem_cons.mp member with rfl | earlier
    · obtain ⟨stored, expired, -⟩ := round.deleted row deleted
      simp only [SpanRow.expired, Bool.and_eq_true, decide_eq_true_eq] at expired
      exact ⟨safe.remaining.subset stored, expired⟩
    · exact safe.expired other earlier row deleted
  confirmed := by
    rw [round.rounds]
    intro other member row deleted key stored under
    rcases List.mem_cons.mp member with rfl | earlier
    · exact confirmed_of_deletable (round.deleted row deleted).2.2 stored under
    · exact safe.confirmed other earlier row deleted key stored under
  accounted := by
    rw [round.rounds]
    intro row stored
    rcases safe.accounted row stored with remains | ⟨other, earlier, deleted⟩ | lost
    · rcases round.accounted row remains with remains | deleted | lost
      · exact Or.inl remains
      · exact Or.inr (Or.inl ⟨done, List.mem_cons_self .., deleted⟩)
      · exact Or.inr (Or.inr ⟨_, lost⟩)
    · exact Or.inr (Or.inl ⟨other, List.mem_cons_of_mem _ earlier, deleted⟩)
    · exact Or.inr (Or.inr lost)
  removed := by
    rw [round.rounds, round.objects]
    intro other member call made key confirmed
    rcases List.mem_cons.mp member with rfl | earlier
    · have removes : other.calls.any (·.removes key) = true :=
        List.any_eq_true.mpr ⟨call, made, DeleteCall.removes_of_confirms confirmed⟩
      simp [objectsAfter, removes]
    · simp [objectsAfter, safe.removed other earlier call made key confirmed]
  untouched := by
    rw [round.objects]
    intro key foreign
    have kept : ¬ done.calls.any (·.removes key) = true := by
      intro removes
      obtain ⟨call, made, removed⟩ := List.any_eq_true.mp removes
      obtain ⟨row, stored, expired, payloadKey⟩ :=
        round.asked call made key (DeleteCall.mem_batch_of_removes removed)
      exact foreign row (safe.remaining.subset stored) expired payloadKey
    rw [objectsAfter, if_neg kept]
    exact safe.untouched key foreign

/-- A round that goes on leaves fewer rows. -/
theorem RetentionSafe.further {state next : RetentionState}
    (safe : RetentionSafe env projectId cutoff spans objects state)
    (again : retentionRound env projectId cutoff state = .again next) :
    RetentionSafe env projectId cutoff spans objects next ∧
      next.spans.rows.length < state.spans.rows.length := by
  rcases retentionRound_cases env projectId cutoff state with
    ended | ⟨after, done, round, ended | ⟨progress, goesOn⟩⟩
  · rw [ended] at again
    cases again
  · rw [ended] at again
    cases again
  · rw [goesOn, Round.again.injEq] at again
    subst again
    have deletedSome := List.length_pos_iff.mpr progress
    have shrinks := round.shrinks
    exact ⟨safe.next round, by omega⟩

theorem RetentionSafe.last {state result : RetentionState}
    (safe : RetentionSafe env projectId cutoff spans objects state)
    (stops : retentionRound env projectId cutoff state = .done result) :
    RetentionSafe env projectId cutoff spans objects result := by
  rcases retentionRound_cases env projectId cutoff state with
    ended | ⟨after, done, round, ended | ⟨-, goesOn⟩⟩
  · rw [ended, Round.done.injEq] at stops
    exact stops ▸ safe.lost _
  · rw [ended, Round.done.injEq] at stops
    exact stops ▸ safe.next round
  · rw [goesOn] at stops
    cases stops

end

/-- Retention ends: as many rounds as there are rows, and one more, are enough. What it
deletes are expired rows of the project, those with a payload of the project after
their object. -/
theorem runDataRetention_safe_and_ends (env : RetentionEnv) (projectId : UUID) (cutoff : Int)
    (spans : SpanTable) (objects : ObjectStore) :
    ∃ final, (∀ fuel, spans.rows.length < fuel →
        retentionLoop env projectId cutoff fuel ⟨spans, objects, []⟩ = some final) ∧
      RetentionSafe env projectId cutoff spans objects final :=
  Round.loop_total (fun state => state.spans.rows.length)
    (RetentionSafe env projectId cutoff spans objects) (fun _ _ safe again => safe.further again)
    (fun _ _ safe stops => safe.last stops)
    (RetentionSafe.initial env projectId cutoff spans objects)

/-! ### Runs that nothing disturbs -/

/-- The object store deletes what it is asked to, and no fetched row is lost to
others. -/
structure RetentionEnv.Undisturbed (env : RetentionEnv) : Prop where
  answers : ∀ round call, env.answer round call = .answered []
  keepsBeforeDelete : ∀ round row, env.lostBeforeDelete round row = false

theorem exists_mem_deleteBatches {keys : List String} {key : String} (member : key ∈ keys) :
    ∃ batch ∈ deleteBatches keys, key ∈ batch := by
  obtain ⟨index, bound, rfl⟩ := List.getElem_of_mem member
  refine ⟨(keys.drop (index / s3DeleteBatchSize * s3DeleteBatchSize)).take s3DeleteBatchSize,
    List.mem_map.mpr ⟨index / s3DeleteBatchSize, List.mem_range.mpr ?_, rfl⟩, ?_⟩
  · unfold s3DeleteBatchSize
    omega
  · have offset : index / s3DeleteBatchSize * s3DeleteBatchSize + index % s3DeleteBatchSize =
        index := Nat.div_add_mod' index s3DeleteBatchSize
    have inBatch : index % s3DeleteBatchSize < s3DeleteBatchSize :=
      Nat.mod_lt _ (by decide)
    refine List.mem_iff_getElem.mpr ⟨index % s3DeleteBatchSize, ?_, ?_⟩
    · rw [List.length_take, List.length_drop]
      omega
    · simp only [List.getElem_take, List.getElem_drop, offset]

/-- Where every call succeeds, all keys of the project are deleted. -/
theorem mem_deletedKeys_of_answers {projectId : UUID} {answer : Nat → DeleteAnswer}
    (answers : ∀ call, answer call = .answered []) {s3Keys : List String} {key : String}
    (asked : key ∈ s3Keys) (under : isProjectPayloadKey projectId key = true) :
    key ∈ deletedKeys (deleteS3Objects projectId answer s3Keys) := by
  obtain ⟨batch, cut, inBatch⟩ := exists_mem_deleteBatches (List.mem_filter.mpr ⟨asked, under⟩)
  have calls : ∀ batches index, deleteCalls answer index batches =
      batches.map (⟨·, .answered []⟩) := by
    intro batches
    induction batches with
    | nil => exact fun _ => rfl
    | cons head rest inductionHypothesis =>
        intro index
        simp only [deleteCalls, answers, inductionHypothesis, List.map_cons]
  refine List.mem_flatMap.mpr ⟨⟨batch, .answered []⟩, ?_, ?_⟩
  · rw [deleteS3Objects, calls]
    exact List.mem_map_of_mem cut
  · simpa [DeleteCall.successfulKeys] using inBatch

/-- A fetched row of an undisturbed round is deletable. -/
theorem deletable_of_answers {projectId : UUID} {answer : Nat → DeleteAnswer}
    (answers : ∀ call, answer call = .answered []) {batch : List SpanRow} {row : SpanRow}
    (fetched : row ∈ batch) : SpanRow.deletable projectId (deletedKeys
      (deleteS3Objects projectId answer (batch.filterMap SpanRow.payloadKey?))) row = true := by
  unfold SpanRow.deletable
  cases payloadKey : SpanRow.payloadKey? row with
  | none => rfl
  | some key =>
      by_cases under : isProjectPayloadKey projectId key = true
      · have deleted := mem_deletedKeys_of_answers answers
          (List.mem_filterMap.mpr ⟨row, fetched, payloadKey⟩) under
        simp [deleted]
      · simp [under]

theorem fetchRetentionBatch_eq_nil {projectId : UUID} {cutoff : Int} {rows : List SpanRow}
    (nothing : fetchRetentionBatch projectId cutoff rows = []) :
    ∀ row ∈ rows, row.expired projectId cutoff = false := by
  intro row member
  by_contra expired
  have kept : row ∈ rows.filter (SpanRow.expired projectId cutoff) :=
    List.mem_filter.mpr ⟨member, by simpa using expired⟩
  rw [← (List.perm_insertionSort (fun left right : SpanRow => left.startedAt ≤ right.startedAt)
    _).mem_iff] at kept
  rcases List.take_eq_nil_iff.mp nothing with none | none
  · cases none
  · rw [none] at kept
    cases kept

/-- An undisturbed round ends the loop only when no expired row is left. -/
theorem retentionRound_undisturbed {env : RetentionEnv} {projectId : UUID} {cutoff : Int}
    {state result : RetentionState} (undisturbed : env.Undisturbed)
    (stops : retentionRound env projectId cutoff state = .done result) :
    ∀ row ∈ result.spans.rows, row.expired projectId cutoff = false := by
  let round := state.rounds.length
  let visible := state.spans.deleteWhere (env.lostBeforeFetch round)
  let batch := fetchRetentionBatch projectId cutoff (env.scanOrder round visible.rows)
  simp only [retentionRound] at stops
  by_cases empty : batch.isEmpty = true
  · rw [if_pos empty, Round.done.injEq] at stops
    subst stops
    intro row member
    exact fetchRetentionBatch_eq_nil (List.isEmpty_iff.mp empty) row
      ((env.scanOrder_perm round visible.rows).mem_iff.mpr member)
  · exfalso
    rw [if_neg empty] at stops
    -- The first row of the batch is still there, so something is deleted.
    obtain ⟨row, rest, batchEq⟩ := List.exists_cons_of_ne_nil
      fun none => empty (List.isEmpty_iff.mpr none)
    have inBatch : row ∈ batch := batchEq ▸ List.mem_cons_self ..
    obtain ⟨scanned, expired⟩ := mem_fetchRetentionBatch inBatch
    have stored := (env.scanOrder_perm round visible.rows).mem_iff.mp scanned
    have remains : row ∈ (visible.deleteWhere (env.lostBeforeDelete round)).rows :=
      Table.mem_deleteWhere.mpr ⟨stored, undisturbed.keepsBeforeDelete round row⟩
    have deletable : SpanRow.deletable projectId (deletedKeys (deleteS3Objects projectId
        (env.answer round) (batch.filterMap SpanRow.payloadKey?))) row = true :=
      deletable_of_answers (undisturbed.answers round) inBatch
    split at stops
    · rename_i nothing
      rw [List.isEmpty_iff, deleteSpanBatch, List.filter_eq_nil_iff] at nothing
      refine nothing row remains ?_
      simp only [SpanRow.expired, Bool.and_eq_true, decide_eq_true_eq] at expired
      simp only [SpanRow.selectedBy, Bool.and_eq_true, decide_eq_true_eq]
      exact ⟨expired.1, List.mem_map_of_mem (List.mem_filter.mpr ⟨inBatch, deletable⟩)⟩
    · cases stops

/-- An undisturbed run deletes all expired rows of the project. -/
theorem retentionLoop_undisturbed {env : RetentionEnv} (undisturbed : env.Undisturbed)
    (projectId : UUID) (cutoff : Int) (spans : SpanTable) (objects : ObjectStore) :
    ∃ final, (∀ fuel, spans.rows.length < fuel →
        retentionLoop env projectId cutoff fuel ⟨spans, objects, []⟩ = some final) ∧
      RetentionSafe env projectId cutoff spans objects final ∧
      ∀ row ∈ final.spans.rows, row.expired projectId cutoff = false :=
  Round.loop_total (fun state => state.spans.rows.length)
    (RetentionSafe env projectId cutoff spans objects) (fun _ _ safe again => safe.further again)
    (fun _ _ safe stops => ⟨safe.last stops, retentionRound_undisturbed undisturbed stops⟩)
    (RetentionSafe.initial env projectId cutoff spans objects)

end LlmObs.Backend
