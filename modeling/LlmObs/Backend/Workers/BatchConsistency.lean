import LlmObs.Backend.Workers.AttemptEffect
import Mathlib.Data.List.Perm.Subperm

/-!
Owns the agreement of the tables after a committed batch: when every new span
row has its trace row, its own outbox event, its place in a bucket and its share
of the reported counts.
-/

namespace LlmObs.Backend

open LlmObs.Foundation

/-- The span rows that `after` has beyond `before`. -/
def newRows (before after : Database) : List SpanRow :=
  after.spans.rows.drop before.spans.rows.length

/-- The outbox events that `after` has beyond `before`. -/
def newEvents (before after : Database) : List OutboxEvent :=
  after.outboxEvents.rows.drop before.outboxEvents.rows.length

/-- The prepared spans whose identity is stored already or repeats an earlier
one of the batch. -/
def storedDuplicates (localInstant : Int → Int) (table : SpanTable)
    (prepared : List PreparedSpan) : Nat :=
  repeats (PreparedSpan.identity localInstant) (SpanTable.identities table) prepared

/-- What the tables and the counts of a committed batch are to agree on. -/
structure BatchConsistent (projectId : UUID) (before after : Database)
    (submitted processed failed duplicates : Nat) : Prop where
  traced : ∀ row ∈ newRows before after, ∃ trace ∈ after.traces.rows,
    trace.projectId = row.projectId ∧ trace.id = row.traceId ∧ trace.startedAt ≤ row.startedAt
  evented : (∀ event ∈ newEvents before after,
      event.projectId = projectId ∧ event.eventType = outboxSpanInserted) ∧
    ((newEvents before after).map (·.eventKey)).Perm
      ((newRows before after).map fun row => row.id.str)
  bucketed : ∀ minute, SpanMetricBucketTable.spanCount projectId minute after.spanMetricBuckets =
    SpanMetricBucketTable.spanCount projectId minute before.spanMetricBuckets +
      (newRows before after).countP fun row => Datetime.minuteOf row.startedAt = minute
  reported : processed = (newRows before after).length
  balanced : submitted = processed + failed + duplicates

/-- Every identity that the batch newly stores also occurs with an aware start. -/
def StoresRecognised (localInstant : Int → Int) (db : Database)
    (prepared : List PreparedSpan) : Prop :=
  ∀ span ∈ prepared, span.identity localInstant ∉ SpanTable.identities db.spans →
    ∃ twin ∈ prepared, twin.startedAt.Aware ∧
      twin.identity localInstant = span.identity localInstant

/-- No span id of the batch is newly stored under two starts, and none has an
event of the project already. -/
def StoresUnannounced (localInstant : Int → Int) (projectId : UUID) (db : Database)
    (prepared : List PreparedSpan) : Prop :=
  ∀ span ∈ prepared, span.identity localInstant ∉ SpanTable.identities db.spans →
    span.eventKey ∉ OutboxTable.spanKeys projectId db.outboxEvents ∧
      ∀ other ∈ prepared, other.identity localInstant ∉ SpanTable.identities db.spans →
        other.id = span.id → other.identity localInstant = span.identity localInstant

/-- The trace of every newly stored span is covered already, or is covered from
the earliest recognised span on: by a row that moves, or by a new row whose key
no other project has taken. -/
def StoresTraceable (localInstant : Int → Int) (projectId : UUID) (db : Database)
    (prepared : List PreparedSpan) : Prop :=
  ∀ span ∈ storedSpans localInstant db.spans prepared,
    TraceTable.Covers db.traces projectId span.traceId
        (span.startedAt.toTimestamptz localInstant) ∨
      ∃ earliest ∈ recognisedSpans localInstant db.spans prepared,
        earliest.traceId = span.traceId ∧
        (∀ other ∈ recognisedSpans localInstant db.spans prepared,
          other.traceId = span.traceId → earliest.startedAt.toTimestamptz localInstant ≤
            other.startedAt.toTimestamptz localInstant) ∧
        earliest.startedAt.toTimestamptz localInstant ≤
          span.startedAt.toTimestamptz localInstant ∧
        (TraceTable.Has db.traces projectId span.traceId ∨
          ¬ TraceTable.Occupied db.traces span.traceId
            (earliest.startedAt.toTimestamptz localInstant))

/-! ### Stored and recognised spans -/

section

variable {localInstant : Int → Int} {db : Database} {prepared : List PreparedSpan}

theorem mem_identities_storedSpans {identity : UUID × Int} :
    identity ∈ (storedSpans localInstant db.spans prepared).map (·.identity localInstant) ↔
      identity ∉ SpanTable.identities db.spans ∧
        ∃ span ∈ prepared, span.identity localInstant = identity := by
  rw [← List.mem_map]
  exact mem_map_firstNew

theorem mem_identities_recognisedSpans {identity : UUID × Int} :
    identity ∈ (recognisedSpans localInstant db.spans prepared).map (·.identity localInstant) ↔
      identity ∉ SpanTable.identities db.spans ∧
        ∃ span ∈ prepared, span.startedAt.Aware ∧ span.identity localInstant = identity := by
  have filtered : (∃ span ∈ prepared, span.startedAt.Aware ∧
        span.identity localInstant = identity) ↔
      identity ∈ (prepared.filter fun span => decide span.startedAt.Aware).map
        (·.identity localInstant) := by
    simp [List.mem_map, List.mem_filter, and_assoc]
  rw [filtered]
  exact mem_map_firstNew

variable (localInstant db prepared) in
theorem nodup_identities_storedSpans :
    ((storedSpans localInstant db.spans prepared).map (·.identity localInstant)).Nodup :=
  firstNew_nodup _ _

variable (localInstant db prepared) in
theorem nodup_identities_recognisedSpans :
    ((recognisedSpans localInstant db.spans prepared).map (·.identity localInstant)).Nodup :=
  firstNew_nodup _ _

theorem recognised_perm_stored (recognised : StoresRecognised localInstant db prepared) :
    ((recognisedSpans localInstant db.spans prepared).map (·.identity localInstant)).Perm
      ((storedSpans localInstant db.spans prepared).map (·.identity localInstant)) := by
  refine (List.perm_ext_iff_of_nodup (nodup_identities_recognisedSpans ..)
    (nodup_identities_storedSpans ..)).mpr fun identity => ?_
  rw [mem_identities_recognisedSpans, mem_identities_storedSpans]
  refine and_congr_right fun new => ⟨?_, ?_⟩
  · rintro ⟨span, member, -, same⟩
    exact ⟨span, member, same⟩
  · rintro ⟨span, member, rfl⟩
    exact recognised span member new

theorem storesRecognised_of_length
    (sameLength : (recognisedSpans localInstant db.spans prepared).length =
      (storedSpans localInstant db.spans prepared).length) :
    StoresRecognised localInstant db prepared := by
  have included : (recognisedSpans localInstant db.spans prepared).map (·.identity localInstant)
      ⊆ (storedSpans localInstant db.spans prepared).map (·.identity localInstant) := by
    intro identity member
    obtain ⟨new, span, inBatch, -, same⟩ := mem_identities_recognisedSpans.mp member
    exact mem_identities_storedSpans.mpr ⟨new, span, inBatch, same⟩
  have permuted := (List.Nodup.subperm (nodup_identities_recognisedSpans ..)
    included).perm_of_length_le (by rw [List.length_map, List.length_map, sameLength])
  intro span member new
  have stored := mem_identities_storedSpans.mpr ⟨new, span, member, rfl⟩
  obtain ⟨-, twin, twinMember, aware, same⟩ :=
    mem_identities_recognisedSpans.mp (permuted.mem_iff.mpr stored)
  exact ⟨twin, twinMember, aware, same⟩

/-- All recognised spans get an event of their own exactly when no id repeats and
none was announced before. -/
theorem firstNew_eventKey_eq_self_iff {projectId : UUID}
    (recognised : StoresRecognised localInstant db prepared) :
    firstNew PreparedSpan.eventKey (OutboxTable.spanKeys projectId db.outboxEvents)
        (recognisedSpans localInstant db.spans prepared) =
      recognisedSpans localInstant db.spans prepared ↔
      StoresUnannounced localInstant projectId db prepared := by
  have twin : ∀ span ∈ prepared, span.identity localInstant ∉ SpanTable.identities db.spans →
      ∃ seen ∈ recognisedSpans localInstant db.spans prepared,
        seen.identity localInstant = span.identity localInstant := by
    intro span member new
    obtain ⟨other, inBatch, aware, same⟩ := recognised span member new
    have found := mem_identities_recognisedSpans.mpr ⟨new, other, inBatch, aware, same⟩
    exact List.mem_map.mp found
  have distinct := nodup_identities_recognisedSpans localInstant db prepared
  rw [firstNew_eq_self_iff]
  constructor
  · rintro ⟨keysDistinct, unannounced⟩ span member new
    obtain ⟨seen, seenMember, same⟩ := twin span member new
    have sameId : seen.id = span.id := congrArg Prod.fst same
    refine ⟨?_, fun other otherMember otherNew otherId => ?_⟩
    · have fresh := unannounced seen seenMember
      rwa [PreparedSpan.eventKey, sameId] at fresh
    · obtain ⟨otherSeen, otherSeenMember, otherSame⟩ := twin other otherMember otherNew
      have otherSeenId : otherSeen.id = other.id := congrArg Prod.fst otherSame
      have equal := List.inj_on_of_nodup_map keysDistinct otherSeenMember seenMember
        (by rw [PreparedSpan.eventKey, PreparedSpan.eventKey, otherSeenId, otherId, sameId])
      rw [← otherSame, equal, same]
  · intro unannounced
    have inBatch : ∀ span ∈ recognisedSpans localInstant db.spans prepared,
        span ∈ prepared ∧ span.identity localInstant ∉ SpanTable.identities db.spans :=
      fun span member => ⟨(List.mem_filter.mp ((firstNew_sublist _ _).subset member)).1,
        not_mem_seen_of_mem_firstNew member⟩
    refine ⟨?_, fun span member => ?_⟩
    · refine List.Nodup.map_on (fun span member other otherMember same => ?_)
        (List.Nodup.of_map _ distinct)
      obtain ⟨spanIn, spanNew⟩ := inBatch span member
      obtain ⟨otherIn, otherNew⟩ := inBatch other otherMember
      refine List.inj_on_of_nodup_map distinct member otherMember ?_
      exact (unannounced other otherIn otherNew).2 span spanIn spanNew
        (UUID.str_injective same)
    · obtain ⟨spanIn, spanNew⟩ := inBatch span member
      exact (unannounced span spanIn spanNew).1

end

/-! ### The tables of a committed batch -/

section

variable {runtime : Runtime} {env : AttemptEnv} {projectId : UUID}
  {prepared : List PreparedSpan} {before after : Database} {batch : InsertedBatch}

theorem BatchStored.newRows_eq
    (stored : BatchStored runtime env projectId prepared before after batch) :
    newRows before after = (storedSpans runtime.localInstant before.spans prepared).map
      (·.toRow runtime.localInstant) := by
  rw [newRows, stored.spans, List.drop_left]

/-- The new events are those of the first recognised span of each new event key. -/
theorem BatchStored.newEvents_spec
    (stored : BatchStored runtime env projectId prepared before after batch) :
    (∀ event ∈ newEvents before after,
        event.projectId = projectId ∧ event.eventType = outboxSpanInserted) ∧
      (newEvents before after).map (·.eventKey) =
        (firstNew PreparedSpan.eventKey (OutboxTable.spanKeys projectId before.outboxEvents)
          (recognisedSpans runtime.localInstant before.spans prepared)).map (·.eventKey) := by
  obtain ⟨new, rows, ofProject, keys⟩ := enqueueSpanEvents_rows stored.events
  rw [newEvents, rows, List.drop_left, keys, stored.inserted]
  exact ⟨fun event member => ⟨(ofProject event member).1, (ofProject event member).2.1⟩, rfl⟩

theorem BatchStored.traced_iff
    (stored : BatchStored runtime env projectId prepared before after batch)
    (ofProject : ∀ span ∈ prepared, span.projectId = projectId) :
    (∀ row ∈ newRows before after, ∃ trace ∈ after.traces.rows, trace.projectId = row.projectId ∧
        trace.id = row.traceId ∧ trace.startedAt ≤ row.startedAt) ↔
      StoresTraceable runtime.localInstant projectId before prepared := by
  obtain ⟨traceMap, -, mapOf, ensured⟩ := stored.traces
  have aware := stored.traceMap_aware mapOf
  rw [stored.newRows_eq, StoresTraceable]
  simp only [List.forall_mem_map]
  refine forall₂_congr fun span member => ?_
  have spanProject : span.projectId = projectId :=
    ofProject span ((firstNew_sublist _ _).subset member)
  have covered : (∃ trace ∈ after.traces.rows,
        trace.projectId = (span.toRow runtime.localInstant).projectId ∧
        trace.id = (span.toRow runtime.localInstant).traceId ∧
        trace.startedAt ≤ (span.toRow runtime.localInstant).startedAt) ↔
      TraceTable.Covers after.traces projectId span.traceId
        (span.startedAt.toTimestamptz runtime.localInstant) := by
    refine exists_congr fun trace => and_congr_right fun _ => ?_
    rw [TraceRow.Of, ← spanProject, and_assoc]
    rfl
  rw [covered, covers_ensureTraceRows mapOf.distinct aware ensured]
  refine or_congr_right ⟨?_, ?_⟩
  · rintro ⟨earliest, listed, early, reachable⟩
    obtain ⟨inserted, sameTrace⟩ := mapOf.sound _ listed
    rw [stored.inserted] at inserted
    refine ⟨earliest, inserted, sameTrace, fun other otherMember otherTrace => ?_, early,
      reachable⟩
    exact mapOf.earliest _ listed other (stored.inserted ▸ otherMember) otherTrace
  · rintro ⟨earliest, recognised, sameTrace, first, early, reachable⟩
    obtain ⟨listedSpan, listed⟩ := mapOf.complete earliest (stored.inserted ▸ recognised)
    rw [sameTrace] at listed
    obtain ⟨listedInserted, listedTrace⟩ := mapOf.sound _ listed
    have sameStart : listedSpan.startedAt.toTimestamptz runtime.localInstant =
        earliest.startedAt.toTimestamptz runtime.localInstant :=
      le_antisymm (mapOf.earliest _ listed earliest (stored.inserted ▸ recognised) sameTrace)
        (first listedSpan (stored.inserted ▸ listedInserted) listedTrace)
    exact ⟨listedSpan, listed, sameStart ▸ early, sameStart ▸ reachable⟩

theorem BatchStored.evented_iff
    (stored : BatchStored runtime env projectId prepared before after batch)
    (recognised : StoresRecognised runtime.localInstant before prepared) :
    ((newEvents before after).map (·.eventKey)).Perm
        ((newRows before after).map fun row => row.id.str) ↔
      StoresUnannounced runtime.localInstant projectId before prepared := by
  have rowKeys : ((newRows before after).map fun row => row.id.str).Perm
      ((recognisedSpans runtime.localInstant before.spans prepared).map (·.eventKey)) := by
    have identities := (recognised_perm_stored recognised).symm.map
      fun identity : UUID × Int => identity.1.str
    rw [List.map_map, List.map_map] at identities
    rw [stored.newRows_eq, List.map_map]
    exact identities
  rw [(stored.newEvents_spec).2, rowKeys.congr_right, ← firstNew_eventKey_eq_self_iff recognised]
  constructor
  · intro permuted
    refine (firstNew_sublist _ _).eq_of_length ?_
    simpa using permuted.length_eq
  · intro same
    rw [same]

theorem BatchStored.bucketed
    (stored : BatchStored runtime env projectId prepared before after batch)
    (recognised : StoresRecognised runtime.localInstant before prepared) (minute : Int) :
    SpanMetricBucketTable.spanCount projectId minute after.spanMetricBuckets =
      SpanMetricBucketTable.spanCount projectId minute before.spanMetricBuckets +
        (newRows before after).countP fun row => Datetime.minuteOf row.startedAt = minute := by
  rw [spanCount_updateSpanMetricBuckets stored.inserted_aware stored.buckets, stored.inserted,
    stored.newRows_eq]
  congr 1
  have counts := (recognised_perm_stored recognised).countP_eq
    fun identity : UUID × Int => decide (Datetime.minuteOf identity.2 = minute)
  rw [List.countP_map, List.countP_map] at counts
  rw [List.countP_map]
  exact counts

theorem BatchStored.reported_iff
    (stored : BatchStored runtime env projectId prepared before after batch) :
    batch.insertedSpans.length = (newRows before after).length ↔
      StoresRecognised runtime.localInstant before prepared := by
  rw [stored.inserted, stored.newRows_eq, List.length_map]
  constructor
  · exact storesRecognised_of_length
  · intro recognised
    simpa using (recognised_perm_stored recognised).length_eq

end

/-- After a batch commits, its new span rows have their trace rows, their own
outbox events, their counts in the buckets and in `processed`, and the submitted
spans add up, exactly when every newly stored identity also occurs with an aware
start, belongs to one start only and to no earlier event, and its trace can be
given a row early enough. -/
theorem batchConsistent_iff {runtime : Runtime} {env : AttemptEnv} {projectId : UUID}
    {spans : List SpanSchema} {world : World} {stored : CommittedBatch}
    (committed : (processSpanBatch runtime env projectId spans world).committed = some stored) :
    BatchConsistent projectId world.db
        (processSpanBatch runtime env projectId spans world).world.db spans.length
        stored.batch.insertedSpans.length stored.failedCount
        (storedDuplicates runtime.localInstant world.db.spans
          (preparedSpans runtime env projectId spans world)) ↔
      StoresRecognised runtime.localInstant world.db
          (preparedSpans runtime env projectId spans world) ∧
        StoresUnannounced runtime.localInstant projectId world.db
          (preparedSpans runtime env projectId spans world) ∧
        StoresTraceable runtime.localInstant projectId world.db
          (preparedSpans runtime env projectId spans world) := by
  have attempt := attemptCommitted_of_committed committed
  rw [← attempt.prepared_eq]
  obtain ⟨prepares, stores⟩ := attempt
  obtain ⟨total, -, sources⟩ := prepareBatch_spec (Prod.ext prepares rfl)
  have ofProject : ∀ span ∈ stored.prepared, span.projectId = projectId := by
    intro span member
    obtain ⟨source, -, preparesTo⟩ := sources span member
    exact preparesTo.projectId
  have insertedLength : (storedSpans runtime.localInstant world.db.spans stored.prepared).length +
      storedDuplicates runtime.localInstant world.db.spans stored.prepared =
        stored.prepared.length :=
    length_firstNew_add_repeats _ _
  constructor
  · intro consistent
    have recognised := stores.reported_iff.mp consistent.reported
    exact ⟨recognised, (stores.evented_iff recognised).mp consistent.evented.2,
      (stores.traced_iff ofProject).mp consistent.traced⟩
  · rintro ⟨recognised, unannounced, traceable⟩
    have reported := stores.reported_iff.mpr recognised
    refine ⟨(stores.traced_iff ofProject).mpr traceable,
      ⟨stores.newEvents_spec.1, (stores.evented_iff recognised).mpr unannounced⟩,
      stores.bucketed recognised, reported, ?_⟩
    have rows := congrArg List.length stores.newRows_eq
    rw [List.length_map] at rows
    rw [reported, rows]
    omega

/-- A span of one trace with the given start. -/
def spanStartingAt (startedAt : Datetime) : SpanSchema where
  spanId := 2
  traceId := 3
  provider := "openai"
  model := "gpt-4o"
  latencyMs := 0
  startedAt := startedAt

theorem batchConsistent_iff_awareStart :
    BatchConsistent 1 (.ofProject 1)
        (processSpanBatch .inUtc .faultless 1 [spanStartingAt (.utc 0)]
          (.ofDatabase (.ofProject 1))).world.db 1 1 0
        (storedDuplicates id (Database.ofProject 1).spans
          (preparedSpans .inUtc .faultless 1 [spanStartingAt (.utc 0)]
            (.ofDatabase (.ofProject 1)))) ↔
      StoresRecognised id (.ofProject 1)
          (preparedSpans .inUtc .faultless 1 [spanStartingAt (.utc 0)]
            (.ofDatabase (.ofProject 1))) ∧
        StoresUnannounced id 1 (.ofProject 1)
          (preparedSpans .inUtc .faultless 1 [spanStartingAt (.utc 0)]
            (.ofDatabase (.ofProject 1))) ∧
        StoresTraceable id 1 (.ofProject 1)
          (preparedSpans .inUtc .faultless 1 [spanStartingAt (.utc 0)]
            (.ofDatabase (.ofProject 1))) := by
  obtain ⟨stored, committed, counted⟩ : ∃ stored, (processSpanBatch .inUtc .faultless 1
      [spanStartingAt (.utc 0)] (.ofDatabase (.ofProject 1))).committed = some stored ∧
      (stored.batch.insertedSpans.length, stored.failedCount) = (1, 0) := ⟨_, rfl, rfl⟩
  rw [Prod.mk.injEq] at counted
  have agrees := batchConsistent_iff committed
  rwa [counted.1, counted.2] at agrees

/-- A span whose start has no offset is stored, but not counted. -/
theorem naiveStart_inconsistent :
    (spanStartingAt ⟨0, none⟩).noFutureTimestamps 0 = true ∧
    ∃ stored, (processSpanBatch .inUtc .faultless 1 [spanStartingAt ⟨0, none⟩]
        (.ofDatabase (.ofProject 1))).committed = some stored ∧
      ¬ BatchConsistent 1 (.ofProject 1)
        (processSpanBatch .inUtc .faultless 1 [spanStartingAt ⟨0, none⟩]
          (.ofDatabase (.ofProject 1))).world.db 1
        stored.batch.insertedSpans.length stored.failedCount
        (storedDuplicates id (Database.ofProject 1).spans
          (preparedSpans .inUtc .faultless 1 [spanStartingAt ⟨0, none⟩]
            (.ofDatabase (.ofProject 1)))) := by
  refine ⟨rfl, _, rfl, fun consistent => ?_⟩
  have reported : 0 = 1 := consistent.reported
  omega

end LlmObs.Backend
