import LlmObs.Backend.Workers.BatchConsistency
import LlmObs.Backend.Workers.Maintenance
import LlmObs.Backend.Workers.PayloadObjects
import LlmObs.Foundation.Machine

/-!
Owns when the payload key of a stored row leads to the payload of its own span. A row
is identified by its span id and start, the object of its key by the span id alone:
spans of one id share an object. Batches overwrite it before they deduplicate, and
retention deletes it with the first of its rows.
-/

namespace LlmObs.Backend

open LlmObs.Foundation

/-! ### Runs over a project -/

/-- No upload fails. -/
def AttemptEnv.StoresObjects (env : AttemptEnv) : Prop :=
  ∀ index, env.fault (.putObject index) = none

/-- The runs of one project while its object storage works. -/
inductive PayloadAction where
  | processSpanBatch (env : { env : AttemptEnv // env.StoresObjects }) (spans : List SpanSchema)
  | runDataRetention (env : { env : RetentionEnv // env.Undisturbed }) (cutoff : Int)

/-- A world, and the redacted payload that was submitted with the span of each row. -/
structure PayloadHistory where
  world : World
  submitted : UUID × Int → Option (List UInt8)

/-- What a committed batch adds: a new row comes from the first prepared span with its
identity. -/
def submittedWith (runtime : Runtime) (redactKeys : List String) (stored : List (UUID × Int))
    (pairs : List (SpanSchema × PreparedSpan)) (submitted : UUID × Int → Option (List UInt8)) :
    UUID × Int → Option (List UInt8) :=
  fun identity =>
    if stored.contains identity then submitted identity
    else
      match pairs.find? fun pair => pair.2.identity runtime.localInstant = identity with
      | some (source, _) => source.encodedPayload runtime redactKeys
      | none => submitted identity

/-- The history after a run of `process_span_batch`. -/
def PayloadHistory.afterBatch (runtime : Runtime) (env : AttemptEnv) (projectId : UUID)
    (spans : List SpanSchema) (history : PayloadHistory) : PayloadHistory :=
  let run := processSpanBatch runtime env projectId spans history.world
  { world := run.world
    submitted :=
      match run.committed with
      | none => history.submitted
      | some _ => submittedWith runtime (attemptRedactKeys runtime projectId history.world)
          (SpanTable.identities history.world.db.spans)
          (attemptPairs runtime env projectId spans history.world) history.submitted }

def payloadRuns (runtime : Runtime) (projectId : UUID) :
    Machine PayloadHistory PayloadAction where
  step history
    | .processSpanBatch env spans => some (history.afterBatch runtime env projectId spans)
    | .runDataRetention env cutoff =>
        (runProjectRetention env projectId cutoff history.world).map fun world =>
          { history with world := world }

/-- The object under the payload key of every row of the project is the payload that was
submitted with the span of that row. -/
def PayloadsOwned (projectId : UUID) (history : PayloadHistory) : Prop :=
  ∀ row ∈ history.world.db.spans.rows, row.projectId = projectId → ∀ key,
    row.payloadS3Key = some key → key = payloadKey projectId row.id ∧
      ∃ bytes, history.submitted (SpanRow.primaryKey row) = some bytes ∧
        history.world.objects key = some bytes

/-- The project stores the payload of the span, as these bytes. -/
structure SpanSchema.Uploads (runtime : Runtime) (projectId : UUID) (world : World)
    (span : SpanSchema) (bytes : List UInt8) : Prop where
  admitted : shouldStorePayload (loadPayloadPrivacySettings projectId
    world.db.projects).payloadStorageMode span.hasError = true
  encoded : span.encodedPayload runtime (attemptRedactKeys runtime projectId world) = some bytes
  fits : bytes.length ≤ (loadPayloadPrivacySettings projectId world.db.projects).payloadMaxBytes

/-- A batch brings no other payload for a span id than the rows of that id have, nor two
different ones. A retention run finds no payload key on both sides of its cutoff. -/
def KeepsPayloads (runtime : Runtime) (projectId : UUID) (history : PayloadHistory) :
    PayloadAction → Prop
  | .processSpanBatch _ spans =>
      ∀ span ∈ spans, ∀ bytes, span.Uploads runtime projectId history.world bytes →
        (∀ row ∈ history.world.db.spans.rows, row.projectId = projectId →
          row.id = span.spanId → row.payloadS3Key ≠ none →
            history.submitted (SpanRow.primaryKey row) = some bytes) ∧
        ∀ other ∈ spans, ∀ otherBytes, other.spanId = span.spanId →
          other.Uploads runtime projectId history.world otherBytes → otherBytes = bytes
  | .runDataRetention _ cutoff =>
      ∀ row ∈ history.world.db.spans.rows, row.expired projectId cutoff = true →
        ∀ other ∈ history.world.db.spans.rows, other.projectId = projectId →
          cutoff ≤ other.startedAt → ∀ key, row.payloadS3Key = some key →
            other.payloadS3Key ≠ some key

/-! ### Object keys -/

/-- A common end and a middle of one length are cut off. -/
theorem eq_of_append_eq {first second left right last : String}
    (same : first ++ left ++ last = second ++ right ++ last)
    (lengths : left.length = right.length) : left = right := by
  have chars := congrArg String.toList same
  simp only [String.toList_append] at chars
  have middles := List.append_cancel_right chars
  rw [← String.length_toList, ← String.length_toList] at lengths
  exact String.toList_injective (List.append_inj_right' middles lengths)

theorem payloadKey_injective (projectId : UUID) : Function.Injective (payloadKey projectId) := by
  intro left right same
  unfold payloadKey at same
  exact UUID.str_injective
    (eq_of_append_eq same ((UUID.length_str left).trans (UUID.length_str right).symm))

/-- The object under a key is the old one, or that of the last write to it. -/
theorem foldl_apply_cases (projectId : UUID) (writes : List PayloadWrite) (objects : ObjectStore)
    (key : String) :
    ((∀ write ∈ writes, payloadKey projectId write.span.spanId ≠ key) ∧
        writes.foldl (PayloadWrite.apply projectId) objects key = objects key) ∨
      ∃ write ∈ writes, payloadKey projectId write.span.spanId = key ∧
        writes.foldl (PayloadWrite.apply projectId) objects key = some write.bytes := by
  induction writes generalizing objects with
  | nil => exact Or.inl ⟨by simp, rfl⟩
  | cons head rest inductionHypothesis =>
      rw [List.foldl_cons]
      rcases inductionHypothesis (PayloadWrite.apply projectId objects head) with
        ⟨others, kept⟩ | ⟨write, member, same, written⟩
      · rw [kept]
        by_cases here : payloadKey projectId head.span.spanId = key
        · refine Or.inr ⟨head, List.mem_cons_self .., here, ?_⟩
          rw [PayloadWrite.apply, here, ObjectStore.put_same]
        · refine Or.inl ⟨?_, ObjectStore.put_other (Ne.symm here)⟩
          intro write member
          rcases List.mem_cons.mp member with rfl | later
          · exact here
          · exact others write later
      · exact Or.inr ⟨write, List.mem_cons_of_mem _ member, same, written⟩

/-- Writes that bring one payload for a span id leave it under the key of the id, where
it was there before or is written. -/
theorem object_of_writes {projectId spanId : UUID} {writes : List PayloadWrite}
    {objects : ObjectStore} {bytes : List UInt8}
    (agree : ∀ write ∈ writes, write.span.spanId = spanId → write.bytes = bytes)
    (present : objects (payloadKey projectId spanId) = some bytes ∨
      ∃ write ∈ writes, write.span.spanId = spanId) :
    writes.foldl (PayloadWrite.apply projectId) objects (payloadKey projectId spanId) =
      some bytes := by
  rcases foldl_apply_cases projectId writes objects (payloadKey projectId spanId) with
    ⟨others, kept⟩ | ⟨write, member, same, written⟩
  · rcases present with before | ⟨write, member, same⟩
    · exact kept.trans before
    · exact absurd (congrArg _ same) (others write member)
  · rw [written, agree write member (payloadKey_injective projectId same)]

/-! ### Batches -/

section

variable {runtime : Runtime} {env : AttemptEnv} {projectId : UUID} {spans : List SpanSchema}

theorem uploads_of_mem_attemptWrites {world : World} {write : PayloadWrite}
    (member : write ∈ attemptWrites runtime env projectId spans world) :
    write.span ∈ spans ∧ write.span.Uploads runtime projectId world write.bytes := by
  obtain ⟨source, admitted, encoded, fits⟩ := mem_attemptWrites member
  exact ⟨source, admitted, encoded, fits⟩

/-- A row that a committed batch adds comes from the first pair with its identity. -/
theorem pair_of_new_row {world : World} {stored : CommittedBatch}
    (committed : (processSpanBatch runtime env projectId spans world).committed = some stored)
    {row : SpanRow} (member : row ∈ (storedSpans runtime.localInstant world.db.spans
      stored.prepared).map (·.toRow runtime.localInstant)) :
    ∃ pair ∈ attemptPairs runtime env projectId spans world,
      row = pair.2.toRow runtime.localInstant ∧
      pair.2.identity runtime.localInstant ∉ SpanTable.identities world.db.spans ∧
      (attemptPairs runtime env projectId spans world).find?
        (fun other => other.2.identity runtime.localInstant =
          pair.2.identity runtime.localInstant) = some pair := by
  rw [storedSpans, ← attemptPairs_of_committed committed, firstNew_map, List.map_map] at member
  obtain ⟨pair, new, rfl⟩ := List.mem_map.mp member
  have unseen : (PreparedSpan.identity runtime.localInstant ∘ Prod.snd) pair ∉
      SpanTable.identities world.db.spans := not_mem_seen_of_mem_firstNew new
  exact ⟨pair, (firstNew_sublist _ _).subset new, rfl, unseen, find?_of_mem_firstNew new⟩

/-- The payload of a pair with a key is among the writes. -/
theorem write_of_pair {world : World} {pair : SpanSchema × PreparedSpan} {key : String}
    (member : pair ∈ attemptPairs runtime env projectId spans world)
    (stored : pair.2.payloadS3Key = some key) :
    key = payloadKey projectId pair.1.spanId ∧
      ∃ bytes, pair.1.Uploads runtime projectId world bytes ∧
        ⟨pair.1, bytes⟩ ∈ attemptWrites runtime env projectId spans world := by
  obtain ⟨same, admitted, bytes, encoded, fits⟩ :=
    (preparedPair_of_mem_attemptPairs member).payload key stored
  change pair.1.encodedPayload runtime (attemptRedactKeys runtime projectId world) = _ at encoded
  refine ⟨same, bytes, ⟨admitted, encoded, fits⟩, List.mem_filterMap.mpr ⟨pair, member, ?_⟩⟩
  simp only [payloadWrite, stored, encoded, Option.map_some]

/-- A stored row keeps its payload through a batch that brings no other one for its id. -/
theorem owned_old_row {history : PayloadHistory} {env : { env : AttemptEnv // env.StoresObjects }}
    (keeps : KeepsPayloads runtime projectId history (.processSpanBatch env spans))
    (owned : PayloadsOwned projectId history) {row : SpanRow} {key : String}
    (member : row ∈ history.world.db.spans.rows) (inProject : row.projectId = projectId)
    (stored : row.payloadS3Key = some key) :
    key = payloadKey projectId row.id ∧
      ∃ bytes, history.submitted (SpanRow.primaryKey row) = some bytes ∧
        (processSpanBatch runtime env projectId spans history.world).world.objects key =
          some bytes := by
  obtain ⟨rfl, bytes, submitted, held⟩ := owned row member inProject key stored
  refine ⟨rfl, bytes, submitted, ?_⟩
  rw [processSpanBatch_objects]
  refine object_of_writes ?_ (Or.inl held)
  intro write written same
  obtain ⟨source, uploads⟩ := uploads_of_mem_attemptWrites written
  have again := (keeps write.span source write.bytes uploads).1 row member inProject same.symm
    (by simp [stored])
  rw [submitted, Option.some.injEq] at again
  exact again.symm

/-- A batch that meets the condition leaves every row its own payload. -/
theorem payloadsOwned_afterBatch {history : PayloadHistory}
    (env : { env : AttemptEnv // env.StoresObjects })
    (keeps : KeepsPayloads runtime projectId history (.processSpanBatch env spans))
    (owned : PayloadsOwned projectId history) :
    PayloadsOwned projectId (history.afterBatch runtime env projectId spans) := by
  intro row member inProject key stored
  simp only [PayloadHistory.afterBatch] at member ⊢
  rcases processSpanBatch_cases runtime env projectId spans history.world with
    ⟨uncommitted, sameDb⟩ | ⟨batch, committed, attempt⟩
  · rw [sameDb] at member
    rw [uncommitted]
    exact owned_old_row keeps owned member inProject stored
  · rw [committed]
    rw [attempt.stores.spans, List.mem_append] at member
    rcases member with old | new
    · obtain ⟨same, bytes, submitted, held⟩ := owned_old_row keeps owned old inProject stored
      have known : SpanRow.primaryKey row ∈ SpanTable.identities history.world.db.spans :=
        List.mem_map_of_mem old
      refine ⟨same, bytes, ?_, held⟩
      dsimp only [submittedWith]
      rw [if_pos (List.contains_iff_mem.mpr known), submitted]
    · obtain ⟨pair, prepared, rfl, fresh, first⟩ := pair_of_new_row committed new
      have spanId := (preparedPair_of_mem_attemptPairs prepared).prepares.id
      obtain ⟨rfl, bytes, uploads, written⟩ := write_of_pair prepared stored
      refine ⟨by rw [← spanId]; rfl, bytes, ?_, ?_⟩
      · change submittedWith _ _ _ _ _ (pair.2.identity runtime.localInstant) = some bytes
        dsimp only [submittedWith]
        rw [if_neg (by simpa using fresh), first]
        exact uploads.encoded
      · rw [processSpanBatch_objects]
        refine object_of_writes ?_ (Or.inr ⟨_, written, rfl⟩)
        intro write member same
        obtain ⟨source, again⟩ := uploads_of_mem_attemptWrites member
        exact (keeps pair.1 (preparedPair_of_mem_attemptPairs prepared).source bytes uploads).2
          write.span source write.bytes same again

end

/-! ### Retention -/

/-- A retention run that finds no payload key on both sides of its cutoff leaves every
remaining row its own payload. -/
theorem payloadsOwned_afterRetention {runtime : Runtime} {projectId : UUID}
    {history : PayloadHistory} {world : World} {cutoff : Int}
    (env : { env : RetentionEnv // env.Undisturbed })
    (keeps : KeepsPayloads runtime projectId history (.runDataRetention env cutoff))
    (ran : runProjectRetention env projectId cutoff history.world = some world)
    (owned : PayloadsOwned projectId history) :
    PayloadsOwned projectId { history with world := world } := by
  obtain ⟨final, ends, safe, left⟩ := retentionLoop_undisturbed env.2 projectId cutoff
    history.world.db.spans history.world.objects
  rw [runProjectRetention, ends _ (Nat.lt_succ_self _), Option.map_some, Option.some.injEq] at ran
  subst ran
  intro row member inProject key stored
  have before := safe.remaining.subset member
  obtain ⟨same, bytes, submitted, held⟩ := owned row before inProject key stored
  refine ⟨same, bytes, submitted, ?_⟩
  have fresh : cutoff ≤ row.startedAt := by
    have unexpired := left row member
    simpa [SpanRow.expired, inProject] using unexpired
  rw [← held]
  refine safe.untouched key fun other otherStored expired shares => ?_
  exact keeps other otherStored expired row before inProject fresh key shares stored

/-! ### Runs -/

/-- Every run is enabled: retention ends. -/
theorem payloadRuns_enabled (runtime : Runtime) (projectId : UUID) (history : PayloadHistory)
    (action : PayloadAction) :
    ∃ next, (payloadRuns runtime projectId).step history action = some next := by
  cases action with
  | processSpanBatch env spans => exact ⟨_, rfl⟩
  | runDataRetention env cutoff =>
      obtain ⟨final, ends, -⟩ := retentionLoop_undisturbed env.2 projectId cutoff
        history.world.db.spans history.world.objects
      simp only [payloadRuns, runProjectRetention, ends _ (Nat.lt_succ_self _), Option.map_some]
      exact ⟨_, rfl⟩

/-- In a run whose steps all meet the condition, every stored payload key of the project
leads to the redacted payload of its own span in every state reached. -/
theorem payloadsOwned_of_run {runtime : Runtime} {projectId : UUID}
    {history final : PayloadHistory} {actions : List PayloadAction}
    (owned : PayloadsOwned projectId history)
    (keeps : (payloadRuns runtime projectId).Along (KeepsPayloads runtime projectId) history
      actions)
    (reached : (payloadRuns runtime projectId).run history actions = some final) :
    PayloadsOwned projectId final := by
  refine (payloadRuns runtime projectId).run_invariant (PayloadsOwned projectId) ?_ owned keeps
    reached
  intro state action next owned meets stepped
  cases action with
  | processSpanBatch env spans =>
      simp only [payloadRuns, Option.some.injEq] at stepped
      exact stepped ▸ payloadsOwned_afterBatch env meets owned
  | runDataRetention env cutoff =>
      simp only [payloadRuns, Option.map_eq_some_iff] at stepped
      obtain ⟨world, ran, rfl⟩ := stepped
      exact payloadsOwned_afterRetention env meets ran owned

/-! ### A shared object -/

/-- Retention that scans rows as they are stored. -/
def RetentionEnv.undisturbed : { env : RetentionEnv // env.Undisturbed } :=
  ⟨{ scanOrder := fun _ rows => rows
     scanOrder_perm := fun _ rows => List.Perm.refl rows
     answer := fun _ _ => .answered []
     lostBeforeFetch := fun _ _ => false
     lostBeforeDelete := fun _ _ => false }, ⟨fun _ _ => rfl, fun _ _ => rfl⟩⟩

/-- An attempt without faults whose first event gets the id `first`. -/
def AttemptEnv.storing (first : Nat) : { env : AttemptEnv // env.StoresObjects } :=
  ⟨{ AttemptEnv.faultless with eventId := fun index => BitVec.ofNat 128 (first + index) },
    fun _ => rfl⟩

/-- A project that stores all payloads and has none. -/
def PayloadHistory.empty : PayloadHistory where
  world := .ofDatabase { Database.empty with
    projects := Table.empty.insertOrSkip ⟨1, .all, 0, ""⟩ }
  submitted := fun _ => none

def storedCallAt (startedAt : Int) : SpanSchema :=
  { spanStartingAt (.utc startedAt) with
    output := some "stored"
    output_le := by decide }

theorem uploads_storedCallAt {world : World} {startedAt : Int} {bytes : List UInt8}
    (uploads : (storedCallAt startedAt).Uploads .inUtc 1 world bytes) : bytes = [] := by
  have encoded : some [] = some bytes := uploads.encoded
  exact (Option.some.inj encoded).symm

theorem keepsPayloads_storedCallAt {history : PayloadHistory} {startedAt : Int}
    (env : { env : AttemptEnv // env.StoresObjects })
    (stored : ∀ row ∈ history.world.db.spans.rows,
      history.submitted (SpanRow.primaryKey row) = some []) :
    KeepsPayloads .inUtc 1 history (.processSpanBatch env [storedCallAt startedAt]) := by
  intro span member bytes uploads
  rw [List.mem_singleton.mp member] at uploads
  rw [uploads_storedCallAt uploads]
  refine ⟨fun row rowStored _ _ _ => stored row rowStored, ?_⟩
  intro other otherMember otherBytes _ again
  rw [List.mem_singleton.mp otherMember] at again
  exact uploads_storedCallAt again

/-- A span that is resent, and a retention run that does not reach it. -/
theorem payloadsOwned_of_run_resent :
    ∃ final, (payloadRuns .inUtc 1).run .empty
        [.processSpanBatch (AttemptEnv.storing 1) [storedCallAt 0],
          .processSpanBatch (AttemptEnv.storing 2) [storedCallAt 0],
          .runDataRetention RetentionEnv.undisturbed 0] = some final ∧
      PayloadsOwned 1 final := by
  obtain ⟨final, reached⟩ : ∃ final, (payloadRuns .inUtc 1).run .empty
      [.processSpanBatch (AttemptEnv.storing 1) [storedCallAt 0],
        .processSpanBatch (AttemptEnv.storing 2) [storedCallAt 0],
        .runDataRetention RetentionEnv.undisturbed 0] = some final :=
    Option.isSome_iff_exists.mp (by decide +kernel)
  refine ⟨final, reached, payloadsOwned_of_run (fun row member => ?_) ?_ reached⟩
  · cases member
  · refine ⟨keepsPayloads_storedCallAt _ fun row member => ?_, ?_⟩
    · cases member
    · rintro first ⟨⟩
      refine ⟨keepsPayloads_storedCallAt _ ?_, ?_⟩
      · decide +kernel
      · rintro second ⟨⟩
        have fresh : ∀ row ∈ (PayloadHistory.empty.afterBatch .inUtc (AttemptEnv.storing 1) 1
              [storedCallAt 0] |>.afterBatch .inUtc (AttemptEnv.storing 2) 1
                [storedCallAt 0]).world.db.spans.rows,
            SpanRow.expired 1 0 row = false := by
          decide +kernel
        refine ⟨fun row member expired => ?_, fun _ _ => trivial⟩
        rw [fresh row member] at expired
        cases expired

/-- A span that comes again with a later start gets a row of its own. Retention deletes
the first row and the object, and the second row keeps a key without an object. -/
theorem retimed_span_loses_payload :
    ((payloadRuns .inUtc 1).run .empty
        [.processSpanBatch (AttemptEnv.storing 1) [storedCallAt 0],
          .processSpanBatch (AttemptEnv.storing 2) [storedCallAt 100],
          .runDataRetention RetentionEnv.undisturbed 50]).map
      (fun final => final.world.db.spans.rows.map fun row =>
        (row.startedAt, row.payloadS3Key, row.payloadS3Key.bind final.world.objects)) =
    some [(100, some (payloadKey 1 2), none)] := by
  decide +kernel

end LlmObs.Backend
