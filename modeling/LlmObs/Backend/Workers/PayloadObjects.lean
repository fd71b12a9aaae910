import LlmObs.Backend.Workers.AttemptEffect

/-!
Owns what an attempt writes to the object store: the payloads of the spans that it
prepares with a payload key, in order, and nothing else. A write stays when the
transaction does not commit.
-/

namespace LlmObs.Backend

open LlmObs.Foundation

/-! ### One payload -/

/-- What `store_payload` encodes: the messages and the output, redacted. -/
def redactedPayload (runtime : Runtime) (redactKeys : List String) (messages : List Json)
    (output : Option String) : Json :=
  let payloadData : Json := .obj [("messages", .arr messages),
    ("output", match output with
      | some text => .str text
      | none => .null)]
  if redactKeys.isEmpty then payloadData else redactPayload runtime redactKeys payloadData

/-- The bytes that `store_payload` uploads for a span. -/
def SpanSchema.encodedPayload (runtime : Runtime) (redactKeys : List String)
    (span : SpanSchema) : Option (List UInt8) :=
  runtime.dumpsUtf8 (redactedPayload runtime redactKeys span.inputMessages span.output)

def ObjectStore.put (objects : ObjectStore) (key : String) (bytes : List UInt8) : ObjectStore :=
  fun other => if other = key then some bytes else objects other

theorem ObjectStore.put_same (objects : ObjectStore) (key : String) (bytes : List UInt8) :
    objects.put key bytes key = some bytes := if_pos rfl

theorem ObjectStore.put_other {objects : ObjectStore} {key other : String} {bytes : List UInt8}
    (different : other ≠ key) : objects.put key bytes other = objects other :=
  if_neg different

theorem storePayload_eq (runtime : Runtime) (projectId spanId : UUID) (messages : List Json)
    (output : Option String) (maxBytes : Nat) (redactKeys : List String) (uploaded : Bool)
    (objects : ObjectStore) :
    storePayload runtime projectId spanId messages output maxBytes redactKeys uploaded objects =
      match runtime.dumpsUtf8 (redactedPayload runtime redactKeys messages output) with
      | none => .error unicodeEncodeError
      | some payloadBytes =>
          if maxBytes < payloadBytes.length then
            .ok (⟨none, .tooLarge, some .maxBytesExceeded⟩, objects)
          else if uploaded then
            .ok (⟨some (payloadKey projectId spanId),
                if redactKeys.isEmpty then .stored else .storedRedacted, none⟩,
              objects.put (payloadKey projectId spanId) payloadBytes)
          else .ok (⟨none, .storageFailed, some .s3Error⟩, objects) := rfl

/-- What preparing a span makes of the object store, by the payload key it gets. -/
inductive PayloadStep (runtime : Runtime) (settings : PayloadPrivacySettings)
    (projectId : UUID) (span : SpanSchema) (objects : ObjectStore) :
    Option String → ObjectStore → Prop where
  | kept : PayloadStep runtime settings projectId span objects none objects
  | stored {bytes : List UInt8}
      (admitted : shouldStorePayload settings.payloadStorageMode span.hasError = true)
      (encoded : span.encodedPayload runtime
        (parseRedactKeys runtime settings.payloadRedactKeys) = some bytes)
      (fits : bytes.length ≤ settings.payloadMaxBytes) :
      PayloadStep runtime settings projectId span objects
        (some (payloadKey projectId span.spanId))
        (objects.put (payloadKey projectId span.spanId) bytes)

section

variable {runtime : Runtime} {env : AttemptEnv} {prices : ModelPricingTable}
  {settings : PayloadPrivacySettings} {projectId : UUID}

theorem preparePayload_step {index : Nat} {span : SpanSchema} {objects next : ObjectStore}
    {payload : PayloadStorageResult}
    (done : preparePayload runtime env settings
      (parseRedactKeys runtime settings.payloadRedactKeys) projectId index span objects =
        .ok (payload, next)) :
    PayloadStep runtime settings projectId span objects payload.s3Key next := by
  simp only [preparePayload] at done
  split at done
  · rename_i admitted
    split at done
    · cases done
    · rw [orRaised_eq_ok] at done
      rw [storePayload_eq] at done
      split at done
      · cases done
      · rename_i bytes encoded
        split at done
        · cases done
          exact .kept
        · rename_i fits
          split at done
          · cases done
            exact .stored admitted encoded (Nat.le_of_not_lt fits)
          · cases done
            exact .kept
  · cases done
    unfold skippedPayloadResult
    split <;> exact .kept

/-- With a store that answers, an admitted payload within the limit is stored. -/
theorem preparePayload_stored {index : Nat} {span : SpanSchema} {bytes : List UInt8}
    (answers : env.fault (.putObject index) = none)
    (admitted : shouldStorePayload settings.payloadStorageMode span.hasError = true)
    (encoded : span.encodedPayload runtime
      (parseRedactKeys runtime settings.payloadRedactKeys) = some bytes)
    (fits : bytes.length ≤ settings.payloadMaxBytes) (objects : ObjectStore) :
    ∃ status, preparePayload runtime env settings
        (parseRedactKeys runtime settings.payloadRedactKeys) projectId index span objects =
      .ok (⟨some (payloadKey projectId span.spanId), status, none⟩,
        objects.put (payloadKey projectId span.spanId) bytes) := by
  rw [SpanSchema.encodedPayload] at encoded
  simp only [preparePayload, admitted, if_true, answers, storePayload_eq, encoded,
    Nat.not_lt.mpr fits, if_false, Option.isNone_none, orRaised]
  exact ⟨_, rfl⟩

/-- A span that is prepared may have written its payload, one that is not has not. -/
theorem prepareSpan_objects {index : Nat} {span : SpanSchema} {state next : PrepareState}
    {outcome : Except Halt PreparedSpan}
    (done : prepareSpan runtime env prices settings projectId index span state =
      (outcome, next)) :
    match outcome with
    | .ok prepared => PayloadStep runtime settings projectId span state.objects
        prepared.payloadS3Key next.objects
    | .error _ => next.objects = state.objects := by
  simp only [prepareSpan] at done
  split at done
  · cases done
    rfl
  · split at done
    · cases done
      rfl
    · split at done
      · cases done
        rfl
      · rename_i prepares
        cases done
        exact preparePayload_step prepares

end

/-! ### The loop over the spans -/

/-- The spans that the loop prepares, each with what it becomes, up to an error that
ends the loop. -/
def preparedPairs (prepare : Nat → SpanSchema → PrepareState →
      Except Halt PreparedSpan × PrepareState) :
    Nat → List SpanSchema → PrepareState → List (SpanSchema × PreparedSpan)
  | _, [], _ => []
  | index, span :: rest, state =>
      match prepare index span state with
      | (.ok prepared, state) => (span, prepared) :: preparedPairs prepare (index + 1) rest state
      | (.error (.raised exception), state) =>
          if isTransientSpanProcessingError exception then []
          else preparedPairs prepare (index + 1) rest state
      | (.error .killed, _) => []

/-- An object that is written for a span. -/
structure PayloadWrite where
  span : SpanSchema
  bytes : List UInt8

/-- The write of a prepared span, if it has a payload key. -/
def payloadWrite (runtime : Runtime) (redactKeys : List String)
    (pair : SpanSchema × PreparedSpan) : Option PayloadWrite :=
  match pair.2.payloadS3Key with
  | some _ => (pair.1.encodedPayload runtime redactKeys).map (⟨pair.1, ·⟩)
  | none => none

def PayloadWrite.apply (projectId : UUID) (objects : ObjectStore) (write : PayloadWrite) :
    ObjectStore :=
  objects.put (payloadKey projectId write.span.spanId) write.bytes

section

variable {runtime : Runtime} {env : AttemptEnv} {prices : ModelPricingTable}
  {settings : PayloadPrivacySettings} {projectId : UUID}

theorem preparedPairs_eq {prepare : Nat → SpanSchema → PrepareState →
      Except Halt PreparedSpan × PrepareState} {index : Nat} {spans : List SpanSchema}
    {state next : PrepareState} {prepared : List PreparedSpan} {failed : Nat}
    (done : prepareSpans prepare index spans state = (.ok (prepared, failed), next)) :
    (preparedPairs prepare index spans state).map Prod.snd = prepared := by
  induction spans generalizing index state prepared failed next with
  | nil =>
      simp only [prepareSpans, Prod.mk.injEq, Except.ok.injEq] at done
      exact done.1.1
  | cons span rest inductionHypothesis =>
      simp only [prepareSpans] at done
      split at done
      · rename_i first middle prepares
        obtain ⟨others, same⟩ := Prod.mk.inj done
        obtain ⟨⟨restPrepared, restFailed⟩, restDone, counted⟩ := map_eq_ok.mp others
        cases counted
        rw [preparedPairs, prepares]
        simp only [List.map_cons, inductionHypothesis (Prod.ext restDone same)]
      · rename_i exception middle raises
        split at done
        · cases done
        · rename_i notTransient
          obtain ⟨others, same⟩ := Prod.mk.inj done
          obtain ⟨⟨restPrepared, restFailed⟩, restDone, counted⟩ := map_eq_ok.mp others
          cases counted
          rw [preparedPairs, raises]
          simp only [if_neg notTransient]
          exact inductionHypothesis (Prod.ext restDone same)
      · cases done

/-- A span and what it was prepared to. -/
structure PreparedPair (runtime : Runtime) (settings : PayloadPrivacySettings)
    (projectId : UUID) (spans : List SpanSchema) (pair : SpanSchema × PreparedSpan) : Prop where
  source : pair.1 ∈ spans
  prepares : pair.1.PreparesTo projectId pair.2
  payload : ∀ key, pair.2.payloadS3Key = some key → key = payloadKey projectId pair.1.spanId ∧
    shouldStorePayload settings.payloadStorageMode pair.1.hasError = true ∧
    ∃ bytes, pair.1.encodedPayload runtime
        (parseRedactKeys runtime settings.payloadRedactKeys) = some bytes ∧
      bytes.length ≤ settings.payloadMaxBytes

theorem PayloadStep.payload {span : SpanSchema} {objects next : ObjectStore}
    {s3Key : Option String}
    (step : PayloadStep runtime settings projectId span objects s3Key next) :
    ∀ key, s3Key = some key → key = payloadKey projectId span.spanId ∧
      shouldStorePayload settings.payloadStorageMode span.hasError = true ∧
      ∃ bytes, span.encodedPayload runtime
          (parseRedactKeys runtime settings.payloadRedactKeys) = some bytes ∧
        bytes.length ≤ settings.payloadMaxBytes := by
  intro key stored
  cases step with
  | kept => cases stored
  | stored admitted encoded fits =>
      cases stored
      exact ⟨rfl, admitted, _, encoded, fits⟩

theorem preparedPair_of_mem {index : Nat} {spans : List SpanSchema} {state : PrepareState}
    {pair : SpanSchema × PreparedSpan}
    (member : pair ∈ preparedPairs (prepareSpan runtime env prices settings projectId) index
      spans state) : PreparedPair runtime settings projectId spans pair := by
  induction spans generalizing index state with
  | nil => cases member
  | cons span rest inductionHypothesis =>
      have fromRest : ∀ {index : Nat} {state : PrepareState},
          pair ∈ preparedPairs (prepareSpan runtime env prices settings projectId) index rest
            state → PreparedPair runtime settings projectId (span :: rest) pair := by
        intro index state later
        have inRest := inductionHypothesis later
        exact ⟨List.mem_cons_of_mem _ inRest.source, inRest.prepares, inRest.payload⟩
      simp only [preparedPairs] at member
      split at member
      · rename_i first middle prepares
        rcases List.mem_cons.mp member with rfl | later
        · exact ⟨List.mem_cons_self .., prepareSpan_keeps prepares,
            (prepareSpan_objects prepares).payload⟩
        · exact fromRest later
      · split at member
        · cases member
        · exact fromRest member
      · cases member

/-- The write of a pair is what its preparation did to the objects. -/
theorem PayloadStep.apply_write {span : SpanSchema} {prepared : PreparedSpan}
    {objects next : ObjectStore}
    (step : PayloadStep runtime settings projectId span objects prepared.payloadS3Key next) :
    ((payloadWrite runtime (parseRedactKeys runtime settings.payloadRedactKeys)
      (span, prepared)).toList.foldl (PayloadWrite.apply projectId) objects) = next := by
  generalize key : prepared.payloadS3Key = s3Key at step
  cases step with
  | kept => simp [payloadWrite, key]
  | stored admitted encoded fits => simp [payloadWrite, key, encoded, PayloadWrite.apply]

/-- The loop leaves the objects with the writes of its pairs. -/
theorem prepareSpans_objects (index : Nat) (spans : List SpanSchema) (state : PrepareState) :
    (prepareSpans (prepareSpan runtime env prices settings projectId) index spans
        state).2.objects =
      ((preparedPairs (prepareSpan runtime env prices settings projectId) index spans
        state).filterMap (payloadWrite runtime
          (parseRedactKeys runtime settings.payloadRedactKeys))).foldl
        (PayloadWrite.apply projectId) state.objects := by
  induction spans generalizing index state with
  | nil => rfl
  | cons span rest inductionHypothesis =>
      cases prepares : prepareSpan runtime env prices settings projectId index span state with
      | mk outcome middle =>
      have step := prepareSpan_objects prepares
      cases outcome with
      | ok prepared =>
          simp only [prepareSpans, preparedPairs, prepares, inductionHypothesis]
          rw [← step.apply_write, List.filterMap_cons]
          cases payloadWrite runtime (parseRedactKeys runtime settings.payloadRedactKeys)
              (span, prepared) <;> rfl
      | error halt =>
          dsimp only at step
          cases halt with
          | killed => simp only [prepareSpans, preparedPairs, prepares, step]; rfl
          | raised exception =>
              by_cases transient : isTransientSpanProcessingError exception = true
              · simp only [prepareSpans, preparedPairs, prepares, if_pos transient, step]
                rfl
              · simp only [prepareSpans, preparedPairs, prepares, if_neg transient,
                  inductionHypothesis, step]

end

/-! ### One attempt -/

/-- The spans that an attempt prepares, each with what it becomes. -/
def attemptPairs (runtime : Runtime) (env : AttemptEnv) (projectId : UUID)
    (spans : List SpanSchema) (world : World) : List (SpanSchema × PreparedSpan) :=
  match startAttempt env world with
  | (_, some _) => []
  | (begun, none) =>
      match env.check .loadSettings with
      | .error _ => []
      | .ok _ =>
          preparedPairs (prepareSpan runtime env begun.db.modelPricing
              (loadPayloadPrivacySettings projectId begun.db.projects) projectId) 0 spans
            ⟨begun.pricingCache, fun _ => [], begun.objects⟩

/-- The redact keys that an attempt uses. -/
def attemptRedactKeys (runtime : Runtime) (projectId : UUID) (world : World) : List String :=
  parseRedactKeys runtime (loadPayloadPrivacySettings projectId world.db.projects).payloadRedactKeys

/-- The objects that an attempt writes, in order. -/
def attemptWrites (runtime : Runtime) (env : AttemptEnv) (projectId : UUID)
    (spans : List SpanSchema) (world : World) : List PayloadWrite :=
  (attemptPairs runtime env projectId spans world).filterMap
    (payloadWrite runtime (attemptRedactKeys runtime projectId world))

section

variable {runtime : Runtime} {env : AttemptEnv} {projectId : UUID} {spans : List SpanSchema}
  {world : World}

theorem preparedPair_of_mem_attemptPairs {pair : SpanSchema × PreparedSpan}
    (member : pair ∈ attemptPairs runtime env projectId spans world) :
    PreparedPair runtime (loadPayloadPrivacySettings projectId world.db.projects) projectId spans
      pair := by
  have startDb := startAttempt_db env world
  simp only [attemptPairs] at member
  split at member
  · cases member
  · rename_i begun started
    rw [started] at startDb
    dsimp only at startDb
    split at member
    · cases member
    · rw [← startDb]
      exact preparedPair_of_mem member

theorem mem_attemptWrites {write : PayloadWrite}
    (member : write ∈ attemptWrites runtime env projectId spans world) :
    write.span ∈ spans ∧
      shouldStorePayload (loadPayloadPrivacySettings projectId
        world.db.projects).payloadStorageMode write.span.hasError = true ∧
      write.span.encodedPayload runtime (attemptRedactKeys runtime projectId world) =
        some write.bytes ∧
      write.bytes.length ≤
        (loadPayloadPrivacySettings projectId world.db.projects).payloadMaxBytes := by
  obtain ⟨pair, prepared, written⟩ := List.mem_filterMap.mp member
  have paired := preparedPair_of_mem_attemptPairs prepared
  simp only [payloadWrite] at written
  split at written
  · rename_i key stored
    obtain ⟨-, admitted, bytes, encoded, fits⟩ := paired.payload key stored
    change pair.1.encodedPayload runtime (attemptRedactKeys runtime projectId world) = _
      at encoded
    rw [encoded, Option.map_some, Option.some.injEq] at written
    subst written
    exact ⟨paired.source, admitted, encoded, fits⟩
  · cases written

variable (runtime projectId spans) in
/-- The preparation of an attempt that has begun. -/
theorem prepareBatch_objects {begun : World} (started : startAttempt env world = (begun, none)) :
    (prepareBatch runtime env projectId spans begun).2.objects =
      (attemptWrites runtime env projectId spans world).foldl (PayloadWrite.apply projectId)
        begun.objects := by
  have startDb := startAttempt_db env world
  rw [started] at startDb
  dsimp only at startDb
  simp only [prepareBatch, attemptWrites, attemptPairs, attemptRedactKeys, started]
  rw [← startDb]
  cases env.check .loadSettings with
  | error halt => rfl
  | ok _ => exact prepareSpans_objects ..

theorem prepareBatch_pairs {begun after : World} {prepared : List PreparedSpan} {failed : Nat}
    (started : startAttempt env world = (begun, none))
    (prepares : prepareBatch runtime env projectId spans begun =
      (.ok (prepared, failed), after)) :
    (attemptPairs runtime env projectId spans world).map Prod.snd = prepared := by
  simp only [attemptPairs, started]
  simp only [prepareBatch] at prepares
  cases loads : env.check .loadSettings with
  | error halt =>
      rw [loads] at prepares
      cases prepares
  | ok _ =>
      simp only [loads, Prod.mk.injEq] at prepares
      exact preparedPairs_eq (Prod.ext prepares.1 rfl)

theorem commitBatch_objects (env : AttemptEnv) (projectId : UUID) (stored : CommittedBatch)
    (db : Database) (world : World) :
    (commitBatch env projectId stored db world).world.objects = world.objects := by
  have keepsStatus : ∀ (world : World) update, (world.setStatus update).objects = world.objects :=
    fun _ _ => rfl
  simp only [commitBatch]
  split
  · exact failAttempt_keeps keepsStatus env _ none world
  · exact failAttempt_keeps keepsStatus env _ _ { world with db := db }
  · have behind := afterCommit_keeps keepsStatus (fun _ _ => rfl) env projectId stored.batch
      stored.failedCount { world with db := db }
    split
    · rename_i after same
      rwa [same] at behind
    · rename_i after halt same
      rw [same] at behind
      exact (failAttempt_keeps keepsStatus env halt _ after).trans behind

variable (runtime env projectId spans world) in
/-- An attempt leaves the objects with its writes, whether it commits or not. -/
theorem processSpanBatch_objects :
    (processSpanBatch runtime env projectId spans world).world.objects =
      (attemptWrites runtime env projectId spans world).foldl (PayloadWrite.apply projectId)
        world.objects := by
  have keepsStatus : ∀ (world : World) update, (world.setStatus update).objects = world.objects :=
    fun _ _ => rfl
  have startObjects := startAttempt_keeps keepsStatus env world
  have path := attemptPath runtime env projectId spans world
  generalize processSpanBatch runtime env projectId spans world = run at path
  cases path with
  | notStarted started =>
      rw [started] at startObjects
      simp only [attemptWrites, attemptPairs, started]
      exact startObjects
  | @notStored begun after halt started prepares =>
      rw [started] at startObjects
      dsimp only at startObjects
      rw [failAttempt_keeps keepsStatus, ← prepares,
        prepareBatch_objects runtime projectId spans started, startObjects]
  | @stored begun after db stored started prepares stores =>
      rw [started] at startObjects
      dsimp only at startObjects
      have prepared := prepareBatch_objects runtime projectId spans started
      rw [prepares] at prepared
      rw [commitBatch_objects, ← startObjects]
      exact prepared

/-- A committed attempt stores what its pairs became. -/
theorem attemptPairs_of_committed {stored : CommittedBatch}
    (committed : (processSpanBatch runtime env projectId spans world).committed = some stored) :
    (attemptPairs runtime env projectId spans world).map Prod.snd = stored.prepared := by
  have path := attemptPath runtime env projectId spans world
  generalize processSpanBatch runtime env projectId spans world = run at path committed
  cases path with
  | notStarted => cases committed
  | notStored started prepares =>
      rw [(failAttempt_spec ..).2.1] at committed
      cases committed
  | @stored begun after db other started prepares stores =>
      rcases commitBatch_spec env projectId other db after with ⟨none, -⟩ | ⟨some, -⟩
      · rw [none] at committed
        cases committed
      · rw [some, Option.some.injEq] at committed
        exact committed ▸ prepareBatch_pairs started prepares

end

end LlmObs.Backend
