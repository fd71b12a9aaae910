import LlmObs.Backend.Workers.BatchConsistency
import LlmObs.Backend.Workers.PayloadObjects

/-!
Owns what an attempt shows of the payloads when its project stores none: nothing.
Two batches that differ only in what the mode hides lead to the same run.
-/

namespace LlmObs.Backend

open LlmObs.Foundation

/-! ### What the mode hides -/

/-- The entries of span metadata that can be stored: under an allow-listed key, those
with a scalar value and those that the project redacts. -/
def storableMetadata (runtime : Runtime) (redactKeys : List String)
    (metadata : List (String × Json)) : List (String × Json) :=
  metadata.filter fun (key, value) => safeSpanMetadataKeys.contains (runtime.lower key) &&
    (value.isScalar || decide (runtime.lower key ∈ redactKeys))

/-- The spans differ at most in their messages, their output and metadata that cannot
be stored. -/
structure SpanSchema.SameButPayload (runtime : Runtime) (redactKeys : List String)
    (left right : SpanSchema) : Prop where
  spanId : left.spanId = right.spanId
  traceId : left.traceId = right.traceId
  parentSpanId : left.parentSpanId = right.parentSpanId
  name : left.name = right.name
  provider : left.provider = right.provider
  model : left.model = right.model
  error : left.error = right.error
  inputTokens : left.inputTokens = right.inputTokens
  outputTokens : left.outputTokens = right.outputTokens
  latencyMs : left.latencyMs = right.latencyMs
  startedAt : left.startedAt = right.startedAt
  metadata : storableMetadata runtime redactKeys left.metadata =
    storableMetadata runtime redactKeys right.metadata

/-! ### Metadata -/

section

variable {runtime : Runtime} {redactKeys : List String}

theorem isScalar_redactPayload (value : Json) :
    (redactPayload runtime redactKeys value).isScalar = value.isScalar := by
  cases value <;> simp [redactPayload, Json.isScalar]

/-- Only entries that can be stored are. -/
theorem sanitizeSpanMetadata_storable (metadata : List (String × Json)) :
    sanitizeSpanMetadata runtime (storableMetadata runtime redactKeys metadata) redactKeys =
      sanitizeSpanMetadata runtime metadata redactKeys := by
  induction metadata with
  | nil => rfl
  | cons entry rest inductionHypothesis =>
      obtain ⟨key, value⟩ := entry
      simp only [sanitizeSpanMetadata, storableMetadata] at inductionHypothesis
      simp only [sanitizeSpanMetadata, storableMetadata, redactEntries]
      by_cases safe : runtime.lower key ∈ safeSpanMetadataKeys
      · by_cases redacted : runtime.lower key ∈ redactKeys
        · rw [List.filter_cons_of_pos (by simp [safe, redacted]), redactEntries,
            List.filter_cons, List.filter_cons, inductionHypothesis]
        · by_cases scalar : value.isScalar = true
          · rw [List.filter_cons_of_pos (by simp [safe, scalar]), redactEntries,
              List.filter_cons, List.filter_cons, inductionHypothesis]
          · rw [List.filter_cons_of_neg (by simp [redacted, scalar]), inductionHypothesis,
              List.filter_cons_of_neg]
            simp [keepsMetadata, redacted, isScalar_redactPayload, scalar]
      · rw [List.filter_cons_of_neg (by simp [safe]), inductionHypothesis,
          List.filter_cons_of_neg]
        simp [keepsMetadata, safe]

theorem SpanSchema.SameButPayload.sanitized {left right : SpanSchema}
    (same : left.SameButPayload runtime redactKeys right) :
    sanitizeSpanMetadata runtime left.metadata redactKeys =
      sanitizeSpanMetadata runtime right.metadata redactKeys := by
  rw [← sanitizeSpanMetadata_storable left.metadata, same.metadata,
    sanitizeSpanMetadata_storable]

theorem SpanSchema.SameButPayload.hasError {left right : SpanSchema}
    (same : left.SameButPayload runtime redactKeys right) : left.hasError = right.hasError := by
  rw [SpanSchema.hasError, SpanSchema.hasError, same.error]

theorem SpanSchema.SameButPayload.preparedSpan {left right : SpanSchema}
    (same : left.SameButPayload runtime redactKeys right) (projectId : UUID) (cost : ℚ)
    (payload : PayloadStorageResult) :
    preparedSpan runtime projectId redactKeys left cost payload =
      preparedSpan runtime projectId redactKeys right cost payload := by
  simp only [LlmObs.Backend.preparedSpan, same.hasError, same.sanitized, same.spanId,
    same.traceId, same.parentSpanId, same.name, same.provider, same.model, same.error,
    same.inputTokens, same.outputTokens, same.latencyMs, same.startedAt]

end

/-! ### The attempt -/

section

variable {runtime : Runtime} {env : AttemptEnv} {prices : ModelPricingTable}
  {settings : PayloadPrivacySettings} {projectId : UUID}

theorem preparePayload_of_none (mode : settings.payloadStorageMode = .none) (index : Nat)
    (span : SpanSchema) (objects : ObjectStore) (redactKeys : List String) :
    preparePayload runtime env settings redactKeys projectId index span objects =
      .ok (skippedPayloadResult .none, objects) := by
  simp [preparePayload, shouldStorePayload, mode]

/-- The preparation of a span reads nothing of its payload. -/
theorem prepareSpan_congr (mode : settings.payloadStorageMode = .none) {left right : SpanSchema}
    (same : left.SameButPayload runtime (parseRedactKeys runtime settings.payloadRedactKeys)
      right) (index : Nat) (state : PrepareState) :
    prepareSpan runtime env prices settings projectId index left state =
      prepareSpan runtime env prices settings projectId index right state := by
  simp only [prepareSpan, preparePayload_of_none mode, same.preparedSpan, same.provider,
    same.model, same.inputTokens, same.outputTokens, same.startedAt]

theorem prepareSpans_congr {prepare : Nat → SpanSchema → PrepareState →
      Except Halt PreparedSpan × PrepareState} {related : SpanSchema → SpanSchema → Prop}
    (same : ∀ left right, related left right → ∀ index state,
      prepare index left state = prepare index right state)
    {left right : List SpanSchema} (batches : List.Forall₂ related left right) (index : Nat)
    (state : PrepareState) :
    prepareSpans prepare index left state = prepareSpans prepare index right state := by
  induction batches generalizing index state with
  | nil => rfl
  | cons head rest inductionHypothesis =>
      simp only [prepareSpans, same _ _ head, inductionHypothesis]

variable (runtime env) in
/-- A project that stores no payloads writes no object. -/
theorem attemptWrites_of_none (spans : List SpanSchema) {world : World}
    (mode : (loadPayloadPrivacySettings projectId world.db.projects).payloadStorageMode = .none) :
    attemptWrites runtime env projectId spans world = [] := by
  rw [List.eq_nil_iff_forall_not_mem]
  intro write member
  obtain ⟨-, admitted, -⟩ := mem_attemptWrites member
  rw [mode] at admitted
  cases admitted

end

def spanWithoutSecrets : SpanSchema :=
  { spanStartingAt (.utc 0) with metadata := [("route", .str "chat")] }

/-- The same span with a secret prompt. -/
def spanWithSecrets : SpanSchema :=
  { spanWithoutSecrets with
    inputMessages := [.obj [("content", .str "secret")]]
    output := some "secret answer"
    metadata := [("route", .str "chat"), ("prompt", .str "secret"), ("user", .arr [.int 7])]
    inputMessages_le := by decide
    output_le := by decide }

end LlmObs.Backend
