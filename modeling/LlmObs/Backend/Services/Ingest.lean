import LlmObs.Backend.Models

/-!
Owns the batch status record and the deduplicating insert of spans. The times of
the status record are left out: only metrics read them.
-/

namespace LlmObs.Backend

open LlmObs.Foundation

/-! ### Batch status -/

inductive BatchState where
  | accepted
  | processing
  | processed
  | partialFailed
  | failed
deriving DecidableEq, Repr

/-- The status that `BatchStatusService` keeps for one batch. -/
structure BatchStatus where
  status : BatchState
  accepted : Nat
  processed : Nat
  failed : Nat
  error : Option String
deriving DecidableEq, Repr

def createAccepted (accepted : Nat) : BatchStatus where
  status := .accepted
  accepted := accepted
  processed := 0
  failed := 0
  error := none

/-- What `_merge` starts from: the stored record, or the defaults once it has
expired. `status` is in every update. -/
def mergeBase (existing : Option BatchStatus) : BatchStatus :=
  existing.getD (createAccepted 0)

def markProcessing (existing : Option BatchStatus) : BatchStatus :=
  { mergeBase existing with status := .processing, error := none }

def markFinished (processed failed : Nat) (existing : Option BatchStatus) : BatchStatus :=
  { mergeBase existing with
    status := if failed = 0 then .processed else .partialFailed
    processed := processed
    failed := failed
    error := none }

def markBatchFailed (error : String) (existing : Option BatchStatus) : BatchStatus :=
  { mergeBase existing with
    status := .failed
    error := some (String.ofList (error.toList.take 1000)) }

/-! ### Span insert -/

/-- The row that a prepared span is stored as. -/
def PreparedSpan.toRow (localInstant : Int → Int) (span : PreparedSpan) : SpanRow where
  id := span.id
  traceId := span.traceId
  projectId := span.projectId
  parentSpanId := span.parentSpanId
  name := span.name
  provider := span.provider
  model := span.model
  inputTokens := span.inputTokens
  outputTokens := span.outputTokens
  costUsd := span.costUsd
  latencyMs := span.latencyMs
  status := span.status
  error := span.error
  startedAt := span.startedAt.toTimestamptz localInstant
  payloadS3Key := span.payloadS3Key
  payloadStatus := span.payloadStatus
  payloadDropReason := span.payloadDropReason
  metadata := span.metadata

/-- `SpanIdentity` -/
abbrev SpanIdentity := UUID × Datetime

/-- `bulk_insert_spans`: `ON CONFLICT (id, started_at) DO NOTHING`, returning the
identities of the inserted rows with their starts as aware datetimes. -/
def bulkInsertSpans (localInstant : Int → Int) (spans : List PreparedSpan)
    (table : SpanTable) : SpanTable × List SpanIdentity :=
  let (table, inserted) := table.insertAll (spans.map (·.toRow localInstant))
  (table, inserted.map fun row => (row.id, .utc row.startedAt))

end LlmObs.Backend
