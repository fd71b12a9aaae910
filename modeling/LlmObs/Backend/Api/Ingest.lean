import LlmObs.Backend.Services.Idempotency
import LlmObs.Foundation.Holdings
import LlmObs.Foundation.Machine

/-!
Owns the runs of any number of concurrent `ingest_spans` requests with one
project and one `idempotency_key`: every database statement, every commit and
every enqueue is one step, and each of them can raise or be cancelled. It does
not own the batch status that `accept_batch` keeps in Redis.
-/

namespace LlmObs.Backend

open LlmObs.Foundation

/-- The await a handler stands at, in the order of the source, and how it ended. -/
inductive IngestPhase where
  /-- `INSERT` of `reserve`. -/
  | inserting
  | insertCommit
  /-- `SELECT` of `reserve`, after the insert found a row. -/
  | selecting
  /-- `UPDATE` of `reserve`, after the select found a failed record. -/
  | resetting
  | resetCommit
  /-- `create_accepted` of `accept_batch`. -/
  | creatingAccepted
  /-- `process_span_batch.kiq`. -/
  | enqueueing
  /-- `mark_failed` of `accept_batch`, after `kiq` raised. -/
  | markingBatchFailed
  /-- `UPDATE` of `mark_idempotency_failed`. -/
  | failing
  | failCommit
  /-- `UPDATE` of `commit_idempotency_result`. -/
  | committing
  | commitCommit
  /-- A 202 response. -/
  | responded (response : IngestResponse)
  /-- A 409 response. -/
  | rejected (detail : String)
  /-- An exception or a cancellation left the handler. -/
  | left
deriving DecidableEq, Repr

/-- One request past the rate limiter, with the `batch_id` it draws. -/
structure IngestHandler where
  requestHash : RequestHash
  batchId : UUID
  accepted : Nat
  phase : IngestPhase
deriving DecidableEq, Repr

def IngestHandler.result (handler : IngestHandler) : IngestResponse :=
  ⟨handler.batchId, handler.accepted⟩

def IngestHandler.at (handler : IngestHandler) (phase : IngestPhase) : IngestHandler :=
  { handler with phase := phase }

structure IngestState where
  slot : IdempotencySlot
  handlers : Nat → Option IngestHandler
  /-- The batches whose `process_span_batch.kiq` returned. -/
  enqueued : List UUID

def IngestState.initial : IngestState := ⟨.empty, fun _ => none, []⟩

inductive IngestAction where
  | request (handler : Nat) (requestHash : RequestHash) (batchId : UUID) (accepted : Nat)
  /-- The awaited call returns. -/
  | returns (handler : Nat)
  /-- The awaited call raises, or the handler is cancelled while it awaits.
  `effect` says whether a commit had taken effect by then. -/
  | raises (handler : Nat) (effect cancelled : Bool)

/-- The test `if payload.idempotency_key`. -/
def usesIdempotency (idempotencyKey : Option String) : Bool :=
  match idempotencyKey with
  | some key => key ≠ ""
  | none => false

/-- The first await of `ingest_spans`, which also mints the batch id. -/
def firstPhase (idempotencyKey : Option String) : IngestPhase :=
  if usesIdempotency idempotencyKey then .inserting else .creatingAccepted

/-- What follows `accept_batch` when it returns. -/
def afterAccept (idempotencyKey : Option String) (handler : IngestHandler) : IngestPhase :=
  if usesIdempotency idempotencyKey then .committing else .responded handler.result

/-- What follows `accept_batch` when it raises an `Exception`. -/
def afterAcceptFailed (idempotencyKey : Option String) : IngestPhase :=
  if usesIdempotency idempotencyKey then .failing else .left

/-- What follows the `SELECT` of `reserve`. -/
def afterSelect (row : IdempotencyRecord) (requestHash : RequestHash) : IngestPhase :=
  match row.reservation requestHash with
  | .conflict => .rejected "Idempotency key was already used with a different request body"
  | .inProgress => .rejected "Idempotency key is already being processed"
  | .existing (some response) => .responded response
  | .existing none => .creatingAccepted
  | .retry => .resetting

/-- The awaited call of one handler returns: the row, the next await and the
batches it enqueues. `none` while the call still waits. -/
def IngestHandler.returns (idempotencyKey : Option String) (handler : IngestHandler)
    (number : Nat) (slot : IdempotencySlot) :
    Option (IdempotencySlot × IngestPhase × List UUID) :=
  match handler.phase with
  | .inserting =>
      (slot.insertPending? number handler.requestHash handler.result).map
        fun (slot, inserted) => (slot, if inserted then .insertCommit else .selecting, [])
  | .insertCommit => some (slot.commit number, .creatingAccepted, [])
  | .selecting =>
      match slot.visible number with
      | none => some (slot, .left, [])
      | some row => some (slot, afterSelect row handler.requestHash, [])
  | .resetting =>
      (slot.resetPending? number handler.result).map fun slot => (slot, .resetCommit, [])
  | .resetCommit => some (slot.commit number, .creatingAccepted, [])
  | .creatingAccepted => some (slot, .enqueueing, [])
  | .enqueueing => some (slot, afterAccept idempotencyKey handler, [handler.batchId])
  | .markingBatchFailed => some (slot, afterAcceptFailed idempotencyKey, [])
  | .failing =>
      (slot.setStatus? number handler.requestHash .failed none).map
        fun slot => (slot, .failCommit, [])
  | .failCommit => some (slot.commit number, .left, [])
  | .committing =>
      (slot.setStatus? number handler.requestHash .committed (some handler.result)).map
        fun slot => (slot, .commitCommit, [])
  | .commitCommit => some (slot.commit number, .responded handler.result, [])
  | .responded _ | .rejected _ | .left => none

/-- The awaited call of one handler raises. -/
def IngestHandler.raises (idempotencyKey : Option String) (handler : IngestHandler)
    (number : Nat) (slot : IdempotencySlot) (effect cancelled : Bool) :
    Option (IdempotencySlot × IngestPhase) :=
  match handler.phase with
  | .inserting | .selecting | .resetting | .failing | .committing =>
      some (slot.rollback number, .left)
  | .insertCommit | .resetCommit | .failCommit | .commitCommit =>
      some (if effect then slot.commit number else slot.rollback number, .left)
  | .creatingAccepted | .markingBatchFailed =>
      some (slot, if cancelled then .left else afterAcceptFailed idempotencyKey)
  | .enqueueing => some (slot, if cancelled then .left else .markingBatchFailed)
  | .responded _ | .rejected _ | .left => none

/-- `ingest_spans`, one await at a time. -/
def ingestSpans (idempotencyKey : Option String) (state : IngestState) :
    IngestAction → Option IngestState
  | .request number requestHash batchId accepted =>
      match state.handlers number with
      | some _ => none
      | none => some { state with
          handlers := Function.update state.handlers number
            (some ⟨requestHash, batchId, accepted, firstPhase idempotencyKey⟩) }
  | .returns number =>
      match state.handlers number with
      | none => none
      | some handler =>
          (handler.returns idempotencyKey number state.slot).map fun (slot, phase, batches) =>
            { slot := slot
              handlers := Function.update state.handlers number (some (handler.at phase))
              enqueued := state.enqueued ++ batches }
  | .raises number effect cancelled =>
      match state.handlers number with
      | none => none
      | some handler =>
          (handler.raises idempotencyKey number state.slot effect cancelled).map
            fun (slot, phase) => { state with
              slot := slot
              handlers := Function.update state.handlers number (some (handler.at phase)) }

/-- One step, with what the code has checked on its way. -/
inductive IngestStep (idempotencyKey : Option String) (state : IngestState) :
    IngestAction → IngestState → Prop where
  | requested {number : Nat} (requestHash : RequestHash) (batchId : UUID) (accepted : Nat)
      (free : state.handlers number = none) :
      IngestStep idempotencyKey state (.request number requestHash batchId accepted)
        { state with
          handlers := Function.update state.handlers number
            (some ⟨requestHash, batchId, accepted, firstPhase idempotencyKey⟩) }
  | returned {number : Nat} {handler : IngestHandler} {slot : IdempotencySlot}
      {phase : IngestPhase} {batches : List UUID} (found : state.handlers number = some handler)
      (returns : handler.returns idempotencyKey number state.slot = some (slot, phase, batches)) :
      IngestStep idempotencyKey state (.returns number)
        { slot := slot
          handlers := Function.update state.handlers number (some (handler.at phase))
          enqueued := state.enqueued ++ batches }
  | raised {number : Nat} {effect cancelled : Bool} {handler : IngestHandler}
      {slot : IdempotencySlot} {phase : IngestPhase}
      (found : state.handlers number = some handler)
      (raises : handler.raises idempotencyKey number state.slot effect cancelled =
        some (slot, phase)) :
      IngestStep idempotencyKey state (.raises number effect cancelled)
        { state with
          slot := slot
          handlers := Function.update state.handlers number (some (handler.at phase)) }

theorem ingestStep_of_step {idempotencyKey : Option String} {state next : IngestState}
    {action : IngestAction} (stepped : ingestSpans idempotencyKey state action = some next) :
    IngestStep idempotencyKey state action next := by
  cases action with
  | request number requestHash batchId accepted =>
      simp only [ingestSpans] at stepped
      split at stepped
      · cases stepped
      · rename_i free
        cases stepped
        exact .requested requestHash batchId accepted free
  | returns number =>
      simp only [ingestSpans] at stepped
      split at stepped
      · cases stepped
      · rename_i handler found
        simp only [Option.map_eq_some_iff, Prod.exists] at stepped
        obtain ⟨slot, phase, batches, returns, rfl⟩ := stepped
        exact .returned found returns
  | raises number effect cancelled =>
      simp only [ingestSpans] at stepped
      split at stepped
      · cases stepped
      · rename_i handler found
        simp only [Option.map_eq_some_iff, Prod.exists] at stepped
        obtain ⟨slot, phase, raises, rfl⟩ := stepped
        exact .raised found raises

def ingestMachine (idempotencyKey : Option String) : Machine IngestState IngestAction :=
  ⟨ingestSpans idempotencyKey⟩

end LlmObs.Backend
