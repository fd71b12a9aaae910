import LlmObs.Foundation.ReadCommitted
import LlmObs.Foundation.Uuid

/-!
Owns the statements of `PostgresIdempotencyStore` on the record of one project
and idempotency key, each as one step of its own transaction. It does not own
the order in which a handler runs them.
-/

namespace LlmObs.Backend

open LlmObs.Foundation

/-- The digest behind `ingest_request_hash`. -/
abbrev RequestHash := BitVec 256

structure IngestResponse where
  batchId : UUID
  accepted : Nat
deriving DecidableEq, Repr

inductive IdempotencyStatus where
  | pending
  | failed
  | committed
deriving DecidableEq, Repr

/-- A row of `idempotency_records`, without its key. -/
structure IdempotencyRecord where
  requestHash : RequestHash
  status : IdempotencyStatus
  result : Option IngestResponse
deriving DecidableEq, Repr

/-- The row of one `(project_id, idempotency_key)`. -/
abbrev IdempotencySlot := Slot IdempotencyRecord

namespace IdempotencySlot

/-- `INSERT … ON CONFLICT DO NOTHING RETURNING status`: the row and whether it
was inserted. It waits for a transaction that has written the row. -/
def insertPending? (slot : IdempotencySlot) (writer : Nat) (requestHash : RequestHash)
    (result : IngestResponse) : Option (IdempotencySlot × Bool) :=
  if slot.Free writer then
    match slot.visible writer with
    | none => some (slot.write writer ⟨requestHash, .pending, some result⟩, true)
    | some _ => some (slot, false)
  else none

/-- The `UPDATE` of `reserve`, which sets a failed record back to pending. Its
`WHERE` names the project and the key only. -/
def resetPending? (slot : IdempotencySlot) (writer : Nat) (result : IngestResponse) :
    Option IdempotencySlot :=
  if slot.Free writer then
    match slot.visible writer with
    | none => some slot
    | some row =>
        some (slot.write writer { row with status := .pending, result := some result })
  else none

/-- The `UPDATE` of `_set_status`, which also names the request hash. -/
def setStatus? (slot : IdempotencySlot) (writer : Nat) (requestHash : RequestHash)
    (status : IdempotencyStatus) (result : Option IngestResponse) : Option IdempotencySlot :=
  if slot.Free writer then
    match slot.visible writer with
    | none => some slot
    | some row =>
        if row.requestHash = requestHash then
          some (slot.write writer { row with status := status, result := result })
        else some slot
  else none

section

variable {slot next : IdempotencySlot} {writer : Nat} {requestHash : RequestHash}

/-- The `INSERT` writes where there is no record yet and leaves one that is there. -/
theorem insertPending?_cases (untouched : slot.Untouched writer) {result : IngestResponse}
    {isNew : Bool}
    (inserted : slot.insertPending? writer requestHash result = some (next, isNew)) :
    (slot.committed = none ∧ slot.Free writer ∧
        next = slot.write writer ⟨requestHash, .pending, some result⟩ ∧ isNew = true) ∨
      ((∃ row, slot.committed = some row) ∧ next = slot ∧ isNew = false) := by
  unfold insertPending? at inserted
  rw [Slot.visible_of_untouched untouched] at inserted
  split at inserted
  · rename_i free
    cases committed : slot.committed with
    | none =>
        simp only [committed, Option.some.injEq, Prod.mk.injEq] at inserted
        exact Or.inl ⟨rfl, free, inserted.1.symm, inserted.2.symm⟩
    | some row =>
        simp only [committed, Option.some.injEq, Prod.mk.injEq] at inserted
        exact Or.inr ⟨⟨row, rfl⟩, inserted.1.symm, inserted.2.symm⟩
  · cases inserted

theorem resetPending?_of_committed (untouched : slot.Untouched writer)
    {row : IdempotencyRecord} (committed : slot.committed = some row) {result : IngestResponse}
    (reset : slot.resetPending? writer result = some next) :
    slot.Free writer ∧
      next = slot.write writer ⟨row.requestHash, .pending, some result⟩ := by
  unfold resetPending? at reset
  rw [Slot.visible_of_untouched untouched, committed] at reset
  split at reset
  · rename_i free
    exact ⟨free, (Option.some.inj reset).symm⟩
  · cases reset

theorem setStatus?_of_committed (untouched : slot.Untouched writer)
    {row : IdempotencyRecord} (committed : slot.committed = some row)
    (sameHash : row.requestHash = requestHash) {status : IdempotencyStatus}
    {result : Option IngestResponse}
    (set : slot.setStatus? writer requestHash status result = some next) :
    slot.Free writer ∧ next = slot.write writer ⟨requestHash, status, result⟩ := by
  unfold setStatus? at set
  rw [Slot.visible_of_untouched untouched, committed] at set
  split at set
  · rename_i free
    simp only [sameHash, if_true, Option.some.injEq] at set
    exact ⟨free, set.symm⟩
  · cases set

end

end IdempotencySlot

/-- What `reserve` makes of the record it selects. -/
inductive Reservation where
  /-- `IdempotencyConflictError`. -/
  | conflict
  /-- `IdempotencyInProgressError`. -/
  | inProgress
  /-- The stored result, or `None` where the record has none. -/
  | existing (result : Option IngestResponse)
  /-- The failed record is to be reset. -/
  | retry
deriving DecidableEq, Repr

def IdempotencyRecord.reservation (row : IdempotencyRecord) (requestHash : RequestHash) :
    Reservation :=
  if row.requestHash ≠ requestHash then .conflict
  else
    match row.status with
    | .committed => .existing row.result
    | .failed => .retry
    | .pending => .inProgress

end LlmObs.Backend
