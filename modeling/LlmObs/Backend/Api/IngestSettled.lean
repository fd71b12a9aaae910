import LlmObs.Backend.Api.IngestOnce

/-!
Owns what becomes of the record of an idempotency key when its handlers end: a
record stays pending only as long as a handler that reserved it is in flight,
unless one of them leaves without settling it.
-/

namespace LlmObs.Backend

open LlmObs.Foundation

/-! ### Statement -/

/-- The handler is no longer in flight. -/
def IngestPhase.Ended : IngestPhase → Prop
  | .responded _ | .rejected _ | .left => True
  | _ => False

/-- The reservation is committed, and the handler has yet to settle it. -/
def IngestPhase.Reserved : IngestPhase → Prop
  | .creatingAccepted | .enqueueing | .markingBatchFailed | .failing | .failCommit | .committing
  | .commitCommit => True
  | _ => False

/-- The committed record is pending. -/
def IdempotencySlot.Pending (slot : IdempotencySlot) : Prop :=
  ∃ row, slot.committed = some row ∧ row.status = .pending

/-- When no handler is in flight, the record is committed or failed, if there is
one. -/
def IngestState.Settled (state : IngestState) : Prop :=
  (∀ number handler, state.handlers number = some handler → handler.phase.Ended) →
    ¬ state.slot.Pending

/-- An exception or a cancellation at this await ends the handler with a
reservation that it does not settle: a commit of the reservation took effect, a
cancellation passes `except Exception` by, or the record is not written. -/
def IngestPhase.Abandons (phase : IngestPhase) (effect cancelled : Bool) : Prop :=
  match phase with
  | .insertCommit | .resetCommit => effect = true
  | .creatingAccepted | .enqueueing | .markingBatchFailed => cancelled = true
  | .failing | .committing => True
  | .failCommit | .commitCommit => effect = false
  | _ => False

/-- The record is pending once the handler has left: it is pending already, or
the commit that took effect made it so. -/
def IngestPhase.LeavesPending (phase : IngestPhase) (slot : IdempotencySlot) : Prop :=
  match phase with
  | .insertCommit | .resetCommit => True
  | _ => slot.Pending

/-- A handler that leaves the record pending leaves it to another one. -/
def SettlesReservation (state : IngestState) : IngestAction → Prop
  | .raises number effect cancelled =>
      ∀ handler, state.handlers number = some handler →
        handler.phase.Abandons effect cancelled → handler.phase.LeavesPending state.slot →
        ∃ other, other ≠ number ∧
          ∃ otherHandler, state.handlers other = some otherHandler ∧ otherHandler.phase.Reserved
  | _ => True

/-! ### One handler -/

/-- Where a handler can stand, given the record. -/
def IdempotencySlot.Allows (slot : IdempotencySlot) (number : Nat) (handler : IngestHandler) :
    Prop :=
  match handler.phase with
  | .insertCommit => slot.committed = none ∧
      slot.uncommitted = some (number, ⟨handler.requestHash, .pending, some handler.result⟩)
  | .selecting => ∃ row, slot.committed = some row
  | .resetCommit => slot.HasHash handler.requestHash ∧
      slot.uncommitted = some (number, ⟨handler.requestHash, .pending, some handler.result⟩)
  | .resetting | .creatingAccepted | .enqueueing | .markingBatchFailed | .failing
  | .committing => slot.HasHash handler.requestHash
  | .failCommit => slot.HasHash handler.requestHash ∧
      slot.uncommitted = some (number, ⟨handler.requestHash, .failed, none⟩)
  | .commitCommit => slot.HasHash handler.requestHash ∧
      slot.uncommitted = some (number, ⟨handler.requestHash, .committed, some handler.result⟩)
  | .inserting | .responded _ | .rejected _ | .left => True

/-- What a step of handler `number` leaves to the others. -/
structure SlotFrame (number : Nat) (slot next : IdempotencySlot) : Prop where
  hash : ∀ requestHash, slot.HasHash requestHash → next.HasHash requestHash
  writing : ∀ other row, other ≠ number → slot.uncommitted = some (other, row) → next = slot

theorem SlotFrame.allows {number other : Nat} {slot next : IdempotencySlot}
    (frame : SlotFrame number slot next) (different : other ≠ number) {handler : IngestHandler}
    (allowed : slot.Allows other handler) : next.Allows other handler := by
  obtain ⟨requestHash, batchId, accepted, phase⟩ := handler
  cases phase with
  | inserting | responded response | rejected detail | left => trivial
  | insertCommit => rwa [frame.writing other _ different allowed.2]
  | resetCommit => rwa [frame.writing other _ different allowed.2]
  | failCommit => rwa [frame.writing other _ different allowed.2]
  | commitCommit => rwa [frame.writing other _ different allowed.2]
  | selecting =>
      obtain ⟨row, committed⟩ := allowed
      obtain ⟨row', committed', -⟩ := frame.hash row.requestHash ⟨row, committed, rfl⟩
      exact ⟨row', committed'⟩
  | resetting => exact frame.hash _ allowed
  | creatingAccepted => exact frame.hash _ allowed
  | enqueueing => exact frame.hash _ allowed
  | markingBatchFailed => exact frame.hash _ allowed
  | failing => exact frame.hash _ allowed
  | committing => exact frame.hash _ allowed

/-- A step of handler `number` to `phase`. A record that is pending afterwards is
the handler's to settle, was pending and not the handler's to settle, or satisfies
`excused`. -/
structure Proceeds (number : Nat) (handler : IngestHandler) (slot : IdempotencySlot)
    (phase : IngestPhase) (excused : Prop) (next : IdempotencySlot) : Prop where
  allowed : next.Allows number (handler.at phase)
  writer : ∀ owner row, next.uncommitted = some (owner, row) →
    (owner = number ∧ phase.InCommit) ∨ (owner ≠ number ∧ slot.uncommitted = some (owner, row))
  frame : SlotFrame number slot next
  answered : next.Pending →
    phase.Reserved ∨ (¬ handler.phase.Reserved ∧ slot.Pending) ∨ excused

section

variable {number : Nat} {handler : IngestHandler} {slot next : IdempotencySlot}
  {phase : IngestPhase} {excused : Prop}

theorem proceeds_stay (untouched : slot.Untouched number)
    (allowed : slot.Allows number (handler.at phase))
    (answered : slot.Pending → phase.Reserved ∨ ¬ handler.phase.Reserved ∨ excused) :
    Proceeds number handler slot phase excused slot where
  allowed := allowed
  writer _ row written := Or.inr ⟨fun same => untouched row (same ▸ written), written⟩
  frame := ⟨fun _ has => has, fun _ _ _ _ => rfl⟩
  answered pending := by
    rcases answered pending with reserved | notReserved | excuse
    · exact Or.inl reserved
    · exact Or.inr (Or.inl ⟨notReserved, pending⟩)
    · exact Or.inr (Or.inr excuse)

theorem proceeds_write (free : slot.Free number) (untouched : slot.Untouched number)
    (row : IdempotencyRecord) (inCommit : phase.InCommit)
    (allowed : IdempotencySlot.Allows (slot.write number row) number (handler.at phase))
    (answered : phase.Reserved ∨ ¬ handler.phase.Reserved) :
    Proceeds number handler slot phase excused (slot.write number row) where
  allowed := allowed
  writer owner other written := by
    exact Or.inl ⟨(Slot.write_uncommitted written).1, inCommit⟩
  frame := by
    refine ⟨fun _ has => has, fun other held _ written => ?_⟩
    rw [Slot.uncommitted_of_free free untouched] at written
    cases written
  answered pending := by
    rcases answered with reserved | notReserved
    · exact Or.inl reserved
    · exact Or.inr (Or.inl ⟨notReserved, pending⟩)

/-- The commit of a written version. -/
theorem proceeds_commit {row : IdempotencyRecord}
    (written : slot.uncommitted = some (number, row))
    (sameHash : ∀ requestHash, slot.HasHash requestHash → row.requestHash = requestHash)
    (allowed : IdempotencySlot.Allows ⟨some row, none⟩ number (handler.at phase))
    (answered : row.status = .pending → phase.Reserved ∨ excused) :
    Proceeds number handler slot phase excused (slot.commit number) := by
  rw [Slot.commit_of_held written]
  refine ⟨allowed, (fun _ _ impossible => by cases impossible),
    ⟨fun requestHash has => ⟨row, rfl, sameHash requestHash has⟩, ?_⟩, ?_⟩
  · intro other _ different otherWritten
    exact absurd (Slot.owner_eq otherWritten written) different
  · rintro ⟨committed, known, pending⟩
    cases known
    rcases answered pending with reserved | excuse
    · exact Or.inl reserved
    · exact Or.inr (Or.inr excuse)

/-- A transaction ends without its writes, and the handler with it. -/
theorem proceeds_rollback
    (answered : slot.Pending → ¬ handler.phase.Reserved ∨ excused) :
    Proceeds number handler slot .left excused (slot.rollback number) := by
  obtain ⟨committed, uncommitted⟩ := slot.rollback_spec number
  refine ⟨trivial, fun owner row written => Or.inr (uncommitted owner row written), ⟨?_, ?_⟩, ?_⟩
  · rintro requestHash ⟨row, known, sameHash⟩
    exact ⟨row, committed.trans known, sameHash⟩
  · intro other row different written
    exact Slot.rollback_of_untouched (Slot.untouched_of_held written different)
  · rintro ⟨row, known, pending⟩
    have before : slot.Pending := ⟨row, committed ▸ known, pending⟩
    rcases answered before with notReserved | excuse
    · exact Or.inr (Or.inl ⟨notReserved, before⟩)
    · exact Or.inr (Or.inr excuse)

theorem proceeds_setStatus {status : IdempotencyStatus} {result : Option IngestResponse}
    (untouched : slot.Untouched number) (has : slot.HasHash handler.requestHash)
    (inCommit : phase.InCommit) (reserved : phase.Reserved)
    (allowed : IdempotencySlot.Allows (slot.write number ⟨handler.requestHash, status, result⟩)
      number (handler.at phase))
    (set : slot.setStatus? number handler.requestHash status result = some next) :
    Proceeds number handler slot phase excused next := by
  obtain ⟨row, committed, sameHash⟩ := has
  obtain ⟨free, rfl⟩ :=
    IdempotencySlot.setStatus?_of_committed untouched committed sameHash set
  exact proceeds_write free untouched _ inCommit allowed (Or.inl reserved)

theorem allows_afterSelect_row {row : IdempotencyRecord} (committed : slot.committed = some row) :
    slot.Allows number (handler.at (afterSelect row handler.requestHash)) := by
  unfold afterSelect IdempotencyRecord.reservation
  by_cases sameHash : row.requestHash = handler.requestHash
  · rw [if_neg (not_not.mpr sameHash)]
    cases status : row.status with
    | pending => trivial
    | failed => exact ⟨row, committed, sameHash⟩
    | committed =>
        cases result : row.result with
        | none => exact ⟨row, committed, sameHash⟩
        | some response => trivial
  · rw [if_pos sameHash]
    trivial

end

/-! ### Every await -/

section

variable {idempotencyKey : Option String} {number : Nat} {handler : IngestHandler}
  {slot next : IdempotencySlot} {phase : IngestPhase} {batches : List UUID}

theorem proceeds_of_returns (keyed : usesIdempotency idempotencyKey = true)
    (allowed : slot.Allows number handler)
    (untouched : ¬ handler.phase.InCommit → slot.Untouched number)
    (returned : handler.returns idempotencyKey number slot = some (next, phase, batches)) :
    Proceeds number handler slot phase False next := by
  obtain ⟨requestHash, batchId, accepted, current⟩ := handler
  cases current with
  | inserting =>
      have untouched := untouched (by simp [IngestPhase.InCommit])
      simp only [IngestHandler.returns, Option.map_eq_some_iff, Prod.mk.injEq] at returned
      obtain ⟨⟨_, isNew⟩, inserted, rfl, rfl, rfl⟩ := returned
      obtain ⟨empty, free, rfl, rfl⟩ | ⟨committed, rfl, rfl⟩ :=
        IdempotencySlot.insertPending?_cases untouched inserted
      · exact proceeds_write free untouched _ trivial ⟨empty, rfl⟩ (Or.inr id)
      · exact proceeds_stay untouched committed fun _ => Or.inr (Or.inl id)
  | insertCommit =>
      obtain ⟨empty, written⟩ := allowed
      simp only [IngestHandler.returns, Option.some.injEq, Prod.mk.injEq] at returned
      obtain ⟨rfl, rfl, rfl⟩ := returned
      apply proceeds_commit written
      · rintro _ ⟨row, committed, -⟩
        rw [empty] at committed
        cases committed
      · exact ⟨_, rfl, rfl⟩
      · exact fun _ => Or.inl trivial
  | selecting =>
      have untouched := untouched (by simp [IngestPhase.InCommit])
      obtain ⟨row, committed⟩ := allowed
      simp only [IngestHandler.returns, Slot.visible_of_untouched untouched, committed,
        Option.some.injEq, Prod.mk.injEq] at returned
      obtain ⟨rfl, rfl, rfl⟩ := returned
      exact proceeds_stay untouched (allows_afterSelect_row committed)
        fun _ => Or.inr (Or.inl id)
  | resetting =>
      have untouched := untouched (by simp [IngestPhase.InCommit])
      obtain ⟨row, committed, sameHash⟩ := allowed
      simp only [IngestHandler.returns, Option.map_eq_some_iff, Prod.mk.injEq] at returned
      obtain ⟨_, reset, rfl, rfl, rfl⟩ := returned
      obtain ⟨free, rfl⟩ :=
        IdempotencySlot.resetPending?_of_committed untouched committed reset
      refine proceeds_write free untouched _ trivial ⟨⟨row, committed, sameHash⟩, ?_⟩
        (Or.inr id)
      exact congrArg (fun hash => some (number, IdempotencyRecord.mk hash _ _)) sameHash
  | resetCommit =>
      obtain ⟨has, written⟩ := allowed
      simp only [IngestHandler.returns, Option.some.injEq, Prod.mk.injEq] at returned
      obtain ⟨rfl, rfl, rfl⟩ := returned
      exact proceeds_commit written (fun _ other => hash_of_hasHash has other) ⟨_, rfl, rfl⟩
        fun _ => Or.inl trivial
  | creatingAccepted =>
      have untouched := untouched (by simp [IngestPhase.InCommit])
      simp only [IngestHandler.returns, Option.some.injEq, Prod.mk.injEq] at returned
      obtain ⟨rfl, rfl, rfl⟩ := returned
      exact proceeds_stay untouched allowed fun _ => Or.inl trivial
  | enqueueing =>
      have untouched := untouched (by simp [IngestPhase.InCommit])
      simp only [IngestHandler.returns, afterAccept, keyed, if_true, Option.some.injEq,
        Prod.mk.injEq] at returned
      obtain ⟨rfl, rfl, rfl⟩ := returned
      exact proceeds_stay untouched allowed fun _ => Or.inl trivial
  | markingBatchFailed =>
      have untouched := untouched (by simp [IngestPhase.InCommit])
      simp only [IngestHandler.returns, afterAcceptFailed, keyed, if_true, Option.some.injEq,
        Prod.mk.injEq] at returned
      obtain ⟨rfl, rfl, rfl⟩ := returned
      exact proceeds_stay untouched allowed fun _ => Or.inl trivial
  | failing =>
      have untouched := untouched (by simp [IngestPhase.InCommit])
      simp only [IngestHandler.returns, Option.map_eq_some_iff, Prod.mk.injEq] at returned
      obtain ⟨_, set, rfl, rfl, rfl⟩ := returned
      exact proceeds_setStatus untouched allowed trivial trivial ⟨allowed, rfl⟩ set
  | failCommit =>
      obtain ⟨has, written⟩ := allowed
      simp only [IngestHandler.returns, Option.some.injEq, Prod.mk.injEq] at returned
      obtain ⟨rfl, rfl, rfl⟩ := returned
      exact proceeds_commit written (fun _ other => hash_of_hasHash has other) trivial
        fun impossible => by cases impossible
  | committing =>
      have untouched := untouched (by simp [IngestPhase.InCommit])
      simp only [IngestHandler.returns, Option.map_eq_some_iff, Prod.mk.injEq] at returned
      obtain ⟨_, set, rfl, rfl, rfl⟩ := returned
      exact proceeds_setStatus untouched allowed trivial trivial ⟨allowed, rfl⟩ set
  | commitCommit =>
      obtain ⟨has, written⟩ := allowed
      simp only [IngestHandler.returns, Option.some.injEq, Prod.mk.injEq] at returned
      obtain ⟨rfl, rfl, rfl⟩ := returned
      exact proceeds_commit written (fun _ other => hash_of_hasHash has other) trivial
        fun impossible => by cases impossible
  | responded response => simp [IngestHandler.returns] at returned
  | rejected detail => simp [IngestHandler.returns] at returned
  | left => simp [IngestHandler.returns] at returned

theorem proceeds_of_raises (keyed : usesIdempotency idempotencyKey = true)
    (allowed : slot.Allows number handler)
    (untouched : ¬ handler.phase.InCommit → slot.Untouched number) {effect cancelled : Bool}
    (raised : handler.raises idempotencyKey number slot effect cancelled = some (next, phase)) :
    Proceeds number handler slot phase
      (handler.phase.Abandons effect cancelled ∧ handler.phase.LeavesPending slot) next := by
  obtain ⟨requestHash, batchId, accepted, current⟩ := handler
  cases current with
  | inserting | selecting | resetting =>
      simp only [IngestHandler.raises, Option.some.injEq, Prod.mk.injEq] at raised
      obtain ⟨rfl, rfl⟩ := raised
      exact proceeds_rollback fun _ => Or.inl id
  | failing | committing =>
      simp only [IngestHandler.raises, Option.some.injEq, Prod.mk.injEq] at raised
      obtain ⟨rfl, rfl⟩ := raised
      exact proceeds_rollback fun pending => Or.inr ⟨trivial, pending⟩
  | insertCommit =>
      obtain ⟨empty, written⟩ := allowed
      simp only [IngestHandler.raises, Option.some.injEq, Prod.mk.injEq] at raised
      obtain ⟨rfl, rfl⟩ := raised
      cases effect with
      | true =>
          apply proceeds_commit written
          · rintro _ ⟨row, committed, -⟩
            rw [empty] at committed
            cases committed
          · trivial
          · exact fun _ => Or.inr ⟨rfl, trivial⟩
      | false => exact proceeds_rollback fun _ => Or.inl id
  | resetCommit =>
      obtain ⟨has, written⟩ := allowed
      simp only [IngestHandler.raises, Option.some.injEq, Prod.mk.injEq] at raised
      obtain ⟨rfl, rfl⟩ := raised
      cases effect with
      | true =>
          exact proceeds_commit written (fun _ other => hash_of_hasHash has other) trivial
            fun _ => Or.inr ⟨rfl, trivial⟩
      | false => exact proceeds_rollback fun _ => Or.inl id
  | failCommit | commitCommit =>
      obtain ⟨has, written⟩ := allowed
      simp only [IngestHandler.raises, Option.some.injEq, Prod.mk.injEq] at raised
      obtain ⟨rfl, rfl⟩ := raised
      cases effect with
      | true =>
          exact proceeds_commit written (fun _ other => hash_of_hasHash has other) trivial
            fun impossible => by cases impossible
      | false => exact proceeds_rollback fun pending => Or.inr ⟨rfl, pending⟩
  | creatingAccepted | markingBatchFailed =>
      have untouched := untouched (by simp [IngestPhase.InCommit])
      simp only [IngestHandler.raises, afterAcceptFailed, keyed, if_true, Option.some.injEq,
        Prod.mk.injEq] at raised
      obtain ⟨rfl, rfl⟩ := raised
      cases cancelled with
      | true =>
          exact proceeds_stay untouched trivial fun pending =>
            Or.inr (Or.inr ⟨rfl, pending⟩)
      | false => exact proceeds_stay untouched allowed fun _ => Or.inl trivial
  | enqueueing =>
      have untouched := untouched (by simp [IngestPhase.InCommit])
      simp only [IngestHandler.raises, Option.some.injEq, Prod.mk.injEq] at raised
      obtain ⟨rfl, rfl⟩ := raised
      cases cancelled with
      | true =>
          exact proceeds_stay untouched trivial fun pending =>
            Or.inr (Or.inr ⟨rfl, pending⟩)
      | false => exact proceeds_stay untouched allowed fun _ => Or.inl trivial
  | responded response => simp [IngestHandler.raises] at raised
  | rejected detail => simp [IngestHandler.raises] at raised
  | left => simp [IngestHandler.raises] at raised

end

/-! ### Runs -/

/-- A pending record has a handler in flight that reserved it. -/
def IngestState.Answered (state : IngestState) : Prop :=
  state.slot.Pending → ∃ number handler,
    state.handlers number = some handler ∧ handler.phase.Reserved

/-- What a run keeps as long as no handler abandons its reservation. -/
structure IngestState.Answerable (state : IngestState) : Prop where
  writer : ∀ owner row, state.slot.uncommitted = some (owner, row) →
    ∃ handler, state.handlers owner = some handler ∧ handler.phase.InCommit
  allowed : ∀ number handler, state.handlers number = some handler →
    state.slot.Allows number handler
  answered : state.Answered

theorem answerable_initial : IngestState.initial.Answerable where
  writer := by simp [IngestState.initial, Slot.empty]
  allowed := by simp [IngestState.initial]
  answered := by
    rintro ⟨row, committed, -⟩
    cases committed

section

variable {idempotencyKey : Option String} {state next : IngestState} {number : Nat}
  {handler : IngestHandler}

theorem IngestState.Answerable.untouched (answerable : state.Answerable)
    (found : state.handlers number = some handler) (notInCommit : ¬ handler.phase.InCommit) :
    state.slot.Untouched number := by
  intro row written
  obtain ⟨writer, sameHandler, inCommit⟩ := answerable.writer number row written
  rw [found, Option.some.injEq] at sameHandler
  exact notInCommit (sameHandler ▸ inCommit)

theorem IngestState.Answerable.proceed (answerable : state.Answerable)
    (found : state.handlers number = some handler) {slot : IdempotencySlot}
    {phase : IngestPhase} {excused : Prop} {enqueued : List UUID}
    (proceeds : Proceeds number handler state.slot phase excused slot)
    (others : excused → ∃ other, other ≠ number ∧
      ∃ otherHandler, state.handlers other = some otherHandler ∧ otherHandler.phase.Reserved) :
    IngestState.Answerable ⟨slot,
      Function.update state.handlers number (some (handler.at phase)), enqueued⟩ where
  writer := by
    intro owner row written
    rcases proceeds.writer owner row written with ⟨rfl, inCommit⟩ | ⟨different, before⟩
    · exact ⟨handler.at phase, Function.update_self .., inCommit⟩
    · obtain ⟨writer, known, inCommit⟩ := answerable.writer owner row before
      exact ⟨writer, (Function.update_of_ne different ..).trans known, inCommit⟩
  allowed := by
    intro other otherHandler known
    rcases update_eq_some_iff.mp known with ⟨rfl, rfl⟩ | ⟨different, old⟩
    · exact proceeds.allowed
    · exact proceeds.frame.allows different (answerable.allowed other otherHandler old)
  answered := by
    intro pending
    have fromOther : (∃ other, other ≠ number ∧ ∃ otherHandler,
        state.handlers other = some otherHandler ∧ otherHandler.phase.Reserved) →
        ∃ other otherHandler,
          Function.update state.handlers number (some (handler.at phase)) other =
            some otherHandler ∧ otherHandler.phase.Reserved := by
      rintro ⟨other, different, otherHandler, known, reserved⟩
      exact ⟨other, otherHandler, (Function.update_of_ne different ..).trans known, reserved⟩
    rcases proceeds.answered pending with reserved | ⟨notReserved, before⟩ | excuse
    · exact ⟨number, handler.at phase, Function.update_self .., reserved⟩
    · obtain ⟨other, otherHandler, known, reserved⟩ := answerable.answered before
      refine fromOther ⟨other, ?_, otherHandler, known, reserved⟩
      rintro rfl
      rw [found, Option.some.injEq] at known
      exact notReserved (known ▸ reserved)
    · exact fromOther (others excuse)

theorem IngestState.Answerable.request (answerable : state.Answerable)
    (keyed : usesIdempotency idempotencyKey = true) (free : state.handlers number = none)
    (requestHash : RequestHash) (batchId : UUID) (accepted : Nat) :
    IngestState.Answerable { state with
      handlers := Function.update state.handlers number
        (some ⟨requestHash, batchId, accepted, firstPhase idempotencyKey⟩) } where
  writer := by
    intro owner row written
    obtain ⟨writer, known, inCommit⟩ := answerable.writer owner row written
    have different : owner ≠ number := by
      rintro rfl
      rw [free] at known
      cases known
    exact ⟨writer, (Function.update_of_ne different ..).trans known, inCommit⟩
  allowed := by
    intro other otherHandler known
    rcases update_eq_some_iff.mp known with ⟨rfl, isNew⟩ | ⟨-, old⟩
    · simp only [firstPhase, keyed, if_true] at isNew
      subst isNew
      trivial
    · exact answerable.allowed other otherHandler old
  answered := by
    intro pending
    obtain ⟨other, otherHandler, known, reserved⟩ := answerable.answered pending
    have different : other ≠ number := by
      rintro rfl
      rw [free] at known
      cases known
    exact ⟨other, otherHandler, (Function.update_of_ne different ..).trans known, reserved⟩

theorem answerable_step (keyed : usesIdempotency idempotencyKey = true) {action : IngestAction}
    (answerable : state.Answerable) (settles : SettlesReservation state action)
    (stepped : ingestSpans idempotencyKey state action = some next) : next.Answerable := by
  cases ingestStep_of_step stepped with
  | requested requestHash batchId accepted free =>
      exact answerable.request keyed free requestHash batchId accepted
  | @returned number handler _ _ _ found returns =>
      have proceeds := proceeds_of_returns keyed (answerable.allowed number handler found)
        (answerable.untouched found) returns
      exact answerable.proceed found proceeds False.elim
  | @raised number _ _ handler _ _ found raises =>
      have proceeds := proceeds_of_raises keyed (answerable.allowed number handler found)
        (answerable.untouched found) raises
      exact answerable.proceed found proceeds fun excuse =>
        settles handler found excuse.1 excuse.2

theorem settled_of_answered (answered : state.Answered) : state.Settled := by
  intro ended pending
  obtain ⟨number, handler, found, reserved⟩ := answered pending
  have finished := ended number handler found
  cases phase : handler.phase with
  | responded response => rw [phase] at reserved; exact reserved
  | rejected detail => rw [phase] at reserved; exact reserved
  | left => rw [phase] at reserved; exact reserved
  | _ => rw [phase] at finished; exact finished

/-- In every run in which each handler that leaves the record pending leaves it to
another one, the record is committed or failed whenever no handler is in flight. -/
theorem settled_of_settlesReservation {actions : List IngestAction}
    (keyed : usesIdempotency idempotencyKey = true)
    (reached : (ingestMachine idempotencyKey).run .initial actions = some state)
    (settles : (ingestMachine idempotencyKey).Along SettlesReservation .initial actions) :
    state.Settled := by
  apply settled_of_answered
  apply IngestState.Answerable.answered
  exact (ingestMachine idempotencyKey).run_invariant IngestState.Answerable
    (fun _ _ _ answerable settles stepped => answerable_step keyed answerable settles stepped)
    answerable_initial settles reached

end

/-- One request up to its 202 response. -/
def undisturbedRequest : List IngestAction :=
  .request 0 1 10 1 :: List.replicate 6 (.returns 0)

theorem settled_of_settlesReservation_undisturbed :
    ∃ state, (ingestMachine (some "key")).run .initial undisturbedRequest = some state ∧
      state.Settled := by
  obtain ⟨state, reached⟩ : ∃ state, (ingestMachine (some "key")).run .initial
      undisturbedRequest = some state := ⟨_, rfl⟩
  refine ⟨state, reached, settled_of_settlesReservation rfl reached ?_⟩
  apply Machine.along_of_forall
  intro action member before
  rcases List.mem_cons.mp member with rfl | returns
  · trivial
  · rw [List.eq_of_mem_replicate returns]
    trivial

/-- The client disconnects while `create_accepted` is under way, after the
reservation is committed. -/
def cancelledRequest : List IngestAction :=
  [.request 0 1 10 1, .returns 0, .returns 0, .raises 0 false true]

/-- The record is left pending, and a retry is answered with the conflict. -/
theorem cancelledRequest_leavesPending :
    (∃ state, (ingestMachine (some "key")).run .initial cancelledRequest = some state ∧
      ¬ state.Settled) ∧
    ∃ state handler, (ingestMachine (some "key")).run .initial
        (cancelledRequest ++ [.request 1 1 11 1, .returns 1, .returns 1]) = some state ∧
      state.handlers 1 = some handler ∧
      handler.phase = .rejected "Idempotency key is already being processed" := by
  refine ⟨⟨_, rfl, fun settled => settled ?_ ⟨_, rfl, rfl⟩⟩, _, _, rfl, rfl, rfl⟩
  intro number handler found
  by_cases first : number = 0
  · subst first
    cases found
    trivial
  · simp [IngestState.initial, Function.update, first] at found

end LlmObs.Backend
