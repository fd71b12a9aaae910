import LlmObs.Backend.Api.Ingest

/-!
Owns the enqueue guarantee of an idempotency key: a token says who may enqueue,
each record status stands for a state of the token, and a run in which `reserve`
only resets failed records hands the token out once.
-/

namespace LlmObs.Backend

open LlmObs.Foundation

/-- At most one task is enqueued and all 202 responses name one batch. -/
structure IngestState.EnqueuedOnce (state : IngestState) : Prop where
  single : state.enqueued.length ≤ 1
  sameBatch : ∀ first second left right firstResponse secondResponse,
    state.handlers first = some left → left.phase = .responded firstResponse →
    state.handlers second = some right → right.phase = .responded secondResponse →
    firstResponse.batchId = secondResponse.batchId

/-- The record that the `UPDATE` of `reserve` rewrites is still failed when the
statement runs. -/
def ResetsFailedRecord (state : IngestState) : IngestAction → Prop
  | .returns number =>
      match state.handlers number, state.slot.visible number with
      | some handler, some row => handler.phase = .resetting → row.status = .failed
      | _, _ => True
  | _ => True

instance (state : IngestState) (action : IngestAction) :
    Decidable (ResetsFailedRecord state action) := by
  unfold ResetsFailedRecord
  split
  · split <;> infer_instance
  · infer_instance

/-! ### The token behind the record -/

/-- Who holds the right to enqueue the key's batch. -/
inductive EnqueueToken where
  | vacant
  | held (handler : Nat)
  | spent (handler : Nat) (batchId : UUID)

namespace EnqueueToken

def batches : EnqueueToken → List UUID
  | .spent _ batchId => [batchId]
  | _ => []

/-- What the committed record says about the token. -/
def Record (token : EnqueueToken) (committed : Option IdempotencyRecord) : Prop :=
  match token with
  | .vacant => ∀ row, committed = some row → row.status = .failed
  | .held _ => ∃ row, committed = some row ∧ row.status = .pending
  | .spent _ batchId => ∃ row, committed = some row ∧ (row.status = .pending ∨
      (row.status = .committed ∧ ∃ accepted, row.result = some ⟨batchId, accepted⟩))

/-- No one has the right while the record is failed or missing. -/
theorem Record.vacant {token : EnqueueToken} {committed : Option IdempotencyRecord}
    (record : token.Record committed)
    (failed : ∀ row, committed = some row → row.status = .failed) : token = .vacant := by
  cases token with
  | vacant => rfl
  | held holder =>
      obtain ⟨row, known, pending⟩ := record
      cases (failed row known).symm.trans pending
  | spent owner batchId =>
      obtain ⟨row, known, pending | ⟨isCommitted, _⟩⟩ := record
      · cases (failed row known).symm.trans pending
      · cases (failed row known).symm.trans isCommitted

end EnqueueToken

/-- The committed record carries the request hash. -/
def IdempotencySlot.HasHash (slot : IdempotencySlot) (requestHash : RequestHash) : Prop :=
  ∃ row, slot.committed = some row ∧ row.requestHash = requestHash

/-- The handler has written the record and not committed it yet. -/
def IngestPhase.InCommit : IngestPhase → Prop
  | .insertCommit | .resetCommit | .failCommit | .commitCommit => True
  | _ => False

/-- Where a handler can stand, given the token and the record. -/
def EnqueueToken.Allows (token : EnqueueToken) (slot : IdempotencySlot) (number : Nat)
    (handler : IngestHandler) : Prop :=
  match handler.phase with
  | .inserting => True
  | .insertCommit => token = .vacant ∧ slot.committed = none ∧
      slot.uncommitted = some (number, ⟨handler.requestHash, .pending, some handler.result⟩)
  | .selecting => ∃ row, slot.committed = some row
  | .resetting => slot.HasHash handler.requestHash
  | .resetCommit => token = .vacant ∧ slot.HasHash handler.requestHash ∧
      slot.uncommitted = some (number, ⟨handler.requestHash, .pending, some handler.result⟩)
  | .creatingAccepted | .enqueueing | .markingBatchFailed | .failing =>
      token = .held number ∧ slot.HasHash handler.requestHash
  | .failCommit => token = .held number ∧ slot.HasHash handler.requestHash ∧
      slot.uncommitted = some (number, ⟨handler.requestHash, .failed, none⟩)
  | .committing => token = .spent number handler.batchId ∧ slot.HasHash handler.requestHash
  | .commitCommit => token = .spent number handler.batchId ∧
      slot.HasHash handler.requestHash ∧
      slot.uncommitted = some (number, ⟨handler.requestHash, .committed, some handler.result⟩)
  | .responded response => ∃ owner, token = .spent owner response.batchId
  | .rejected _ | .left => True

/-- What a step of handler `number` leaves to the others. -/
structure Frame (number : Nat) (token : EnqueueToken) (slot : IdempotencySlot)
    (nextToken : EnqueueToken) (nextSlot : IdempotencySlot) : Prop where
  hash : ∀ requestHash, slot.HasHash requestHash → nextSlot.HasHash requestHash
  writing : ∀ other row, other ≠ number → slot.uncommitted = some (other, row) →
    nextSlot = slot ∧ nextToken = token
  held : ∀ other, other ≠ number → token = .held other → nextToken = .held other
  spent : ∀ owner batchId, token = .spent owner batchId → nextToken = .spent owner batchId

theorem frame_refl (number : Nat) (token : EnqueueToken) (slot : IdempotencySlot) :
    Frame number token slot token slot :=
  ⟨fun _ has => has, fun _ _ _ _ => ⟨rfl, rfl⟩, fun _ _ same => same, fun _ _ same => same⟩

/-- What another handler relies on survives the step. -/
theorem Frame.allows {number other : Nat} {token nextToken : EnqueueToken}
    {slot nextSlot : IdempotencySlot} (frame : Frame number token slot nextToken nextSlot)
    (different : other ≠ number) {handler : IngestHandler}
    (allowed : token.Allows slot other handler) : nextToken.Allows nextSlot other handler := by
  obtain ⟨requestHash, batchId, accepted, phase⟩ := handler
  cases phase with
  | inserting => trivial
  | insertCommit =>
      obtain ⟨sameSlot, sameToken⟩ := frame.writing other _ different allowed.2.2
      rwa [sameSlot, sameToken]
  | selecting =>
      obtain ⟨row, committed⟩ := allowed
      obtain ⟨next, nextCommitted, -⟩ := frame.hash row.requestHash ⟨row, committed, rfl⟩
      exact ⟨next, nextCommitted⟩
  | resetting => exact frame.hash _ allowed
  | resetCommit =>
      obtain ⟨sameSlot, sameToken⟩ := frame.writing other _ different allowed.2.2
      rwa [sameSlot, sameToken]
  | creatingAccepted => exact ⟨frame.held other different allowed.1, frame.hash _ allowed.2⟩
  | enqueueing => exact ⟨frame.held other different allowed.1, frame.hash _ allowed.2⟩
  | markingBatchFailed => exact ⟨frame.held other different allowed.1, frame.hash _ allowed.2⟩
  | failing => exact ⟨frame.held other different allowed.1, frame.hash _ allowed.2⟩
  | failCommit =>
      obtain ⟨sameSlot, sameToken⟩ := frame.writing other _ different allowed.2.2
      rwa [sameSlot, sameToken]
  | committing => exact ⟨frame.spent other _ allowed.1, frame.hash _ allowed.2⟩
  | commitCommit =>
      obtain ⟨sameSlot, sameToken⟩ := frame.writing other _ different allowed.2.2
      rwa [sameSlot, sameToken]
  | responded response =>
      obtain ⟨owner, spent⟩ := allowed
      exact ⟨owner, frame.spent owner _ spent⟩
  | rejected detail => trivial
  | left => trivial

/-- A step of handler `number` to `phase` that enqueues `batches`. -/
structure Advances (number : Nat) (handler : IngestHandler) (token : EnqueueToken)
    (slot : IdempotencySlot) (phase : IngestPhase) (batches : List UUID)
    (nextToken : EnqueueToken) (nextSlot : IdempotencySlot) : Prop where
  record : nextToken.Record nextSlot.committed
  enqueues : nextToken.batches = token.batches ++ batches
  allowed : nextToken.Allows nextSlot number (handler.at phase)
  writer : ∀ owner row, nextSlot.uncommitted = some (owner, row) →
    (owner = number ∧ phase.InCommit) ∨ (owner ≠ number ∧ slot.uncommitted = some (owner, row))
  frame : Frame number token slot nextToken nextSlot

section Advances

variable {number : Nat} {handler : IngestHandler} {token nextToken : EnqueueToken}
  {slot : IdempotencySlot} {phase : IngestPhase} {batches : List UUID}

/-- The handler touches neither the record nor the token. -/
theorem advances_stay (record : token.Record slot.committed) (untouched : slot.Untouched number)
    (allowed : token.Allows slot number (handler.at phase)) :
    Advances number handler token slot phase [] token slot where
  record := record
  enqueues := (List.append_nil _).symm
  allowed := allowed
  writer _ row written :=
    Or.inr ⟨fun same => untouched row (same ▸ written), written⟩
  frame := frame_refl number token slot

theorem advances_write (record : token.Record slot.committed) (free : slot.Free number)
    (untouched : slot.Untouched number) (row : IdempotencyRecord) (inCommit : phase.InCommit)
    (allowed : token.Allows (slot.write number row) number (handler.at phase)) :
    Advances number handler token slot phase [] token (slot.write number row) where
  record := record
  enqueues := (List.append_nil _).symm
  allowed := allowed
  writer owner other written := by
    exact Or.inl ⟨(Slot.write_uncommitted written).1, inCommit⟩
  frame := by
    refine ⟨fun _ has => has, fun other held _ written => ?_, fun _ _ same => same,
      fun _ _ same => same⟩
    rw [Slot.uncommitted_of_free free untouched] at written
    cases written

/-- The commit of a written version. -/
theorem advances_commit {row : IdempotencyRecord}
    (written : slot.uncommitted = some (number, row)) (record : nextToken.Record (some row))
    (enqueues : nextToken.batches = token.batches)
    (allowed : nextToken.Allows ⟨some row, none⟩ number (handler.at phase))
    (sameHash : ∀ requestHash, slot.HasHash requestHash → row.requestHash = requestHash)
    (held : ∀ other, other ≠ number → token = .held other → nextToken = .held other)
    (spent : ∀ owner batchId, token = .spent owner batchId →
      nextToken = .spent owner batchId) :
    Advances number handler token slot phase [] nextToken (slot.commit number) := by
  rw [Slot.commit_of_held written]
  refine ⟨record, by rw [enqueues, List.append_nil], allowed, (fun _ _ written => by cases written),
    ⟨fun requestHash has => ⟨row, rfl, sameHash requestHash has⟩, ?_, held, spent⟩⟩
  intro other _ different otherWritten
  exact absurd (Slot.owner_eq otherWritten written) different

/-- A transaction ends without its writes, and the handler with it. -/
theorem advances_rollback (record : token.Record slot.committed) :
    Advances number handler token slot .left [] token (slot.rollback number) := by
  by_cases untouched : slot.Untouched number
  · rw [Slot.rollback_of_untouched untouched]
    exact advances_stay record untouched trivial
  · unfold Slot.Untouched at untouched
    push Not at untouched
    obtain ⟨row, written⟩ := untouched
    rw [Slot.rollback_of_held written]
    refine ⟨record, (List.append_nil _).symm, trivial, (fun _ _ written => by cases written),
      ⟨fun _ has => has, fun other _ different otherWritten => ?_, fun _ _ same => same,
        fun _ _ same => same⟩⟩
    exact absurd (Slot.owner_eq otherWritten written) different

/-- `kiq` returns: the token is spent. -/
theorem advances_enqueue {holder : Nat}
    (record : (EnqueueToken.held holder).Record slot.committed)
    (untouched : slot.Untouched number)
    (alone : ∀ other row, slot.uncommitted = some (other, row) → other = number)
    (has : slot.HasHash handler.requestHash) :
    Advances number handler (.held number) slot .committing [handler.batchId]
      (.spent number handler.batchId) slot where
  record := by
    obtain ⟨row, committed, pending⟩ := record
    exact ⟨row, committed, Or.inl pending⟩
  enqueues := rfl
  allowed := ⟨rfl, has⟩
  writer _ row written :=
    Or.inr ⟨fun same => untouched row (same ▸ written), written⟩
  frame := by
    refine ⟨fun _ has => has, fun other _ different written => ?_, fun other different held => ?_,
      fun _ _ spent => by cases spent⟩
    · exact absurd (alone other _ written) different
    · cases held
      exact absurd rfl different

/-- The handler leaves instead of going on. -/
theorem Advances.leave {nextSlot : IdempotencySlot}
    (advances : Advances number handler token slot phase batches nextToken nextSlot)
    (notInCommit : ¬ phase.InCommit) :
    Advances number handler token slot .left batches nextToken nextSlot where
  record := advances.record
  enqueues := advances.enqueues
  allowed := trivial
  writer owner row written := by
    rcases advances.writer owner row written with ⟨-, inCommit⟩ | other
    · exact absurd inCommit notInCommit
    · exact Or.inr other
  frame := advances.frame

end Advances

/-! ### What one await can do -/

theorem hash_of_hasHash {slot : IdempotencySlot} {first second : RequestHash}
    (one : slot.HasHash first) (other : slot.HasHash second) : first = second := by
  obtain ⟨row, committed, rfl⟩ := one
  obtain ⟨_, same, rfl⟩ := other
  rw [committed, Option.some.injEq] at same
  rw [same]

/-- What the other handlers' statements say of the row. -/
structure WriterKnown (number : Nat) (handler : IngestHandler) (token : EnqueueToken)
    (slot : IdempotencySlot) : Prop where
  untouched : ¬ handler.phase.InCommit → slot.Untouched number
  alone : token = .held number → ∀ other row, slot.uncommitted = some (other, row) →
    other = number

theorem advances_of_setStatus {number : Nat} {handler : IngestHandler} {token : EnqueueToken}
    {slot next : IdempotencySlot} {phase : IngestPhase} {status : IdempotencyStatus}
    {result : Option IngestResponse} (record : token.Record slot.committed)
    (untouched : slot.Untouched number) (has : slot.HasHash handler.requestHash)
    (inCommit : phase.InCommit)
    (allowed : token.Allows (slot.write number ⟨handler.requestHash, status, result⟩) number
      (handler.at phase))
    (set : slot.setStatus? number handler.requestHash status result = some next) :
    Advances number handler token slot phase [] token next := by
  obtain ⟨row, committed, sameHash⟩ := has
  obtain ⟨free, rfl⟩ :=
    IdempotencySlot.setStatus?_of_committed untouched committed sameHash set
  exact advances_write record free untouched _ inCommit allowed

/-- A replay answers with the stored result, which names the spent batch. -/
theorem allows_afterSelect {number : Nat} {handler : IngestHandler} {token : EnqueueToken}
    {slot : IdempotencySlot} {row : IdempotencyRecord} (record : token.Record slot.committed)
    (committed : slot.committed = some row) :
    token.Allows slot number (handler.at (afterSelect row handler.requestHash)) := by
  unfold afterSelect IdempotencyRecord.reservation
  by_cases sameHash : row.requestHash = handler.requestHash
  · rw [if_neg (not_not.mpr sameHash)]
    cases status : row.status with
    | pending => trivial
    | failed => exact ⟨row, committed, sameHash⟩
    | committed =>
        cases token with
        | vacant =>
            have failed := record row committed
            simp [status] at failed
        | held holder => simp [EnqueueToken.Record, committed, status] at record
        | spent owner batchId =>
            obtain ⟨same, stored, pending | ⟨-, accepted, result⟩⟩ := record
            · rw [committed, Option.some.injEq] at stored
              simp [← stored, status] at pending
            · rw [committed, Option.some.injEq] at stored
              simp only [stored, result]
              exact ⟨owner, rfl⟩
  · rw [if_pos sameHash]
    trivial

theorem advances_of_returns {idempotencyKey : Option String}
    (keyed : usesIdempotency idempotencyKey = true) {number : Nat} {handler : IngestHandler}
    {token : EnqueueToken} {slot next : IdempotencySlot} {phase : IngestPhase}
    {batches : List UUID} (record : token.Record slot.committed)
    (allowed : token.Allows slot number handler)
    (known : WriterKnown number handler token slot)
    (resets : handler.phase = .resetting →
      ∀ row, slot.visible number = some row → row.status = .failed)
    (returned : handler.returns idempotencyKey number slot = some (next, phase, batches)) :
    ∃ nextToken, Advances number handler token slot phase batches nextToken next := by
  obtain ⟨requestHash, batchId, accepted, current⟩ := handler
  cases current with
  | inserting =>
      have untouched := known.untouched (by simp [IngestPhase.InCommit])
      simp only [IngestHandler.returns, Option.map_eq_some_iff, Prod.mk.injEq] at returned
      obtain ⟨⟨_, isNew⟩, inserted, rfl, rfl, rfl⟩ := returned
      obtain ⟨empty, free, rfl, rfl⟩ | ⟨committed, rfl, rfl⟩ :=
        IdempotencySlot.insertPending?_cases untouched inserted
      · have vacant : token = .vacant := record.vacant fun row committed => by
          rw [empty] at committed
          cases committed
        exact ⟨token, advances_write record free untouched _ trivial ⟨vacant, empty, rfl⟩⟩
      · exact ⟨token, advances_stay record untouched committed⟩
  | insertCommit =>
      obtain ⟨rfl, empty, written⟩ := allowed
      simp only [IngestHandler.returns, Option.some.injEq, Prod.mk.injEq] at returned
      obtain ⟨rfl, rfl, rfl⟩ := returned
      refine ⟨.held number, advances_commit written ⟨_, rfl, rfl⟩ rfl
        ⟨rfl, ⟨_, rfl, rfl⟩⟩ ?_ (fun _ _ held => by cases held) fun _ _ spent => by cases spent⟩
      rintro _ ⟨row, committed, -⟩
      rw [empty] at committed
      cases committed
  | selecting =>
      have untouched := known.untouched (by simp [IngestPhase.InCommit])
      obtain ⟨row, committed⟩ := allowed
      simp only [IngestHandler.returns, Slot.visible_of_untouched untouched, committed,
        Option.some.injEq, Prod.mk.injEq] at returned
      obtain ⟨rfl, rfl, rfl⟩ := returned
      refine ⟨token, advances_stay record untouched ?_⟩
      exact allows_afterSelect record committed
  | resetting =>
      have untouched := known.untouched (by simp [IngestPhase.InCommit])
      obtain ⟨row, committed, sameHash⟩ := allowed
      have failed := resets rfl row ((Slot.visible_of_untouched untouched).trans committed)
      simp only [IngestHandler.returns, Option.map_eq_some_iff, Prod.mk.injEq] at returned
      obtain ⟨_, reset, rfl, rfl, rfl⟩ := returned
      obtain ⟨free, rfl⟩ :=
        IdempotencySlot.resetPending?_of_committed untouched committed reset
      have vacant : token = .vacant := record.vacant fun stored storedCommitted => by
        rw [committed, Option.some.injEq] at storedCommitted
        exact storedCommitted ▸ failed
      refine ⟨token, advances_write record free untouched _ trivial
        ⟨vacant, ⟨row, committed, sameHash⟩, ?_⟩⟩
      exact congrArg (fun hash => some (number, IdempotencyRecord.mk hash _ _)) sameHash
  | resetCommit =>
      obtain ⟨rfl, has, written⟩ := allowed
      simp only [IngestHandler.returns, Option.some.injEq, Prod.mk.injEq] at returned
      obtain ⟨rfl, rfl, rfl⟩ := returned
      exact ⟨.held number, advances_commit written ⟨_, rfl, rfl⟩ rfl ⟨rfl, ⟨_, rfl, rfl⟩⟩
        (fun _ other => hash_of_hasHash has other) (fun _ _ held => by cases held)
        fun _ _ spent => by cases spent⟩
  | creatingAccepted =>
      have untouched := known.untouched (by simp [IngestPhase.InCommit])
      simp only [IngestHandler.returns, Option.some.injEq, Prod.mk.injEq] at returned
      obtain ⟨rfl, rfl, rfl⟩ := returned
      exact ⟨token, advances_stay record untouched allowed⟩
  | enqueueing =>
      have untouched := known.untouched (by simp [IngestPhase.InCommit])
      obtain ⟨rfl, has⟩ := allowed
      simp only [IngestHandler.returns, afterAccept, keyed, if_true, Option.some.injEq,
        Prod.mk.injEq] at returned
      obtain ⟨rfl, rfl, rfl⟩ := returned
      exact ⟨.spent number batchId, advances_enqueue record untouched (known.alone rfl) has⟩
  | markingBatchFailed =>
      have untouched := known.untouched (by simp [IngestPhase.InCommit])
      simp only [IngestHandler.returns, afterAcceptFailed, keyed, if_true, Option.some.injEq,
        Prod.mk.injEq] at returned
      obtain ⟨rfl, rfl, rfl⟩ := returned
      exact ⟨token, advances_stay record untouched allowed⟩
  | failing =>
      have untouched := known.untouched (by simp [IngestPhase.InCommit])
      simp only [IngestHandler.returns, Option.map_eq_some_iff, Prod.mk.injEq] at returned
      obtain ⟨_, set, rfl, rfl, rfl⟩ := returned
      exact ⟨token, advances_of_setStatus record untouched allowed.2 trivial
        ⟨allowed.1, allowed.2, rfl⟩ set⟩
  | failCommit =>
      obtain ⟨rfl, has, written⟩ := allowed
      simp only [IngestHandler.returns, Option.some.injEq, Prod.mk.injEq] at returned
      obtain ⟨rfl, rfl, rfl⟩ := returned
      refine ⟨.vacant, advances_commit written ?_ rfl trivial
        (fun _ other => hash_of_hasHash has other) (fun other different held => ?_)
        fun _ _ spent => by cases spent⟩
      · rintro row ⟨⟩
        rfl
      · cases held
        exact absurd rfl different
  | committing =>
      have untouched := known.untouched (by simp [IngestPhase.InCommit])
      simp only [IngestHandler.returns, Option.map_eq_some_iff, Prod.mk.injEq] at returned
      obtain ⟨_, set, rfl, rfl, rfl⟩ := returned
      exact ⟨token, advances_of_setStatus record untouched allowed.2 trivial
        ⟨allowed.1, allowed.2, rfl⟩ set⟩
  | commitCommit =>
      obtain ⟨rfl, has, written⟩ := allowed
      simp only [IngestHandler.returns, Option.some.injEq, Prod.mk.injEq] at returned
      obtain ⟨rfl, rfl, rfl⟩ := returned
      exact ⟨.spent number batchId, advances_commit written
        ⟨_, rfl, Or.inr ⟨rfl, accepted, rfl⟩⟩ rfl ⟨number, rfl⟩
        (fun _ other => hash_of_hasHash has other) (fun _ _ held => by cases held)
        fun _ _ spent => spent⟩
  | responded response => simp [IngestHandler.returns] at returned
  | rejected detail => simp [IngestHandler.returns] at returned
  | left => simp [IngestHandler.returns] at returned

/-- A commit that raises either took effect or rolled the transaction back. -/
theorem advances_of_commit_raises {idempotencyKey : Option String}
    (keyed : usesIdempotency idempotencyKey = true) {number : Nat} {handler : IngestHandler}
    {token : EnqueueToken} {slot : IdempotencySlot} {phase : IngestPhase}
    (record : token.Record slot.committed) (allowed : token.Allows slot number handler)
    (known : WriterKnown number handler token slot) (notReset : handler.phase ≠ .resetting)
    (notInCommit : ¬ phase.InCommit)
    (commits : handler.returns idempotencyKey number slot = some (slot.commit number, phase, []))
    (effect : Bool) :
    ∃ nextToken, Advances number handler token slot .left [] nextToken
      (if effect then slot.commit number else slot.rollback number) := by
  cases effect with
  | true =>
      obtain ⟨nextToken, advances⟩ := advances_of_returns keyed record allowed known
        (fun reset => absurd reset notReset) commits
      exact ⟨nextToken, advances.leave notInCommit⟩
  | false => exact ⟨token, advances_rollback record⟩

theorem advances_of_raises {idempotencyKey : Option String}
    (keyed : usesIdempotency idempotencyKey = true) {number : Nat} {handler : IngestHandler}
    {token : EnqueueToken} {slot next : IdempotencySlot} {phase : IngestPhase}
    {effect cancelled : Bool} (record : token.Record slot.committed)
    (allowed : token.Allows slot number handler)
    (known : WriterKnown number handler token slot)
    (raised : handler.raises idempotencyKey number slot effect cancelled = some (next, phase)) :
    ∃ nextToken, Advances number handler token slot phase [] nextToken next := by
  obtain ⟨requestHash, batchId, accepted, current⟩ := handler
  cases current with
  | inserting | selecting | resetting | failing | committing =>
      simp only [IngestHandler.raises, Option.some.injEq, Prod.mk.injEq] at raised
      obtain ⟨rfl, rfl⟩ := raised
      exact ⟨token, advances_rollback record⟩
  | insertCommit | resetCommit | failCommit | commitCommit =>
      simp only [IngestHandler.raises, Option.some.injEq, Prod.mk.injEq] at raised
      obtain ⟨rfl, rfl⟩ := raised
      exact advances_of_commit_raises keyed record allowed known (by simp)
        (by simp [IngestPhase.InCommit]) rfl effect
  | creatingAccepted | markingBatchFailed =>
      have untouched := known.untouched (by simp [IngestPhase.InCommit])
      simp only [IngestHandler.raises, afterAcceptFailed, keyed, if_true, Option.some.injEq,
        Prod.mk.injEq] at raised
      obtain ⟨rfl, rfl⟩ := raised
      cases cancelled with
      | true => exact ⟨token, advances_stay record untouched trivial⟩
      | false => exact ⟨token, advances_stay record untouched allowed⟩
  | enqueueing =>
      have untouched := known.untouched (by simp [IngestPhase.InCommit])
      simp only [IngestHandler.raises, Option.some.injEq, Prod.mk.injEq] at raised
      obtain ⟨rfl, rfl⟩ := raised
      cases cancelled with
      | true => exact ⟨token, advances_stay record untouched trivial⟩
      | false => exact ⟨token, advances_stay record untouched allowed⟩
  | responded response => simp [IngestHandler.raises] at raised
  | rejected detail => simp [IngestHandler.raises] at raised
  | left => simp [IngestHandler.raises] at raised

/-! ### Runs -/

/-- What a run keeps as long as it resets failed records only. -/
structure Guarded (token : EnqueueToken) (state : IngestState) : Prop where
  record : token.Record state.slot.committed
  enqueued : state.enqueued = token.batches
  writer : ∀ owner row, state.slot.uncommitted = some (owner, row) →
    ∃ handler, state.handlers owner = some handler ∧ handler.phase.InCommit
  allowed : ∀ number handler, state.handlers number = some handler →
    token.Allows state.slot number handler

theorem guarded_initial : Guarded .vacant .initial where
  record := by simp [EnqueueToken.Record, IngestState.initial, Slot.empty]
  enqueued := rfl
  writer := by simp [IngestState.initial, Slot.empty]
  allowed := by simp [IngestState.initial]

theorem owner_of_held {token : EnqueueToken} {slot : IdempotencySlot} {owner number : Nat}
    {handler : IngestHandler} (allowed : token.Allows slot owner handler)
    (inCommit : handler.phase.InCommit) (held : token = .held number) : owner = number := by
  obtain ⟨requestHash, batchId, accepted, phase⟩ := handler
  subst held
  cases phase with
  | insertCommit => cases allowed.1
  | resetCommit => cases allowed.1
  | failCommit =>
      cases allowed.1
      rfl
  | commitCommit => cases allowed.1
  | _ => cases inCommit

theorem Guarded.known {token : EnqueueToken} {state : IngestState}
    (guarded : Guarded token state) {number : Nat} {handler : IngestHandler}
    (found : state.handlers number = some handler) :
    WriterKnown number handler token state.slot where
  untouched notInCommit row written := by
    obtain ⟨writer, sameHandler, inCommit⟩ := guarded.writer number row written
    rw [found, Option.some.injEq] at sameHandler
    exact notInCommit (sameHandler ▸ inCommit)
  alone held other row written := by
    obtain ⟨writer, writing, inCommit⟩ := guarded.writer other row written
    exact owner_of_held (guarded.allowed other writer writing) inCommit held

theorem Guarded.advance {token nextToken : EnqueueToken} {state : IngestState}
    (guarded : Guarded token state) {number : Nat} {handler : IngestHandler}
    {next : IdempotencySlot} {phase : IngestPhase} {batches : List UUID}
    (advances : Advances number handler token state.slot phase batches nextToken next) :
    Guarded nextToken ⟨next,
      Function.update state.handlers number (some (handler.at phase)),
      state.enqueued ++ batches⟩ where
  record := advances.record
  enqueued := by rw [guarded.enqueued, advances.enqueues]
  writer owner row written := by
    rcases advances.writer owner row written with ⟨rfl, inCommit⟩ | ⟨different, before⟩
    · exact ⟨handler.at phase, Function.update_self .., inCommit⟩
    · obtain ⟨writer, found, inCommit⟩ := guarded.writer owner row before
      exact ⟨writer, (Function.update_of_ne different ..).trans found, inCommit⟩
  allowed other otherHandler found := by
    rcases update_eq_some_iff.mp found with ⟨rfl, rfl⟩ | ⟨different, old⟩
    · exact advances.allowed
    · exact advances.frame.allows different (guarded.allowed other otherHandler old)

theorem Guarded.request {idempotencyKey : Option String}
    (keyed : usesIdempotency idempotencyKey = true) {token : EnqueueToken}
    {state : IngestState} (guarded : Guarded token state) {number : Nat}
    (free : state.handlers number = none) (requestHash : RequestHash) (batchId : UUID)
    (accepted : Nat) :
    Guarded token { state with
      handlers := Function.update state.handlers number
        (some ⟨requestHash, batchId, accepted, firstPhase idempotencyKey⟩) } where
  record := guarded.record
  enqueued := guarded.enqueued
  writer owner row written := by
    obtain ⟨writer, found, inCommit⟩ := guarded.writer owner row written
    have different : owner ≠ number := by
      rintro rfl
      rw [free] at found
      cases found
    exact ⟨writer, (Function.update_of_ne different ..).trans found, inCommit⟩
  allowed other handler found := by
    rcases update_eq_some_iff.mp found with ⟨rfl, isNew⟩ | ⟨-, old⟩
    · simp only [firstPhase, keyed, if_true] at isNew
      subst isNew
      trivial
    · exact guarded.allowed other handler old

theorem guarded_step {idempotencyKey : Option String}
    (keyed : usesIdempotency idempotencyKey = true) {token : EnqueueToken}
    {state next : IngestState} {action : IngestAction} (guarded : Guarded token state)
    (resets : ResetsFailedRecord state action)
    (stepped : ingestSpans idempotencyKey state action = some next) :
    ∃ nextToken, Guarded nextToken next := by
  cases ingestStep_of_step stepped with
  | requested requestHash batchId accepted free =>
      exact ⟨token, guarded.request keyed free requestHash batchId accepted⟩
  | @returned number handler _ _ _ found returns =>
      obtain ⟨nextToken, advances⟩ := advances_of_returns keyed guarded.record
        (guarded.allowed number handler found) (guarded.known found)
        (fun reset row seen => by simpa [ResetsFailedRecord, found, seen, reset] using resets)
        returns
      exact ⟨nextToken, guarded.advance advances⟩
  | @raised number _ _ handler _ _ found raises =>
      obtain ⟨nextToken, advances⟩ := advances_of_raises keyed guarded.record
        (guarded.allowed number handler found) (guarded.known found) raises
      have guardedNext := guarded.advance advances
      simp only [List.append_nil] at guardedNext
      exact ⟨nextToken, guardedNext⟩

theorem enqueuedOnce_of_guarded {token : EnqueueToken} {state : IngestState}
    (guarded : Guarded token state) : state.EnqueuedOnce where
  single := by
    rw [guarded.enqueued]
    cases token <;> simp [EnqueueToken.batches]
  sameBatch first second left right firstResponse secondResponse firstFound firstPhase
      secondFound secondPhase := by
    have firstAllowed := guarded.allowed first left firstFound
    have secondAllowed := guarded.allowed second right secondFound
    simp only [EnqueueToken.Allows, firstPhase] at firstAllowed
    simp only [EnqueueToken.Allows, secondPhase] at secondAllowed
    obtain ⟨owner, rfl⟩ := firstAllowed
    obtain ⟨other, same⟩ := secondAllowed
    exact (EnqueueToken.spent.inj same).2

/-- With a non-empty idempotency key, a run in which `reserve` only ever resets
a record that is still failed enqueues at most one task, and every 202 response
names the same batch. -/
theorem enqueuedOnce_of_resetsFailedRecord {idempotencyKey : Option String}
    (keyed : usesIdempotency idempotencyKey = true) {actions : List IngestAction}
    {state : IngestState}
    (reached : (ingestMachine idempotencyKey).run .initial actions = some state)
    (resets : (ingestMachine idempotencyKey).Along ResetsFailedRecord .initial actions) :
    state.EnqueuedOnce := by
  obtain ⟨token, guarded⟩ := (ingestMachine idempotencyKey).run_invariant
    (fun state => ∃ token, Guarded token state)
    (fun _ _ _ ⟨_, guarded⟩ resets stepped => guarded_step keyed guarded resets stepped)
    ⟨.vacant, guarded_initial⟩ resets reached
  exact enqueuedOnce_of_guarded guarded

/-- One request fails to enqueue and marks its record failed. -/
def failedEnqueue : List IngestAction :=
  [.request 0 1 10 1, .returns 0, .returns 0, .returns 0, .raises 0 false false,
    .returns 0, .returns 0, .returns 0]

/-- A retry after the failure runs to its 202 response. -/
def retryAlone : List IngestAction :=
  .request 1 1 11 1 :: List.replicate 8 (.returns 1)

theorem enqueuedOnce_of_resetsFailedRecord_retry :
    ∃ state, (ingestMachine (some "key")).run .initial (failedEnqueue ++ retryAlone) =
        some state ∧ state.EnqueuedOnce := by
  obtain ⟨state, reached⟩ : ∃ state, (ingestMachine (some "key")).run .initial
      (failedEnqueue ++ retryAlone) = some state := ⟨_, rfl⟩
  exact ⟨state, reached, enqueuedOnce_of_resetsFailedRecord rfl reached (by decide)⟩

/-- Two retries both select the failed record before either of them resets it. -/
def retriesRace : List IngestAction :=
  [.request 1 1 11 1, .request 2 1 12 1, .returns 1, .returns 2, .returns 1, .returns 2] ++
    List.replicate 6 (.returns 1) ++ List.replicate 6 (.returns 2)

theorem retriesRace_enqueuesTwice :
    ∃ state, (ingestMachine (some "key")).run .initial (failedEnqueue ++ retriesRace) =
        some state ∧ state.enqueued = [11, 12] ∧ ¬ state.EnqueuedOnce := by
  refine ⟨_, rfl, rfl, fun once => ?_⟩
  have single := once.single
  revert single
  decide

end LlmObs.Backend
