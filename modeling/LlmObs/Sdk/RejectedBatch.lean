import LlmObs.Sdk.QueueOrder
import LlmObs.Sdk.Transport

/-!
Owns the flushes of a tracer against a server that rejects one batch for good and
accepts every other: what a number of further `_flush` calls delivers, and what
keeps them from it.
-/

namespace LlmObs.Sdk

open LlmObs.Foundation

variable {Span : Type}

/-- The server answers `rejected` with a 4xx that is not 429, and accepts every
other batch. -/
structure RejectsOnly (rejected : FlushBatch Span) (server : FlushBatch Span → HttpResponse) :
    Prop where
  rejects : (server rejected).isClientError
  accepts : ∀ batch, batch ≠ rejected → (server batch).isSuccess

/-- `send_batch` returns what the transport makes of the server's answer, which is
the same on every attempt. -/
def AnsweredBy (server : FlushBatch Span → HttpResponse) (state : TracerState Span) :
    TracerAction Span → Prop
  | .sendReturns task sent _ =>
      match state.tasks[task]? with
      | some (.sending _ batch) =>
          (sendBatch batch.spans.length fun _ => .response (server batch)).map Prod.fst =
            some sent
      | _ => True
  | _ => True

/-- The batch a `send_batch` call returns for, and what it returns. -/
def returnedSend? (state : TracerState Span) : TracerAction Span → Option (FlushBatch Span × Bool)
  | .sendReturns task sent _ =>
      match state.tasks[task]? with
      | some (.sending _ batch) => some (batch, sent)
      | _ => none
  | _ => none

theorem answeredBy_iff {server : FlushBatch Span → HttpResponse} {state : TracerState Span}
    {action : TracerAction Span} : AnsweredBy server state action ↔
      ∀ returned ∈ returnedSend? state action,
        (sendBatch returned.1.spans.length fun _ => .response (server returned.1)).map Prod.fst =
          some returned.2 := by
  cases action with
  | sendReturns task sent diagnostics =>
      cases found : state.tasks[task]? with
      | none => simp [AnsweredBy, returnedSend?, found]
      | some phase => cases phase <;> simp [AnsweredBy, returnedSend?, found]
  | _ => simp [AnsweredBy, returnedSend?]

instance (server : FlushBatch Span → HttpResponse) (state : TracerState Span)
    (action : TracerAction Span) : Decidable (AnsweredBy server state action) :=
  decidable_of_iff _ answeredBy_iff.symm

/-- A sequential run against the server. -/
def SequentialAgainst (server : FlushBatch Span → HttpResponse) (state : TracerState Span)
    (action : TracerAction Span) : Prop :=
  SequentialFlush state action ∧ AnsweredBy server state action

instance [DecidableEq Span] (server : FlushBatch Span → HttpResponse)
    (state : TracerState Span) (action : TracerAction Span) :
    Decidable (SequentialAgainst server state action) :=
  inferInstanceAs (Decidable (_ ∧ _))

/-- A `_flush` call. -/
def TracerAction.isFlush : TracerAction Span → Bool
  | .flush _ => true
  | _ => false

/-- A `record` call. -/
def TracerAction.isRecord : TracerAction Span → Bool
  | .record _ => true
  | _ => false

/-- What was recorded is, in record order and but for `dropped_spans` evicted
spans, what was delivered and at most the rejected batch after it. -/
def TracerState.OthersDelivered (rejected : FlushBatch Span) (state : TracerState Span) : Prop :=
  ∃ held, (held = [] ∨ held = rejected.spans) ∧
    (state.delivered.flatMap (·.spans) ++ held).Sublist state.recorded ∧
    (state.delivered.flatMap (·.spans) ++ held).length + state.tracer.droppedSpans =
      state.recorded.length

/-- The rejected batch waits for its answer or for its next send, with spans in
the buffer behind it. -/
def TracerState.Blocked (rejected : FlushBatch Span) (state : TracerState Span) : Prop :=
  rejected ∈ state.inFlightBatches ++ state.tracer.pendingBatches ∧ state.tracer.buffer ≠ []

/-- The `_flush` calls that it takes to send what can be delivered. -/
def TracerState.flushesLeft [DecidableEq Span] (rejected : FlushBatch Span)
    (state : TracerState Span) : Nat :=
  (state.tracer.pendingBatches.filter (· ≠ rejected)).length +
    if state.tracer.buffer.isEmpty then 0 else 1

section

variable {rejected : FlushBatch Span} {server : FlushBatch Span → HttpResponse}
  {state next : TracerState Span} {action : TracerAction Span}

/-- The transport returns `True` exactly for the batches that the server accepts. -/
theorem RejectsOnly.sent_iff (rejectsOnly : RejectsOnly rejected server)
    {batch : FlushBatch Span} {sent : Bool}
    (answered : (sendBatch batch.spans.length fun _ => .response (server batch)).map Prod.fst =
      some sent) : sent = true ↔ batch ≠ rejected := by
  by_cases same : batch = rejected
  · subst same
    rw [sendBatch_of_clientError _ rfl rejectsOnly.rejects] at answered
    simpa using answered.symm
  · rw [sendBatch_of_success _ rfl (rejectsOnly.accepts batch same)] at answered
    simpa [same] using answered.symm

/-- There is one pending batch at most. -/
theorem rest_of_pending (sequential : state.Sequential) {batch : FlushBatch Span}
    {rest : List (FlushBatch Span)} (pending : state.tracer.pendingBatches = batch :: rest) :
    rest = [] := by
  have single := sequential.single
  rw [pending, List.length_append, List.length_cons] at single
  exact List.eq_nil_of_length_eq_zero (by omega)

/-- Nothing gets past the rejected batch. -/
theorem blocked_step (rejectsOnly : RejectsOnly rejected server) (sequential : state.Sequential)
    (conditions : SequentialAgainst server state action) (noRecord : action.isRecord = false)
    (stepped : tracerStep state action = some next) (blocked : state.Blocked rejected) :
    next.Blocked rejected := by
  obtain ⟨isSequential, answered⟩ := conditions
  obtain ⟨waits, buffered⟩ := blocked
  cases sequentialStep_of_step sequential isSequential stepped with
  | idle nothing same => exact same ▸ ⟨waits, buffered⟩
  | recorded same => cases noRecord
  | drained nonePending same =>
      rw [show state.inFlightBatches = [] from isSequential, nonePending] at waits
      cases waits
  | @resent uuid batch rest pending same =>
      subst same
      refine ⟨?_, buffered⟩
      rw [show state.inFlightBatches = [] from isSequential, pending] at waits
      rw [inFlightBatches_spawn]
      simp only [TracerState.spawn, List.mem_append, List.mem_singleton]
      rcases List.mem_cons.mp waits with same | later
      · exact Or.inl (Or.inr same)
      · exact Or.inr later
  | @accepted index uuid batch found same =>
      obtain ⟨inFlight, nonePending, -⟩ := inFlight_of_found sequential found
      rw [inFlight, nonePending, List.append_nil, List.mem_singleton] at waits
      simp only [AnsweredBy, found] at answered
      exact absurd waits.symm ((rejectsOnly.sent_iff answered).mp rfl)
  | @refused index uuid batch found same =>
      obtain ⟨inFlight, nonePending, -⟩ := inFlight_of_found sequential found
      rw [inFlight, nonePending, List.append_nil, List.mem_singleton] at waits
      subst same
      exact ⟨List.mem_append_right _ (waits ▸ List.mem_cons_self ..), buffered⟩

variable [DecidableEq Span]

/-- A step that is not blocked is not blocked afterwards, and a `_flush` call
leaves one fewer to make. -/
theorem unblocked_step (rejectsOnly : RejectsOnly rejected server)
    (sequential : state.Sequential) (conditions : SequentialAgainst server state action)
    (noRecord : action.isRecord = false) (stepped : tracerStep state action = some next)
    (unblocked : ¬ state.Blocked rejected) :
    ¬ next.Blocked rejected ∧
      next.flushesLeft rejected ≤ state.flushesLeft rejected - action.isFlush.toNat := by
  obtain ⟨isSequential, answered⟩ := conditions
  cases sequentialStep_of_step sequential isSequential stepped with
  | idle nothing same =>
      obtain ⟨nonePending, empty⟩ := LLMTracer.empty_of_popNextFlushBatch nothing
      subst same
      exact ⟨unblocked, by simp [TracerState.flushesLeft, nonePending, empty]⟩
  | recorded same => cases noRecord
  | drained nonePending same =>
      subst same
      refine ⟨fun blocked => blocked.2 rfl, ?_⟩
      simp [TracerState.flushesLeft, TracerState.spawn, nonePending]
  | @resent uuid batch rest pending same =>
      have noRest := rest_of_pending sequential pending
      subst noRest
      subst same
      have idle : state.inFlightBatches = [] := isSequential
      constructor
      · rintro ⟨waits, buffered⟩
        refine unblocked ⟨?_, buffered⟩
        rw [inFlightBatches_spawn, idle] at waits
        rw [idle, pending]
        exact List.mem_append.mp waits |>.elim id (fun impossible => by cases impossible)
      · have empty : batch = rejected → state.tracer.buffer = [] := by
          intro isRejected
          by_contra buffered
          refine unblocked ⟨?_, buffered⟩
          rw [pending, isRejected]
          exact List.mem_append_right _ (List.mem_singleton_self _)
        by_cases isRejected : batch = rejected
        · simp [TracerState.flushesLeft, TracerState.spawn, empty isRejected]
        · have before : state.flushesLeft rejected =
              1 + if state.tracer.buffer.isEmpty then 0 else 1 := by
            simp [TracerState.flushesLeft, pending, isRejected]
          rw [before, TracerAction.isFlush, Bool.toNat_true, Nat.add_sub_cancel_left]
          simp [TracerState.flushesLeft, TracerState.spawn]
  | accepted found same =>
      obtain ⟨-, nonePending, noneLeft⟩ := inFlight_of_found sequential found
      subst same
      refine ⟨fun blocked => ?_, le_refl _⟩
      rcases List.mem_append.mp blocked.1 with inFlight | pending
      · rw [TracerState.inFlightBatches, TracerState.resume, noneLeft] at inFlight
        cases inFlight
      · rw [TracerState.resume, nonePending] at pending
        cases pending
  | @refused index uuid batch found same =>
      obtain ⟨inFlight, nonePending, -⟩ := inFlight_of_found sequential found
      simp only [AnsweredBy, found] at answered
      have isRejected : batch = rejected := by
        by_contra other
        exact absurd ((rejectsOnly.sent_iff answered).mpr other) (by decide)
      subst same
      constructor
      · rintro ⟨-, buffered⟩
        refine unblocked ⟨?_, buffered⟩
        rw [inFlight, isRejected]
        exact List.mem_append_left _ (List.mem_singleton_self _)
      · simp [TracerState.flushesLeft, TracerState.resume, LLMTracer.pushFailedBatch,
          TracerAction.isFlush, nonePending, isRejected]

end

/-! ### Further flushes -/

section

variable {rejected : FlushBatch Span}
  {server : FlushBatch Span → HttpResponse} {state final : TracerState Span}
  {further : List (TracerAction Span)}

theorem blocked_of_run (rejectsOnly : RejectsOnly rejected server) (ordered : state.Ordered)
    (noRecords : ∀ action ∈ further, action.isRecord = false)
    (along : (tracerMachine Span).Along (SequentialAgainst server) state further)
    (reached : (tracerMachine Span).run state further = some final)
    (blocked : state.Blocked rejected) : final.Ordered ∧ final.Blocked rejected := by
  induction further generalizing state with
  | nil =>
      simp only [Machine.run, Option.some.injEq] at reached
      exact reached ▸ ⟨ordered, blocked⟩
  | cons action rest inductionHypothesis =>
      obtain ⟨middle, stepped, remaining⟩ := (Machine.run_cons _).mp reached
      have noRecord := noRecords action (List.mem_cons_self ..)
      apply inductionHypothesis (ordered_step ordered along.1.1 stepped)
      · exact fun other member => noRecords other (List.mem_cons_of_mem _ member)
      · exact along.2 middle stepped
      · exact remaining
      · exact blocked_step rejectsOnly ordered.sequential along.1 noRecord stepped blocked

variable [DecidableEq Span]

theorem unblocked_of_run (rejectsOnly : RejectsOnly rejected server) (ordered : state.Ordered)
    (noRecords : ∀ action ∈ further, action.isRecord = false)
    (along : (tracerMachine Span).Along (SequentialAgainst server) state further)
    (reached : (tracerMachine Span).run state further = some final)
    (unblocked : ¬ state.Blocked rejected) :
    final.Ordered ∧ final.flushesLeft rejected ≤
      state.flushesLeft rejected - further.countP TracerAction.isFlush := by
  induction further generalizing state with
  | nil =>
      simp only [Machine.run, Option.some.injEq] at reached
      subst reached
      exact ⟨ordered, le_refl _⟩
  | cons action rest inductionHypothesis =>
      obtain ⟨middle, stepped, remaining⟩ := (Machine.run_cons _).mp reached
      have noRecord := noRecords action (List.mem_cons_self ..)
      obtain ⟨stillUnblocked, fewer⟩ := unblocked_step rejectsOnly ordered.sequential along.1
        noRecord stepped unblocked
      obtain ⟨finalOrdered, left⟩ := inductionHypothesis
        (ordered_step ordered along.1.1 stepped)
        (fun other member => noRecords other (List.mem_cons_of_mem _ member))
        (along.2 middle stepped) remaining stillUnblocked
      refine ⟨finalOrdered, left.trans ?_⟩
      rw [List.countP_cons]
      cases isFlush : action.isFlush with
      | true =>
          simp only [isFlush, Bool.toNat_true] at fewer
          simp only [if_true]
          omega
      | false =>
          simp only [isFlush, Bool.toNat_false] at fewer
          simp only [Bool.false_eq_true, if_false]
          omega

/-- With nothing in flight and no flush left to make, only the rejected batch can
be undelivered. -/
theorem othersDelivered_of_noFlushesLeft (ordered : final.Ordered)
    (idle : final.inFlightBatches = []) (noneLeft : final.flushesLeft rejected = 0) :
    final.OthersDelivered rejected := by
  have empty : final.tracer.buffer = [] := by
    by_contra buffered
    simp [TracerState.flushesLeft, buffered] at noneLeft
  have onlyRejected : ∀ batch ∈ final.tracer.pendingBatches, batch = rejected := by
    intro batch member
    by_contra other
    have listed : batch ∈ final.tracer.pendingBatches.filter (· ≠ rejected) :=
      List.mem_filter.mpr ⟨member, by simpa using other⟩
    have positive := List.length_pos_of_mem listed
    simp only [TracerState.flushesLeft] at noneLeft
    omega
  have sequence : final.sequence = final.delivered.flatMap (·.spans) ++
      final.tracer.pendingBatches.flatMap (·.spans) := by
    simp [TracerState.sequence, TracerState.batches, idle, empty]
  refine ⟨final.tracer.pendingBatches.flatMap (·.spans), ?_, ?_, ?_⟩
  · cases pending : final.tracer.pendingBatches with
    | nil => exact Or.inl rfl
    | cons batch rest =>
        have noRest := rest_of_pending ordered.sequential pending
        subst noRest
        have isRejected := onlyRejected batch (by simp [pending])
        exact Or.inr (by simp [isRejected])
  · exact sequence ▸ ordered.order
  · exact sequence ▸ ordered.evicted

omit [DecidableEq Span] in
/-- With spans behind the rejected batch, some span is neither. -/
theorem not_othersDelivered_of_blocked (ordered : final.Ordered)
    (idle : final.inFlightBatches = []) (blocked : final.Blocked rejected) :
    ¬ final.OthersDelivered rejected := by
  rintro ⟨held, isHeld, -, counted⟩
  obtain ⟨waits, buffered⟩ := blocked
  rw [idle, List.nil_append] at waits
  have evicted := ordered.evicted
  have behind : 0 < final.tracer.buffer.length := List.length_pos_iff.mpr buffered
  have onlyPending : final.tracer.pendingBatches = [rejected] := by
    cases pending : final.tracer.pendingBatches with
    | nil =>
        rw [pending] at waits
        cases waits
    | cons batch rest =>
        have noRest := rest_of_pending ordered.sequential pending
        subst noRest
        rw [pending, List.mem_singleton] at waits
        rw [waits]
  have heldShort : held.length ≤ rejected.spans.length := by
    rcases isHeld with rfl | rfl
    · exact Nat.zero_le _
    · exact le_refl _
  simp only [TracerState.sequence, TracerState.batches, idle, onlyPending, List.nil_append,
    List.flatMap_append, List.flatMap_singleton, List.length_append] at evicted counted
  omega

end

/-- The first batch of the runs below. -/
def poisonBatch : FlushBatch Nat := ⟨[1], (10 : UUID).str⟩

/-- A server that finds the first batch invalid. -/
def validatingServer (batch : FlushBatch Nat) : HttpResponse :=
  if batch = poisonBatch then { statusCode := 422 } else { statusCode := 202 }

theorem rejectsOnly_validatingServer : RejectsOnly poisonBatch validatingServer where
  rejects := by decide
  accepts batch other := by
    rw [validatingServer, if_neg other]
    decide

/-- A span is recorded, and its batch is rejected. -/
def rejectedOnce : List (TracerAction Nat) :=
  [.record 1, .flush 10, .sendReturns 0 false 0]

/-- Three more flushes, all of the rejected batch. -/
def threeFlushes : List (TracerAction Nat) :=
  [.flush 11, .sendReturns 1 false 0, .flush 12, .sendReturns 2 false 0, .flush 13,
    .sendReturns 3 false 0]

end LlmObs.Sdk
