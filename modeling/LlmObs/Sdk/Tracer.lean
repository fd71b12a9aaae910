import LlmObs.Foundation.Holdings
import LlmObs.Foundation.Uuid

/-!
Owns the queues of `LLMTracer`: the bounded active buffer, the pending batches
that failed to be sent, and the counters beside them. It does not own the tasks
that call these methods, nor the transport.
-/

namespace LlmObs.Sdk

open LlmObs.Foundation

variable {Span : Type}

/-- A batch taken off a queue, with the key that every send of it carries. -/
structure FlushBatch (Span : Type) where
  spans : List Span
  idempotencyKey : String
deriving DecidableEq, Repr

structure LLMTracer (Span : Type) where
  /-- `buffer_size`, the `maxlen` of the buffer. -/
  bufferSize : Option Nat
  buffer : List Span
  pendingBatches : List (FlushBatch Span)
  pendingSpans : Int
  /-- Number of the task that runs `_flush_loop`. -/
  flushTask : Option Nat
  shuttingDown : Bool
  closed : Bool
  droppedSpans : Nat
  failedFlushes : Nat
  finalDeliveryFailures : Nat
  lastDropReason : Option String

namespace LLMTracer

/-- `LLMTracer.__init__`. -/
def init (bufferSize : Option Nat) : LLMTracer Span where
  bufferSize := bufferSize
  buffer := []
  pendingBatches := []
  pendingSpans := 0
  flushTask := none
  shuttingDown := false
  closed := false
  droppedSpans := 0
  failedFlushes := 0
  finalDeliveryFailures := 0
  lastDropReason := none

/-- Whether `record` finds the buffer full. -/
def bufferFull (tracer : LLMTracer Span) : Bool :=
  match tracer.bufferSize with
  | none => false
  | some maxlen => maxlen ≤ tracer.buffer.length

def record (tracer : LLMTracer Span) (span : Span) : LLMTracer Span :=
  { tracer with
    droppedSpans := if tracer.bufferFull then tracer.droppedSpans + 1 else tracer.droppedSpans
    lastDropReason := if tracer.bufferFull then some "buffer_overflow" else tracer.lastDropReason
    buffer := boundedAppend tracer.bufferSize tracer.buffer span }

/-- `_pop_next_flush_batch`, where `uuid` is what `uuid.uuid4()` returns. -/
def popNextFlushBatch (tracer : LLMTracer Span) (uuid : UUID) :
    Option (FlushBatch Span × LLMTracer Span) :=
  match tracer.pendingBatches with
  | batch :: rest => some (batch, { tracer with
      pendingBatches := rest
      pendingSpans := tracer.pendingSpans - batch.spans.length })
  | [] =>
      match tracer.buffer with
      | [] => none
      | span :: spans => some (⟨span :: spans, uuid.str⟩, { tracer with buffer := [] })

def pushFailedBatch (tracer : LLMTracer Span) (batch : FlushBatch Span) : LLMTracer Span :=
  { tracer with
    pendingBatches := batch :: tracer.pendingBatches
    pendingSpans := tracer.pendingSpans + batch.spans.length }

def hasBufferedSpans (tracer : LLMTracer Span) : Bool :=
  !tracer.buffer.isEmpty || decide (0 < tracer.pendingSpans)

/-- `start` creates the flush task with number `task`. -/
def startFlushTask (tracer : LLMTracer Span) (task : Nat) : LLMTracer Span :=
  { tracer with shuttingDown := false, flushTask := some task }

/-- `shutdown` tells the flush loop to stop. -/
def requestShutdown (tracer : LLMTracer Span) : LLMTracer Span :=
  { tracer with shuttingDown := true }

/-- `shutdown(flush=False)` empties both queues. -/
def clear (tracer : LLMTracer Span) : LLMTracer Span :=
  { tracer with buffer := [], pendingBatches := [], pendingSpans := 0 }

/-- The spans in the two queues. -/
def queued (tracer : LLMTracer Span) : List Span :=
  tracer.pendingBatches.flatMap (·.spans) ++ tracer.buffer

/-! ### What a tracer keeps -/

/-- The queues and their counters are the same. -/
structure SameQueues (tracer next : LLMTracer Span) : Prop where
  bufferSize : next.bufferSize = tracer.bufferSize
  buffer : next.buffer = tracer.buffer
  pendingBatches : next.pendingBatches = tracer.pendingBatches
  pendingSpans : next.pendingSpans = tracer.pendingSpans
  droppedSpans : next.droppedSpans = tracer.droppedSpans

theorem SameQueues.refl (tracer : LLMTracer Span) : tracer.SameQueues tracer :=
  ⟨rfl, rfl, rfl, rfl, rfl⟩

theorem SameQueues.queued {tracer next : LLMTracer Span} (same : tracer.SameQueues next) :
    next.queued = tracer.queued := by
  rw [LLMTracer.queued, same.pendingBatches, same.buffer, LLMTracer.queued]

theorem sameQueues_startFlushTask (tracer : LLMTracer Span) (task : Nat) :
    tracer.SameQueues (tracer.startFlushTask task) :=
  ⟨rfl, rfl, rfl, rfl, rfl⟩

theorem sameQueues_requestShutdown (tracer : LLMTracer Span) :
    tracer.SameQueues tracer.requestShutdown :=
  ⟨rfl, rfl, rfl, rfl, rfl⟩

/-- The counters agree with the queues: the buffer is within its bound, no
pending batch is empty and `pendingSpans` counts the spans of the batches. -/
structure WellKept (tracer : LLMTracer Span) : Prop where
  bounded : ∀ maxlen, tracer.bufferSize = some maxlen → tracer.buffer.length ≤ maxlen
  nonempty : ∀ batch ∈ tracer.pendingBatches, batch.spans ≠ []
  counted : tracer.pendingSpans = (tracer.pendingBatches.flatMap (·.spans)).length

theorem wellKept_init (bufferSize : Option Nat) :
    (init bufferSize : LLMTracer Span).WellKept where
  bounded := by simp [init]
  nonempty := by simp [init]
  counted := by simp [init]

theorem WellKept.same {tracer next : LLMTracer Span} (kept : tracer.WellKept)
    (same : tracer.SameQueues next) : next.WellKept where
  bounded := by
    rw [same.bufferSize, same.buffer]
    exact kept.bounded
  nonempty := by
    rw [same.pendingBatches]
    exact kept.nonempty
  counted := by
    rw [same.pendingSpans, same.pendingBatches]
    exact kept.counted

theorem WellKept.record {tracer : LLMTracer Span} (kept : tracer.WellKept) (span : Span) :
    (tracer.record span).WellKept where
  bounded maxlen bound := by
    have size : tracer.bufferSize = some maxlen := bound
    simp only [LLMTracer.record, size]
    exact length_boundedAppend_le ..
  nonempty := kept.nonempty
  counted := kept.counted

/-- `record` counts exactly the spans that the buffer pushes out. -/
theorem WellKept.droppedSpans_record {tracer : LLMTracer Span} (kept : tracer.WellKept)
    (span : Span) :
    (tracer.record span).droppedSpans =
      tracer.droppedSpans + (overflow tracer.bufferSize tracer.buffer span).length := by
  cases size : tracer.bufferSize with
  | none => simp [LLMTracer.record, bufferFull, size, overflow]
  | some maxlen =>
      have bound := kept.bounded maxlen size
      rw [length_overflow]
      simp only [LLMTracer.record, bufferFull, size]
      by_cases full : maxlen ≤ tracer.buffer.length
      · simp only [full, decide_true, if_true]
        omega
      · simp only [full, decide_false]
        simp only [Bool.false_eq_true, if_false]
        omega

theorem queued_record (tracer : LLMTracer Span) (span : Span) :
    (overflow tracer.bufferSize tracer.buffer span ++ (tracer.record span).queued).Perm
      (tracer.queued ++ [span]) := by
  simp only [queued, LLMTracer.record, List.append_assoc]
  rw [← overflow_append_boundedAppend tracer.bufferSize tracer.buffer span,
    ← List.append_assoc, ← List.append_assoc]
  exact List.perm_append_comm.append_right _

/-- What `_pop_next_flush_batch` can do: nothing, hand out the oldest pending
batch, or drain the buffer into a new one. -/
theorem popNextFlushBatch_cases {tracer : LLMTracer Span} {uuid : UUID}
    {batch : FlushBatch Span} {next : LLMTracer Span}
    (popped : tracer.popNextFlushBatch uuid = some (batch, next)) :
    (∃ rest, tracer.pendingBatches = batch :: rest ∧ next = { tracer with
        pendingBatches := rest
        pendingSpans := tracer.pendingSpans - batch.spans.length }) ∨
    (tracer.pendingBatches = [] ∧ tracer.buffer ≠ [] ∧
      batch = ⟨tracer.buffer, uuid.str⟩ ∧ next = { tracer with buffer := [] }) := by
  unfold popNextFlushBatch at popped
  split at popped
  · rename_i head rest pending
    simp only [Option.some.injEq, Prod.mk.injEq] at popped
    obtain ⟨rfl, rfl⟩ := popped
    exact Or.inl ⟨rest, pending, rfl⟩
  · rename_i pending
    split at popped
    · cases popped
    · rename_i span spans buffered
      simp only [Option.some.injEq, Prod.mk.injEq] at popped
      obtain ⟨rfl, rfl⟩ := popped
      exact Or.inr ⟨pending, by simp [buffered], by rw [buffered], rfl⟩

/-- It returns `None` only when both queues are empty. -/
theorem empty_of_popNextFlushBatch {tracer : LLMTracer Span} {uuid : UUID}
    (nothing : tracer.popNextFlushBatch uuid = none) :
    tracer.pendingBatches = [] ∧ tracer.buffer = [] := by
  unfold popNextFlushBatch at nothing
  split at nothing
  · cases nothing
  · rename_i nonePending
    split at nothing
    · rename_i empty
      exact ⟨nonePending, empty⟩
    · cases nothing

theorem queued_popNextFlushBatch {tracer : LLMTracer Span} {uuid : UUID}
    {batch : FlushBatch Span} {next : LLMTracer Span}
    (popped : tracer.popNextFlushBatch uuid = some (batch, next)) :
    tracer.queued = batch.spans ++ next.queued := by
  rcases popNextFlushBatch_cases popped with ⟨rest, pending, rfl⟩ | ⟨pending, -, rfl, rfl⟩
  · simp [queued, pending]
  · simp [queued, pending]

theorem WellKept.pop {tracer : LLMTracer Span} (kept : tracer.WellKept) {uuid : UUID}
    {batch : FlushBatch Span} {next : LLMTracer Span}
    (popped : tracer.popNextFlushBatch uuid = some (batch, next)) :
    next.WellKept ∧ batch.spans ≠ [] ∧ next.droppedSpans = tracer.droppedSpans := by
  rcases popNextFlushBatch_cases popped with ⟨rest, pending, rfl⟩ | ⟨pending, full, rfl, rfl⟩
  · refine ⟨⟨kept.bounded, fun other member => ?_, ?_⟩, ?_, rfl⟩
    · exact kept.nonempty other (pending ▸ List.mem_cons_of_mem _ member)
    · have counted := kept.counted
      rw [pending, List.flatMap_cons, List.length_append] at counted
      simp only [counted]
      omega
    · exact kept.nonempty batch (pending ▸ List.mem_cons_self ..)
  · refine ⟨⟨fun maxlen _ => Nat.zero_le _, kept.nonempty, kept.counted⟩, full, rfl⟩

theorem WellKept.pushFailedBatch {tracer : LLMTracer Span} (kept : tracer.WellKept)
    {batch : FlushBatch Span} (full : batch.spans ≠ []) :
    (tracer.pushFailedBatch batch).WellKept where
  bounded := kept.bounded
  nonempty other member := by
    rcases List.mem_cons.mp member with rfl | pending
    · exact full
    · exact kept.nonempty other pending
  counted := by
    have counted := kept.counted
    simp only [LLMTracer.pushFailedBatch, List.flatMap_cons, List.length_append, counted]
    omega

theorem queued_pushFailedBatch (tracer : LLMTracer Span) (batch : FlushBatch Span) :
    (tracer.pushFailedBatch batch).queued = batch.spans ++ tracer.queued := by
  simp [queued, LLMTracer.pushFailedBatch]

theorem WellKept.clear {tracer : LLMTracer Span} : tracer.clear.WellKept where
  bounded _ _ := Nat.zero_le _
  nonempty _ member := by cases member
  counted := rfl

/-- While a well-kept tracer has something buffered, there is a batch to send:
the draining loops of `shutdown` and of the exit handler make progress. -/
theorem WellKept.popNextFlushBatch_isSome {tracer : LLMTracer Span} (kept : tracer.WellKept)
    (buffered : tracer.hasBufferedSpans = true) (uuid : UUID) :
    (tracer.popNextFlushBatch uuid).isSome := by
  unfold popNextFlushBatch
  split
  · rfl
  · rename_i pending
    split
    · rename_i empty
      have counted := kept.counted
      simp [hasBufferedSpans, empty, pending, counted] at buffered
    · rfl

end LLMTracer

end LlmObs.Sdk
