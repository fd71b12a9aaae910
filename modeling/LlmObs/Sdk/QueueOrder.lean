import Mathlib.Data.List.Nodup
import LlmObs.Sdk.Delivery

/-!
Owns the order of the spans in a tracer whose `_flush` calls follow one another:
delivered batches, the batch being sent, pending batches and the buffer make up
the recorded sequence less the evicted spans, and every batch has its own key.
-/

namespace LlmObs.Sdk

open LlmObs.Foundation

variable {Span : Type}

/-! ### Sequential runs -/

namespace TracerState

/-- The batches that wait for the answer of `send_batch`. -/
def inFlightBatches (state : TracerState Span) : List (FlushBatch Span) :=
  state.tasks.flatMap Task.batches

/-- Every batch that was ever drained, the delivered ones first. -/
def batches (state : TracerState Span) : List (FlushBatch Span) :=
  state.delivered ++ (state.inFlightBatches ++ state.tracer.pendingBatches)

/-- The delivered spans, the batch being sent, the pending batches and the active
buffer, one after the other. -/
def sequence (state : TracerState Span) : List Span :=
  state.batches.flatMap (·.spans) ++ state.tracer.buffer

end TracerState

/-- The run consists of `record` calls and of `_flush` calls that begin when no
other one is under way. -/
def SequentialFlush (state : TracerState Span) : TracerAction Span → Prop
  | .record _ | .sendReturns _ _ _ => True
  | .flush _ => state.inFlightBatches = []
  | _ => False

/-- `uuid.uuid4()` returns a value that no batch carries yet. -/
def FreshKey (state : TracerState Span) : TracerAction Span → Prop
  | .flush uuid => ∀ batch ∈ state.batches, batch.idempotencyKey ≠ uuid.str
  | _ => True

instance [DecidableEq Span] (state : TracerState Span) (action : TracerAction Span) :
    Decidable (SequentialFlush state action) := by
  unfold SequentialFlush
  split <;> infer_instance

instance (state : TracerState Span) (action : TracerAction Span) :
    Decidable (FreshKey state action) := by
  unfold FreshKey
  split <;> infer_instance

/-! ### One step -/

/-- What a sequential step can do: nothing, record a span, drain the buffer into a
new batch, or pass the one undelivered batch on. -/
inductive SequentialStep (state next : TracerState Span) : TracerAction Span → Prop where
  | idle {uuid : UUID} (nothing : state.tracer.popNextFlushBatch uuid = none)
      (same : next = state) : SequentialStep state next (.flush uuid)
  | recorded {span : Span} (same : next = { state with
        tracer := state.tracer.record span
        recorded := state.recorded ++ [span]
        evicted :=
          state.evicted ++ overflow state.tracer.bufferSize state.tracer.buffer span }) :
      SequentialStep state next (.record span)
  | drained {uuid : UUID} (nonePending : state.tracer.pendingBatches = [])
      (same : next = state.spawn { state.tracer with buffer := [] }
        (.sending .direct ⟨state.tracer.buffer, uuid.str⟩)) :
      SequentialStep state next (.flush uuid)
  | resent {uuid : UUID} {batch : FlushBatch Span} {rest : List (FlushBatch Span)}
      (pending : state.tracer.pendingBatches = batch :: rest)
      (same : next = state.spawn { state.tracer with
          pendingBatches := rest
          pendingSpans := state.tracer.pendingSpans - batch.spans.length }
        (.sending .direct batch)) :
      SequentialStep state next (.flush uuid)
  | accepted {index : Nat} {uuid : UUID} {batch : FlushBatch Span}
      (found : state.tasks[index]? = some (.sending .direct batch))
      (same : next = { state.resume index state.tracer (.ended .returned) with
        delivered := state.delivered ++ [batch] }) :
      SequentialStep state next (.sendReturns index true uuid)
  | refused {index : Nat} {uuid : UUID} {batch : FlushBatch Span}
      (found : state.tasks[index]? = some (.sending .direct batch))
      (same : next = state.resume index ({ state.tracer with
          failedFlushes := state.tracer.failedFlushes + 1 }.pushFailedBatch batch)
        (.ended .returned)) :
      SequentialStep state next (.sendReturns index false uuid)

/-- What holds in sequential runs, whatever the sends answer. -/
structure TracerState.Sequential (state : TracerState Span) : Prop where
  direct : ∀ task ∈ state.tasks, ∀ caller batch, task = .sending caller batch →
    caller = .direct
  single : (state.inFlightBatches ++ state.tracer.pendingBatches).length ≤ 1

theorem sequentialStep_of_step {state next : TracerState Span} {action : TracerAction Span}
    (sequential : state.Sequential) (isSequential : SequentialFlush state action)
    (stepped : tracerStep state action = some next) : SequentialStep state next action := by
  cases action with
  | record span =>
      simp only [tracerStep, Option.some.injEq] at stepped
      exact .recorded stepped.symm
  | flush uuid =>
      simp only [tracerStep] at stepped
      split at stepped
      · rename_i batch tracer popped
        simp only [Option.some.injEq] at stepped
        rcases LLMTracer.popNextFlushBatch_cases popped with
          ⟨rest, pending, rfl⟩ | ⟨nonePending, -, rfl, rfl⟩
        · exact .resent pending stepped.symm
        · exact .drained nonePending stepped.symm
      · rename_i nothing
        simp only [Option.some.injEq] at stepped
        exact .idle nothing stepped.symm
  | sendReturns index sent uuid =>
      simp only [tracerStep] at stepped
      split at stepped
      · rename_i caller batch found
        have isDirect :=
          sequential.direct _ (List.mem_of_getElem? found) caller batch rfl
        subst isDirect
        simp only [afterFlush, Option.map_some, Option.some.injEq] at stepped
        cases sent with
        | true => exact .accepted found (by simpa [settle] using stepped.symm)
        | false => exact .refused found (by simpa [settle, TracerState.resume] using stepped.symm)
      · cases stepped
  | _ => exact absurd isSequential id

/-- When the batch in flight is answered, no other one is left in flight. -/
theorem inFlight_of_found {state : TracerState Span} (sequential : state.Sequential)
    {index : Nat} {batch : FlushBatch Span} {caller : FlushCaller}
    (found : state.tasks[index]? = some (.sending caller batch)) :
    state.inFlightBatches = [batch] ∧ state.tracer.pendingBatches = [] ∧
      (state.tasks.set index (.ended .returned)).flatMap Task.batches = [] := by
  have exchanged := flatMap_set_perm Task.batches found (.ended .returned)
  simp only [Task.batches, List.append_nil] at exchanged
  have sizes := exchanged.length_eq
  have single := sequential.single
  simp only [TracerState.inFlightBatches, List.length_append, List.length_singleton]
    at sizes single
  have noneLeft : (state.tasks.set index (.ended .returned)).flatMap Task.batches = [] :=
    List.eq_nil_of_length_eq_zero (by omega)
  rw [noneLeft, List.nil_append] at exchanged
  exact ⟨List.perm_singleton.mp exchanged.symm,
    List.eq_nil_of_length_eq_zero (by omega), noneLeft⟩

theorem inFlightBatches_spawn (state : TracerState Span) (tracer : LLMTracer Span)
    (caller : FlushCaller) (batch : FlushBatch Span) :
    (state.spawn tracer (.sending caller batch)).inFlightBatches =
      state.inFlightBatches ++ [batch] := by
  simp [TracerState.inFlightBatches, TracerState.spawn, Task.batches]

theorem sequential_initial (bufferSize : Option Nat) :
    (TracerState.initial bufferSize : TracerState Span).Sequential where
  direct := by simp [TracerState.initial]
  single := by simp [TracerState.initial, TracerState.inFlightBatches, LLMTracer.init]

theorem TracerState.Sequential.spawn {state : TracerState Span}
    (sequential : state.Sequential) (idle : state.inFlightBatches = [])
    {tracer : LLMTracer Span} (nonePending : tracer.pendingBatches = [])
    (batch : FlushBatch Span) :
    (state.spawn tracer (.sending .direct batch)).Sequential where
  direct := by
    intro task member caller other sending
    rcases List.mem_append.mp member with old | new
    · exact sequential.direct task old caller other sending
    · rw [List.mem_singleton.mp new] at sending
      cases sending
      rfl
  single := by
    rw [inFlightBatches_spawn, idle]
    simp [TracerState.spawn, nonePending]

theorem TracerState.Sequential.answered {state next : TracerState Span}
    (sequential : state.Sequential) {index : Nat}
    (tasks : next.tasks = state.tasks.set index (.ended .returned))
    (single : (next.inFlightBatches ++ next.tracer.pendingBatches).length ≤ 1) :
    next.Sequential where
  direct := by
    intro task member caller batch sending
    rw [tasks] at member
    rcases List.mem_or_eq_of_mem_set member with old | new
    · exact sequential.direct task old caller batch sending
    · rw [new] at sending
      cases sending
  single := single

/-! ### Every step -/

section

variable {state next : TracerState Span} {action : TracerAction Span}

/-- The batches and the sequence of spans are what they were, up to the drain of
the buffer into a batch. -/
structure Passes (state next : TracerState Span) : Prop where
  sequential : next.Sequential
  recorded : next.recorded = state.recorded
  dropped : next.tracer.droppedSpans = state.tracer.droppedSpans
  bound : next.tracer.bufferSize = state.tracer.bufferSize
  sequence : next.sequence = state.sequence

theorem passes_drained (sequential : state.Sequential) (idle : state.inFlightBatches = [])
    (nonePending : state.tracer.pendingBatches = []) (uuid : UUID)
    (same : next = state.spawn { state.tracer with buffer := [] }
      (.sending .direct ⟨state.tracer.buffer, uuid.str⟩)) :
    Passes state next ∧ next.batches = state.batches ++ [⟨state.tracer.buffer, uuid.str⟩] := by
  subst same
  have batches : (state.spawn { state.tracer with buffer := [] }
      (.sending .direct ⟨state.tracer.buffer, uuid.str⟩)).batches =
        state.batches ++ [⟨state.tracer.buffer, uuid.str⟩] := by
    rw [TracerState.batches, inFlightBatches_spawn, TracerState.batches, idle]
    simp [TracerState.spawn, nonePending]
  refine ⟨⟨?_, rfl, rfl, rfl, ?_⟩, batches⟩
  · apply sequential.spawn idle
    exact nonePending
  · rw [TracerState.sequence, batches, TracerState.sequence, List.flatMap_append]
    simp [TracerState.spawn]

theorem passes_resent (sequential : state.Sequential) (idle : state.inFlightBatches = [])
    {batch : FlushBatch Span} {rest : List (FlushBatch Span)}
    (pending : state.tracer.pendingBatches = batch :: rest)
    (same : next = state.spawn { state.tracer with
        pendingBatches := rest
        pendingSpans := state.tracer.pendingSpans - batch.spans.length }
      (.sending .direct batch)) :
    Passes state next ∧ next.batches = state.batches := by
  have noRest : rest = [] := by
    have single := sequential.single
    rw [idle, pending] at single
    exact List.eq_nil_of_length_eq_zero (by simpa using single)
  subst noRest
  subst same
  have batches : (state.spawn { state.tracer with
      pendingBatches := []
      pendingSpans := state.tracer.pendingSpans - batch.spans.length }
        (.sending .direct batch)).batches = state.batches := by
    rw [TracerState.batches, inFlightBatches_spawn, TracerState.batches, idle, pending]
    simp [TracerState.spawn]
  refine ⟨⟨sequential.spawn idle rfl _, rfl, rfl, rfl, ?_⟩, batches⟩
  rw [TracerState.sequence, batches]
  rfl

theorem passes_accepted (sequential : state.Sequential) {index : Nat} {batch : FlushBatch Span}
    (found : state.tasks[index]? = some (.sending .direct batch))
    (same : next = { state.resume index state.tracer (.ended .returned) with
      delivered := state.delivered ++ [batch] }) :
    Passes state next ∧ next.batches = state.batches := by
  obtain ⟨inFlight, nonePending, noneLeft⟩ := inFlight_of_found sequential found
  subst same
  have nothing : TracerState.inFlightBatches
      { state.resume index state.tracer (.ended .returned) with
        delivered := state.delivered ++ [batch] } = [] := noneLeft
  have batches : TracerState.batches { state.resume index state.tracer (.ended .returned) with
      delivered := state.delivered ++ [batch] } = state.batches := by
    rw [TracerState.batches, nothing, TracerState.batches, inFlight]
    simp [TracerState.resume, nonePending]
  refine ⟨⟨sequential.answered rfl ?_, rfl, rfl, rfl, ?_⟩, batches⟩
  · rw [nothing]
    simp [TracerState.resume, nonePending]
  · rw [TracerState.sequence, batches]
    rfl

theorem passes_refused (sequential : state.Sequential) {index : Nat} {batch : FlushBatch Span}
    (found : state.tasks[index]? = some (.sending .direct batch))
    (same : next = state.resume index ({ state.tracer with
        failedFlushes := state.tracer.failedFlushes + 1 }.pushFailedBatch batch)
      (.ended .returned)) :
    Passes state next ∧ next.batches = state.batches := by
  obtain ⟨inFlight, nonePending, noneLeft⟩ := inFlight_of_found sequential found
  subst same
  have nothing : (state.resume index ({ state.tracer with
      failedFlushes := state.tracer.failedFlushes + 1 }.pushFailedBatch batch)
        (.ended .returned)).inFlightBatches = [] := noneLeft
  have batches : (state.resume index ({ state.tracer with
      failedFlushes := state.tracer.failedFlushes + 1 }.pushFailedBatch batch)
        (.ended .returned)).batches = state.batches := by
    rw [TracerState.batches, nothing, TracerState.batches, inFlight]
    simp [TracerState.resume, LLMTracer.pushFailedBatch, nonePending]
  refine ⟨⟨sequential.answered rfl ?_, rfl, rfl, rfl, ?_⟩, batches⟩
  · rw [nothing]
    simp [TracerState.resume, LLMTracer.pushFailedBatch, nonePending]
  · rw [TracerState.sequence, batches]
    rfl

end

/-! ### Order -/

/-- The law of the queues. -/
structure TracerState.InOrder (state : TracerState Span) : Prop where
  /-- The rest of the recorded spans is in record order, -/
  order : state.sequence.Sublist state.recorded
  /-- with exactly `dropped_spans` spans evicted. -/
  evicted : state.sequence.length + state.tracer.droppedSpans = state.recorded.length
  /-- Distinct batches carry distinct keys, -/
  distinctKeys : (state.batches.map (·.idempotencyKey)).Nodup
  /-- and what was handed to `send_batch` is one of the batches, unchanged. -/
  handed : ∀ batch ∈ state.handed, batch ∈ state.batches
  counted : state.tracer.pendingSpans =
    (state.tracer.pendingBatches.map (·.spans.length)).sum
  bounded : ∀ maxlen, state.tracer.bufferSize = some maxlen →
    state.tracer.pendingSpans ≤ maxlen

/-- A key is always sent with the same spans. -/
theorem TracerState.InOrder.spans_eq {state : TracerState Span} (inOrder : state.InOrder)
    {first second : FlushBatch Span} (firstHanded : first ∈ state.handed)
    (secondHanded : second ∈ state.handed)
    (sameKey : first.idempotencyKey = second.idempotencyKey) : first.spans = second.spans :=
  congrArg FlushBatch.spans (List.inj_on_of_nodup_map inOrder.distinctKeys
    (inOrder.handed first firstHanded) (inOrder.handed second secondHanded) sameKey)

/-- What a sequential run keeps, whatever `uuid4` returns. -/
structure TracerState.Ordered (state : TracerState Span) : Prop where
  sequential : state.Sequential
  sound : state.Sound
  order : state.sequence.Sublist state.recorded
  evicted : state.sequence.length + state.tracer.droppedSpans = state.recorded.length
  handed : ∀ batch ∈ state.handed, batch ∈ state.batches
  lengths : ∀ maxlen, state.tracer.bufferSize = some maxlen →
    ∀ batch ∈ state.batches, batch.spans.length ≤ maxlen

theorem ordered_initial (bufferSize : Option Nat) :
    (TracerState.initial bufferSize : TracerState Span).Ordered where
  sequential := sequential_initial bufferSize
  sound := TracerState.sound_initial bufferSize
  order := List.Sublist.refl _
  evicted := rfl
  handed := by simp [TracerState.initial]
  lengths := by
    simp [TracerState.batches, TracerState.inFlightBatches, TracerState.initial, LLMTracer.init]

theorem TracerState.Ordered.inOrder {state : TracerState Span} (ordered : state.Ordered)
    (distinctKeys : (state.batches.map (·.idempotencyKey)).Nodup) : state.InOrder := by
  have counted : state.tracer.pendingSpans =
      (state.tracer.pendingBatches.map (·.spans.length)).sum := by
    rw [ordered.sound.kept.counted, List.length_flatMap]
  refine ⟨ordered.order, ordered.evicted, distinctKeys, ordered.handed, counted, ?_⟩
  intro maxlen bound
  have single := ordered.sequential.single
  have lengths := ordered.lengths maxlen bound
  rw [counted]
  cases pending : state.tracer.pendingBatches with
  | nil => simp
  | cons batch rest =>
      have noRest : rest = [] := by
        rw [pending] at single
        simp only [List.length_append, List.length_cons] at single
        exact List.eq_nil_of_length_eq_zero (by omega)
      have isBatch : batch ∈ state.batches := by simp [TracerState.batches, pending]
      have short := lengths batch isBatch
      subst noRest
      simpa using short

theorem TracerState.Ordered.record {state : TracerState Span} (ordered : state.Ordered)
    (span : Span) {next : TracerState Span} (nextSound : next.Sound)
    (same : next = { state with
      tracer := state.tracer.record span
      recorded := state.recorded ++ [span]
      evicted :=
        state.evicted ++ overflow state.tracer.bufferSize state.tracer.buffer span }) :
    next.Ordered := by
  subst same
  have split := overflow_append_boundedAppend state.tracer.bufferSize state.tracer.buffer span
  refine ⟨⟨ordered.sequential.direct, ordered.sequential.single⟩, nextSound, ?_, ?_,
    ordered.handed, ordered.lengths⟩
  · -- The buffer loses a prefix and gains the span; all else stands before it.
    have kept : (boundedAppend state.tracer.bufferSize state.tracer.buffer span).Sublist
        (state.tracer.buffer ++ [span]) := by
      rw [← split]
      exact List.sublist_append_right _ _
    have longer := kept.append_left (state.batches.flatMap (·.spans))
    rw [← List.append_assoc] at longer
    exact longer.trans (ordered.order.append_right [span])
  · have dropped := ordered.sound.kept.droppedSpans_record span
    have lengths := congrArg List.length split
    have before := ordered.evicted
    simp only [TracerState.sequence, List.length_append, List.length_singleton] at before lengths
    simp only [TracerState.sequence, List.length_append, List.length_singleton, dropped]
    have sameBatches : TracerState.batches { state with
        tracer := state.tracer.record span
        recorded := state.recorded ++ [span]
        evicted :=
          state.evicted ++ overflow state.tracer.bufferSize state.tracer.buffer span } =
        state.batches := rfl
    rw [sameBatches]
    simp only [LLMTracer.record]
    omega

theorem TracerState.Ordered.pass {state next : TracerState Span} (ordered : state.Ordered)
    (nextSound : next.Sound) (passes : Passes state next)
    (batches : next.batches = state.batches)
    (handed : ∀ batch ∈ next.handed, batch ∈ state.handed ∨ batch ∈ state.batches) :
    next.Ordered where
  sequential := passes.sequential
  sound := nextSound
  order := by
    rw [passes.sequence, passes.recorded]
    exact ordered.order
  evicted := by
    rw [passes.sequence, passes.recorded, passes.dropped]
    exact ordered.evicted
  handed := by
    intro batch member
    rw [batches]
    rcases handed batch member with old | known
    · exact ordered.handed batch old
    · exact known
  lengths := by
    rw [passes.bound, batches]
    exact ordered.lengths

/-- The drained buffer becomes one more batch. -/
theorem TracerState.Ordered.drain {state next : TracerState Span} (ordered : state.Ordered)
    (nextSound : next.Sound) (passes : Passes state next) {key : String}
    (batches : next.batches = state.batches ++ [⟨state.tracer.buffer, key⟩])
    (handed : next.handed = state.handed ++ [⟨state.tracer.buffer, key⟩]) :
    next.Ordered where
  sequential := passes.sequential
  sound := nextSound
  order := by
    rw [passes.sequence, passes.recorded]
    exact ordered.order
  evicted := by
    rw [passes.sequence, passes.recorded, passes.dropped]
    exact ordered.evicted
  handed := by
    rw [handed, batches]
    intro batch member
    rcases List.mem_append.mp member with old | new
    · exact List.mem_append_left _ (ordered.handed batch old)
    · exact List.mem_append_right _ new
  lengths := by
    rw [passes.bound, batches]
    intro maxlen bound batch member
    rcases List.mem_append.mp member with old | new
    · exact ordered.lengths maxlen bound batch old
    · rw [List.mem_singleton.mp new]
      exact ordered.sound.kept.bounded maxlen bound

theorem ordered_step {state next : TracerState Span} {action : TracerAction Span}
    (ordered : state.Ordered) (isSequential : SequentialFlush state action)
    (stepped : tracerStep state action = some next) : next.Ordered := by
  have nextSound := (places_of_step ordered.sound stepped).1
  cases sequentialStep_of_step ordered.sequential isSequential stepped with
  | idle nothing same => exact same ▸ ordered
  | recorded same => exact ordered.record _ nextSound same
  | drained nonePending same =>
      obtain ⟨passes, batches⟩ :=
        passes_drained ordered.sequential isSequential nonePending _ same
      apply ordered.drain nextSound passes batches
      rw [same]
      rfl
  | @resent uuid batch rest pending same =>
      obtain ⟨passes, batches⟩ := passes_resent ordered.sequential isSequential pending same
      apply ordered.pass nextSound passes batches
      intro other member
      rw [same] at member
      rcases List.mem_append.mp member with old | again
      · exact Or.inl old
      · rw [List.mem_singleton.mp again]
        exact Or.inr (by simp [TracerState.batches, pending])
  | accepted found same =>
      obtain ⟨passes, batches⟩ := passes_accepted ordered.sequential found same
      apply ordered.pass nextSound passes batches
      intro other member
      rw [same] at member
      exact Or.inl (by simpa [TracerState.resume, Task.batches] using member)
  | refused found same =>
      obtain ⟨passes, batches⟩ := passes_refused ordered.sequential found same
      apply ordered.pass nextSound passes batches
      intro other member
      rw [same] at member
      exact Or.inl (by simpa [TracerState.resume, Task.batches] using member)

/-- A batch drained under a fresh key keeps the keys distinct. -/
theorem distinctKeys_step {state next : TracerState Span} {action : TracerAction Span}
    (sequential : state.Sequential) (isSequential : SequentialFlush state action)
    (fresh : FreshKey state action) (stepped : tracerStep state action = some next)
    (distinctKeys : (state.batches.map (·.idempotencyKey)).Nodup) :
    (next.batches.map (·.idempotencyKey)).Nodup := by
  cases sequentialStep_of_step sequential isSequential stepped with
  | idle nothing same => exact same ▸ distinctKeys
  | recorded same =>
      rw [same]
      exact distinctKeys
  | drained nonePending same =>
      rw [(passes_drained sequential isSequential nonePending _ same).2, List.map_append,
        List.nodup_append]
      refine ⟨distinctKeys, List.nodup_singleton _, ?_⟩
      intro used usedMember new newMember
      obtain ⟨batch, member, rfl⟩ := List.mem_map.mp usedMember
      rw [List.mem_singleton.mp newMember]
      exact fresh batch member
  | resent pending same =>
      exact (passes_resent sequential isSequential pending same).2 ▸ distinctKeys
  | accepted found same => exact (passes_accepted sequential found same).2 ▸ distinctKeys
  | refused found same => exact (passes_refused sequential found same).2 ▸ distinctKeys

/-- In every state that a run of `record` and sequential `_flush` calls reaches,
the queues are in order, as long as `uuid4` never repeats a value. -/
theorem inOrder_of_sequential {bufferSize : Option Nat} {actions : List (TracerAction Span)}
    {state : TracerState Span}
    (reached : (tracerMachine Span).run (.initial bufferSize) actions = some state)
    (sequential : (tracerMachine Span).Along SequentialFlush (.initial bufferSize) actions)
    (fresh : (tracerMachine Span).Along FreshKey (.initial bufferSize) actions) :
    state.InOrder ∧ ∀ first ∈ state.handed, ∀ second ∈ state.handed,
      first.idempotencyKey = second.idempotencyKey → first.spans = second.spans := by
  obtain ⟨ordered, distinctKeys⟩ : state.Ordered ∧
      (state.batches.map (·.idempotencyKey)).Nodup := by
    refine (tracerMachine Span).run_invariant
      (fun state => state.Ordered ∧ (state.batches.map (·.idempotencyKey)).Nodup) ?_
      ⟨ordered_initial bufferSize, List.nodup_nil⟩ (sequential.and fresh) reached
    rintro before action after ⟨ordered, distinctKeys⟩ ⟨isSequential, freshKey⟩ stepped
    exact ⟨ordered_step ordered isSequential stepped,
      distinctKeys_step ordered.sequential isSequential freshKey stepped distinctKeys⟩
  have inOrder := ordered.inOrder distinctKeys
  refine ⟨inOrder, fun first firstHanded second secondHanded sameKey => ?_⟩
  exact inOrder.spans_eq firstHanded secondHanded sameKey

/-- A full buffer is sent while new spans arrive, is refused, and is sent again
before them. -/
def refusedFlush : List (TracerAction Nat) :=
  [.record 1, .record 2, .flush 10, .record 3, .record 4, .record 5, .sendReturns 0 false 0,
    .flush 11, .sendReturns 1 true 0, .flush 12]

theorem inOrder_of_sequential_refusedFlush :
    ∃ state, (tracerMachine Nat).run (.initial (some 2)) refusedFlush = some state ∧
      (state.InOrder ∧ ∀ first ∈ state.handed, ∀ second ∈ state.handed,
        first.idempotencyKey = second.idempotencyKey → first.spans = second.spans) := by
  obtain ⟨state, reached⟩ : ∃ state, (tracerMachine Nat).run (.initial (some 2)) refusedFlush =
      some state := ⟨_, rfl⟩
  exact ⟨state, reached, inOrder_of_sequential reached (by decide) (by decide)⟩

end LlmObs.Sdk
