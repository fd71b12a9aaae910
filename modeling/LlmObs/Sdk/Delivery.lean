import LlmObs.Foundation.Machine
import LlmObs.Sdk.Tracer

/-!
Owns the runs of one tracer on its event loop: `record` calls, the flush loop
task, `_flush` calls, the exit handler and any number of `shutdown` calls, one
await at a time. The answer of every `send_batch` is part of the run, and so is
every exception and cancellation. It does not own the transport.
-/

namespace LlmObs.Sdk

open LlmObs.Foundation

variable {Span : Type}

/-- Who awaits `_flush`, and so what follows when it returns. -/
inductive FlushCaller where
  | flushLoop
  | shutdown
  | syncFlushOnExit
  | direct
deriving DecidableEq, Repr

inductive TaskEnd where
  | returned
  | cancelled
  | raised
deriving DecidableEq, Repr

/-- Where a task stands, one constructor for each await. -/
inductive Task (Span : Type) where
  /-- `_flush_loop` before its first step. -/
  | created
  /-- `_flush_loop` in `asyncio.sleep`. -/
  | sleeping
  /-- `_flush` in `send_batch`. -/
  | sending (caller : FlushCaller) (batch : FlushBatch Span)
  /-- `shutdown` in `await self._flush_task`. -/
  | awaitingFlushTask (flushTask : Nat) (flush : Bool)
  /-- `shutdown` in `aclose`. -/
  | closing
  | ended (how : TaskEnd)
deriving DecidableEq, Repr

/-- The batch in flight inside a live `_flush`. -/
def Task.batches : Task Span → List (FlushBatch Span)
  | .sending _ batch => [batch]
  | _ => []

def Task.spans (task : Task Span) : List Span :=
  task.batches.flatMap (·.spans)

structure TracerState (Span : Type) where
  tracer : LLMTracer Span
  tasks : List (Task Span)
  /-- The arguments of the `record` calls so far. -/
  recorded : List Span
  /-- The batches handed to `send_batch` so far, once for each call. -/
  handed : List (FlushBatch Span)
  /-- The batches for which `send_batch` returned `True`. -/
  delivered : List (FlushBatch Span)
  /-- What the buffer pushed out. -/
  evicted : List Span
  /-- What `shutdown(flush=False)` threw away. -/
  discarded : List Span

/-- `uuid` is what `uuid.uuid4()` returns if the step drains the buffer. -/
inductive TracerAction (Span : Type) where
  | record (span : Span)
  | start
  /-- The flush loop takes its first step. -/
  | begin (task : Nat)
  /-- The sleep of the flush loop is over. -/
  | wake (task : Nat) (uuid : UUID)
  /-- A cancellation reaches a flush loop that is not inside `send_batch`. -/
  | cancel (task : Nat)
  /-- A call of `_flush`. -/
  | flush (uuid : UUID)
  | syncFlushOnExit (uuid : UUID)
  | sendReturns (task : Nat) (sent : Bool) (uuid : UUID)
  /-- `send_batch` raises, or is cancelled while it awaits. -/
  | sendRaises (task : Nat) (cancelled : Bool)
  | shutdown (flush : Bool) (uuid : UUID)
  /-- The flush task that a shutdown awaits is done. -/
  | shutdownResumes (task : Nat) (uuid : UUID)
  | closeReturns (task : Nat)
  | closeRaises (task : Nat) (cancelled : Bool)

namespace TracerState

def initial (bufferSize : Option Nat) : TracerState Span where
  tracer := .init bufferSize
  tasks := []
  recorded := []
  handed := []
  delivered := []
  evicted := []
  discarded := []

/-- The number of the flush task while it is not done. -/
def runningFlushTask (state : TracerState Span) : Option Nat :=
  match state.tracer.flushTask with
  | none => none
  | some flushTask =>
      match state.tasks[flushTask]? with
      | none | some (.ended _) => none
      | some _ => some flushTask

/-- A new task, already at its first await. -/
def spawn (state : TracerState Span) (tracer : LLMTracer Span) (task : Task Span) :
    TracerState Span :=
  { state with
    tracer := tracer
    tasks := state.tasks ++ [task]
    handed := state.handed ++ task.batches }

/-- An existing task moves on to its next await. -/
def resume (state : TracerState Span) (index : Nat) (tracer : LLMTracer Span)
    (task : Task Span) : TracerState Span :=
  { state with
    tracer := tracer
    tasks := state.tasks.set index task
    handed := state.handed ++ task.batches }

end TracerState

/-- The test of `while not self._shutting_down`. -/
def flushLoopTest (tracer : LLMTracer Span) : Task Span :=
  if tracer.shuttingDown then .ended .returned else .sleeping

/-- `while self._has_buffered_spans()` of a caller that drains the queues, up to
the next `send_batch`, or to `after` when they are empty. `none` stands for a
loop that never awaits. -/
def drain (caller : FlushCaller) (after : Task Span) (tracer : LLMTracer Span) (uuid : UUID) :
    Option (LLMTracer Span × Task Span) :=
  if tracer.hasBufferedSpans then
    match tracer.popNextFlushBatch uuid with
    | some (batch, tracer) => some (tracer, .sending caller batch)
    | none => none
  else some (tracer, after)

/-- `shutdown` once the flush task is out of the way. -/
def finishShutdown (flush : Bool) (tracer : LLMTracer Span) (uuid : UUID) :
    Option (LLMTracer Span × Task Span) :=
  if flush then drain .shutdown .closing tracer uuid else some (tracer.clear, .closing)

/-- What `shutdown` throws away at that point. -/
def discardedBy (flush : Bool) (tracer : LLMTracer Span) : List Span :=
  if flush then [] else tracer.queued

/-- What follows when the `_flush` of a caller returns `sent`. -/
def afterFlush (caller : FlushCaller) (sent : Bool) (tracer : LLMTracer Span) (uuid : UUID) :
    Option (LLMTracer Span × Task Span) :=
  match caller with
  | .flushLoop => some (tracer, flushLoopTest tracer)
  | .shutdown =>
      if sent then drain .shutdown .closing tracer uuid
      else some
        ({ tracer with finalDeliveryFailures := tracer.finalDeliveryFailures + 1 }, .closing)
  | .syncFlushOnExit =>
      if sent then drain .syncFlushOnExit (.ended .returned) tracer uuid
      else some (tracer, .ended .returned)
  | .direct => some (tracer, .ended .returned)

/-- `_flush` after `send_batch` returned. -/
def settle (sent : Bool) (batch : FlushBatch Span) (tracer : LLMTracer Span) :
    LLMTracer Span :=
  if sent then tracer
  else { tracer with failedFlushes := tracer.failedFlushes + 1 }.pushFailedBatch batch

def stopped (cancelled : Bool) : TaskEnd :=
  if cancelled then .cancelled else .raised

/-- One step of the event loop. -/
def tracerStep (state : TracerState Span) : TracerAction Span → Option (TracerState Span)
  | .record span => some { state with
      tracer := state.tracer.record span
      recorded := state.recorded ++ [span]
      evicted :=
        state.evicted ++ overflow state.tracer.bufferSize state.tracer.buffer span }
  | .start =>
      if state.tracer.closed then some state
      else match state.runningFlushTask with
        | some _ => some state
        | none => some (state.spawn
            (state.tracer.startFlushTask state.tasks.length) .created)
  | .begin task =>
      match state.tasks[task]? with
      | some .created => some (state.resume task state.tracer (flushLoopTest state.tracer))
      | _ => none
  | .wake task uuid =>
      match state.tasks[task]? with
      | some .sleeping =>
          match state.tracer.popNextFlushBatch uuid with
          | some (batch, tracer) => some (state.resume task tracer (.sending .flushLoop batch))
          | none => some (state.resume task state.tracer (flushLoopTest state.tracer))
      | _ => none
  | .cancel task =>
      match state.tasks[task]? with
      | some .created | some .sleeping =>
          some (state.resume task state.tracer (.ended .cancelled))
      | _ => none
  | .flush uuid =>
      match state.tracer.popNextFlushBatch uuid with
      | some (batch, tracer) => some (state.spawn tracer (.sending .direct batch))
      | none => some state
  | .syncFlushOnExit uuid =>
      if state.tracer.closed then some state
      else (drain .syncFlushOnExit (.ended .returned) state.tracer uuid).map
        fun (tracer, task) => state.spawn tracer task
  | .sendReturns task sent uuid =>
      match state.tasks[task]? with
      | some (.sending caller batch) =>
          (afterFlush caller sent (settle sent batch state.tracer) uuid).map
            fun (tracer, next) =>
              { state.resume task tracer next with
                delivered := state.delivered ++ if sent then [batch] else [] }
      | _ => none
  | .sendRaises task cancelled =>
      match state.tasks[task]? with
      | some (.sending _ _) =>
          some (state.resume task state.tracer (.ended (stopped cancelled)))
      | _ => none
  | .shutdown flush uuid =>
      if state.tracer.closed then some state
      else
        match state.runningFlushTask with
        | some flushTask =>
            some (state.spawn state.tracer.requestShutdown (.awaitingFlushTask flushTask flush))
        | none =>
            (finishShutdown flush state.tracer.requestShutdown uuid).map fun (tracer, task) =>
              { state.spawn tracer task with
                discarded := state.discarded ++ discardedBy flush state.tracer }
  | .shutdownResumes task uuid =>
      match state.tasks[task]? with
      | some (.awaitingFlushTask flushTask flush) =>
          match state.tasks[flushTask]? with
          | some (.ended .raised) =>
              some (state.resume task state.tracer (.ended .raised))
          | some (.ended _) =>
              (finishShutdown flush state.tracer uuid).map fun (tracer, next) =>
                { state.resume task tracer next with
                  discarded := state.discarded ++ discardedBy flush state.tracer }
          | _ => none
      | _ => none
  | .closeReturns task =>
      match state.tasks[task]? with
      | some .closing =>
          some (state.resume task { state.tracer with closed := true } (.ended .returned))
      | _ => none
  | .closeRaises task cancelled =>
      match state.tasks[task]? with
      | some .closing =>
          some (state.resume task state.tracer (.ended (stopped cancelled)))
      | _ => none

def tracerMachine (Span : Type) : Machine (TracerState Span) (TracerAction Span) :=
  ⟨tracerStep⟩

/-! ### Where the recorded spans are -/

namespace TracerState

def inFlight (state : TracerState Span) : List Span :=
  state.tasks.flatMap Task.spans

/-- The places a recorded span can be in, one after the other. -/
def places (state : TracerState Span) : List Span :=
  state.tracer.queued ++ state.inFlight ++ state.delivered.flatMap (·.spans) ++
    state.evicted ++ state.discarded

/-- Every recorded span is in exactly one place, and `dropped_spans` counts the
evicted ones. -/
structure Conserved (state : TracerState Span) : Prop where
  placed : state.recorded.Perm state.places
  counted : state.tracer.droppedSpans = state.evicted.length

/-- What every reachable state keeps, whatever happens to the sends. -/
structure Sound (state : TracerState Span) : Prop where
  kept : state.tracer.WellKept
  nonempty : ∀ task ∈ state.tasks, ∀ batch ∈ task.batches, batch.spans ≠ []
  counted : state.tracer.droppedSpans = state.evicted.length

theorem sound_initial (bufferSize : Option Nat) :
    (initial bufferSize : TracerState Span).Sound where
  kept := LLMTracer.wellKept_init bufferSize
  nonempty := by simp [initial]
  counted := rfl

end TracerState

/-- The spans of a batch that the step drops: those in flight when `send_batch`
does not return. -/
def lostBy (state : TracerState Span) : TracerAction Span → List Span
  | .sendRaises task _ =>
      match state.tasks[task]? with
      | some task => task.spans
      | none => []
  | _ => []

/-- The answer of a `send_batch` call, if the action is one, is an answer. -/
def AnswersSend : TracerAction Span → Prop
  | .sendRaises _ _ => False
  | _ => True

/-! ### What a caller does with the queues -/

/-- What a caller takes from the queues on its way to its next await: nothing, the
batch it pops, or all of it, to be thrown away by `shutdown(flush=False)`. -/
inductive CallerTakes (tracer : LLMTracer Span) :
    LLMTracer Span → Task Span → List Span → Prop where
  | nothing {next : LLMTracer Span} {task : Task Span} (same : tracer.SameQueues next)
      (noBatch : task.batches = []) : CallerTakes tracer next task []
  | popped {before next : LLMTracer Span} {uuid : UUID} {batch : FlushBatch Span}
      (caller : FlushCaller) (same : tracer.SameQueues before)
      (found : before.popNextFlushBatch uuid = some (batch, next)) :
      CallerTakes tracer next (.sending caller batch) []
  | cleared {before : LLMTracer Span} (same : tracer.SameQueues before) :
      CallerTakes tracer before.clear .closing tracer.queued

section

variable {tracer before next : LLMTracer Span} {task : Task Span} {uuid : UUID}

theorem batches_flushLoopTest (tracer : LLMTracer Span) : (flushLoopTest tracer).batches = [] := by
  unfold flushLoopTest
  split <;> rfl

theorem callerTakes_drain {caller : FlushCaller} {after : Task Span}
    (same : tracer.SameQueues before) (noBatch : after.batches = [])
    (drained : drain caller after before uuid = some (next, task)) :
    CallerTakes tracer next task [] := by
  unfold drain at drained
  split at drained
  · split at drained
    · rename_i found
      simp only [Option.some.injEq, Prod.mk.injEq] at drained
      obtain ⟨rfl, rfl⟩ := drained
      exact .popped caller same found
    · cases drained
  · simp only [Option.some.injEq, Prod.mk.injEq] at drained
    obtain ⟨rfl, rfl⟩ := drained
    exact .nothing same noBatch

theorem callerTakes_finishShutdown {flush : Bool} (same : tracer.SameQueues before)
    (finished : finishShutdown flush before uuid = some (next, task)) :
    CallerTakes tracer next task (discardedBy flush tracer) := by
  cases flush with
  | true => exact callerTakes_drain same rfl finished
  | false =>
      simp only [finishShutdown, Bool.false_eq_true, if_false, Option.some.injEq,
        Prod.mk.injEq] at finished
      obtain ⟨rfl, rfl⟩ := finished
      exact .cleared same

theorem callerTakes_afterFlush {caller : FlushCaller} {sent : Bool}
    (resumed : afterFlush caller sent tracer uuid = some (next, task)) :
    CallerTakes tracer next task [] := by
  cases caller with
  | flushLoop =>
      simp only [afterFlush, Option.some.injEq, Prod.mk.injEq] at resumed
      obtain ⟨rfl, rfl⟩ := resumed
      exact .nothing (.refl _) (batches_flushLoopTest _)
  | shutdown =>
      cases sent with
      | true => exact callerTakes_drain (.refl _) rfl resumed
      | false =>
          simp only [afterFlush, Bool.false_eq_true, if_false, Option.some.injEq,
            Prod.mk.injEq] at resumed
          obtain ⟨rfl, rfl⟩ := resumed
          exact .nothing ⟨rfl, rfl, rfl, rfl, rfl⟩ rfl
  | syncFlushOnExit =>
      cases sent with
      | true => exact callerTakes_drain (.refl _) rfl resumed
      | false =>
          simp only [afterFlush, Bool.false_eq_true, if_false, Option.some.injEq,
            Prod.mk.injEq] at resumed
          obtain ⟨rfl, rfl⟩ := resumed
          exact .nothing (.refl _) rfl
  | direct =>
      simp only [afterFlush, Option.some.injEq, Prod.mk.injEq] at resumed
      obtain ⟨rfl, rfl⟩ := resumed
      exact .nothing (.refl _) rfl

end

/-! ### What one step can do -/

/-- One step of the event loop, by what it does to the queues and the tasks. -/
inductive TracerChange (state : TracerState Span) :
    TracerAction Span → TracerState Span → Prop where
  | recorded (span : Span) : TracerChange state (.record span) { state with
      tracer := state.tracer.record span
      recorded := state.recorded ++ [span]
      evicted := state.evicted ++ overflow state.tracer.bufferSize state.tracer.buffer span }
  | unchanged {action : TracerAction Span} (nothingLost : lostBy state action = []) :
      TracerChange state action state
  /-- A new task. -/
  | spawned {action : TracerAction Span} {tracer : LLMTracer Span} {task : Task Span}
      {thrown discarded : List Span} (takes : CallerTakes state.tracer tracer task thrown)
      (discards : discarded = state.discarded ++ thrown)
      (nothingLost : lostBy state action = []) :
      TracerChange state action { state.spawn tracer task with discarded := discarded }
  /-- A task without a batch moves on. -/
  | resumed {action : TracerAction Span} {index : Nat} {old task : Task Span}
      {tracer : LLMTracer Span} {thrown discarded : List Span}
      (found : state.tasks[index]? = some old) (idle : old.batches = [])
      (takes : CallerTakes state.tracer tracer task thrown)
      (discards : discarded = state.discarded ++ thrown)
      (nothingLost : lostBy state action = []) :
      TracerChange state action { state.resume index tracer task with discarded := discarded }
  /-- A task stops, and whatever it holds goes with it. -/
  | stopped {action : TracerAction Span} {index : Nat} {old : Task Span} (how : TaskEnd)
      (found : state.tasks[index]? = some old) (lost : lostBy state action = old.spans) :
      TracerChange state action (state.resume index state.tracer (.ended how))
  /-- `send_batch` answers. -/
  | answered {index : Nat} {sent : Bool} {uuid : UUID} {caller : FlushCaller}
      {batch : FlushBatch Span} {tracer : LLMTracer Span} {task : Task Span}
      (found : state.tasks[index]? = some (.sending caller batch))
      (takes : CallerTakes (settle sent batch state.tracer) tracer task []) :
      TracerChange state (.sendReturns index sent uuid) { state.resume index tracer task with
        delivered := state.delivered ++ if sent then [batch] else [] }

theorem tracerChange_of_step {state next : TracerState Span} {action : TracerAction Span}
    (stepped : tracerStep state action = some next) : TracerChange state action next := by
  have noneDiscarded : state.discarded = state.discarded ++ [] := (List.append_nil _).symm
  cases action with
  | record span =>
      cases stepped
      exact .recorded span
  | start =>
      simp only [tracerStep] at stepped
      split at stepped
      · cases stepped
        exact .unchanged rfl
      · split at stepped
        · cases stepped
          exact .unchanged rfl
        · cases stepped
          exact .spawned (.nothing (state.tracer.sameQueues_startFlushTask _) rfl)
            noneDiscarded rfl
  | begin index =>
      simp only [tracerStep] at stepped
      split at stepped
      · rename_i found
        cases stepped
        exact .resumed found rfl (.nothing (.refl _) (batches_flushLoopTest _)) noneDiscarded rfl
      · cases stepped
  | wake index uuid =>
      simp only [tracerStep] at stepped
      split at stepped
      · rename_i found
        split at stepped
        · rename_i popped
          cases stepped
          exact .resumed found rfl (.popped .flushLoop (.refl _) popped) noneDiscarded rfl
        · cases stepped
          exact .resumed found rfl (.nothing (.refl _) (batches_flushLoopTest _))
            noneDiscarded rfl
      · cases stepped
  | cancel index =>
      simp only [tracerStep] at stepped
      split at stepped
      · rename_i found
        cases stepped
        exact .stopped .cancelled found rfl
      · rename_i found
        cases stepped
        exact .stopped .cancelled found rfl
      · cases stepped
  | flush uuid =>
      simp only [tracerStep] at stepped
      split at stepped
      · rename_i popped
        cases stepped
        exact .spawned (.popped .direct (.refl _) popped) noneDiscarded rfl
      · cases stepped
        exact .unchanged rfl
  | syncFlushOnExit uuid =>
      simp only [tracerStep] at stepped
      split at stepped
      · cases stepped
        exact .unchanged rfl
      · simp only [Option.map_eq_some_iff, Prod.exists] at stepped
        obtain ⟨tracer, task, drained, rfl⟩ := stepped
        exact .spawned (callerTakes_drain (.refl _) rfl drained) noneDiscarded rfl
  | sendReturns index sent uuid =>
      simp only [tracerStep] at stepped
      split at stepped
      · rename_i found
        simp only [Option.map_eq_some_iff, Prod.exists] at stepped
        obtain ⟨tracer, task, resumed, rfl⟩ := stepped
        exact .answered found (callerTakes_afterFlush resumed)
      · cases stepped
  | sendRaises index cancelled =>
      simp only [tracerStep] at stepped
      split at stepped
      · rename_i found
        cases stepped
        exact .stopped _ found (by simp only [lostBy, found])
      · cases stepped
  | shutdown flush uuid =>
      simp only [tracerStep] at stepped
      split at stepped
      · cases stepped
        exact .unchanged rfl
      · split at stepped
        · cases stepped
          exact .spawned (.nothing state.tracer.sameQueues_requestShutdown rfl)
            noneDiscarded rfl
        · simp only [Option.map_eq_some_iff, Prod.exists] at stepped
          obtain ⟨tracer, task, finished, rfl⟩ := stepped
          exact .spawned
            (callerTakes_finishShutdown state.tracer.sameQueues_requestShutdown finished)
            rfl rfl
  | shutdownResumes index uuid =>
      simp only [tracerStep] at stepped
      split at stepped
      · rename_i found
        split at stepped
        · cases stepped
          exact .stopped .raised found rfl
        · simp only [Option.map_eq_some_iff, Prod.exists] at stepped
          obtain ⟨tracer, task, finished, rfl⟩ := stepped
          exact .resumed found rfl (callerTakes_finishShutdown (.refl _) finished) rfl rfl
        · cases stepped
      · cases stepped
  | closeReturns index =>
      simp only [tracerStep] at stepped
      split at stepped
      · rename_i found
        cases stepped
        exact .resumed found rfl (.nothing ⟨rfl, rfl, rfl, rfl, rfl⟩ rfl) noneDiscarded rfl
      · cases stepped
  | closeRaises index cancelled =>
      simp only [tracerStep] at stepped
      split at stepped
      · rename_i found
        cases stepped
        exact .stopped _ found rfl
      · cases stepped

/-! ### Where a step moves the spans -/

/-- The queues of `tracer` are now those of `next`, the batch of `task` and what
was thrown away. -/
structure HandsOver (tracer next : LLMTracer Span) (task : Task Span)
    (thrown : List Span) : Prop where
  kept : next.WellKept
  nonempty : ∀ batch ∈ task.batches, batch.spans ≠ []
  dropped : next.droppedSpans = tracer.droppedSpans
  queued : (task.spans ++ next.queued ++ thrown).Perm tracer.queued

theorem handsOver_of_takes {tracer next : LLMTracer Span} {task : Task Span}
    {thrown : List Span} (kept : tracer.WellKept)
    (takes : CallerTakes tracer next task thrown) : HandsOver tracer next task thrown := by
  cases takes with
  | nothing same noBatch =>
      refine ⟨kept.same same, by simp [noBatch], same.droppedSpans, ?_⟩
      simp [Task.spans, noBatch, same.queued]
  | popped caller same found =>
      obtain ⟨nextKept, full, dropped⟩ := (kept.same same).pop found
      refine ⟨nextKept, ?_, dropped.trans same.droppedSpans, ?_⟩
      · simpa [Task.batches] using full
      · rw [← same.queued, LLMTracer.queued_popNextFlushBatch found]
        simp [Task.spans, Task.batches]
  | cleared same => exact ⟨.clear, by simp [Task.batches], same.droppedSpans, .refl _⟩

/-- After `send_batch` answered, the batch is delivered or back in the queue. -/
theorem settle_spec {tracer : LLMTracer Span} (kept : tracer.WellKept) (sent : Bool)
    {batch : FlushBatch Span} (full : batch.spans ≠ []) :
    (settle sent batch tracer).WellKept ∧
      (settle sent batch tracer).droppedSpans = tracer.droppedSpans ∧
      ((settle sent batch tracer).queued ++
        (if sent then [batch] else []).flatMap (·.spans)).Perm (tracer.queued ++ batch.spans) := by
  cases sent with
  | true => exact ⟨kept, rfl, by simp [settle]⟩
  | false =>
      have counted : { tracer with failedFlushes := tracer.failedFlushes + 1 }.WellKept :=
        ⟨kept.bounded, kept.nonempty, kept.counted⟩
      refine ⟨counted.pushFailedBatch full, rfl, ?_⟩
      simp only [settle, Bool.false_eq_true, if_false, LLMTracer.queued_pushFailedBatch,
        List.flatMap_nil, List.append_nil]
      exact List.perm_append_comm

/-- The step records nothing, keeps the books and moves spans from place to
place, up to those that it loses. -/
structure Moves (state next : TracerState Span) (lost : List Span) : Prop where
  sound : next.Sound
  recorded : next.recorded = state.recorded
  balance : (next.places ++ lost).Perm state.places

theorem moves_self {state : TracerState Span} (sound : state.Sound) : Moves state state [] :=
  ⟨sound, rfl, by rw [List.append_nil]⟩

theorem moves_spawn {state : TracerState Span} (sound : state.Sound)
    {next : LLMTracer Span} {task : Task Span} {thrown : List Span}
    (handsOver : HandsOver state.tracer next task thrown) :
    Moves state { state.spawn next task with discarded := state.discarded ++ thrown } [] := by
  refine ⟨⟨handsOver.kept, fun other member => ?_, ?_⟩, rfl, ?_⟩
  · rcases List.mem_append.mp member with old | new
    · exact sound.nonempty other old
    · rw [List.mem_singleton.mp new]
      exact handsOver.nonempty
  · exact handsOver.dropped.trans sound.counted
  · classical
    refine List.perm_iff_count.mpr fun span => ?_
    have moved := handsOver.queued.count_eq span
    simp only [List.count_append] at moved
    simp only [TracerState.places, TracerState.inFlight, TracerState.spawn,
      List.flatMap_append, List.flatMap_singleton, List.append_nil, List.count_append]
    omega

theorem moves_resume {state : TracerState Span} (sound : state.Sound) {index : Nat}
    {old task : Task Span} (found : state.tasks[index]? = some old)
    {tracer next : LLMTracer Span} (sent : List (FlushBatch Span)) (thrown lost : List Span)
    (queued : (tracer.queued ++ sent.flatMap (·.spans) ++ lost).Perm
      (state.tracer.queued ++ old.spans))
    (dropped : tracer.droppedSpans = state.tracer.droppedSpans)
    (handsOver : HandsOver tracer next task thrown) :
    Moves state { state.resume index next task with
      delivered := state.delivered ++ sent
      discarded := state.discarded ++ thrown } lost := by
  refine ⟨⟨handsOver.kept, fun other member => ?_, ?_⟩, rfl, ?_⟩
  · rcases List.mem_or_eq_of_mem_set member with old | rfl
    · exact sound.nonempty other old
    · exact handsOver.nonempty
  · exact handsOver.dropped.trans (dropped.trans sound.counted)
  · classical
    refine List.perm_iff_count.mpr fun span => ?_
    have moved := handsOver.queued.count_eq span
    have settled := queued.count_eq span
    have exchanged := (flatMap_set_perm Task.spans found task).count_eq span
    simp only [List.count_append] at moved settled exchanged
    simp only [TracerState.places, TracerState.inFlight, TracerState.resume,
      List.flatMap_append, List.count_append]
    omega

/-- Every step but `record` only moves spans, and loses what `lostBy` names. -/
theorem moves_of_step {state next : TracerState Span} {action : TracerAction Span}
    (sound : state.Sound) (notRecord : ∀ span, action ≠ .record span)
    (stepped : tracerStep state action = some next) :
    Moves state next (lostBy state action) := by
  cases tracerChange_of_step stepped with
  | recorded span => exact absurd rfl (notRecord span)
  | unchanged nothingLost =>
      rw [nothingLost]
      exact moves_self sound
  | spawned takes discards nothingLost =>
      rw [nothingLost, discards]
      exact moves_spawn sound (handsOver_of_takes sound.kept takes)
  | resumed found idle takes discards nothingLost =>
      rw [nothingLost, discards]
      have moves := moves_resume sound found [] _ [] (by simp [Task.spans, idle]) rfl
        (handsOver_of_takes sound.kept takes)
      rwa [List.append_nil] at moves
  | @stopped _ _ old how found lost =>
      rw [lost]
      have takes : CallerTakes state.tracer state.tracer (.ended how) [] :=
        .nothing (.refl _) rfl
      have moves := moves_resume sound found [] [] old.spans (by simp) rfl
        (handsOver_of_takes sound.kept takes)
      simp only [List.append_nil] at moves
      exact moves
  | @answered index sent _ caller batch _ _ found takes =>
      have full : batch.spans ≠ [] :=
        sound.nonempty _ (List.mem_of_getElem? found) batch (List.mem_singleton_self batch)
      obtain ⟨kept, dropped, queued⟩ := settle_spec sound.kept sent full
      have moves := moves_resume sound found (if sent then [batch] else []) [] []
        (by simpa [Task.spans, Task.batches] using queued) dropped
        (handsOver_of_takes kept takes)
      simp only [List.append_nil] at moves
      exact moves

theorem sound_record {state : TracerState Span} (sound : state.Sound) (span : Span) :
    ∃ next, tracerStep state (.record span) = some next ∧ next.Sound ∧
      next.recorded = state.recorded ++ [span] ∧
      next.places.Perm (state.places ++ [span]) := by
  refine ⟨_, rfl, ⟨sound.kept.record span, sound.nonempty, ?_⟩, rfl, ?_⟩
  · rw [sound.kept.droppedSpans_record, List.length_append, sound.counted]
  · classical
    refine List.perm_iff_count.mpr fun other => ?_
    have moved := (state.tracer.queued_record span).count_eq other
    simp only [List.count_append] at moved
    simp only [TracerState.places, TracerState.inFlight, List.count_append]
    omega

/-- One step adds what it records to the places and takes away what it loses. -/
theorem places_of_step {state next : TracerState Span} {action : TracerAction Span}
    (sound : state.Sound) (stepped : tracerStep state action = some next) :
    next.Sound ∧ ∃ arrived, next.recorded = state.recorded ++ arrived ∧
      (next.places ++ lostBy state action).Perm (state.places ++ arrived) := by
  by_cases record : ∃ span, action = .record span
  · obtain ⟨span, rfl⟩ := record
    obtain ⟨_, recordStep, nextSound, recorded, placed⟩ := sound_record sound span
    rw [recordStep, Option.some.injEq] at stepped
    subst stepped
    exact ⟨nextSound, [span], recorded, by simpa [lostBy] using placed⟩
  · have moves := moves_of_step sound (fun span same => record ⟨span, same⟩) stepped
    exact ⟨moves.sound, [], by simpa using moves.recorded, by simpa using moves.balance⟩

/-- A step loses spans exactly when it is a send that does not answer. -/
theorem lostBy_eq_nil_iff {state next : TracerState Span} {action : TracerAction Span}
    (sound : state.Sound) (stepped : tracerStep state action = some next) :
    lostBy state action = [] ↔ AnswersSend action := by
  cases action with
  | sendRaises index cancelled =>
      simp only [tracerStep] at stepped
      split at stepped
      · rename_i caller batch found
        have full : batch.spans ≠ [] :=
          sound.nonempty _ (List.mem_of_getElem? found) batch (List.mem_singleton_self batch)
        simp [lostBy, found, Task.spans, Task.batches, full, AnswersSend]
      · cases stepped
  | _ => simp [lostBy, AnswersSend]

/-! ### Runs -/

/-- Along a run, the recorded spans are those in the places and those lost on
the way, and nothing is lost exactly when every send answers. -/
theorem lost_of_run {actions : List (TracerAction Span)} {state final : TracerState Span}
    (sound : state.Sound) {already : List Span}
    (placed : state.recorded.Perm (state.places ++ already))
    (reached : (tracerMachine Span).run state actions = some final) :
    final.Sound ∧ ∃ lost, final.recorded.Perm (final.places ++ (already ++ lost)) ∧
      (lost = [] ↔ ∀ action ∈ actions, AnswersSend action) := by
  induction actions generalizing state already with
  | nil =>
      simp only [Machine.run, Option.some.injEq] at reached
      subst reached
      exact ⟨sound, [], by simpa using placed, by simp⟩
  | cons action rest inductionHypothesis =>
      obtain ⟨middle, stepped, remaining⟩ := (Machine.run_cons _).mp reached
      obtain ⟨middleSound, arrived, recorded, balance⟩ := places_of_step sound stepped
      have placedNext :
          middle.recorded.Perm (middle.places ++ (already ++ lostBy state action)) := by
        classical
        refine List.perm_iff_count.mpr fun span => ?_
        have before := placed.count_eq span
        have moved := balance.count_eq span
        simp only [List.count_append] at before moved
        simp only [recorded, List.count_append]
        omega
      obtain ⟨finalSound, lost, placedFinal, nothing⟩ :=
        inductionHypothesis middleSound placedNext remaining
      refine ⟨finalSound, lostBy state action ++ lost, ?_, ?_⟩
      · rwa [List.append_assoc] at placedFinal
      · rw [List.append_eq_nil_iff, nothing, lostBy_eq_nil_iff sound stepped,
          List.forall_mem_cons]

/-- In every state that a run reaches, every recorded span is in exactly one of
the places, with `dropped_spans` counting the evicted ones, exactly when no
`send_batch` of the run raised or was cancelled while it awaited. -/
theorem conserved_iff_everySendAnswers {bufferSize : Option Nat}
    {actions : List (TracerAction Span)} {state : TracerState Span}
    (reached : (tracerMachine Span).run (.initial bufferSize) actions = some state) :
    state.Conserved ↔ ∀ action ∈ actions, AnswersSend action := by
  have placedInitially : (TracerState.initial bufferSize : TracerState Span).recorded.Perm
      ((TracerState.initial bufferSize).places ++ []) := by
    simp [TracerState.initial, TracerState.places, TracerState.inFlight, LLMTracer.queued,
      LLMTracer.init]
  obtain ⟨sound, lost, placed, nothing⟩ :=
    lost_of_run (TracerState.sound_initial bufferSize) placedInitially reached
  rw [← nothing]
  constructor
  · intro conserved
    have sizes := placed.length_eq
    rw [conserved.placed.length_eq, List.length_append, List.nil_append] at sizes
    exact List.eq_nil_of_length_eq_zero (by omega)
  · intro noLoss
    exact ⟨by simpa [noLoss] using placed, sound.counted⟩

/-- A span is recorded and the flush loop is sending it when a shutdown asks the
loop to stop. -/
def shutdownDuringSend : List (TracerAction Nat) :=
  [.record 7, .start, .begin 0, .wake 0 1, .shutdown true 2]

theorem conserved_iff_everySendAnswers_refused :
    ∃ state, (tracerMachine Nat).run (.initial (some 500))
        (shutdownDuringSend ++ [.sendReturns 0 false 3, .shutdownResumes 1 4]) = some state ∧
      (state.Conserved ↔ ∀ action ∈
        shutdownDuringSend ++ [.sendReturns 0 false 3, .shutdownResumes 1 4],
        AnswersSend action) := by
  obtain ⟨state, reached⟩ : ∃ state, (tracerMachine Nat).run (.initial (some 500))
      (shutdownDuringSend ++ [.sendReturns 0 false 3, .shutdownResumes 1 4]) = some state :=
    ⟨_, rfl⟩
  exact ⟨state, reached, conserved_iff_everySendAnswers reached⟩

/-- The cancellation reaches the loop inside `send_batch`: the span is in no
queue, and the shutdown closes the tracer with nothing left to flush. -/
theorem shutdownDuringSend_loses :
    ∃ state, (tracerMachine Nat).run (.initial (some 500)) (shutdownDuringSend ++
        [.sendRaises 0 true, .shutdownResumes 1 3, .closeReturns 1]) = some state ∧
      ¬ state.Conserved := by
  refine ⟨_, rfl, fun conserved => ?_⟩
  have sizes := conserved.placed.length_eq
  revert sizes
  decide

end LlmObs.Sdk
