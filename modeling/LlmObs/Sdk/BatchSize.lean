import LlmObs.Backend.Schemas.Ingest
import LlmObs.Sdk.Delivery

/-!
Owns the sizes of the batches that a tracer hands to `send_batch`, against the
sizes that `IngestRequest` accepts.
-/

namespace LlmObs.Sdk

open LlmObs.Foundation
open LlmObs.Backend (maxSpans)

variable {Span : Type}

/-- `IngestRequest` accepts a list of spans of this size. -/
def FlushBatch.Acceptable (batch : FlushBatch Span) : Prop :=
  1 ≤ batch.spans.length ∧ batch.spans.length ≤ maxSpans

/-! ### Where batches come from -/

/-- The batch of `task` was pending or is the drained buffer, and nothing else
became pending. -/
structure TakesFrom (tracer next : LLMTracer Span) (task : Task Span) : Prop where
  bound : next.bufferSize = tracer.bufferSize
  pending : next.pendingBatches ⊆ tracer.pendingBatches
  taken : ∀ batch ∈ task.batches, batch ∈ tracer.pendingBatches ∨
    (batch.spans = tracer.buffer ∧ tracer.buffer ≠ [])

theorem takesFrom_of_takes {tracer next : LLMTracer Span} {task : Task Span}
    {thrown : List Span} (takes : CallerTakes tracer next task thrown) :
    TakesFrom tracer next task := by
  cases takes with
  | nothing same noBatch =>
      exact ⟨same.bufferSize, by simp [same.pendingBatches], by simp [noBatch]⟩
  | popped caller same found =>
      rcases LLMTracer.popNextFlushBatch_cases found with
        ⟨rest, pending, rfl⟩ | ⟨-, buffered, rfl, rfl⟩
      · rw [same.pendingBatches] at pending
        refine ⟨same.bufferSize, by simp [pending], fun other member => Or.inl ?_⟩
        rw [List.mem_singleton.mp member, pending]
        exact List.mem_cons_self ..
      · refine ⟨same.bufferSize, by simp [same.pendingBatches], fun other member => Or.inr ?_⟩
        rw [List.mem_singleton.mp member]
        exact ⟨same.buffer, same.buffer ▸ buffered⟩
  | cleared same => exact ⟨same.bufferSize, List.nil_subset _, by simp [Task.batches]⟩

/-! ### Every step -/

/-- Every batch that was formed is between one span and `bound` spans long. -/
structure TracerState.Sized (bound : Nat) (state : TracerState Span) : Prop where
  bufferSize : state.tracer.bufferSize = some bound
  buffer : state.tracer.buffer.length ≤ bound
  pending : ∀ batch ∈ state.tracer.pendingBatches,
    1 ≤ batch.spans.length ∧ batch.spans.length ≤ bound
  handed : ∀ batch ∈ state.handed, 1 ≤ batch.spans.length ∧ batch.spans.length ≤ bound
  inFlight : ∀ task ∈ state.tasks, ∀ batch ∈ task.batches, batch ∈ state.handed

namespace TracerState

section

variable {bound : Nat} {state next : TracerState Span}

theorem sized_initial : (initial (some bound) : TracerState Span).Sized bound where
  bufferSize := rfl
  buffer := Nat.zero_le _
  pending := by simp [initial, LLMTracer.init]
  handed := by simp [initial]
  inFlight := by simp [initial]

/-- A batch taken from the queues is sized. -/
theorem Sized.of_takesFrom (sized : state.Sized bound) {tracer : LLMTracer Span}
    {task : Task Span} (takes : TakesFrom state.tracer tracer task) {batch : FlushBatch Span}
    (member : batch ∈ task.batches) : 1 ≤ batch.spans.length ∧ batch.spans.length ≤ bound := by
  rcases takes.taken batch member with pending | ⟨drained, buffered⟩
  · exact sized.pending batch pending
  · rw [drained]
    exact ⟨List.length_pos_iff.mpr buffered, sized.buffer⟩

theorem Sized.handed_append (sized : state.Sized bound) {tracer : LLMTracer Span}
    {task : Task Span} (takes : TakesFrom state.tracer tracer task) :
    ∀ batch ∈ state.handed ++ task.batches,
      1 ≤ batch.spans.length ∧ batch.spans.length ≤ bound := by
  intro batch member
  rcases List.mem_append.mp member with old | new
  · exact sized.handed batch old
  · exact sized.of_takesFrom takes new

/-- A task moves on or is created: its batch comes from the queues. -/
theorem Sized.move (sized : state.Sized bound) {tracer : LLMTracer Span} {task : Task Span}
    (takes : TakesFrom state.tracer tracer task) (nextSound : next.Sound)
    (tracerEq : next.tracer = tracer) (handedEq : next.handed = state.handed ++ task.batches)
    (tasks : ∀ other ∈ next.tasks, other ∈ state.tasks ∨ other = task) :
    next.Sized bound where
  bufferSize := by rw [tracerEq, takes.bound, sized.bufferSize]
  buffer := by
    apply nextSound.kept.bounded bound
    rw [tracerEq, takes.bound, sized.bufferSize]
  pending := by
    rw [tracerEq]
    exact fun batch member => sized.pending batch (takes.pending member)
  handed := by
    rw [handedEq]
    exact sized.handed_append takes
  inFlight := by
    intro other member batch inFlight
    rw [handedEq]
    rcases tasks other member with old | rfl
    · exact List.mem_append_left _ (sized.inFlight other old batch inFlight)
    · exact List.mem_append_right _ inFlight

/-- The answered batch is delivered, or pending once more. -/
theorem Sized.settle (sized : state.Sized bound) {batch : FlushBatch Span}
    (isHanded : batch ∈ state.handed) (sent : Bool) :
    { state with tracer := Sdk.settle sent batch state.tracer }.Sized bound := by
  cases sent with
  | true => exact sized
  | false =>
      refine ⟨sized.bufferSize, sized.buffer, ?_, sized.handed, sized.inFlight⟩
      intro other member
      rcases List.mem_cons.mp member with rfl | old
      · exact sized.handed _ isHanded
      · exact sized.pending other old

end

end TracerState

theorem sized_step {bound : Nat} {state next : TracerState Span} {action : TracerAction Span}
    (sound : state.Sound) (sized : state.Sized bound)
    (stepped : tracerStep state action = some next) : next.Sized bound := by
  have nextSound := (places_of_step sound stepped).1
  cases tracerChange_of_step stepped with
  | recorded span =>
      exact ⟨sized.bufferSize, nextSound.kept.bounded bound sized.bufferSize, sized.pending,
        sized.handed, sized.inFlight⟩
  | unchanged nothingLost => exact sized
  | spawned takes discards nothingLost =>
      apply sized.move (takesFrom_of_takes takes) nextSound rfl rfl
      intro other member
      rcases List.mem_append.mp member with old | new
      · exact Or.inl old
      · exact Or.inr (List.mem_singleton.mp new)
  | resumed found idle takes discards nothingLost =>
      apply sized.move (takesFrom_of_takes takes) nextSound rfl rfl
      exact fun other member => List.mem_or_eq_of_mem_set member
  | stopped how found lost =>
      have takes : CallerTakes state.tracer state.tracer (.ended how) [] :=
        .nothing (.refl _) rfl
      apply sized.move (takesFrom_of_takes takes) nextSound rfl rfl
      exact fun other member => List.mem_or_eq_of_mem_set member
  | @answered index sent _ caller batch _ _ found takes =>
      have isHanded : batch ∈ state.handed := sized.inFlight _ (List.mem_of_getElem? found)
        batch (List.mem_singleton_self batch)
      apply (sized.settle isHanded sent).move (takesFrom_of_takes takes) nextSound rfl rfl
      exact fun other member => List.mem_or_eq_of_mem_set member

/-! ### Runs -/

theorem sized_of_run {bound : Nat} {actions : List (TracerAction Span)}
    {state : TracerState Span}
    (reached : (tracerMachine Span).run (.initial (some bound)) actions = some state) :
    state.Sized bound := by
  have preserved : ∀ (before : TracerState Span) action after,
      before.Sound ∧ before.Sized bound → (tracerMachine Span).step before action = some after →
        after.Sound ∧ after.Sized bound := by
    rintro before action after ⟨sound, sized⟩ stepped
    exact ⟨(places_of_step sound stepped).1, sized_step sound sized stepped⟩
  exact ((tracerMachine Span).run_invariant_always preserved
    ⟨TracerState.sound_initial (some bound), TracerState.sized_initial⟩ reached).2

/-- `record` calls that the buffer has room for fill it. -/
theorem run_records (span : Span) {bound count : Nat} (room : count ≤ bound) :
    (tracerMachine Span).run (.initial (some bound)) (List.replicate count (.record span)) =
      some { (TracerState.initial (some bound) : TracerState Span) with
        tracer := { (LLMTracer.init (some bound) : LLMTracer Span) with
          buffer := List.replicate count span }
        recorded := List.replicate count span } := by
  induction count with
  | zero => rfl
  | succ count inductionHypothesis =>
      simp only [List.replicate_succ']
      apply (tracerMachine Span).run_append.mpr
      refine ⟨_, inductionHypothesis (by omega), ?_⟩
      have notFull : ¬ bound ≤ count := by omega
      have noOverflow : count + 1 - bound = 0 := by omega
      simp [Machine.run, tracerMachine, tracerStep, LLMTracer.record, LLMTracer.bufferFull,
        boundedAppend, overflow, notFull, noOverflow, TracerState.initial, LLMTracer.init]

/-- A full buffer is sent as one batch. -/
theorem handed_of_fullBuffer (span : Span) {bound : Nat} (positive : 1 ≤ bound) :
    ∃ state, (tracerMachine Span).run (.initial (some bound))
        (List.replicate bound (.record span) ++ [.flush 0]) = some state ∧
      ∃ batch ∈ state.handed, batch.spans.length = bound := by
  have filled := run_records span (le_refl bound)
  obtain ⟨fewer, rfl⟩ : ∃ fewer, bound = fewer + 1 := ⟨bound - 1, by omega⟩
  refine ⟨_, (Machine.run_append _).mpr ⟨_, filled, rfl⟩, ⟨_, (0 : UUID).str⟩,
    List.mem_append_right _ (List.mem_singleton_self _), ?_⟩
  exact congrArg (· + 1) List.length_replicate

/-- Every batch that a tracer with a given buffer size can hand to `send_batch` is
acceptable in size, in every run, exactly when the buffer holds no more spans than
one request may carry. -/
theorem acceptable_iff_bufferSize_le (span : Span) {bufferSize : Nat}
    (positive : 1 ≤ bufferSize) :
    (∀ actions state,
        (tracerMachine Span).run (.initial (some bufferSize)) actions = some state →
        ∀ batch ∈ state.handed, batch.Acceptable) ↔ bufferSize ≤ maxSpans := by
  constructor
  · intro acceptable
    obtain ⟨state, reached, batch, handed, full⟩ := handed_of_fullBuffer span positive
    have short := (acceptable _ state reached batch handed).2
    rwa [full] at short
  · intro small actions state reached batch handed
    obtain ⟨nonempty, bounded⟩ := (sized_of_run reached).handed batch handed
    exact ⟨nonempty, bounded.trans small⟩

theorem acceptable_iff_bufferSize_le_hundred :
    (∀ actions state, (tracerMachine Nat).run (.initial (some 100)) actions = some state →
        ∀ batch ∈ state.handed, batch.Acceptable) ↔ 100 ≤ maxSpans :=
  acceptable_iff_bufferSize_le 7 (by decide)

/-- A tracer with the default buffer size sends 101 spans in one batch. -/
theorem defaultBufferSize_oversends :
    ∃ state, (tracerMachine Nat).run (.initial (some 500))
        (List.replicate 101 (.record 7) ++ [.flush 0]) = some state ∧
      ∃ batch ∈ state.handed, ¬ batch.Acceptable := by
  have filled := run_records 7 (show 101 ≤ 500 by decide)
  refine ⟨_, (Machine.run_append _).mpr ⟨_, filled, rfl⟩, ⟨_, (0 : UUID).str⟩,
    List.mem_append_right _ (List.mem_singleton_self _), ?_⟩
  intro acceptable
  have short := acceptable.2
  revert short
  decide

end LlmObs.Sdk
