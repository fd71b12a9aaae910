import LlmObs.Backend.Workers.BatchReplay

/-!
Owns what the attempts at one batch report: which of them enqueues the aggregate
task of a trace, and which of them the final batch status speaks about. A failure
behind the commit leaves rows that no later attempt inserts again, so the
guarantees are those of the attempt that failed or finished, not of the batch.
-/

namespace LlmObs.Backend

open LlmObs.Foundation

/-- `status in ("processed", "partial_failed")` -/
def BatchStatus.Finished (status : BatchStatus) : Prop :=
  status.status = .processed ∨ status.status = .partialFailed

instance (status : BatchStatus) : Decidable status.Finished :=
  inferInstanceAs (Decidable (_ ∨ _))

def World.Finished (world : World) : Prop :=
  ∃ status, world.batchStatus = some status ∧ status.Finished

/-- Between the two worlds the task was enqueued. -/
def EnqueuedSince (task : WorkerTask) (before after : World) : Prop :=
  ∃ new, after.queue = before.queue ++ new ∧ task ∈ new

/-- The awaits from the commit up to the aggregate task of the trace return, and
its own enqueue takes effect. -/
structure AggregateReached (env : AttemptEnv) (batch : InsertedBatch) (traceId : UUID) :
    Prop where
  commit : env.fault .commit = none
  delivery : batch.insertedSpans ≠ [] →
    ∀ fault, env.fault .deliverOutbox = some fault → fault.halt ≠ .killed
  earlier : ∀ start ∈ batch.stableTraceStarts.takeWhile (fun start => start.1 ≠ traceId),
    env.fault (.updateAggregates start.1) = none
  enqueue : ∀ fault, env.fault (.updateAggregates traceId) = some fault → fault.tookEffect = true

/-- The attempt set the batch status from what it inserted, and every aggregate
task was within its reach. -/
structure SetsStatus (env : AttemptEnv) (stored : CommittedBatch) (after : World) : Prop where
  status : ∃ existing, after.batchStatus =
    some (markFinished stored.batch.insertedSpans.length stored.failedCount existing)
  reached : ∀ traceId ∈ stored.batch.stableTraceStarts.map Prod.fst,
    AggregateReached env stored.batch traceId

/-! ### The awaits -/

section

variable {env : AttemptEnv} {stage : BatchStage} {effect : World → World}

theorem await_of_returned {before after : World}
    (returned : env.await stage effect before = (after, none)) :
    env.fault stage = none ∧ after = effect before := by
  unfold AttemptEnv.await at returned
  split at returned
  · rename_i faultless
    rw [Prod.mk.injEq] at returned
    exact ⟨faultless, returned.1.symm⟩
  · cases returned

theorem await_of_halted {before after : World} {halt : Halt}
    (halted : env.await stage effect before = (after, some halt)) :
    ∃ fault, env.fault stage = some fault ∧ fault.halt = halt ∧
      after = if fault.tookEffect then effect before else before := by
  unfold AttemptEnv.await at halted
  split at halted
  · cases halted
  · rename_i fault known
    rw [Prod.mk.injEq, Option.some.injEq] at halted
    exact ⟨fault, known, halted.2, halted.1.symm⟩

variable (env stage) in
theorem await_enqueue_queue (task : WorkerTask) (world : World) :
    world.queue <+: (env.await stage (·.enqueue task) world).1.queue := by
  cases awaited : env.await stage (·.enqueue task) world with
  | mk after halted =>
      cases halted with
      | none =>
          rw [(await_of_returned awaited).2]
          exact List.prefix_append _ _
      | some halt =>
          obtain ⟨fault, -, -, rfl⟩ := await_of_halted awaited
          dsimp only
          split
          · exact List.prefix_append _ _
          · exact List.prefix_rfl

end

theorem await_setStatus_queue (env : AttemptEnv) (stage : BatchStage)
    (update : Option BatchStatus → BatchStatus) (world : World) :
    (env.await stage (·.setStatus update) world).1.queue = world.queue :=
  await_keeps env stage (·.setStatus update) World.queue world rfl

theorem andThen_queue {queue : List WorkerTask} {sofar : World × Option Halt}
    {next : World → World × Option Halt} (before : queue <+: sofar.1.queue)
    (after : ∀ world, queue <+: world.queue → queue <+: (next world).1.queue) :
    queue <+: (World.andThen sofar next).1.queue := by
  obtain ⟨world, halt⟩ := sofar
  cases halt with
  | none => exact after world before
  | some halt => exact before

theorem EnqueuedSince.mono {task : WorkerTask} {first before after last : World}
    (enqueued : EnqueuedSince task before after) (earlier : first.queue <+: before.queue)
    (later : after.queue <+: last.queue) : EnqueuedSince task first last := by
  obtain ⟨new, appended, member⟩ := enqueued
  obtain ⟨skipped, earlier⟩ := earlier
  obtain ⟨more, later⟩ := later
  refine ⟨skipped ++ new ++ more, ?_, by simp [member]⟩
  rw [← later, appended, ← earlier]
  simp only [List.append_assoc]

/-! ### Behind the commit -/

section

variable {env : AttemptEnv} {projectId : UUID}

theorem enqueueDelivery_queue (env : AttemptEnv) (projectId : UUID)
    (inserted : List PreparedSpan) (world : World) :
    world.queue <+: (enqueueDelivery env projectId inserted world).1.queue := by
  rcases enqueueDelivery_cases env projectId inserted world with same | same
  · rw [same]
  · rw [same]
    exact await_enqueue_queue env _ _ world

theorem enqueueAggregates_queue (env : AttemptEnv) (projectId : UUID)
    (starts : List (UUID × Datetime)) (world : World) :
    world.queue <+: (enqueueAggregates env projectId starts world).1.queue := by
  induction starts generalizing world with
  | nil => exact List.prefix_rfl
  | cons head rest inductionHypothesis =>
      exact andThen_queue (await_enqueue_queue env _ _ world) fun next before =>
        before.trans (inductionHypothesis next)

/-- A trace within reach gets its task. -/
theorem enqueuedSince_enqueueAggregates (projectId : UUID)
    {starts : List (UUID × Datetime)} {traceId : UUID}
    (listed : traceId ∈ starts.map Prod.fst)
    (earlier : ∀ start ∈ starts.takeWhile (fun start => start.1 ≠ traceId),
      env.fault (.updateAggregates start.1) = none)
    (enqueue : ∀ fault, env.fault (.updateAggregates traceId) = some fault →
      fault.tookEffect = true) (world : World) :
    ∃ startedAt, EnqueuedSince (.updateTraceAggregates projectId traceId startedAt) world
      (enqueueAggregates env projectId starts world).1 := by
  induction starts generalizing world with
  | nil => cases listed
  | cons head rest inductionHypothesis =>
      obtain ⟨headId, startedAt⟩ := head
      cases awaited : env.await (.updateAggregates headId)
        (·.enqueue (.updateTraceAggregates projectId headId startedAt)) world with
      | mk after halted =>
      have later := enqueueAggregates_queue env projectId rest after
      by_cases here : headId = traceId
      · subst here
        have enqueued : EnqueuedSince (.updateTraceAggregates projectId headId startedAt)
            world after := by
          refine ⟨[.updateTraceAggregates projectId headId startedAt], ?_,
            List.mem_singleton_self _⟩
          cases halted with
          | none =>
              rw [(await_of_returned awaited).2]
              rfl
          | some halt =>
              obtain ⟨fault, known, -, rfl⟩ := await_of_halted awaited
              rw [if_pos (enqueue fault known)]
              rfl
        refine ⟨startedAt, enqueued.mono List.prefix_rfl ?_⟩
        simp only [enqueueAggregates, awaited]
        cases halted with
        | none => exact later
        | some halt => exact List.prefix_rfl
      · rw [List.takeWhile_cons_of_pos (by simpa using here), List.forall_mem_cons] at earlier
        obtain ⟨first, earlier⟩ := earlier
        cases halted with
        | some halt =>
            obtain ⟨fault, known, -⟩ := await_of_halted awaited
            rw [first] at known
            cases known
        | none =>
            have restListed : traceId ∈ rest.map Prod.fst := by
              simpa [Ne.symm here] using listed
            obtain ⟨start, enqueued⟩ := inductionHypothesis restListed earlier after
            have before : world.queue <+: after.queue := by
              have queued := await_enqueue_queue env (.updateAggregates headId)
                (.updateTraceAggregates projectId headId startedAt) world
              rwa [awaited] at queued
            refine ⟨start, ?_⟩
            simp only [enqueueAggregates, awaited]
            exact enqueued.mono before List.prefix_rfl

theorem enqueueDelivery_returned_iff {inserted : List PreparedSpan} (projectId : UUID)
    (world : World) :
    (enqueueDelivery env projectId inserted world).2 = none ↔
      (inserted ≠ [] → ∀ fault, env.fault .deliverOutbox = some fault →
        fault.halt ≠ .killed) := by
  unfold enqueueDelivery
  cases inserted with
  | nil => simp
  | cons span rest =>
      cases awaited : env.await .deliverOutbox
        (·.enqueue (.deliverSpanOutboxEvents projectId)) world with
      | mk after halted =>
          cases halted with
          | none => simp [(await_of_returned awaited).1]
          | some halt =>
              obtain ⟨fault, known, rfl, -⟩ := await_of_halted awaited
              cases halts : fault.halt <;> simp [known, halts]

theorem enqueueAggregates_of_returned {starts : List (UUID × Datetime)} {world : World}
    (returned : (enqueueAggregates env projectId starts world).2 = none) :
    ∀ start ∈ starts, env.fault (.updateAggregates start.1) = none := by
  induction starts generalizing world with
  | nil => simp
  | cons head rest inductionHypothesis =>
      simp only [enqueueAggregates] at returned
      cases awaited : env.await (.updateAggregates head.1)
        (·.enqueue (.updateTraceAggregates projectId head.1 head.2)) world with
      | mk after halted =>
          rw [awaited] at returned
          cases halted with
          | some halt => cases returned
          | none =>
              rw [List.forall_mem_cons]
              exact ⟨(await_of_returned awaited).1, inductionHypothesis returned⟩

/-- Behind the commit the status is set last, and only if everything before it
returned. -/
theorem afterCommit_status (env : AttemptEnv) (projectId : UUID) (batch : InsertedBatch)
    (failedCount : Nat) (world : World) :
    (afterCommit env projectId batch failedCount world).1.batchStatus = world.batchStatus ∨
      ((afterCommit env projectId batch failedCount world).1.batchStatus =
          some (markFinished batch.insertedSpans.length failedCount world.batchStatus) ∧
        (batch.insertedSpans ≠ [] →
          ∀ fault, env.fault .deliverOutbox = some fault → fault.halt ≠ .killed) ∧
        ∀ start ∈ batch.stableTraceStarts, env.fault (.updateAggregates start.1) = none) := by
  have keeps : ∀ (world : World) task, (world.enqueue task).batchStatus = world.batchStatus :=
    fun _ _ => rfl
  have delivered := enqueueDelivery_keeps keeps env projectId batch.insertedSpans world
  unfold afterCommit
  cases delivery : enqueueDelivery env projectId batch.insertedSpans world with
  | mk first halted =>
  rw [delivery] at delivered
  cases halted with
  | some halt => exact Or.inl delivered
  | none =>
  have aggregated := enqueueAggregates_keeps keeps env projectId batch.stableTraceStarts first
  simp only [World.andThen]
  cases aggregates : enqueueAggregates env projectId batch.stableTraceStarts first with
  | mk second halted =>
  rw [aggregates] at aggregated
  cases halted with
  | some halt => exact Or.inl (aggregated.trans delivered)
  | none =>
  have checked := await_keeps env .checkAnomalies
    (·.enqueue (.checkBatchAnomalies projectId)) World.batchStatus second rfl
  dsimp only
  cases anomalies : env.await .checkAnomalies (·.enqueue (.checkBatchAnomalies projectId))
    second with
  | mk third halted =>
  rw [anomalies] at checked
  have before : third.batchStatus = world.batchStatus :=
    checked.trans (aggregated.trans delivered)
  cases halted with
  | some halt => exact Or.inl before
  | none =>
  have returned := And.intro
    ((enqueueDelivery_returned_iff projectId world).mp (congrArg Prod.snd delivery))
    (enqueueAggregates_of_returned (congrArg Prod.snd aggregates))
  dsimp only
  cases finish : env.await .markFinished
    (·.setStatus (markFinished batch.insertedSpans.length failedCount)) third with
  | mk last halted =>
  cases halted with
  | none =>
      obtain ⟨-, rfl⟩ := await_of_returned finish
      exact Or.inr ⟨by rw [← before]; rfl, returned⟩
  | some halt =>
      obtain ⟨fault, -, -, rfl⟩ := await_of_halted finish
      by_cases effective : fault.tookEffect = true
      · rw [if_pos effective]
        exact Or.inr ⟨by rw [← before]; rfl, returned⟩
      · rw [if_neg effective]
        exact Or.inl before

theorem afterCommit_enqueued (projectId : UUID) {batch : InsertedBatch} {traceId : UUID}
    (reached : AggregateReached env batch traceId)
    (listed : traceId ∈ batch.stableTraceStarts.map Prod.fst) (failedCount : Nat)
    (world : World) :
    ∃ startedAt, EnqueuedSince (.updateTraceAggregates projectId traceId startedAt) world
      (afterCommit env projectId batch failedCount world).1 := by
  have delivered := enqueueDelivery_queue env projectId batch.insertedSpans world
  have returned := (enqueueDelivery_returned_iff projectId world).mpr reached.delivery
  unfold afterCommit
  cases delivery : enqueueDelivery env projectId batch.insertedSpans world with
  | mk first halted =>
  rw [delivery] at delivered returned
  dsimp only at returned
  subst returned
  simp only [World.andThen]
  obtain ⟨startedAt, enqueued⟩ := enqueuedSince_enqueueAggregates projectId
    listed reached.earlier reached.enqueue first
  refine ⟨startedAt, enqueued.mono delivered ?_⟩
  exact andThen_queue List.prefix_rfl fun _ before =>
    andThen_queue (before.trans (await_enqueue_queue ..)) fun _ before =>
      by rwa [await_setStatus_queue]

theorem afterCommit_queue (env : AttemptEnv) (projectId : UUID) (batch : InsertedBatch)
    (failedCount : Nat) (world : World) :
    world.queue <+: (afterCommit env projectId batch failedCount world).1.queue :=
  andThen_queue (enqueueDelivery_queue env projectId _ world) fun next before =>
    andThen_queue (before.trans (enqueueAggregates_queue env projectId _ next))
      fun _ before => andThen_queue (before.trans (await_enqueue_queue ..)) fun _ before => by
        rwa [await_setStatus_queue]

theorem failAttempt_queue (env : AttemptEnv) (halt : Halt) (committed : Option CommittedBatch)
    (world : World) : (failAttempt env halt committed world).world.queue = world.queue := by
  cases halt with
  | killed => rfl
  | raised exception =>
      have marked := await_keeps env .markFailed
        (·.setStatus (markBatchFailed exception.message)) World.queue world rfl
      simp only [failAttempt]
      split
      · rename_i after same
        rwa [same] at marked
      · rename_i after halt same
        rwa [same] at marked

/-- The handler leaves the status, or marks the batch failed. -/
theorem failAttempt_finished {env : AttemptEnv} {halt : Halt}
    {committed : Option CommittedBatch} {world : World}
    (finished : (failAttempt env halt committed world).world.Finished) :
    (failAttempt env halt committed world).world.batchStatus = world.batchStatus := by
  cases halt with
  | killed => rfl
  | raised exception =>
      have notFinished : ∀ existing,
          ¬ (markBatchFailed exception.message existing).Finished := by
        intro existing
        simp [BatchStatus.Finished, markBatchFailed]
      obtain ⟨status, known, isFinished⟩ := finished
      simp only [failAttempt] at known ⊢
      cases marked : env.await .markFailed
        (·.setStatus (markBatchFailed exception.message)) world with
      | mk after halted =>
      rw [marked] at known
      cases halted with
      | none =>
          obtain ⟨-, rfl⟩ := await_of_returned marked
          simp only [World.setStatus, Option.some.injEq] at known
          exact absurd (known ▸ isFinished) (notFinished _)
      | some halt =>
          obtain ⟨fault, -, -, rfl⟩ := await_of_halted marked
          dsimp only at known ⊢
          by_cases effective : fault.tookEffect = true
          · rw [if_pos effective] at known
            simp only [World.setStatus, Option.some.injEq] at known
            exact absurd (known ▸ isFinished) (notFinished _)
          · rw [if_neg effective]

end

/-! ### One attempt -/

section

variable {runtime : Runtime} {env : AttemptEnv} {projectId : UUID} {spans : List SpanSchema}

theorem startAttempt_queue (env : AttemptEnv) (world : World) :
    world.queue <+: (startAttempt env world).1.queue := by
  have kept : ∀ stage next, world.queue <+: next.queue →
      world.queue <+: (env.await stage id next).1.queue := by
    intro stage next before
    rwa [await_keeps env stage id World.queue next rfl]
  exact andThen_queue (kept _ _ List.prefix_rfl) fun _ before =>
    andThen_queue (kept _ _ before) fun _ before => by rwa [await_setStatus_queue]

/-- Before the `try` the status stays, or becomes `processing`. -/
theorem startAttempt_status (env : AttemptEnv) (world : World) :
    (¬ (startAttempt env world).1.Finished) ∨
      ((startAttempt env world).2 ≠ none ∧
        (startAttempt env world).1.batchStatus = world.batchStatus) := by
  have notFinished : ∀ existing, ¬ (markProcessing existing).Finished := by
    intro existing
    simp [BatchStatus.Finished, markProcessing]
  have processing : ∀ before : World, ¬ (before.setStatus markProcessing).Finished := by
    rintro before ⟨status, known, finished⟩
    simp only [World.setStatus, Option.some.injEq] at known
    exact notFinished _ (known ▸ finished)
  have redis := await_keeps env .getRedis id World.batchStatus world rfl
  unfold startAttempt
  cases first : env.await .getRedis id world with
  | mk second halted =>
  rw [first] at redis
  cases halted with
  | some halt => exact Or.inr ⟨by simp [World.andThen], redis⟩
  | none =>
  have read := await_keeps env .getStatus id World.batchStatus second rfl
  simp only [World.andThen]
  cases status : env.await .getStatus id second with
  | mk third halted =>
  rw [status] at read
  cases halted with
  | some halt => exact Or.inr ⟨by simp, read.trans redis⟩
  | none =>
  dsimp only
  cases marks : env.await .markProcessing (·.setStatus markProcessing) third with
  | mk last halted =>
  cases halted with
  | none =>
      obtain ⟨-, rfl⟩ := await_of_returned marks
      exact Or.inl (processing third)
  | some halt =>
      obtain ⟨fault, -, -, rfl⟩ := await_of_halted marks
      by_cases effective : fault.tookEffect = true
      · rw [if_pos effective]
        exact Or.inl (processing third)
      · rw [if_neg effective]
        exact Or.inr ⟨by simp, read.trans redis⟩

theorem prepareBatch_status (runtime : Runtime) (env : AttemptEnv) (projectId : UUID)
    (spans : List SpanSchema) (world : World) :
    (prepareBatch runtime env projectId spans world).2.batchStatus = world.batchStatus ∧
      (prepareBatch runtime env projectId spans world).2.queue = world.queue := by
  simp only [prepareBatch]
  split <;> exact ⟨rfl, rfl⟩

/-- A batch status that an attempt leaves finished is its own, unless the attempt
ended before it touched the status. -/
theorem finished_commitBatch {stored : CommittedBatch} {db : Database} {world : World}
    (unfinished : ¬ world.Finished)
    (finished : (commitBatch env projectId stored db world).world.Finished) :
    (commitBatch env projectId stored db world).committed = some stored ∧
      SetsStatus env stored (commitBatch env projectId stored db world).world := by
  have kept : ∀ other : World, other.batchStatus = world.batchStatus → ¬ other.Finished := by
    rintro other same ⟨status, known, isFinished⟩
    exact unfinished ⟨status, same ▸ known, isFinished⟩
  cases commits : env.fault .commit with
  | some fault =>
      obtain ⟨halt, tookEffect⟩ := fault
      exfalso
      simp only [commitBatch, commits] at finished
      cases tookEffect with
      | false => exact kept _ (failAttempt_finished finished) finished
      | true =>
          have failed : (failAttempt env halt (some stored)
              { world with db := db }).world.Finished := finished
          have same := failAttempt_finished failed
          exact kept _ same failed
  | none =>
  have status := afterCommit_status env projectId stored.batch stored.failedCount
    { world with db := db }
  simp only [commitBatch, commits] at finished ⊢
  cases behind : afterCommit env projectId stored.batch stored.failedCount
    { world with db := db } with
  | mk after halted =>
  rw [behind] at status finished
  have setBy : after.Finished → SetsStatus env stored after := by
    intro afterFinished
    rcases status with same | ⟨marked, delivered, aggregated⟩
    · exact absurd afterFinished (kept after same)
    · refine ⟨⟨_, marked⟩, fun traceId listed => ⟨commits, delivered, ?_, ?_⟩⟩
      · exact fun start member => aggregated start ((List.takeWhile_prefix _).subset member)
      · intro fault known
        obtain ⟨start, member, rfl⟩ := List.mem_map.mp listed
        rw [aggregated start member] at known
        cases known
  cases halted with
  | none => exact ⟨rfl, setBy finished⟩
  | some halt =>
      have same := failAttempt_finished finished
      have afterFinished : after.Finished := by
        obtain ⟨status, known, isFinished⟩ := finished
        exact ⟨status, same ▸ known, isFinished⟩
      refine ⟨(failAttempt_spec env halt (some stored) after).2.1, ?_, (setBy afterFinished).2⟩
      obtain ⟨existing, marked⟩ := (setBy afterFinished).1
      exact ⟨existing, same.trans marked⟩

theorem finished_processSpanBatch {world : World}
    (finished : (processSpanBatch runtime env projectId spans world).world.Finished) :
    ((processSpanBatch runtime env projectId spans world).committed = none ∧
        (processSpanBatch runtime env projectId spans world).world.batchStatus =
          world.batchStatus) ∨
      ∃ stored, (processSpanBatch runtime env projectId spans world).committed = some stored ∧
        SetsStatus env stored (processSpanBatch runtime env projectId spans world).world := by
  have startStatus := startAttempt_status env world
  have path := attemptPath runtime env projectId spans world
  generalize processSpanBatch runtime env projectId spans world = run at path finished ⊢
  cases path with
  | notStarted started =>
      rw [started] at startStatus
      rcases startStatus with unfinished | ⟨-, same⟩
      · exact absurd finished unfinished
      · exact Or.inl ⟨rfl, same⟩
  | @notStored begun after halt started prepares =>
      rw [started] at startStatus
      rcases startStatus with unfinished | ⟨halted, -⟩
      · have preparedStatus := (prepareBatch_status runtime env projectId spans begun).1
        rw [prepares] at preparedStatus
        have same := (failAttempt_finished finished).trans preparedStatus
        obtain ⟨status, known, isFinished⟩ := finished
        exact absurd ⟨status, same ▸ known, isFinished⟩ unfinished
      · exact absurd rfl halted
  | @stored begun after db stored started prepares stores =>
      rw [started] at startStatus
      rcases startStatus with unfinished | ⟨halted, -⟩
      · have preparedStatus := (prepareBatch_status runtime env projectId spans begun).1
        rw [prepares] at preparedStatus
        have afterUnfinished : ¬ after.Finished := by
          rintro ⟨status, known, isFinished⟩
          exact unfinished ⟨status, preparedStatus ▸ known, isFinished⟩
        exact Or.inr ⟨stored, finished_commitBatch afterUnfinished finished⟩
      · exact absurd rfl halted

theorem commitBatch_queue (env : AttemptEnv) (projectId : UUID) (stored : CommittedBatch)
    (db : Database) (world : World) :
    world.queue <+: (commitBatch env projectId stored db world).world.queue := by
  simp only [commitBatch]
  split
  · rename_i halt _
    exact (failAttempt_queue env halt none world).symm ▸ List.prefix_rfl
  · rename_i halt _
    exact (failAttempt_queue env halt (some stored) { world with db := db }).symm ▸
      List.prefix_rfl
  · have behind := afterCommit_queue env projectId stored.batch stored.failedCount
      { world with db := db }
    split
    · rename_i after same
      rwa [same] at behind
    · rename_i after halt same
      rw [failAttempt_queue]
      rwa [same] at behind

theorem enqueued_processSpanBatch {world : World} {stored : CommittedBatch} {traceId : UUID}
    (committed : (processSpanBatch runtime env projectId spans world).committed = some stored)
    (reached : AggregateReached env stored.batch traceId)
    (listed : traceId ∈ stored.batch.stableTraceStarts.map Prod.fst) :
    ∃ startedAt, EnqueuedSince (.updateTraceAggregates projectId traceId startedAt) world
      (processSpanBatch runtime env projectId spans world).world := by
  have startQueue := startAttempt_queue env world
  have path := attemptPath runtime env projectId spans world
  generalize processSpanBatch runtime env projectId spans world = run at path committed ⊢
  cases path with
  | notStarted started => cases committed
  | @notStored begun after halt started prepares =>
      rw [(failAttempt_spec env halt none after).2.1] at committed
      cases committed
  | @stored begun after db other started prepares stores =>
      rw [started] at startQueue
      have preparedQueue := (prepareBatch_status runtime env projectId spans begun).2
      rw [prepares] at preparedQueue
      have same : other = stored := by
        rcases commitBatch_spec env projectId other db after with
          ⟨uncommitted, -⟩ | ⟨done, -⟩
        · rw [uncommitted] at committed
          cases committed
        · rw [done, Option.some.injEq] at committed
          exact committed
      subst same
      obtain ⟨startedAt, enqueued⟩ := afterCommit_enqueued projectId reached listed
        other.failedCount { after with db := db }
      have before : world.queue <+: after.queue := by
        rwa [preparedQueue]
      refine ⟨startedAt, enqueued.mono before ?_⟩
      simp only [commitBatch, reached.commit]
      cases behind : afterCommit env projectId other.batch other.failedCount
        { after with db := db } with
      | mk last halted =>
      cases halted with
      | none => exact List.prefix_rfl
      | some halt =>
          exact (failAttempt_queue ..) ▸ List.prefix_rfl

variable (runtime env projectId spans) in
theorem queue_processSpanBatch (world : World) :
    world.queue <+: (processSpanBatch runtime env projectId spans world).world.queue := by
  have startQueue := startAttempt_queue env world
  have path := attemptPath runtime env projectId spans world
  generalize processSpanBatch runtime env projectId spans world = run at path ⊢
  cases path with
  | notStarted started =>
      rwa [started] at startQueue
  | @notStored begun after halt started prepares =>
      rw [started] at startQueue
      have preparedQueue := (prepareBatch_status runtime env projectId spans begun).2
      rw [prepares] at preparedQueue
      rwa [failAttempt_queue, preparedQueue]
  | @stored begun after db stored started prepares stores =>
      rw [started] at startQueue
      have preparedQueue := (prepareBatch_status runtime env projectId spans begun).2
      rw [prepares] at preparedQueue
      rw [← preparedQueue] at startQueue
      exact startQueue.trans (commitBatch_queue env projectId stored db after)

end

/-! ### All attempts -/

section

variable {runtime : Runtime} {projectId : UUID} {spans : List SpanSchema}

variable (runtime projectId spans) in
/-- The attempt does not commit. -/
def NoCommit (world : World) (attempt : Attempt) : Prop :=
  (attemptBatch runtime projectId spans world attempt).committed = none

/-- A finished status that the attempts leave was there before any of them, and
none of them committed, or the last one that commits has set it. -/
theorem finished_run {world final : World} {attempts : List Attempt}
    (reached : (attemptMachine runtime projectId spans).run world attempts = some final)
    (finished : final.Finished) :
    (final.batchStatus = world.batchStatus ∧ (attemptMachine runtime projectId spans).Along
        (NoCommit runtime projectId spans) world attempts) ∨
      ∃ before attempt after middle stored, attempts = before ++ attempt :: after ∧
        (attemptMachine runtime projectId spans).run world before = some middle ∧
        (attemptBatch runtime projectId spans middle attempt).committed = some stored ∧
        SetsStatus attempt.env stored (attemptBatch runtime projectId spans middle attempt).world ∧
        final.batchStatus =
          (attemptBatch runtime projectId spans middle attempt).world.batchStatus ∧
        (attemptMachine runtime projectId spans).Along (NoCommit runtime projectId spans)
          (attemptBatch runtime projectId spans middle attempt).world after := by
  induction attempts generalizing world with
  | nil =>
      simp only [Machine.run, Option.some.injEq] at reached
      exact Or.inl ⟨by rw [reached], trivial⟩
  | cons attempt rest inductionHypothesis =>
      obtain ⟨next, stepped, remaining⟩ := (Machine.run_cons _).mp reached
      simp only [attemptMachine, Option.some.injEq] at stepped
      subst stepped
      rcases inductionHypothesis remaining with ⟨same, quiet⟩ |
        ⟨before, setter, after, middle, stored, split, ran, committed, sets, same, quiet⟩
      · have nextFinished :
            (attemptBatch runtime projectId spans world attempt).world.Finished := by
          obtain ⟨status, known, isFinished⟩ := finished
          exact ⟨status, same ▸ known, isFinished⟩
        rcases finished_processSpanBatch nextFinished with
          ⟨uncommitted, unchanged⟩ | ⟨stored, committed, sets⟩
        · refine Or.inl ⟨same.trans unchanged, ?_⟩
          rw [Machine.along_cons]
          exact ⟨uncommitted, quiet⟩
        · exact Or.inr ⟨[], attempt, rest, world, stored, rfl, rfl, committed, sets, same, quiet⟩
      · refine Or.inr ⟨attempt :: before, setter, after, middle, stored, by rw [split]; rfl, ?_,
          committed, sets, same, quiet⟩
        rw [Machine.run_cons]
        exact ⟨_, rfl, ran⟩

theorem insertedRows_of_noCommit {world : World} {attempt : Attempt}
    (uncommitted : NoCommit runtime projectId spans world attempt) :
    insertedRows runtime projectId spans world attempt = [] := by
  have sameDb := db_of_not_committed uncommitted
  rw [insertedRows, newRows, attemptBatch, sameDb, List.drop_length]

theorem insertedTotal_of_noCommit {world : World} {attempts : List Attempt}
    (quiet : (attemptMachine runtime projectId spans).Along
      (NoCommit runtime projectId spans) world attempts) :
    insertedTotal runtime projectId spans world attempts = 0 := by
  induction attempts generalizing world with
  | nil => rfl
  | cons attempt rest inductionHypothesis =>
      obtain ⟨uncommitted, restQuiet⟩ := (Machine.along_cons _).mp quiet
      rw [insertedTotal, insertedRows_of_noCommit uncommitted, inductionHypothesis restQuiet]
      rfl

theorem insertedTotal_append {world middle : World} {before after : List Attempt}
    (reached : (attemptMachine runtime projectId spans).run world before = some middle) :
    insertedTotal runtime projectId spans world (before ++ after) =
      insertedTotal runtime projectId spans world before +
        insertedTotal runtime projectId spans middle after := by
  induction before generalizing world with
  | nil =>
      simp only [Machine.run, Option.some.injEq] at reached
      simp [reached, insertedTotal]
  | cons attempt rest inductionHypothesis =>
      obtain ⟨next, stepped, remaining⟩ := (Machine.run_cons _).mp reached
      simp only [attemptMachine, Option.some.injEq] at stepped
      subst stepped
      rw [List.cons_append, insertedTotal, insertedTotal, inductionHypothesis remaining,
        Nat.add_assoc]

theorem queue_run {world final : World} {attempts : List Attempt}
    (reached : (attemptMachine runtime projectId spans).run world attempts = some final) :
    world.queue <+: final.queue := by
  induction attempts generalizing world with
  | nil =>
      simp only [Machine.run, Option.some.injEq] at reached
      exact reached ▸ List.prefix_rfl
  | cons attempt rest inductionHypothesis =>
      obtain ⟨next, stepped, remaining⟩ := (Machine.run_cons _).mp reached
      simp only [attemptMachine, Option.some.injEq] at stepped
      subst stepped
      exact (queue_processSpanBatch runtime attempt.env projectId spans
        (attempt.start world)).trans (inductionHypothesis remaining)

/-- Where every start is aware, the attempt carries on with exactly the spans
whose rows it inserted. -/
theorem insertedRows_of_aware (aware : ∀ span ∈ spans, span.startedAt.Aware) {world : World}
    {attempt : Attempt} {stored : CommittedBatch}
    (committed : (attemptBatch runtime projectId spans world attempt).committed = some stored) :
    insertedRows runtime projectId spans world attempt =
      stored.batch.insertedSpans.map (·.toRow runtime.localInstant) := by
  obtain ⟨prepares, stores⟩ := attemptCommitted_of_committed committed
  obtain ⟨-, -, sources⟩ := prepareBatch_spec (Prod.ext prepares rfl)
  have preparedAware : ∀ span ∈ stored.prepared, span.startedAt.Aware := by
    intro span member
    obtain ⟨source, sourceMember, preparesTo⟩ := sources span member
    rw [preparesTo.startedAt]
    exact aware source sourceMember
  have rows := stores.newRows_eq
  rw [← recognisedSpans_of_aware preparedAware, ← stores.inserted] at rows
  exact rows

/-- Every trace of an inserted row is in the list of aggregate tasks. -/
theorem listed_of_insertedRows (aware : ∀ span ∈ spans, span.startedAt.Aware) {world : World}
    {attempt : Attempt} {stored : CommittedBatch}
    (committed : (attemptBatch runtime projectId spans world attempt).committed = some stored)
    {row : SpanRow} (inserted : row ∈ insertedRows runtime projectId spans world attempt) :
    row.traceId ∈ stored.batch.stableTraceStarts.map Prod.fst := by
  obtain ⟨-, stores⟩ := attemptCommitted_of_committed committed
  obtain ⟨traceMap, -, mapOf, ensured⟩ := stores.traces
  rw [insertedRows_of_aware aware committed] at inserted
  obtain ⟨span, member, rfl⟩ := List.mem_map.mp inserted
  rw [keys_ensureTraceRows ensured]
  obtain ⟨earliest, listed⟩ := mapOf.complete span member
  exact List.mem_map.mpr ⟨_, listed, rfl⟩

end

/-- The enqueue of the aggregate task fails behind the commit. -/
def updateAggregatesFails : AttemptEnv :=
  { AttemptEnv.faultless with
    fault := fun stage =>
      if stage = .updateAggregates 3 then
        some ⟨.raised ⟨.connectionError, "broker closed"⟩, false⟩
      else none }

end LlmObs.Backend
