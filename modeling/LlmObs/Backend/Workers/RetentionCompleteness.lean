import LlmObs.Backend.Workers.Maintenance

/-!
Owns what `run_data_retention` leaves behind over all active projects, when the object
store alone disturbs it. Its loop fetches the oldest expired spans of a project and
gives up where it deletes none of them: spans whose objects cannot be deleted hide the
spans behind them as soon as they fill a batch.
-/

namespace LlmObs.Backend

open LlmObs.Foundation

/-! ### The task -/

/-- The columns of a project that the task reads. -/
structure RetentionProject where
  id : UUID
  retentionDays : Nat
  isActive : Bool
deriving DecidableEq, Repr

abbrev RetentionProjectTable :=
  Table RetentionProject fun left right => left.id = right.id

/-- What one run of the task meets in the loop of each project. -/
structure RetentionRunEnv where
  /-- `datetime.now(UTC)` before the loop. -/
  now : UUID → Int
  scanOrder : UUID → Nat → List SpanRow → List SpanRow
  scanOrder_perm : ∀ projectId round rows, (scanOrder projectId round rows).Perm rows
  answer : UUID → Nat → Nat → DeleteAnswer

/-- The loop of a project, which nobody else's deletes disturb. -/
def RetentionRunEnv.ofProject (env : RetentionRunEnv) (projectId : UUID) : RetentionEnv where
  scanOrder := env.scanOrder projectId
  scanOrder_perm := env.scanOrder_perm projectId
  answer := env.answer projectId
  lostBeforeFetch := fun _ _ => false
  lostBeforeDelete := fun _ _ => false

/-- What the task did for one project. -/
structure ProjectRetention where
  project : RetentionProject
  cutoff : Int
  initial : RetentionState
  final : RetentionState

/-- The world after the loop of a project and the deletion of its stale traces. -/
def World.afterRetention (projectId : UUID) (cutoff : Int) (final : RetentionState)
    (world : World) : World :=
  { world with
    objects := final.objects
    db := { world.db with
      spans := final.spans
      traces := deleteStaleTraces projectId cutoff final.spans world.db.traces } }

/-- `for project in projects` -/
def retainProjects (env : RetentionRunEnv) :
    List RetentionProject → World → Option (World × List ProjectRetention)
  | [], world => some (world, [])
  | project :: rest, world => do
      let cutoff := retentionCutoff (env.now project.id) project.retentionDays
      let initial : RetentionState := ⟨world.db.spans, world.objects, []⟩
      let final ← retentionLoop (env.ofProject project.id) project.id cutoff
        (world.db.spans.rows.length + 1) initial
      let (after, done) ← retainProjects env rest
        (world.afterRetention project.id cutoff final)
      return (after, ⟨project, cutoff, initial, final⟩ :: done)

def runDataRetention (env : RetentionRunEnv) (projects : RetentionProjectTable)
    (world : World) : Option (World × List ProjectRetention) :=
  retainProjects env (projects.rows.filter (·.isActive)) world

/-- The step of the task for one project. -/
theorem runProjectRetention_eq (env : RetentionEnv) (projectId : UUID) (cutoff : Int)
    (world : World) :
    runProjectRetention env projectId cutoff world =
      (retentionLoop env projectId cutoff (world.db.spans.rows.length + 1)
        ⟨world.db.spans, world.objects, []⟩).map
          fun final => world.afterRetention projectId cutoff final := rfl

/-- The rounds asked for the deletion of the payload of this row, and a call that did was
not answered with its success. -/
def SpanRow.FailedIn (rounds : List RetentionRound) (row : SpanRow) : Prop :=
  ∃ key, SpanRow.payloadKey? row = some key ∧
    ∃ round ∈ rounds, ∃ call ∈ round.calls, key ∈ call.batch ∧ key ∉ call.successfulKeys

/-- The deletion of the payload failed for every expired row that is left. -/
def CompleteUpToFailures (after : World) (done : List ProjectRetention) : Prop :=
  ∀ entry ∈ done, ∀ row ∈ after.db.spans.rows,
    row.expired entry.project.id entry.cutoff = true → row.FailedIn entry.final.rounds

/-! ### Where a loop gives up -/

/-- The batch of a round. -/
def RetentionEnv.fetched (env : RetentionEnv) (projectId : UUID) (cutoff : Int)
    (state : RetentionState) : List SpanRow :=
  fetchRetentionBatch projectId cutoff (env.scanOrder state.rounds.length state.spans.rows)

/-- The calls of a round with this batch. -/
def RetentionEnv.roundCalls (env : RetentionEnv) (projectId : UUID) (state : RetentionState)
    (batch : List SpanRow) : List DeleteCall :=
  deleteS3Objects projectId (env.answer state.rounds.length)
    (batch.filterMap SpanRow.payloadKey?)

/-- None of the fetched rows may be deleted. -/
def RetentionEnv.Stuck (env : RetentionEnv) (projectId : UUID) (cutoff : Int)
    (state : RetentionState) : Prop :=
  ∀ row ∈ env.fetched projectId cutoff state,
    SpanRow.deletable projectId (deletedKeys
      (env.roundCalls projectId state (env.fetched projectId cutoff state))) row = false

/-- What a stuck round leaves in the list of rounds. -/
def RetentionEnv.stuckRound (env : RetentionEnv) (projectId : UUID) (cutoff : Int)
    (state : RetentionState) : RetentionRound :=
  ⟨env.fetched projectId cutoff state,
    env.roundCalls projectId state (env.fetched projectId cutoff state), []⟩

/-- None of the fetched rows may be deleted, and behind them there is an expired row for
which no deletion has failed. -/
def RetentionEnv.GivesUp (env : RetentionEnv) (projectId : UUID) (cutoff : Int)
    (state : RetentionState) : Prop :=
  env.Stuck projectId cutoff state ∧
    ∃ row ∈ state.spans.rows, row.expired projectId cutoff = true ∧
      row ∉ env.fetched projectId cutoff state ∧
      ¬ row.FailedIn (env.stuckRound projectId cutoff state :: state.rounds)

/-! ### Rounds that nobody else disturbs -/

/-- Nobody else deletes rows. -/
structure RetentionEnv.Alone (env : RetentionEnv) : Prop where
  fetch : ∀ round row, env.lostBeforeFetch round row = false
  delete : ∀ round row, env.lostBeforeDelete round row = false

theorem RetentionRunEnv.ofProject_alone (env : RetentionRunEnv) (projectId : UUID) :
    (env.ofProject projectId).Alone :=
  ⟨fun _ _ => rfl, fun _ _ => rfl⟩

section

variable {env : RetentionEnv} {projectId : UUID} {cutoff : Int} {state result : RetentionState}

/-- Where nobody else selects a row, nothing is lost. -/
theorem deleteWhere_alone {lost : SpanRow → Bool} (keeps : ∀ row, lost row = false)
    (spans : SpanTable) : spans.deleteWhere lost = spans := by
  apply Table.ext_rows
  simp [Table.deleteWhere, keeps]

theorem mem_of_mem_fetched {row : SpanRow} (member : row ∈ env.fetched projectId cutoff state) :
    row ∈ state.spans.rows ∧ row.expired projectId cutoff = true := by
  obtain ⟨scanned, expired⟩ := mem_fetchRetentionBatch member
  exact ⟨(env.scanOrder_perm _ _).mem_iff.mp scanned, expired⟩

/-- Up to a batch of expired rows, all of them are fetched. -/
theorem mem_fetched_of_length_le
    (few : (state.spans.rows.filter (SpanRow.expired projectId cutoff)).length ≤
      retentionBatchSize)
    {row : SpanRow} (stored : row ∈ state.spans.rows)
    (expired : row.expired projectId cutoff = true) :
    row ∈ env.fetched projectId cutoff state := by
  have scanned := env.scanOrder_perm state.rounds.length state.spans.rows
  have sameLength := (scanned.filter (SpanRow.expired projectId cutoff)).length_eq
  rw [RetentionEnv.fetched, fetchRetentionBatch, List.take_of_length_le]
  · rw [(List.perm_insertionSort _ _).mem_iff, List.mem_filter]
    exact ⟨scanned.mem_iff.mpr stored, expired⟩
  · rw [(List.perm_insertionSort _ _).length_eq, sameLength]
    exact few

/-- The keys of one batch are asked for in one call at most. -/
theorem deleteBatches_of_length_le {keys : List String} (few : keys.length ≤ s3DeleteBatchSize) :
    deleteBatches keys = if keys = [] then [] else [keys] := by
  cases keys with
  | nil => rfl
  | cons key rest =>
      have one : ((key :: rest).length + (s3DeleteBatchSize - 1)) / s3DeleteBatchSize = 1 := by
        simp only [s3DeleteBatchSize, List.length_cons] at few ⊢
        omega
      rw [deleteBatches, one, if_neg (List.cons_ne_nil _ _)]
      simp only [List.range_one, List.map_cons, List.map_nil, Nat.zero_mul, List.drop_zero]
      rw [List.take_of_length_le few]

theorem length_fetched_le : (env.fetched projectId cutoff state).length ≤ retentionBatchSize :=
  List.length_take_le _ _

/-- A fetched row that may not be deleted has a failed deletion. -/
theorem failedIn_of_fetched {rounds : List RetentionRound} {row : SpanRow}
    (member : row ∈ env.fetched projectId cutoff state)
    (kept : SpanRow.deletable projectId (deletedKeys
      (env.roundCalls projectId state (env.fetched projectId cutoff state))) row = false) :
    row.FailedIn (env.stuckRound projectId cutoff state :: rounds) := by
  unfold SpanRow.deletable at kept
  cases payloadKey : SpanRow.payloadKey? row with
  | none => simp [payloadKey] at kept
  | some key =>
      simp only [payloadKey, Bool.or_eq_false_iff, decide_eq_false_iff_not,
        Bool.not_eq_false'] at kept
      obtain ⟨notDeleted, under⟩ := kept
      -- The round asks for all its keys in one call.
      let keys := ((env.fetched projectId cutoff state).filterMap SpanRow.payloadKey?).filter
        (isProjectPayloadKey projectId)
      have asked : key ∈ keys :=
        List.mem_filter.mpr ⟨List.mem_filterMap.mpr ⟨row, member, payloadKey⟩, under⟩
      have few : keys.length ≤ s3DeleteBatchSize :=
        (List.length_filter_le _ _).trans
          ((List.length_filterMap_le _ _).trans length_fetched_le)
      have calls : env.roundCalls projectId state (env.fetched projectId cutoff state) =
          [⟨keys, env.answer state.rounds.length 0⟩] := by
        show deleteCalls _ 0 (deleteBatches keys) = _
        rw [deleteBatches_of_length_le few, if_neg (List.ne_nil_of_mem asked)]
        simp only [deleteCalls]
        split
        · rename_i answered
          rw [answered]
        · rename_i raised
          rw [raised]
      refine ⟨key, payloadKey, _, List.mem_cons_self ..,
        ⟨keys, env.answer state.rounds.length 0⟩, ?_, asked, ?_⟩
      · show _ ∈ env.roundCalls projectId state (env.fetched projectId cutoff state)
        rw [calls]
        exact List.mem_singleton_self _
      · rw [calls] at notDeleted
        simpa [deletedKeys] using notDeleted

/-- The rows whose deletion a round without losses asks for. -/
def RetentionEnv.wanted (env : RetentionEnv) (projectId : UUID) (cutoff : Int)
    (state : RetentionState) : List SpanRow :=
  (env.fetched projectId cutoff state).filter
    (SpanRow.deletable projectId (deletedKeys
      (env.roundCalls projectId state (env.fetched projectId cutoff state))))

/-- Whether a round without losses deletes a row. -/
def RetentionEnv.roundDeletes (env : RetentionEnv) (projectId : UUID) (cutoff : Int)
    (state : RetentionState) : SpanRow → Bool :=
  SpanRow.selectedBy projectId ((env.wanted projectId cutoff state).map SpanRow.primaryKey)

/-- The state after a round without losses. -/
def RetentionEnv.afterRound (env : RetentionEnv) (projectId : UUID) (cutoff : Int)
    (state : RetentionState) : RetentionState where
  spans := state.spans.deleteWhere (env.roundDeletes projectId cutoff state)
  objects := objectsAfter (env.roundCalls projectId state (env.fetched projectId cutoff state))
    state.objects
  rounds := ⟨env.fetched projectId cutoff state,
    env.roundCalls projectId state (env.fetched projectId cutoff state),
    state.spans.rows.filter (env.roundDeletes projectId cutoff state)⟩ :: state.rounds

theorem retentionRound_alone (alone : env.Alone)
    (someExpired : env.fetched projectId cutoff state ≠ []) :
    retentionRound env projectId cutoff state =
      if (state.spans.rows.filter (env.roundDeletes projectId cutoff state)).isEmpty then
        .done (env.afterRound projectId cutoff state)
      else .again (env.afterRound projectId cutoff state) := by
  have fetchKeeps := deleteWhere_alone (alone.fetch state.rounds.length) state.spans
  have deleteKeeps := deleteWhere_alone (alone.delete state.rounds.length) state.spans
  simp only [retentionRound, fetchKeeps, deleteKeeps]
  rw [if_neg (by simpa [RetentionEnv.fetched] using someExpired)]
  rfl

/-- A stuck round deletes nothing and ends the loop. -/
theorem retentionRound_of_stuck (alone : env.Alone)
    (someExpired : env.fetched projectId cutoff state ≠ [])
    (stuck : env.Stuck projectId cutoff state) :
    ∃ result, retentionRound env projectId cutoff state = .done result ∧
      result.spans = state.spans ∧
      result.rounds = env.stuckRound projectId cutoff state :: state.rounds := by
  have nothing : env.wanted projectId cutoff state = [] := by
    rw [RetentionEnv.wanted, List.filter_eq_nil_iff]
    intro row member
    rw [stuck row member]
    exact Bool.false_ne_true
  have keepsAll : ∀ row, env.roundDeletes projectId cutoff state row = false := by
    simp [RetentionEnv.roundDeletes, nothing, SpanRow.selectedBy]
  have deleted : state.spans.rows.filter (env.roundDeletes projectId cutoff state) = [] :=
    List.filter_eq_nil_iff.mpr fun row _ => by simp [keepsAll]
  refine ⟨env.afterRound projectId cutoff state, ?_, deleteWhere_alone keepsAll _, ?_⟩
  · rw [retentionRound_alone alone someExpired, deleted]
    rfl
  · rw [RetentionEnv.afterRound, deleted]
    rfl

/-- A round that ends the loop with a batch is stuck: any of its rows that may be deleted
is still there. -/
theorem stuck_of_done (alone : env.Alone)
    (someExpired : env.fetched projectId cutoff state ≠ [])
    (stops : retentionRound env projectId cutoff state = .done result) :
    env.Stuck projectId cutoff state := by
  intro row member
  by_contra deletable
  have wanted : row ∈ env.wanted projectId cutoff state :=
    List.mem_filter.mpr ⟨member, by simpa using deletable⟩
  obtain ⟨stored, expired⟩ := mem_of_mem_fetched member
  have selected : env.roundDeletes projectId cutoff state row = true := by
    simp only [SpanRow.expired, Bool.and_eq_true, decide_eq_true_eq] at expired
    simp only [RetentionEnv.roundDeletes, SpanRow.selectedBy, Bool.and_eq_true, decide_eq_true_eq]
    exact ⟨expired.1, List.mem_map_of_mem wanted⟩
  rw [retentionRound_alone alone someExpired] at stops
  split at stops
  · rename_i nothing
    have kept := List.filter_eq_nil_iff.mp (List.isEmpty_iff.mp nothing) row stored
    exact kept selected
  · cases stops

/-- A round that does not give up ends the loop only when the deletion of every expired
row that is left has failed. -/
theorem failedIn_of_done (alone : env.Alone) (goesOn : ¬ env.GivesUp projectId cutoff state)
    (stops : retentionRound env projectId cutoff state = .done result) :
    ∀ row ∈ result.spans.rows, row.expired projectId cutoff = true →
      row.FailedIn result.rounds := by
  intro row remains expired
  by_cases someExpired : env.fetched projectId cutoff state = []
  · -- The fetch found nothing, so nothing is expired.
    have fetchKeeps := deleteWhere_alone (alone.fetch state.rounds.length) state.spans
    simp only [retentionRound, fetchKeeps] at stops
    rw [if_pos (by simpa [RetentionEnv.fetched] using someExpired), Round.done.injEq] at stops
    subst stops
    have scanned := (env.scanOrder_perm state.rounds.length state.spans.rows).mem_iff.mpr remains
    have unexpired := fetchRetentionBatch_eq_nil someExpired row scanned
    exact absurd (expired.symm.trans unexpired) (by decide)
  · have stuck := stuck_of_done alone someExpired stops
    obtain ⟨other, ended, sameSpans, rounds⟩ := retentionRound_of_stuck alone someExpired stuck
    have same : other = result := Round.done.inj (ended.symm.trans stops)
    subst same
    rw [rounds]
    by_cases member : row ∈ env.fetched projectId cutoff state
    · exact failedIn_of_fetched member (stuck row member)
    · by_contra unfailed
      exact goesOn ⟨stuck, row, sameSpans ▸ remains, expired, member, unfailed⟩

/-- A round that gives up leaves an expired row whose deletion has not failed. -/
theorem retentionRound_of_givesUp (alone : env.Alone)
    (givesUp : env.GivesUp projectId cutoff state) :
    ∃ result, retentionRound env projectId cutoff state = .done result ∧
      ¬ ∀ row ∈ result.spans.rows, row.expired projectId cutoff = true →
        row.FailedIn result.rounds := by
  obtain ⟨stuck, row, stored, expired, unfetched, unfailed⟩ := givesUp
  have someExpired : env.fetched projectId cutoff state ≠ [] := by
    intro nothing
    have scanned := (env.scanOrder_perm state.rounds.length state.spans.rows).mem_iff.mpr stored
    have unexpired := fetchRetentionBatch_eq_nil nothing row scanned
    exact absurd (expired.symm.trans unexpired) (by decide)
  obtain ⟨result, ended, sameSpans, rounds⟩ := retentionRound_of_stuck alone someExpired stuck
  refine ⟨result, ended, fun allFailed => unfailed ?_⟩
  rw [← rounds]
  exact allFailed row (sameSpans ▸ stored) expired

/-- The loop of a project is complete exactly where no round gives up. -/
theorem retentionLoop_complete_iff (alone : env.Alone) {fuel : Nat}
    {initial final : RetentionState}
    (runs : retentionLoop env projectId cutoff fuel initial = some final) :
    (∀ row ∈ final.spans.rows, row.expired projectId cutoff = true →
        row.FailedIn final.rounds) ↔
      ∀ state, Round.Reaches (retentionRound env projectId cutoff) initial state →
        ¬ env.GivesUp projectId cutoff state :=
  Round.post_iff_forall_reaches (fun final : RetentionState =>
      ∀ row ∈ final.spans.rows, row.expired projectId cutoff = true → row.FailedIn final.rounds)
    runs (fun _ _ goesOn stops => failedIn_of_done alone goesOn stops)
    (fun _ givesUp => retentionRound_of_givesUp alone (not_not.mp givesUp))

end

/-! ### All active projects -/

/-- What holds of an entry once the whole task is done. -/
structure ProjectRetention.Ran (env : RetentionRunEnv) (before after : World)
    (entry : ProjectRetention) : Prop where
  cutoff_eq : entry.cutoff = retentionCutoff (env.now entry.project.id) entry.project.retentionDays
  initial : entry.initial.spans.rows.Sublist before.db.spans.rows
  ends : ∃ fuel, retentionLoop (env.ofProject entry.project.id) entry.project.id entry.cutoff
    fuel entry.initial = some entry.final
  kept : ∀ row : SpanRow, row.projectId = entry.project.id →
    (row ∈ after.db.spans.rows ↔ row ∈ entry.final.spans.rows)

/-- A loop that nobody disturbs keeps the rows of other projects. -/
theorem RetentionSafe.mem_iff_of_other {env : RetentionEnv} (alone : env.Alone)
    {projectId : UUID} {cutoff : Int} {spans : SpanTable} {objects : ObjectStore}
    {final : RetentionState} (safe : RetentionSafe env projectId cutoff spans objects final)
    {row : SpanRow} (other : row.projectId ≠ projectId) :
    row ∈ final.spans.rows ↔ row ∈ spans.rows := by
  constructor
  · exact fun remains => safe.remaining.subset remains
  · intro stored
    rcases safe.accounted row stored with remains | ⟨done, member, deleted⟩ | ⟨round, lost⟩
    · exact remains
    · exact absurd (safe.expired done member row deleted).2.1 other
    · simp [alone.fetch, alone.delete] at lost

theorem retainProjects_cons {env : RetentionRunEnv} (project : RetentionProject)
    {rest : List RetentionProject} {world after : World} {final : RetentionState}
    {done : List ProjectRetention}
    (ends : retentionLoop (env.ofProject project.id) project.id
      (retentionCutoff (env.now project.id) project.retentionDays)
      (world.db.spans.rows.length + 1) ⟨world.db.spans, world.objects, []⟩ = some final)
    (rests : retainProjects env rest (world.afterRetention project.id
      (retentionCutoff (env.now project.id) project.retentionDays) final) = some (after, done)) :
    retainProjects env (project :: rest) world =
      some (after, ⟨project, retentionCutoff (env.now project.id) project.retentionDays,
        ⟨world.db.spans, world.objects, []⟩, final⟩ :: done) := by
  simp only [retainProjects, ends, rests, Option.bind_eq_bind, Option.bind_some, Option.pure_def]

theorem retainProjects_spec (env : RetentionRunEnv) (projects : List RetentionProject)
    (distinct : projects.Pairwise fun left right => ¬ left.id = right.id) (world : World) :
    ∃ after done, retainProjects env projects world = some (after, done) ∧
      done.map (·.project) = projects ∧
      after.db.spans.rows.Sublist world.db.spans.rows ∧
      (∀ row : SpanRow, (∀ project ∈ projects, row.projectId ≠ project.id) →
        (row ∈ after.db.spans.rows ↔ row ∈ world.db.spans.rows)) ∧
      ∀ entry ∈ done, entry.Ran env world after := by
  induction projects generalizing world with
  | nil =>
      exact ⟨world, [], rfl, rfl, List.Sublist.refl _, fun _ _ => Iff.rfl, by simp⟩
  | cons project rest inductionHypothesis =>
      obtain ⟨apart, restDistinct⟩ := List.pairwise_cons.mp distinct
      let cutoff := retentionCutoff (env.now project.id) project.retentionDays
      obtain ⟨final, runs, safe⟩ := runDataRetention_safe_and_ends (env.ofProject project.id)
        project.id cutoff world.db.spans world.objects
      have ends := runs _ (Nat.lt_succ_self _)
      have alone := env.ofProject_alone project.id
      obtain ⟨after, done, rests, names, remaining, others, ran⟩ :=
        inductionHypothesis restDistinct (world.afterRetention project.id cutoff final)
      refine ⟨after, ⟨project, cutoff, ⟨world.db.spans, world.objects, []⟩, final⟩ :: done,
        retainProjects_cons project ends rests, ?_, remaining.trans safe.remaining, ?_, ?_⟩
      · rw [List.map_cons, names]
      · intro row foreign
        have here := foreign project (List.mem_cons_self ..)
        rw [others row fun other member => foreign other (List.mem_cons_of_mem _ member)]
        exact safe.mem_iff_of_other alone here
      · intro entry member
        rcases List.mem_cons.mp member with rfl | later
        · refine ⟨rfl, List.Sublist.refl _, ⟨_, ends⟩, fun row own => ?_⟩
          -- No later project has the id of this one.
          exact others row fun other member => own ▸ apart other member
        · have entryRan := ran entry later
          exact ⟨entryRan.cutoff_eq, entryRan.initial.trans safe.remaining, entryRan.ends,
            entryRan.kept⟩

theorem ProjectRetention.Ran.complete_iff {env : RetentionRunEnv} {before after : World}
    {entry : ProjectRetention} (ran : entry.Ran env before after) :
    (∀ row ∈ after.db.spans.rows, row.expired entry.project.id entry.cutoff = true →
        row.FailedIn entry.final.rounds) ↔
      ∀ state, Round.Reaches (retentionRound (env.ofProject entry.project.id) entry.project.id
        entry.cutoff) entry.initial state →
          ¬ (env.ofProject entry.project.id).GivesUp entry.project.id entry.cutoff state := by
  obtain ⟨fuel, runs⟩ := ran.ends
  rw [← retentionLoop_complete_iff (env.ofProject_alone _) runs]
  have own : ∀ row : SpanRow, row.expired entry.project.id entry.cutoff = true →
      row.projectId = entry.project.id := by
    intro row expired
    simp only [SpanRow.expired, Bool.and_eq_true, decide_eq_true_eq] at expired
    exact expired.1
  constructor
  · intro complete row remains expired
    exact complete row ((ran.kept row (own row expired)).mpr remains) expired
  · intro complete row remains expired
    exact complete row ((ran.kept row (own row expired)).mp remains) expired

/-- A run of the task is complete up to failures exactly where no round of a loop gives
up. -/
theorem runDataRetention_complete_iff (env : RetentionRunEnv) (projects : RetentionProjectTable)
    (world : World) :
    ∃ after done, runDataRetention env projects world = some (after, done) ∧
      done.map (·.project) = projects.rows.filter (·.isActive) ∧
      (CompleteUpToFailures after done ↔
        ∀ entry ∈ done, ∀ state, Round.Reaches (retentionRound (env.ofProject entry.project.id)
          entry.project.id entry.cutoff) entry.initial state →
            ¬ (env.ofProject entry.project.id).GivesUp entry.project.id entry.cutoff state) := by
  obtain ⟨after, done, runs, names, -, -, ran⟩ :=
    retainProjects_spec env _ (projects.unique.filter _) world
  refine ⟨after, done, runs, names, ?_⟩
  constructor
  · intro complete entry member
    exact (ran entry member).complete_iff.mp (complete entry member)
  · intro goesOn entry member
    exact (ran entry member).complete_iff.mpr (goesOn entry member)

/-- Where every active project has a batch of expired rows at most, the task is complete
up to failures, however the object store answers. -/
theorem complete_of_few_expired {env : RetentionRunEnv} {projects : RetentionProjectTable}
    {world after : World} {done : List ProjectRetention}
    (runs : runDataRetention env projects world = some (after, done))
    (few : ∀ project ∈ projects.rows, project.isActive = true →
      (world.db.spans.rows.filter (SpanRow.expired project.id
        (retentionCutoff (env.now project.id) project.retentionDays))).length ≤
          retentionBatchSize) :
    CompleteUpToFailures after done := by
  obtain ⟨other, entries, ran, names, -, -, each⟩ :=
    retainProjects_spec env _ (projects.unique.filter _) world
  have same := Option.some.inj (ran.symm.trans runs)
  simp only [Prod.mk.injEq] at same
  obtain ⟨rfl, rfl⟩ := same
  intro entry member
  refine (each entry member).complete_iff.mpr fun state reached => ?_
  have active : entry.project ∈ projects.rows.filter (·.isActive) :=
    names ▸ List.mem_map_of_mem member
  obtain ⟨listed, isActive⟩ := List.mem_filter.mp active
  -- Rounds only remove rows, so no round has more than a batch of expired ones.
  have kept : state.spans.rows.Sublist world.db.spans.rows := by
    apply reached.invariant (fun state : RetentionState =>
      state.spans.rows.Sublist world.db.spans.rows) (each entry member).initial
    intro earlier next earlierKept goesOn
    rcases retentionRound_cases _ entry.project.id entry.cutoff earlier with
      ended | ⟨following, round, roundDone, ended | ⟨-, again⟩⟩
    · cases ended.symm.trans goesOn
    · cases ended.symm.trans goesOn
    · cases again.symm.trans goesOn
      exact roundDone.remaining.trans earlierKept
  have bound := (kept.filter (SpanRow.expired entry.project.id entry.cutoff)).length_le
  rw [(each entry member).cutoff_eq] at bound
  rintro ⟨-, row, stored, expired, unfetched, -⟩
  refine unfetched (mem_fetched_of_length_le ?_ stored expired)
  rw [(each entry member).cutoff_eq]
  exact bound.trans (few entry.project listed isActive)

/-! ### A batch of spans whose objects stay -/

section

variable (projectId : UUID) (size : Nat)

/-- The spans of a project, by their start. The first `size` have a payload object, the
later ones were stored without one. -/
def outageSpan (startedAt : Nat) : SpanRow where
  id := BitVec.ofNat 128 startedAt
  traceId := projectId
  projectId := projectId
  parentSpanId := none
  name := "completion"
  provider := "openai"
  model := "gpt-4o"
  inputTokens := 1
  outputTokens := 1
  costUsd := 0
  latencyMs := 1
  status := .ok
  error := none
  startedAt := startedAt
  payloadS3Key :=
    if startedAt < size then some (payloadKey projectId (BitVec.ofNat 128 startedAt)) else none
  payloadStatus := if startedAt < size then .stored else .omitted
  payloadDropReason := if startedAt < size then none else some .storageModeNone
  metadata := []

def outageSpans : SpanTable where
  rows := (List.range (size + 1)).map (outageSpan projectId size)
  unique := by
    rw [List.pairwise_map]
    apply List.pairwise_lt_range.imp
    intro left right before clash
    have sameStart := congrArg Prod.snd clash
    simp only [SpanRow.primaryKey, outageSpan, Nat.cast_inj] at sameStart
    omega

def outageStart : RetentionState := ⟨outageSpans projectId size, fun _ => none, []⟩

/-- Every call of `delete_objects` raises, in a run right after the last span has
expired. -/
def outageEnv : RetentionRunEnv where
  now := fun _ => 90 * (24 * 60 * microsecondsPerMinute) + (size + 1)
  scanOrder := fun _ _ rows => rows
  scanOrder_perm := fun _ _ rows => List.Perm.refl rows
  answer := fun _ _ _ => .raised fun _ => false

variable {projectId size}

theorem outageSpan_expired {startedAt : Nat} (listed : startedAt < size + 1) :
    (outageSpan projectId size startedAt).expired projectId (size + 1) = true := by
  simp only [SpanRow.expired, Bool.and_eq_true, decide_eq_true_eq]
  refine ⟨rfl, ?_⟩
  show (startedAt : Int) < size + 1
  omega

theorem fetched_outage (full : size = retentionBatchSize) :
    ((outageEnv size).ofProject projectId).fetched projectId (size + 1)
        (outageStart projectId size) =
      (List.range size).map (outageSpan projectId size) := by
  have allExpired : (outageSpans projectId size).rows.filter
      (SpanRow.expired projectId (size + 1)) = (outageSpans projectId size).rows := by
    rw [List.filter_eq_self]
    intro row member
    obtain ⟨startedAt, listed, rfl⟩ := List.mem_map.mp member
    exact outageSpan_expired (List.mem_range.mp listed)
  have sorted : (outageSpans projectId size).rows.Pairwise
      fun left right => left.startedAt ≤ right.startedAt := by
    show ((List.range (size + 1)).map (outageSpan projectId size)).Pairwise _
    rw [List.pairwise_map]
    apply List.pairwise_lt_range.imp
    intro left right before
    show (left : Int) ≤ right
    omega
  show (((outageSpans projectId size).rows.filter _).insertionSort _).take
    retentionBatchSize = _
  rw [allExpired, sorted.insertionSort_eq, ← full]
  show ((List.range (size + 1)).map (outageSpan projectId size)).take size = _
  rw [← List.map_take, List.take_range, Nat.min_eq_left (Nat.le_succ _)]

theorem isProjectPayloadKey_payloadKey (projectId spanId : UUID) :
    isProjectPayloadKey projectId (payloadKey projectId spanId) = true :=
  List.isPrefixOf_iff_prefix.mpr (toList_prefix_append _ _ _ _ _)

/-- Where every call raises, no key is deleted. -/
theorem deletedKeys_outage (s3Keys : List String) :
    deletedKeys (deleteS3Objects projectId (fun _ => .raised fun _ => false) s3Keys) = [] := by
  unfold deleteS3Objects
  cases deleteBatches (s3Keys.filter (isProjectPayloadKey projectId)) <;> rfl

/-- With a batch of payloads that cannot be deleted, the first round gives up and the
span without a payload is not looked at. -/
theorem givesUp_outage (full : size = retentionBatchSize) :
    ((outageEnv size).ofProject projectId).GivesUp projectId (size + 1)
      (outageStart projectId size) := by
  constructor
  · intro row member
    rw [fetched_outage full] at member
    obtain ⟨startedAt, listed, rfl⟩ := List.mem_map.mp member
    have under := isProjectPayloadKey_payloadKey projectId (BitVec.ofNat 128 startedAt)
    have key : SpanRow.payloadKey? (outageSpan projectId size startedAt) =
        some (payloadKey projectId (BitVec.ofNat 128 startedAt)) := by
      simp only [SpanRow.payloadKey?, outageSpan, if_pos (List.mem_range.mp listed),
        Option.filter_eq_some_iff, decide_eq_true_eq]
      exact ⟨trivial, ne_empty_of_isProjectPayloadKey under⟩
    rw [RetentionEnv.roundCalls, SpanRow.deletable, key]
    show (decide (_ ∈ deletedKeys (deleteS3Objects projectId (fun _ => .raised fun _ => false) _))
      || _) = false
    rw [deletedKeys_outage, under]
    rfl
  · refine ⟨outageSpan projectId size size, List.mem_map_of_mem List.self_mem_range_succ,
      outageSpan_expired (Nat.lt_succ_self _), ?_, ?_⟩
    · rw [fetched_outage full]
      intro member
      obtain ⟨startedAt, listed, same⟩ := List.mem_map.mp member
      have sameStart : (startedAt : Int) = size := congrArg SpanRecord.startedAt same
      have before := List.mem_range.mp listed
      omega
    · rintro ⟨key, payloadKey, -⟩
      simp [SpanRow.payloadKey?, outageSpan] at payloadKey

end

/-- While the object store is down, an expired span without a payload may stay. -/
theorem not_completeUpToFailures :
    ¬ ∀ (env : RetentionRunEnv) (projects : RetentionProjectTable) (world after : World)
      (done : List ProjectRetention), runDataRetention env projects world = some (after, done) →
        CompleteUpToFailures after done := by
  intro complete
  obtain ⟨size, full⟩ : ∃ size, size = retentionBatchSize := ⟨_, rfl⟩
  let env := outageEnv size
  let project : RetentionProject := ⟨1, 90, true⟩
  let world := World.ofDatabase { Database.empty with spans := outageSpans 1 size }
  let cutoff := retentionCutoff (env.now 1) 90
  obtain ⟨final, runs, -⟩ := runDataRetention_safe_and_ends (env.ofProject 1) 1 cutoff
    (outageSpans 1 size) (fun _ => none)
  have ends := runs ((outageSpans 1 size).rows.length + 1) (Nat.lt_succ_self _)
  have ran : runDataRetention env ⟨[project], List.pairwise_singleton _ _⟩ world = some
      (world.afterRetention 1 cutoff final, [⟨project, cutoff, outageStart 1 size, final⟩]) :=
    retainProjects_cons project ends rfl
  have entry := complete _ _ _ _ _ ran _ (List.mem_singleton_self _)
  have neverGivesUp := (retentionLoop_complete_iff (env.ofProject_alone 1) ends).mp entry
  have cutoff_eq : cutoff = size + 1 := by
    simp only [cutoff, retentionCutoff, env, outageEnv]
    omega
  rw [cutoff_eq] at neverGivesUp
  exact neverGivesUp (outageStart 1 size) .start (givesUp_outage full)

end LlmObs.Backend
