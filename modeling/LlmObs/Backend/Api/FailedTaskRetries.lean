import LlmObs.Backend.Api.FailedTasks

/-!
Owns the retries of any rows of failed tasks: where the batches that they send come from,
what a request that has succeeded has left, and how often a row is sent again, under any
order of the statements of any number of requests.
-/

namespace LlmObs.Backend

open LlmObs.Foundation

/-! ### Retries of any rows -/

section Traced

variable {library : FailedTaskLibrary} {Time : Type} {start system next : FailedTaskSystem Time}
  {actions : List (FailedTaskAction Time)}

/-- The subject has been an admin of the organisation. -/
def AdminSeen (library : FailedTaskLibrary) (start : FailedTaskSystem Time)
    (actions : List (FailedTaskAction Time)) (subject orgId : UUID) : Prop :=
  (library.machine Time).Passes (fun passed => ∃ user,
    requireAdmin passed.accounts.users subject = .ok user ∧ user.orgId = orgId) start actions

/-- The project of the payload has been one of the organisation. -/
def ProjectSeen (library : FailedTaskLibrary) (start : FailedTaskSystem Time)
    (actions : List (FailedTaskAction Time)) (orgId : UUID) (payload : RetryPayload) : Prop :=
  (library.machine Time).Passes (fun passed => ∃ projectId,
    payload.projectUuid? = some projectId ∧ ownsProject passed.accounts orgId projectId = true)
    start actions

/-- The payload is that of a row of the organisation, as long as it is not resolved. -/
def PayloadOf (library : FailedTaskLibrary) (tasks : List (FailedTask Time)) (orgId : UUID)
    (taskId : Int) (payload : RetryPayload) : Prop :=
  ∃ task ∈ tasks, task.isOf orgId taskId = true ∧
    library.readRetry { task with resolved := false } = .ok payload

/-- The row of the organisation is resolved. -/
def IsResolved (tasks : List (FailedTask Time)) (orgId : UUID) (taskId : Int) : Prop :=
  ∃ task ∈ tasks, task.isOf orgId taskId = true ∧ task.resolved = true

/-- Every row is kept, but for its `resolved`, which is set at most. -/
def TasksGrow (before after : List (FailedTask Time)) : Prop :=
  ∀ task ∈ before, ∃ resolved, { task with resolved := resolved } ∈ after ∧
    (task.resolved = true → resolved = true)

theorem TasksGrow.refl (tasks : List (FailedTask Time)) : TasksGrow tasks tasks :=
  fun task member => ⟨task.resolved, member, id⟩

theorem TasksGrow.trans {first second third : List (FailedTask Time)}
    (earlier : TasksGrow first second) (later : TasksGrow second third) :
    TasksGrow first third := by
  intro task member
  obtain ⟨middle, kept, resolvedMiddle⟩ := earlier task member
  obtain ⟨last, keptLast, resolvedLast⟩ := later _ kept
  exact ⟨last, keptLast, fun was => resolvedLast (resolvedMiddle was)⟩

theorem TasksGrow.payloadOf {before after : List (FailedTask Time)} (grow : TasksGrow before after)
    {orgId : UUID} {taskId : Int} {payload : RetryPayload}
    (ofRow : PayloadOf library before orgId taskId payload) :
    PayloadOf library after orgId taskId payload := by
  obtain ⟨task, member, isIt, read⟩ := ofRow
  obtain ⟨resolved, kept, _⟩ := grow task member
  exact ⟨_, kept, isIt, read⟩

theorem TasksGrow.isResolved {before after : List (FailedTask Time)}
    (grow : TasksGrow before after) {orgId : UUID} {taskId : Int}
    (done : IsResolved before orgId taskId) : IsResolved after orgId taskId := by
  obtain ⟨task, member, isIt, was⟩ := done
  obtain ⟨resolved, kept, still⟩ := grow task member
  exact ⟨_, kept, isIt, still was⟩

theorem markResolved?_grow {orgId : UUID} {taskId : Int} {tasks updated : List (FailedTask Time)}
    (marked : markResolved? orgId taskId tasks = some updated) : TasksGrow tasks updated := by
  unfold markResolved? at marked
  split at marked
  · cases marked
    intro task member
    by_cases isIt : task.isOf orgId taskId = true
    · exact ⟨true, List.mem_map.mpr ⟨task, member, if_pos isIt⟩, fun _ => rfl⟩
    · exact ⟨task.resolved, List.mem_map.mpr ⟨task, member, if_neg isIt⟩, id⟩
  · cases marked

theorem isResolved_markResolved? {orgId : UUID} {taskId : Int}
    {tasks updated : List (FailedTask Time)}
    (marked : markResolved? orgId taskId tasks = some updated) :
    IsResolved updated orgId taskId := by
  unfold markResolved? at marked
  split at marked
  · rename_i found
    cases marked
    obtain ⟨task, member, isIt⟩ := List.any_eq_true.mp found
    refine ⟨_, List.mem_map.mpr ⟨task, member, rfl⟩, ?_⟩
    rw [if_pos isIt]
    exact ⟨isIt, rfl⟩
  · cases marked

/-! ### What one step can do -/

/-- What an advance leaves of its session, the rows and the batches. -/
inductive Advanced (library : FailedTaskLibrary) (system : FailedTaskSystem Time) (index : Nat)
    (request : FailedTaskRequest) (orgId : UUID) :
    TaskPhase → TaskSession → List (FailedTask Time) → List RetriedBatch → Prop
  /-- Some statement refuses the request. -/
  | refused (phase : TaskPhase) (error : AccountsError)
      (noRow : phase = .resolving ∨ phase = .settling →
        markResolved? orgId request.taskId system.tasks = none) :
      Advanced library system index request orgId phase (.ended request (.error error))
        system.tasks system.batches
  | selected (payload : RetryPayload)
      (ofRow : PayloadOf library system.tasks orgId request.taskId payload)
      (unresolved : ∃ task ∈ system.tasks, task.isOf orgId request.taskId = true ∧
        task.resolved = false) :
      Advanced library system index request orgId .selecting
        (.running request orgId (.checking payload)) system.tasks system.batches
  | checked (payload : RetryPayload) (projectId : UUID)
      (parsed : payload.projectUuid? = some projectId)
      (owned : ownsProject system.accounts orgId projectId = true) :
      Advanced library system index request orgId (.checking payload)
        (.running request orgId (.kicking payload)) system.tasks system.batches
  | kicked (payload : RetryPayload) :
      Advanced library system index request orgId (.kicking payload)
        (.running request orgId .settling) system.tasks
        (system.batches ++ [⟨index, request, orgId, payload⟩])
  | settled (phase : TaskPhase) (last : phase = .resolving ∨ phase = .settling)
      (tasks : List (FailedTask Time))
      (marked : markResolved? orgId request.taskId system.tasks = some tasks) :
      Advanced library system index request orgId phase (.ended request (.ok ())) tasks
        system.batches

theorem readRetry_unresolved {task : FailedTask Time} {payload : RetryPayload}
    (read : library.readRetry task = .ok payload) :
    task.resolved = false ∧ library.readRetry { task with resolved := false } = .ok payload := by
  have unresolved : task.resolved = false := by
    rw [FailedTaskLibrary.readRetry] at read
    split at read
    · cases read
    · rename_i notResolved
      exact Bool.eq_false_iff.mpr notResolved
  have same : { task with resolved := false } = task := by
    rw [← unresolved]
  rw [same]
  exact ⟨unresolved, read⟩

theorem settle_advanced (index : Nat) (request : FailedTaskRequest) (orgId : UUID)
    {phase : TaskPhase} (last : phase = .resolving ∨ phase = .settling) :
    ∃ session tasks batches,
      Advanced library system index request orgId phase session tasks batches ∧
      system.settle index request orgId =
        { system.setSession index session with tasks := tasks, batches := batches } := by
  unfold FailedTaskSystem.settle
  split
  · rename_i tasks marked
    exact ⟨_, _, _, .settled phase last tasks marked, rfl⟩
  · rename_i noRow
    exact ⟨_, _, _, .refused phase failedTaskNotFound fun _ => noRow, rfl⟩

/-- One case for each phase. -/
theorem advance_advanced (index : Nat) (request : FailedTaskRequest) (orgId : UUID)
    (phase : TaskPhase) :
    ∃ session tasks batches,
      Advanced library system index request orgId phase session tasks batches ∧
      system.advance library index request orgId phase =
        { system.setSession index session with tasks := tasks, batches := batches } := by
  cases phase with
  | resolving => exact settle_advanced index request orgId (Or.inl rfl)
  | settling => exact settle_advanced index request orgId (Or.inr rfl)
  | kicking payload => exact ⟨_, _, _, .kicked payload, rfl⟩
  | selecting =>
      refine ⟨system.selected library request orgId, system.tasks, system.batches, ?_, rfl⟩
      unfold FailedTaskSystem.selected
      split
      · exact .refused _ _ (by simp)
      · rename_i task found
        have isIt := List.find?_some found
        have member := List.mem_of_find?_eq_some found
        split
        · exact .refused _ _ (by simp)
        · rename_i payload read
          obtain ⟨unresolved, readAgain⟩ := readRetry_unresolved read
          exact .selected payload ⟨task, member, isIt, readAgain⟩ ⟨task, member, isIt, unresolved⟩
  | checking payload =>
      refine ⟨system.checked request orgId payload, system.tasks, system.batches, ?_, rfl⟩
      unfold FailedTaskSystem.checked
      split
      · exact .refused _ _ (by simp)
      · rename_i projectId parsed
        split
        · rename_i owned
          exact .checked payload projectId parsed owned
        · exact .refused _ _ (by simp)

/-- What a step leads to. -/
inductive TaskChange (library : FailedTaskLibrary) (system : FailedTaskSystem Time) :
    FailedTaskAction Time → FailedTaskSystem Time → Prop
  | accounts (accounts : AccountDatabase) :
      TaskChange library system (.accountsChange accounts) { system with accounts := accounts }
  | idle (call : FailedTaskCall) (failedAt : Time) (interrupted : Bool) :
      TaskChange library system (.handleFailedTask call failedAt interrupted) system
  | recorded (call : FailedTaskCall) (failedAt : Time) (task : FailedTask Time)
      (stored : library.handleFailedTask system.accounts call failedAt system.nextId =
        some task) :
      TaskChange library system (.handleFailedTask call failedAt false) { system with
        tasks := system.tasks ++ [task]
        nextId := system.nextId + 1 }
  | received (request : FailedTaskRequest) :
      TaskChange library system (.receive request)
        { system with sessions := system.sessions ++ [system.received request] }
  | lost (index : Nat) (request : FailedTaskRequest) (orgId : UUID) (phase : TaskPhase)
      (found : system.sessions[index]? = some (.running request orgId phase)) :
      TaskChange library system (.lose index) (system.setSession index (.lost request))
  | advanced (index : Nat) (request : FailedTaskRequest) (orgId : UUID) (phase : TaskPhase)
      (session : TaskSession) (tasks : List (FailedTask Time)) (batches : List RetriedBatch)
      (found : system.sessions[index]? = some (.running request orgId phase))
      (how : Advanced library system index request orgId phase session tasks batches) :
      TaskChange library system (.advance index)
        { system.setSession index session with tasks := tasks, batches := batches }

theorem change_of_taskStep {action : FailedTaskAction Time}
    (stepped : system.step library action = some next) :
    TaskChange library system action next := by
  cases action with
  | accountsChange accounts => cases stepped; exact .accounts accounts
  | receive request => cases stepped; exact .received request
  | handleFailedTask call failedAt interrupted =>
      simp only [FailedTaskSystem.step] at stepped
      split at stepped
      · cases stepped
        exact .idle call failedAt interrupted
      · rename_i notInterrupted
        split at stepped
        · rename_i task stored
          cases stepped
          rw [Bool.not_eq_true] at notInterrupted
          rw [notInterrupted]
          exact .recorded call failedAt task stored
        · cases stepped
          exact .idle call failedAt interrupted
  | lose index =>
      simp only [FailedTaskSystem.step] at stepped
      split at stepped
      · rename_i request orgId phase found
        cases stepped
        exact .lost index request orgId phase found
      · cases stepped
  | advance index =>
      simp only [FailedTaskSystem.step] at stepped
      split at stepped
      · rename_i request orgId phase found
        obtain ⟨session, tasks, batches, how, equal⟩ := advance_advanced index request orgId phase
        rw [equal] at stepped
        cases stepped
        exact .advanced index request orgId phase session tasks batches found how
      · cases stepped

theorem Advanced.tasksGrow {index : Nat} {request : FailedTaskRequest} {orgId : UUID}
    {phase : TaskPhase} {session : TaskSession} {tasks : List (FailedTask Time)}
    {batches : List RetriedBatch}
    (how : Advanced library system index request orgId phase session tasks batches) :
    TasksGrow system.tasks tasks := by
  cases how with
  | settled _ _ tasks marked => exact markResolved?_grow marked
  | refused => exact .refl _
  | selected => exact .refl _
  | checked => exact .refl _
  | kicked => exact .refl _

/-- What was sent stays sent. -/
theorem Advanced.batches_mono {index : Nat} {request : FailedTaskRequest} {orgId : UUID}
    {phase : TaskPhase} {session : TaskSession} {tasks : List (FailedTask Time)}
    {batches : List RetriedBatch}
    (how : Advanced library system index request orgId phase session tasks batches)
    {batch : RetriedBatch} (member : batch ∈ system.batches) : batch ∈ batches := by
  cases how with
  | kicked payload => exact List.mem_append_left _ member
  | refused => exact member
  | selected => exact member
  | checked => exact member
  | settled => exact member

theorem TaskChange.tasksGrow {action : FailedTaskAction Time}
    (change : TaskChange library system action next) : TasksGrow system.tasks next.tasks := by
  cases change with
  | recorded call failedAt task stored =>
      exact fun other member => ⟨other.resolved, List.mem_append_left _ member, id⟩
  | advanced index request orgId phase session tasks batches found how => exact how.tasksGrow
  | accounts => exact .refl _
  | idle => exact .refl _
  | received => exact .refl _
  | lost => exact .refl _

theorem TaskChange.batches_mono {action : FailedTaskAction Time}
    (change : TaskChange library system action next) {batch : RetriedBatch}
    (member : batch ∈ system.batches) : batch ∈ next.batches := by
  cases change with
  | advanced index request orgId phase session tasks batches found how =>
      exact how.batches_mono member
  | recorded => exact member
  | accounts => exact member
  | idle => exact member
  | received => exact member
  | lost => exact member

/-! ### What every run has come to -/

/-- Where a batch comes from. -/
structure BatchTraced (library : FailedTaskLibrary) (start : FailedTaskSystem Time)
    (actions : List (FailedTaskAction Time)) (tasks : List (FailedTask Time))
    (batch : RetriedBatch) : Prop where
  isRetry : batch.request = .retry batch.request.subject batch.request.taskId
  admin : AdminSeen library start actions batch.request.subject batch.orgId
  project : ProjectSeen library start actions batch.orgId batch.payload
  ofRow : PayloadOf library tasks batch.orgId batch.request.taskId batch.payload

/-- The session at `index` has sent a batch. -/
def HasSent (batches : List RetriedBatch) (index : Nat) (request : FailedTaskRequest)
    (orgId : UUID) : Prop :=
  ∃ batch ∈ batches, batch.session = index ∧ batch.request = request ∧ batch.orgId = orgId

def PhaseTraced (library : FailedTaskLibrary) (start : FailedTaskSystem Time)
    (actions : List (FailedTaskAction Time)) (tasks : List (FailedTask Time))
    (batches : List RetriedBatch) (index : Nat) (request : FailedTaskRequest) (orgId : UUID) :
    TaskPhase → Prop
  | .resolving => request = .resolve request.subject request.taskId
  | .selecting => request = .retry request.subject request.taskId
  | .checking payload => request = .retry request.subject request.taskId ∧
      PayloadOf library tasks orgId request.taskId payload
  | .kicking payload => request = .retry request.subject request.taskId ∧
      PayloadOf library tasks orgId request.taskId payload ∧
      ProjectSeen library start actions orgId payload
  | .settling => HasSent batches index request orgId

/-- A request that has succeeded. -/
structure SuccessTraced (library : FailedTaskLibrary) (start : FailedTaskSystem Time)
    (actions : List (FailedTaskAction Time)) (tasks : List (FailedTask Time))
    (batches : List RetriedBatch) (index : Nat) (request : FailedTaskRequest) (orgId : UUID) :
    Prop where
  admin : AdminSeen library start actions request.subject orgId
  resolved : IsResolved tasks orgId request.taskId
  sent : request = .resolve request.subject request.taskId ∨ HasSent batches index request orgId

def SessionTraced (library : FailedTaskLibrary) (start : FailedTaskSystem Time)
    (actions : List (FailedTaskAction Time)) (tasks : List (FailedTask Time))
    (batches : List RetriedBatch) (index : Nat) : TaskSession → Prop
  | .running request orgId phase => AdminSeen library start actions request.subject orgId ∧
      PhaseTraced library start actions tasks batches index request orgId phase
  | .ended request (.ok ()) =>
      ∃ orgId, SuccessTraced library start actions tasks batches index request orgId
  | .ended _ (.error _) => True
  | .lost _ => True

/-- Some request that has succeeded has resolved the row. -/
def ResolvedBySession (library : FailedTaskLibrary) (start : FailedTaskSystem Time)
    (actions : List (FailedTaskAction Time)) (sessions : List TaskSession)
    (task : FailedTask Time) : Prop :=
  ∃ request orgId, .ended request (.ok ()) ∈ sessions ∧ task.isOf orgId request.taskId = true ∧
    AdminSeen library start actions request.subject orgId

structure TasksTraced (library : FailedTaskLibrary) (start : FailedTaskSystem Time)
    (actions : List (FailedTaskAction Time)) (system : FailedTaskSystem Time) : Prop where
  grown : TasksGrow start.tasks system.tasks
  batches : ∀ batch ∈ system.batches, BatchTraced library start actions system.tasks batch
  sessions : ∀ index session, system.sessions[index]? = some session →
    SessionTraced library start actions system.tasks system.batches index session
  resolved : ∀ task ∈ system.tasks, task.resolved = true →
    task ∈ start.tasks ∨ ResolvedBySession library start actions system.sessions task

variable {action : FailedTaskAction Time} {tasks after : List (FailedTask Time)}
  {batches later : List RetriedBatch}

theorem BatchTraced.mono {batch : RetriedBatch}
    (traced : BatchTraced library start actions tasks batch) (grow : TasksGrow tasks after)
    (action : FailedTaskAction Time) :
    BatchTraced library start (actions ++ [action]) after batch where
  isRetry := traced.isRetry
  admin := traced.admin.append [action]
  project := traced.project.append [action]
  ofRow := grow.payloadOf traced.ofRow

theorem HasSent.mono {index : Nat} {request : FailedTaskRequest} {orgId : UUID}
    (more : ∀ batch ∈ batches, batch ∈ later) (sent : HasSent batches index request orgId) :
    HasSent later index request orgId := by
  obtain ⟨batch, member, facts⟩ := sent
  exact ⟨batch, more batch member, facts⟩

theorem PhaseTraced.mono {index : Nat} {request : FailedTaskRequest} {orgId : UUID}
    {phase : TaskPhase}
    (traced : PhaseTraced library start actions tasks batches index request orgId phase)
    (grow : TasksGrow tasks after) (more : ∀ batch ∈ batches, batch ∈ later)
    (action : FailedTaskAction Time) :
    PhaseTraced library start (actions ++ [action]) after later index request orgId phase := by
  cases phase with
  | resolving => exact traced
  | selecting => exact traced
  | checking payload => exact ⟨traced.1, grow.payloadOf traced.2⟩
  | kicking payload =>
      exact ⟨traced.1, grow.payloadOf traced.2.1, traced.2.2.append [action]⟩
  | settling => exact HasSent.mono more traced

theorem SessionTraced.mono {index : Nat} {session : TaskSession}
    (traced : SessionTraced library start actions tasks batches index session)
    (grow : TasksGrow tasks after) (more : ∀ batch ∈ batches, batch ∈ later)
    (action : FailedTaskAction Time) :
    SessionTraced library start (actions ++ [action]) after later index session := by
  cases session with
  | running request orgId phase =>
      exact ⟨traced.1.append [action], traced.2.mono grow more action⟩
  | lost request => trivial
  | ended request result =>
      cases result with
      | error error => trivial
      | ok done =>
          obtain ⟨orgId, success⟩ := traced
          exact ⟨orgId, success.admin.append [action], grow.isResolved success.resolved,
            success.sent.imp_right fun sent => sent.mono more⟩

theorem ResolvedBySession.mono {sessions further : List TaskSession} {task : FailedTask Time}
    (traced : ResolvedBySession library start actions sessions task)
    (more : ∀ request, .ended request (.ok ()) ∈ sessions → .ended request (.ok ()) ∈ further)
    (action : FailedTaskAction Time) :
    ResolvedBySession library start (actions ++ [action]) further task := by
  obtain ⟨request, orgId, succeeded, isIt, admin⟩ := traced
  exact ⟨request, orgId, more request succeeded, isIt, admin.append [action]⟩

/-- A session that goes on or ends was running, so what has ended is left alone. -/
theorem ended_setSession {index : Nat} {request : FailedTaskRequest} {orgId : UUID}
    {phase : TaskPhase} (found : system.sessions[index]? = some (.running request orgId phase))
    (session : TaskSession) (other : FailedTaskRequest)
    (member : .ended other (.ok ()) ∈ system.sessions) :
    .ended other (.ok ()) ∈ (system.setSession index session).sessions := by
  obtain ⟨position, at'⟩ := List.mem_iff_getElem?.mp member
  have apart : index ≠ position := by
    rintro rfl
    rw [found] at at'
    cases at'
  exact List.mem_iff_getElem?.mpr ⟨position, by
    rw [FailedTaskSystem.setSession, List.getElem?_set_ne apart]
    exact at'⟩

theorem received_traced {request : FailedTaskRequest} (index : Nat)
    (ran : (library.machine Time).run start actions = some system) :
    SessionTraced library start (actions ++ [.receive request]) tasks batches index
      (system.received request) := by
  unfold FailedTaskSystem.received
  split
  · rename_i user admin
    have seen : AdminSeen library start actions request.subject user.orgId :=
      Machine.passes_of_reached _ ran ⟨user, admin, rfl⟩
    refine ⟨seen.append _, ?_⟩
    cases request <;> rfl
  · trivial

/-- The session that an advance leaves. -/
theorem Advanced.traced {index : Nat} {request : FailedTaskRequest} {orgId : UUID}
    {phase : TaskPhase} {session : TaskSession}
    (how : Advanced library system index request orgId phase session tasks batches)
    (ran : (library.machine Time).run start actions = some system)
    (before : TasksTraced library start actions system)
    (found : system.sessions[index]? = some (.running request orgId phase)) :
    SessionTraced library start (actions ++ [.advance index]) tasks batches index session := by
  obtain ⟨admin, phaseTraced⟩ := before.sessions index _ found
  cases how with
  | refused => trivial
  | selected payload ofRow =>
      exact ⟨admin.append _, phaseTraced, ofRow⟩
  | checked payload projectId parsed owned =>
      have seen : ProjectSeen library start actions orgId payload :=
        Machine.passes_of_reached _ ran ⟨projectId, parsed, owned⟩
      exact ⟨admin.append _, phaseTraced.1, phaseTraced.2, seen.append _⟩
  | kicked payload =>
      exact ⟨admin.append _, _, List.mem_append_right _ (List.mem_singleton_self _), rfl, rfl, rfl⟩
  | settled _ last tasks marked =>
      refine ⟨orgId, admin.append _, isResolved_markResolved? marked, ?_⟩
      rcases last with rfl | rfl
      · exact Or.inl phaseTraced
      · exact Or.inr phaseTraced

/-- The batches that an advance leaves. -/
theorem Advanced.batchTraced {index : Nat} {request : FailedTaskRequest} {orgId : UUID}
    {phase : TaskPhase} {session : TaskSession}
    (how : Advanced library system index request orgId phase session tasks batches)
    (before : TasksTraced library start actions system)
    (found : system.sessions[index]? = some (.running request orgId phase))
    {batch : RetriedBatch} (member : batch ∈ batches) :
    BatchTraced library start (actions ++ [.advance index]) tasks batch := by
  have kept : batch ∈ system.batches → _ := fun stored =>
    (before.batches batch stored).mono how.tasksGrow (.advance index)
  cases how with
  | refused => exact kept member
  | selected => exact kept member
  | checked => exact kept member
  | settled => exact kept member
  | kicked payload =>
      rcases List.mem_append.mp member with stored | sent
      · exact kept stored
      · obtain ⟨admin, isRetry, ofRow, project⟩ := before.sessions index _ found
        rw [List.mem_singleton.mp sent]
        exact ⟨isRetry, admin.append _, project.append _, ofRow⟩

/-- The rows that an advance leaves resolved. -/
theorem Advanced.resolvedTraced {index : Nat} {request : FailedTaskRequest} {orgId : UUID}
    {phase : TaskPhase} {session : TaskSession}
    (how : Advanced library system index request orgId phase session tasks batches)
    (before : TasksTraced library start actions system)
    (found : system.sessions[index]? = some (.running request orgId phase))
    {task : FailedTask Time} (member : task ∈ tasks) (resolved : task.resolved = true) :
    task ∈ start.tasks ∨ ResolvedBySession library start (actions ++ [.advance index])
      (system.setSession index session).sessions task := by
  have kept : task ∈ system.tasks → _ := fun stored =>
    (before.resolved task stored resolved).imp_right fun traced =>
      traced.mono (ended_setSession found session) (.advance index)
  cases how with
  | refused => exact kept member
  | selected => exact kept member
  | checked => exact kept member
  | kicked => exact kept member
  | settled _ last tasks marked =>
      obtain ⟨old, stored, rfl | ⟨isIt, rfl⟩⟩ := mem_markResolved? marked member
      · exact kept stored
      · have bound : index < system.sessions.length := (List.getElem?_eq_some_iff.mp found).1
        have here : TaskSession.ended request (.ok ()) ∈
            (system.setSession index (.ended request (.ok ()))).sessions :=
          List.mem_iff_getElem?.mpr ⟨index, List.getElem?_set_self bound⟩
        exact Or.inr ⟨request, orgId, here, isIt, (before.sessions index _ found).1.append _⟩

theorem TasksTraced.step (before : TasksTraced library start actions system)
    (ran : (library.machine Time).run start actions = some system)
    (change : TaskChange library system action next) :
    TasksTraced library start (actions ++ [action]) next := by
  have grown := before.grown.trans change.tasksGrow
  have kept : ∀ index session, system.sessions[index]? = some session →
      SessionTraced library start (actions ++ [action]) next.tasks next.batches index session :=
    fun index session found => (before.sessions index session found).mono change.tasksGrow
      (fun _ => change.batches_mono) action
  have batchesKept : ∀ batch ∈ system.batches,
      BatchTraced library start (actions ++ [action]) next.tasks batch :=
    fun batch member => (before.batches batch member).mono change.tasksGrow action
  have same : ∀ request, TaskSession.ended request (.ok ()) ∈ system.sessions →
      TaskSession.ended request (.ok ()) ∈ system.sessions := fun _ => id
  have resolvedKept : ∀ task ∈ system.tasks, task.resolved = true → task ∈ start.tasks ∨
      ResolvedBySession library start (actions ++ [action]) system.sessions task :=
    fun task member resolved => (before.resolved task member resolved).imp_right
      fun traced => traced.mono same action
  cases change with
  | accounts => exact ⟨grown, batchesKept, kept, resolvedKept⟩
  | idle => exact ⟨grown, batchesKept, kept, resolvedKept⟩
  | recorded call failedAt task stored =>
      refine ⟨grown, batchesKept, kept, fun other member resolved => ?_⟩
      rcases List.mem_append.mp member with old | new
      · exact resolvedKept other old resolved
      · rw [List.mem_singleton.mp new, FailedTaskLibrary.unresolved_handleFailedTask stored]
          at resolved
        cases resolved
  | received request =>
      refine ⟨grown, batchesKept, fun index session found => ?_, fun task member resolved =>
        (before.resolved task member resolved).imp_right fun traced =>
          traced.mono (fun _ => List.mem_append_left _) _⟩
      rcases lt_or_ge index system.sessions.length with old | new
      · rw [List.getElem?_append_left old] at found
        exact kept index session found
      · rw [List.getElem?_append_right new] at found
        have isIt := List.mem_singleton.mp (List.mem_of_getElem? found)
        rw [isIt]
        exact received_traced index ran
  | lost index request orgId phase found =>
      refine ⟨grown, batchesKept, fun other session foundOther => ?_,
        fun task member resolved => (before.resolved task member resolved).imp_right fun traced =>
          traced.mono (ended_setSession found _) _⟩
      by_cases here : index = other
      · subst here
        rw [FailedTaskSystem.setSession,
          List.getElem?_set_self (List.getElem?_eq_some_iff.mp found).1] at foundOther
        cases foundOther
        trivial
      · rw [FailedTaskSystem.setSession, List.getElem?_set_ne here] at foundOther
        exact kept other session foundOther
  | advanced index request orgId phase session tasks batches found how =>
      refine ⟨grown, fun batch member => how.batchTraced before found member,
        fun other otherSession foundOther => ?_,
        fun task member resolved => how.resolvedTraced before found member resolved⟩
      by_cases here : index = other
      · subst here
        have stored := foundOther
        simp only [FailedTaskSystem.setSession,
          List.getElem?_set_self (List.getElem?_eq_some_iff.mp found).1] at stored
        cases stored
        exact how.traced ran before found
      · simp only [FailedTaskSystem.setSession, List.getElem?_set_ne here] at foundOther
        exact kept other otherSession foundOther

theorem tasksTraced_of_run {accounts : AccountDatabase} {tasks : List (FailedTask Time)}
    {nextId : Int} {final : FailedTaskSystem Time}
    (ran : (library.machine Time).run (.fresh accounts tasks nextId) actions = some final) :
    TasksTraced library (.fresh accounts tasks nextId) actions final :=
  (library.machine Time).run_induction
    ⟨.refl _, List.forall_mem_nil _, fun _ _ found => absurd found (by simp [FailedTaskSystem.fresh]),
      fun _ member _ => Or.inl member⟩
    (fun _ _ _ _ reached before stepped => before.step reached (change_of_taskStep stepped)) ran

/-- Over any rows and any order of statements: a batch that a retry sends is the payload of a
row of the requester's organisation, for a project that belonged to that organisation when
it was checked, and the requester was an admin of it; a request that succeeded has left its
row resolved, a retry after it has sent a batch; rows are never lost, changed or reopened,
and one is resolved by a request of an admin of its organisation only. -/
theorem retries_traced {accounts : AccountDatabase} {tasks : List (FailedTask Time)}
    {nextId : Int} {final : FailedTaskSystem Time}
    (ran : (library.machine Time).run (.fresh accounts tasks nextId) actions = some final) :
    (∀ batch ∈ final.batches,
      batch.request = .retry batch.request.subject batch.request.taskId ∧
      AdminSeen library (.fresh accounts tasks nextId) actions batch.request.subject batch.orgId ∧
      ProjectSeen library (.fresh accounts tasks nextId) actions batch.orgId batch.payload ∧
      PayloadOf library final.tasks batch.orgId batch.request.taskId batch.payload) ∧
    (∀ (index : Nat) request, final.sessions[index]? = some (.ended request (.ok ())) →
      ∃ orgId, IsResolved final.tasks orgId request.taskId ∧
        (request = .resolve request.subject request.taskId ∨
          HasSent final.batches index request orgId)) ∧
    (∀ task ∈ tasks, ∃ resolved, { task with resolved := resolved } ∈ final.tasks ∧
      (task.resolved = true → resolved = true)) ∧
    (∀ task ∈ final.tasks, task.resolved = true → task ∈ tasks ∨
      ResolvedBySession library (.fresh accounts tasks nextId) actions final.sessions task) := by
  have traced := tasksTraced_of_run ran
  refine ⟨fun batch member => ?_, fun index request found => ?_, traced.grown, traced.resolved⟩
  · have facts := traced.batches batch member
    exact ⟨facts.isRetry, facts.admin, facts.project, facts.ofRow⟩
  · obtain ⟨orgId, success⟩ := traced.sessions index _ found
    exact ⟨orgId, success.resolved, success.sent⟩

end Traced

/-! ### How often a row is sent again -/

section Once

variable {library : FailedTaskLibrary} {Time : Type} {system next : FailedTaskSystem Time}
  {taskId : Int}

/-- The primary key, with a sequence that is ahead of it. -/
structure PrimaryKey (tasks : List (FailedTask Time)) (nextId : Int) : Prop where
  nodup : (tasks.map FailedTask.id).Nodup
  below : ∀ task ∈ tasks, task.id < nextId

def RetriedBatch.isOf (taskId : Int) (batch : RetriedBatch) : Bool :=
  match batch.request with
  | .retry _ other => other = taskId
  | .resolve _ _ => false

/-- How many batches retries of the row have sent. -/
def sentCount (taskId : Int) (batches : List RetriedBatch) : Nat :=
  batches.countP (RetriedBatch.isOf taskId)

/-- The session at `index` is a retry of the row that has not ended. -/
def FailedTaskSystem.RetriesAt (system : FailedTaskSystem Time) (taskId : Int) (index : Nat)
    (orgId : UUID) (phase : TaskPhase) : Prop :=
  ∃ subject, system.sessions[index]? = some (.running (.retry subject taskId) orgId phase)

/-- A retry of a row begins when no other one of it is going on, and none is lost between
its kick and its update. -/
def RetriesApart (system : FailedTaskSystem Time) : FailedTaskAction Time → Prop
  | .receive (.retry _ taskId) => ∀ index orgId phase, ¬ system.RetriesAt taskId index orgId phase
  | .lose index => ∀ request orgId,
      system.sessions[index]? ≠ some (.running request orgId .settling)
  | _ => True

/-- A row with the identifier is resolved. -/
def Settled (tasks : List (FailedTask Time)) (taskId : Int) : Prop :=
  ∃ task ∈ tasks, task.id = taskId ∧ task.resolved = true

/-- Nothing was sent, or all that is ever sent. -/
def SentAtMostOnce (system : FailedTaskSystem Time) (taskId : Int) : Prop :=
  sentCount taskId system.batches = 0 ∨
    sentCount taskId system.batches = 1 ∧ Settled system.tasks taskId

/-- What was sent for the row while a retry of it is going on. -/
def SentInPhase (system : FailedTaskSystem Time) (taskId : Int) (orgId : UUID) :
    TaskPhase → Prop
  | .resolving => False
  | .selecting => SentAtMostOnce system taskId
  | .checking _ => sentCount taskId system.batches = 0 ∧
      ∃ task ∈ system.tasks, task.isOf orgId taskId = true
  | .kicking _ => sentCount taskId system.batches = 0 ∧
      ∃ task ∈ system.tasks, task.isOf orgId taskId = true
  | .settling => sentCount taskId system.batches = 1 ∧
      ∃ task ∈ system.tasks, task.isOf orgId taskId = true

structure RetriedOnce (system : FailedTaskSystem Time) (taskId : Int) : Prop where
  key : PrimaryKey system.tasks system.nextId
  single : ∀ left right leftOrg rightOrg leftPhase rightPhase,
    system.RetriesAt taskId left leftOrg leftPhase →
      system.RetriesAt taskId right rightOrg rightPhase → left = right
  going : ∀ index orgId phase, system.RetriesAt taskId index orgId phase →
    SentInPhase system taskId orgId phase
  idle : (∀ index orgId phase, ¬ system.RetriesAt taskId index orgId phase) →
    SentAtMostOnce system taskId

theorem FailedTask.isOf_iff {orgId : UUID} {task : FailedTask Time} :
    task.isOf orgId taskId = true ↔ task.id = taskId ∧ task.orgId = some orgId := by
  rw [FailedTask.isOf, decide_eq_true_eq]

/-- Rows are one by their identifiers. -/
theorem PrimaryKey.eq {tasks : List (FailedTask Time)} {nextId : Int}
    (key : PrimaryKey tasks nextId) {left right : FailedTask Time} (leftMember : left ∈ tasks)
    (rightMember : right ∈ tasks) (same : left.id = right.id) : left = right :=
  List.inj_on_of_nodup_map key.nodup leftMember rightMember same

theorem markResolved?_ids {orgId : UUID} {tasks updated : List (FailedTask Time)}
    (marked : markResolved? orgId taskId tasks = some updated) :
    updated.map FailedTask.id = tasks.map FailedTask.id := by
  unfold markResolved? at marked
  split at marked
  · cases marked
    rw [List.map_map]
    apply List.map_congr_left
    intro task _
    rw [Function.comp_apply]
    split <;> rfl
  · cases marked

theorem PrimaryKey.of_ids {tasks updated : List (FailedTask Time)} {nextId : Int}
    (key : PrimaryKey tasks nextId)
    (ids : updated.map FailedTask.id = tasks.map FailedTask.id) : PrimaryKey updated nextId where
  nodup := ids ▸ key.nodup
  below task member := by
    obtain ⟨before, stored, same⟩ :=
      List.mem_map.mp (ids ▸ List.mem_map_of_mem member)
    exact same ▸ key.below before stored

theorem PrimaryKey.append {tasks : List (FailedTask Time)} {nextId : Int}
    (key : PrimaryKey tasks nextId) {task : FailedTask Time} (fresh : task.id = nextId) :
    PrimaryKey (tasks ++ [task]) (nextId + 1) where
  nodup := by
    rw [List.map_append, List.map_singleton]
    refine key.nodup.append (List.nodup_singleton _) ?_
    intro id before here
    obtain ⟨other, stored, rfl⟩ := List.mem_map.mp before
    have below := key.below other stored
    have same := List.mem_singleton.mp here
    omega
  below other member := by
    rcases List.mem_append.mp member with before | here
    · have below := key.below other before
      omega
    · rw [List.mem_singleton.mp here]
      omega

theorem TasksGrow.settled {before after : List (FailedTask Time)} (grow : TasksGrow before after)
    (settled : Settled before taskId) : Settled after taskId := by
  obtain ⟨task, member, isIt, resolved⟩ := settled
  obtain ⟨still, kept, stays⟩ := grow task member
  exact ⟨_, kept, isIt, stays resolved⟩

theorem TasksGrow.exists_isOf {before after : List (FailedTask Time)}
    (grow : TasksGrow before after) {orgId : UUID}
    (stored : ∃ task ∈ before, task.isOf orgId taskId = true) :
    ∃ task ∈ after, task.isOf orgId taskId = true := by
  obtain ⟨task, member, isIt⟩ := stored
  obtain ⟨still, kept, _⟩ := grow task member
  exact ⟨_, kept, isIt⟩

theorem SentAtMostOnce.mono (sent : SentAtMostOnce system taskId)
    (grow : TasksGrow system.tasks next.tasks)
    (same : sentCount taskId next.batches = sentCount taskId system.batches) :
    SentAtMostOnce next taskId := by
  unfold SentAtMostOnce
  rw [same]
  exact sent.imp_right fun once => ⟨once.1, grow.settled once.2⟩

theorem SentInPhase.mono {orgId : UUID} {phase : TaskPhase}
    (sent : SentInPhase system taskId orgId phase) (grow : TasksGrow system.tasks next.tasks)
    (same : sentCount taskId next.batches = sentCount taskId system.batches) :
    SentInPhase next taskId orgId phase := by
  cases phase with
  | resolving => exact sent
  | selecting => exact SentAtMostOnce.mono sent grow same
  | checking payload => exact ⟨same.trans sent.1, grow.exists_isOf sent.2⟩
  | kicking payload => exact ⟨same.trans sent.1, grow.exists_isOf sent.2⟩
  | settling => exact ⟨same.trans sent.1, grow.exists_isOf sent.2⟩

/-- A retry that is going on has sent one batch at most. -/
theorem SentInPhase.le_one {orgId : UUID} {phase : TaskPhase}
    (sent : SentInPhase system taskId orgId phase) : sentCount taskId system.batches ≤ 1 := by
  cases phase with
  | resolving => exact sent.elim
  | selecting =>
      rcases sent with none | ⟨once, _⟩
      · omega
      · omega
  | checking payload => have := sent.1; omega
  | kicking payload => have := sent.1; omega
  | settling => have := sent.1; omega

/-- A step that leaves the retries of the row as they are. -/
theorem RetriedOnce.unchanged (before : RetriedOnce system taskId)
    (key : PrimaryKey next.tasks next.nextId) (grow : TasksGrow system.tasks next.tasks)
    (same : sentCount taskId next.batches = sentCount taskId system.batches)
    (retries : ∀ index orgId phase,
      next.RetriesAt taskId index orgId phase ↔ system.RetriesAt taskId index orgId phase) :
    RetriedOnce next taskId where
  key := key
  single left right leftOrg rightOrg leftPhase rightPhase leftAt rightAt :=
    before.single left right leftOrg rightOrg leftPhase rightPhase ((retries ..).mp leftAt)
      ((retries ..).mp rightAt)
  going index orgId phase here :=
    (before.going index orgId phase ((retries ..).mp here)).mono grow same
  idle none := (before.idle fun index orgId phase here =>
    none index orgId phase ((retries ..).mpr here)).mono grow same

/-- A step that ends the retry of the row that is going on. -/
theorem RetriedOnce.ended (before : RetriedOnce system taskId) {index : Nat} {orgId : UUID}
    {phase : TaskPhase} (here : system.RetriesAt taskId index orgId phase)
    (key : PrimaryKey next.tasks next.nextId)
    (none : ∀ orgId phase, ¬ next.RetriesAt taskId index orgId phase)
    (others : ∀ other orgId phase, other ≠ index → next.RetriesAt taskId other orgId phase →
      system.RetriesAt taskId other orgId phase)
    (sent : SentAtMostOnce next taskId) : RetriedOnce next taskId := by
  have gone : ∀ other orgId phase, ¬ next.RetriesAt taskId other orgId phase := by
    intro other otherOrg otherPhase there
    by_cases same : other = index
    · exact none otherOrg otherPhase (same ▸ there)
    · exact same (before.single _ _ _ _ _ _ (others other otherOrg otherPhase same there) here)
  exact ⟨key, fun _ _ _ _ _ _ leftAt => absurd leftAt (gone _ _ _),
    fun _ _ _ there => absurd there (gone _ _ _), fun _ => sent⟩

/-- A step of the retry of the row that is going on. -/
theorem RetriedOnce.moved (before : RetriedOnce system taskId) {index : Nat} {orgId : UUID}
    {phase moved : TaskPhase} (here : system.RetriesAt taskId index orgId phase)
    (key : PrimaryKey next.tasks next.nextId)
    (now : ∀ otherOrg otherPhase, next.RetriesAt taskId index otherOrg otherPhase ↔
      otherOrg = orgId ∧ otherPhase = moved)
    (others : ∀ other orgId phase, other ≠ index → next.RetriesAt taskId other orgId phase →
      system.RetriesAt taskId other orgId phase)
    (sent : SentInPhase next taskId orgId moved) : RetriedOnce next taskId := by
  have only : ∀ other otherOrg otherPhase, next.RetriesAt taskId other otherOrg otherPhase →
      other = index := by
    intro other otherOrg otherPhase there
    by_contra apart
    exact apart (before.single _ _ _ _ _ _ (others other otherOrg otherPhase apart there) here)
  refine ⟨key, fun left right _ _ _ _ leftAt rightAt => ?_, fun other otherOrg otherPhase there => ?_,
    fun none => absurd ((now orgId moved).mpr ⟨rfl, rfl⟩) (none index orgId moved)⟩
  · rw [only _ _ _ leftAt, only _ _ _ rightAt]
  · obtain rfl := only _ _ _ there
    obtain ⟨rfl, rfl⟩ := (now otherOrg otherPhase).mp there
    exact sent

/-! ### One step -/

theorem retriesAt_setSession_ne {index other : Nat} (apart : index ≠ other) (session : TaskSession)
    {orgId : UUID} {phase : TaskPhase} :
    (system.setSession index session).RetriesAt taskId other orgId phase ↔
      system.RetriesAt taskId other orgId phase := by
  simp only [FailedTaskSystem.RetriesAt, FailedTaskSystem.setSession, List.getElem?_set_ne apart]

theorem retriesAt_setSession_self {index : Nat} {old : TaskSession}
    (found : system.sessions[index]? = some old) (session : TaskSession) {orgId : UUID}
    {phase : TaskPhase} :
    (system.setSession index session).RetriesAt taskId index orgId phase ↔
      ∃ subject, session = .running (.retry subject taskId) orgId phase := by
  simp only [FailedTaskSystem.RetriesAt, FailedTaskSystem.setSession,
    List.getElem?_set_self (List.getElem?_eq_some_iff.mp found).1, Option.some.injEq]

/-- A session that is no retry of the row stays none when it goes on or ends. -/
theorem retriesAt_other {index : Nat} {request : FailedTaskRequest} {orgId : UUID}
    {phase : TaskPhase} (found : system.sessions[index]? = some (.running request orgId phase))
    (other : ∀ subject, request ≠ .retry subject taskId) {session : TaskSession}
    (same : ∀ later laterOrg laterPhase, session = .running later laterOrg laterPhase →
      later = request) (position : Nat) (otherOrg : UUID) (otherPhase : TaskPhase) :
    (system.setSession index session).RetriesAt taskId position otherOrg otherPhase ↔
      system.RetriesAt taskId position otherOrg otherPhase := by
  by_cases here : index = position
  · subst here
    rw [retriesAt_setSession_self found]
    constructor
    · rintro ⟨subject, rfl⟩
      exact absurd (same _ _ _ rfl).symm (other subject)
    · rintro ⟨subject, there⟩
      rw [found, Option.some.injEq, TaskSession.running.injEq] at there
      exact absurd there.1 (other subject)
  · exact retriesAt_setSession_ne here session

theorem sentCount_append (batches : List RetriedBatch) (batch : RetriedBatch) :
    sentCount taskId (batches ++ [batch]) =
      sentCount taskId batches + if batch.isOf taskId then 1 else 0 := by
  rw [sentCount, sentCount, List.countP_append, List.countP_singleton]

/-- An advance of a request that is no retry of the row. -/
theorem RetriedOnce.advancedOther (before : RetriedOnce system taskId) {index : Nat}
    {request : FailedTaskRequest} {orgId : UUID} {phase : TaskPhase} {session : TaskSession}
    {tasks : List (FailedTask Time)} {batches : List RetriedBatch}
    (found : system.sessions[index]? = some (.running request orgId phase))
    (how : Advanced library system index request orgId phase session tasks batches)
    (other : ∀ subject, request ≠ .retry subject taskId) :
    RetriedOnce { system.setSession index session with tasks := tasks, batches := batches }
      taskId := by
  have notOf : ∀ payload, RetriedBatch.isOf taskId ⟨index, request, orgId, payload⟩ = false := by
    intro payload
    cases request with
    | resolve subject id => rfl
    | retry subject id =>
        have apart : id ≠ taskId := fun same => other subject (same ▸ rfl)
        exact decide_eq_false apart
  have same : ∀ later laterOrg laterPhase, session = .running later laterOrg laterPhase →
      later = request := by
    rintro later laterOrg laterPhase rfl
    cases how <;> rfl
  have counted : sentCount taskId batches = sentCount taskId system.batches := by
    cases how with
    | kicked payload => rw [sentCount_append, notOf]; rfl
    | refused => rfl
    | selected => rfl
    | checked => rfl
    | settled => rfl
  have key : PrimaryKey tasks system.nextId := by
    cases how with
    | settled _ _ tasks marked => exact before.key.of_ids (markResolved?_ids marked)
    | refused => exact before.key
    | selected => exact before.key
    | checked => exact before.key
    | kicked => exact before.key
  exact before.unchanged key how.tasksGrow counted (retriesAt_other found other same)

/-- An advance of the retry of the row. -/
theorem RetriedOnce.advancedRetry (before : RetriedOnce system taskId) {index : Nat}
    {subject orgId : UUID} {phase : TaskPhase} {session : TaskSession}
    {tasks : List (FailedTask Time)} {batches : List RetriedBatch}
    (found : system.sessions[index]? = some (.running (.retry subject taskId) orgId phase))
    (how : Advanced library system index (.retry subject taskId) orgId phase session tasks
      batches) :
    RetriedOnce { system.setSession index session with tasks := tasks, batches := batches }
      taskId := by
  have here : system.RetriesAt taskId index orgId phase := ⟨subject, found⟩
  have sent := before.going index orgId phase here
  have others : ∀ other otherOrg otherPhase, other ≠ index →
      FailedTaskSystem.RetriesAt
        { system.setSession index session with tasks := tasks, batches := batches }
        taskId other otherOrg otherPhase → system.RetriesAt taskId other otherOrg otherPhase :=
    fun other _ _ apart there => (retriesAt_setSession_ne (Ne.symm apart) session).mp there
  have ends : ∀ result, session = .ended (.retry subject taskId) result →
      ∀ otherOrg otherPhase, ¬ FailedTaskSystem.RetriesAt
        { system.setSession index session with tasks := tasks, batches := batches }
        taskId index otherOrg otherPhase := by
    rintro result rfl otherOrg otherPhase there
    obtain ⟨_, impossible⟩ := (retriesAt_setSession_self found _).mp there
    cases impossible
  have goesOn : ∀ moved, session = .running (.retry subject taskId) orgId moved →
      ∀ otherOrg otherPhase, FailedTaskSystem.RetriesAt
        { system.setSession index session with tasks := tasks, batches := batches }
        taskId index otherOrg otherPhase ↔ otherOrg = orgId ∧ otherPhase = moved := by
    rintro moved rfl otherOrg otherPhase
    refine (retriesAt_setSession_self found _).trans ?_
    simp only [TaskSession.running.injEq, FailedTaskRequest.retry.injEq, and_true]
    constructor
    · rintro ⟨_, _, rfl, rfl⟩
      exact ⟨rfl, rfl⟩
    · rintro ⟨rfl, rfl⟩
      exact ⟨subject, rfl, rfl, rfl⟩
  cases how with
  | refused _ error noRow =>
      refine before.ended here before.key (ends _ rfl) others ?_
      cases phase with
      | resolving => exact sent.elim
      | selecting => exact sent
      | checking payload => exact Or.inl sent.1
      | kicking payload => exact Or.inl sent.1
      | settling =>
          -- The row of the kick is still there, so the update finds it.
          obtain ⟨task, member, isIt⟩ := sent.2
          have isFound : system.tasks.any (FailedTask.isOf orgId taskId) = true :=
            List.any_eq_true.mpr ⟨task, member, isIt⟩
          have missing := noRow (Or.inr rfl)
          rw [markResolved?, FailedTaskRequest.taskId, if_pos isFound] at missing
          cases missing
  | selected payload ofRow unresolved =>
      refine before.moved here before.key (goesOn _ rfl) others ?_
      obtain ⟨task, member, isIt, notResolved⟩ := unresolved
      have isNamed := (FailedTask.isOf_iff.mp isIt).1
      refine ⟨?_, task, member, isIt⟩
      rcases sent with none | ⟨_, other, otherMember, otherNamed, resolved⟩
      · exact none
      · rw [before.key.eq member otherMember (isNamed.trans otherNamed.symm), resolved]
          at notResolved
        cases notResolved
  | checked payload projectId parsed owned =>
      exact before.moved here before.key (goesOn _ rfl) others sent
  | kicked payload =>
      refine before.moved here before.key (goesOn _ rfl) others ⟨?_, sent.2⟩
      have counted : RetriedBatch.isOf taskId ⟨index, .retry subject taskId, orgId, payload⟩ =
          true := decide_eq_true rfl
      show sentCount taskId (system.batches ++ [_]) = 1
      rw [sentCount_append, counted, sent.1]
      rfl
  | settled _ last tasks marked =>
      refine before.ended here (before.key.of_ids (markResolved?_ids marked)) (ends _ rfl) others
        ?_
      rcases last with rfl | rfl
      · exact sent.elim
      · obtain ⟨task, member, isIt, resolved⟩ := isResolved_markResolved? marked
        exact Or.inr ⟨sent.1, task, member, (FailedTask.isOf_iff.mp isIt).1, resolved⟩

theorem RetriedOnce.received (before : RetriedOnce system taskId) {request : FailedTaskRequest}
    (apart : RetriesApart system (.receive request)) :
    RetriedOnce { system with sessions := system.sessions ++ [system.received request] }
      taskId := by
  have old : ∀ index orgId phase, index < system.sessions.length →
      (FailedTaskSystem.RetriesAt
        { system with sessions := system.sessions ++ [system.received request] }
        taskId index orgId phase ↔ system.RetriesAt taskId index orgId phase) := by
    intro index orgId phase below
    simp only [FailedTaskSystem.RetriesAt, List.getElem?_append_left below]
  have beyond : ∀ index orgId phase, system.sessions.length ≤ index →
      ¬ system.RetriesAt taskId index orgId phase := by
    rintro index orgId phase above ⟨subject, found⟩
    rw [List.getElem?_eq_none above] at found
    cases found
  have new : ∀ index orgId phase, system.sessions.length ≤ index →
      FailedTaskSystem.RetriesAt
        { system with sessions := system.sessions ++ [system.received request] }
        taskId index orgId phase →
      index = system.sessions.length ∧ phase = .selecting ∧ ∃ subject,
        request = .retry subject taskId := by
    rintro index orgId phase above ⟨subject, found⟩
    rw [List.getElem?_append_right above] at found
    have first : index - system.sessions.length = 0 := by
      have bound := (List.getElem?_eq_some_iff.mp found).1
      rw [List.length_singleton] at bound
      omega
    rw [first] at found
    have isIt : system.received request = .running (.retry subject taskId) orgId phase :=
      Option.some.inj found
    unfold FailedTaskSystem.received at isIt
    split at isIt
    · rw [TaskSession.running.injEq] at isIt
      obtain ⟨rfl, rfl, rfl⟩ := isIt
      exact ⟨by omega, rfl, subject, rfl⟩
    · cases isIt
  by_cases retries : ∃ subject, request = .retry subject taskId
  · obtain ⟨subject, rfl⟩ := retries
    have none := apart
    have onlyNew : ∀ index orgId phase, FailedTaskSystem.RetriesAt
        { system with sessions := system.sessions ++ [system.received (.retry subject taskId)] }
        taskId index orgId phase → index = system.sessions.length ∧ phase = .selecting := by
      intro index orgId phase there
      rcases lt_or_ge index system.sessions.length with below | above
      · exact absurd ((old index orgId phase below).mp there) (none index orgId phase)
      · obtain ⟨position, first, _⟩ := new index orgId phase above there
        exact ⟨position, first⟩
    refine ⟨before.key, fun left right _ _ _ _ leftAt rightAt => ?_, fun index orgId phase there =>
      ?_, fun _ => before.idle none⟩
    · rw [(onlyNew _ _ _ leftAt).1, (onlyNew _ _ _ rightAt).1]
    · rw [(onlyNew _ _ _ there).2]
      exact before.idle none
  · refine before.unchanged before.key (.refl _) rfl fun index orgId phase => ?_
    rcases lt_or_ge index system.sessions.length with below | above
    · exact old index orgId phase below
    · constructor
      · intro there
        exact absurd (new index orgId phase above there).2.2 retries
      · exact fun there => absurd there (beyond index orgId phase above)

theorem id_handleFailedTask {accounts : AccountDatabase} {call : FailedTaskCall}
    {failedAt : Time} {id : Int} {task : FailedTask Time}
    (stored : library.handleFailedTask accounts call failedAt id = some task) : task.id = id := by
  simp only [FailedTaskLibrary.handleFailedTask, Option.bind_eq_bind, Option.bind_eq_some_iff,
    Option.guard_eq_some', Option.pure_def, Option.some.injEq] at stored
  obtain ⟨_, _, _, _, _, _, _, _, rfl⟩ := stored
  rfl

theorem RetriedOnce.step (before : RetriedOnce system taskId) {action : FailedTaskAction Time}
    (apart : RetriesApart system action)
    (stepped : system.step library action = some next) : RetriedOnce next taskId := by
  cases change_of_taskStep stepped with
  | accounts => exact before.unchanged before.key (.refl _) rfl fun _ _ _ => Iff.rfl
  | idle => exact before
  | recorded call failedAt task stored =>
      have grow : TasksGrow system.tasks (system.tasks ++ [task]) :=
        fun other member => ⟨other.resolved, List.mem_append_left _ member, id⟩
      exact before.unchanged (before.key.append (id_handleFailedTask stored)) grow rfl
        fun _ _ _ => Iff.rfl
  | received request => exact before.received apart
  | lost index request orgId phase found =>
      by_cases retries : ∃ subject, request = .retry subject taskId
      · obtain ⟨subject, rfl⟩ := retries
        have here : system.RetriesAt taskId index orgId phase := ⟨subject, found⟩
        have sent := before.going index orgId phase here
        refine before.ended here before.key (fun otherOrg otherPhase there => ?_)
          (fun other _ _ different there =>
            (retriesAt_setSession_ne (Ne.symm different) _).mp there) ?_
        · obtain ⟨_, impossible⟩ := (retriesAt_setSession_self found _).mp there
          cases impossible
        · cases phase with
          | resolving => exact sent.elim
          | selecting => exact sent
          | checking payload => exact Or.inl sent.1
          | kicking payload => exact Or.inl sent.1
          | settling => exact absurd found (apart _ orgId)
      · have other : ∀ subject, request ≠ .retry subject taskId := fun subject same =>
          retries ⟨subject, same⟩
        exact before.unchanged before.key (.refl _) rfl
          (retriesAt_other found other fun _ _ _ impossible => by cases impossible)
  | advanced index request orgId phase session tasks batches found how =>
      by_cases retries : ∃ subject, request = .retry subject taskId
      · obtain ⟨subject, rfl⟩ := retries
        exact before.advancedRetry found how
      · exact before.advancedOther found how fun subject same => retries ⟨subject, same⟩

/-- Where no two retries of a row overlap, and none is lost between its kick and its update,
at most one batch is sent for a row, and none for a row that is left unresolved while no
retry of it is going on. -/
theorem retried_once {accounts : AccountDatabase} {tasks : List (FailedTask Time)} {nextId : Int}
    (key : PrimaryKey tasks nextId) {actions : List (FailedTaskAction Time)}
    (apart : (library.machine Time).Along RetriesApart (.fresh accounts tasks nextId) actions)
    {final : FailedTaskSystem Time}
    (ran : (library.machine Time).run (.fresh accounts tasks nextId) actions = some final)
    (taskId : Int) :
    sentCount taskId final.batches ≤ 1 ∧
    (¬ Settled final.tasks taskId →
      (∀ index orgId phase, ¬ final.RetriesAt taskId index orgId phase) →
        sentCount taskId final.batches = 0) := by
  have initial : RetriedOnce (.fresh accounts tasks nextId : FailedTaskSystem Time) taskId := by
    have none : ∀ index orgId phase, ¬ FailedTaskSystem.RetriesAt
        (.fresh accounts tasks nextId : FailedTaskSystem Time) taskId index orgId phase := by
      rintro index orgId phase ⟨subject, found⟩
      cases found
    exact ⟨key, fun _ _ _ _ _ _ leftAt => absurd leftAt (none _ _ _),
      fun _ _ _ there => absurd there (none _ _ _), fun _ => Or.inl rfl⟩
  have once : RetriedOnce final taskId :=
    Machine.run_invariant _ (fun system => RetriedOnce system taskId)
      (fun _ _ _ before meets stepped => before.step meets stepped) initial apart ran
  by_cases going : ∃ index orgId phase, final.RetriesAt taskId index orgId phase
  · obtain ⟨index, orgId, phase, there⟩ := going
    exact ⟨(once.going index orgId phase there).le_one,
      fun _ none => absurd there (none index orgId phase)⟩
  · have none : ∀ index orgId phase, ¬ final.RetriesAt taskId index orgId phase :=
      fun index orgId phase there => going ⟨index, orgId, phase, there⟩
    rcases once.idle none with zero | ⟨one, settled⟩
    · exact ⟨by omega, fun _ _ => zero⟩
    · exact ⟨by omega, fun open' _ => absurd settled open'⟩

/-! ### Retries that overlap -/

/-- A retry from its first statement to its kick, where nothing refuses it. -/
theorem run_kick {subject : UUID} {user : SignedInUser}
    (admin : requireAdmin system.accounts.users subject = .ok user) {task : FailedTask Time}
    (found : system.tasks.find? (FailedTask.isOf user.orgId taskId) = some task)
    {payload : RetryPayload} (read : library.readRetry task = .ok payload) {projectId : UUID}
    (parsed : payload.projectUuid? = some projectId)
    (owned : ownsProject system.accounts user.orgId projectId = true) :
    (library.machine Time).run system [.receive (.retry subject taskId),
        .advance system.sessions.length, .advance system.sessions.length,
        .advance system.sessions.length] = some { system with
      sessions := system.sessions ++ [.running (.retry subject taskId) user.orgId .settling]
      batches := system.batches ++
        [⟨system.sessions.length, .retry subject taskId, user.orgId, payload⟩] } := by
  simp only [Machine.run, FailedTaskLibrary.machine, FailedTaskSystem.step,
    FailedTaskSystem.received, FailedTaskRequest.subject, admin, FailedTaskRequest.firstPhase,
    FailedTaskSystem.advance, FailedTaskSystem.selected, FailedTaskRequest.taskId, found, read,
    FailedTaskSystem.checked, parsed, owned, FailedTaskSystem.setSession,
    List.getElem?_concat_length, List.set_append_right _ _ (Nat.le_refl _), Nat.sub_self,
    List.set_cons_zero, Option.bind_some, if_true]

/-- The update of a retry, where its row is there. -/
theorem step_settle {index : Nat} {request : FailedTaskRequest} {orgId : UUID}
    (found : system.sessions[index]? = some (.running request orgId .settling))
    (stored : ∃ task ∈ system.tasks, task.isOf orgId request.taskId = true) :
    ∃ tasks, (library.machine Time).step system (.advance index) =
        some { system.setSession index (.ended request (.ok ())) with tasks := tasks } ∧
      ∃ task ∈ tasks, task.isOf orgId request.taskId = true := by
  obtain ⟨task, member, isIt⟩ := stored
  have isFound : system.tasks.any (FailedTask.isOf orgId request.taskId) = true :=
    List.any_eq_true.mpr ⟨task, member, isIt⟩
  obtain ⟨tasks, marked⟩ : ∃ tasks, markResolved? orgId request.taskId system.tasks = some tasks :=
    ⟨_, if_pos isFound⟩
  refine ⟨tasks, ?_, (markResolved?_grow marked).exists_isOf ⟨task, member, isIt⟩⟩
  simp only [FailedTaskLibrary.machine, FailedTaskSystem.step, found, FailedTaskSystem.advance,
    FailedTaskSystem.settle, marked]

/-- Induction on the sessions that have not settled. -/
theorem run_settle (library : FailedTaskLibrary) {request : FailedTaskRequest} {orgId : UUID}
    (open' : Nat) (ended : List TaskSession) (system : FailedTaskSystem Time)
    (sessions : system.sessions =
      ended ++ List.replicate open' (.running request orgId .settling))
    (stored : ∃ task ∈ system.tasks, task.isOf orgId request.taskId = true) :
    ∃ actions final, (library.machine Time).run system actions = some final ∧
      final.batches = system.batches ∧
      final.sessions = ended ++ List.replicate open' (.ended request (.ok ())) := by
  induction open' generalizing ended system with
  | zero => exact ⟨[], system, rfl, rfl, sessions⟩
  | succ open' inductionHypothesis =>
      have found : system.sessions[ended.length]? = some (.running request orgId .settling) := by
        rw [sessions, List.replicate_succ, List.getElem?_append_right (Nat.le_refl _),
          Nat.sub_self, List.getElem?_cons_zero]
      obtain ⟨tasks, stepped, still⟩ := step_settle found stored
      have moved : (system.setSession ended.length (.ended request (.ok ()))).sessions =
          (ended ++ [.ended request (.ok ())]) ++
            List.replicate open' (.running request orgId .settling) := by
        rw [FailedTaskSystem.setSession, sessions, List.set_append_right _ _ (Nat.le_refl _),
          Nat.sub_self, List.replicate_succ, List.set_cons_zero, List.append_assoc,
          List.singleton_append]
      obtain ⟨actions, final, ran, batches, all⟩ :=
        inductionHypothesis _ { system.setSession ended.length (.ended request (.ok ())) with
          tasks := tasks } moved still
      refine ⟨.advance ended.length :: actions, final, Machine.run_cons _ |>.mpr ⟨_, stepped, ran⟩,
        batches, ?_⟩
      rw [all, List.replicate_succ, List.append_assoc, List.singleton_append]

/-- Nothing keeps retries of one row apart: for every count there is a run in which that many
retries of an admin succeed and each of them sends the same batch, whenever one would. -/
theorem retries_overlap {accounts : AccountDatabase} {tasks : List (FailedTask Time)}
    {subject : UUID} {user : SignedInUser}
    (admin : requireAdmin accounts.users subject = .ok user) {task : FailedTask Time}
    (found : tasks.find? (FailedTask.isOf user.orgId taskId) = some task) {payload : RetryPayload}
    (read : library.readRetry task = .ok payload) {projectId : UUID}
    (parsed : payload.projectUuid? = some projectId)
    (owned : ownsProject accounts user.orgId projectId = true) (nextId : Int) (count : Nat) :
    ∃ actions final,
      (library.machine Time).run (.fresh accounts tasks nextId) actions = some final ∧
      final.sessions = List.replicate count (.ended (.retry subject taskId) (.ok ())) ∧
      final.batches.map RetriedBatch.payload = List.replicate count payload ∧
      sentCount taskId final.batches = count := by
  -- All of them are received and kick before the first one settles.
  have kicks : ∀ number : Nat, ∃ actions middle,
      (library.machine Time).run (.fresh accounts tasks nextId) actions = some middle ∧
      middle.accounts = accounts ∧ middle.tasks = tasks ∧
      middle.sessions =
        List.replicate number (.running (.retry subject taskId) user.orgId .settling) ∧
      middle.batches.map RetriedBatch.payload = List.replicate number payload ∧
      sentCount taskId middle.batches = number := by
    intro number
    induction number with
    | zero => exact ⟨[], _, rfl, rfl, rfl, rfl, rfl, rfl⟩
    | succ number inductionHypothesis =>
        obtain ⟨actions, middle, ran, rfl, rfl, sessions, payloads, sent⟩ := inductionHypothesis
        have further := run_kick admin found read parsed owned
        refine ⟨_, _, Machine.run_append _ |>.mpr ⟨middle, ran, further⟩, rfl, rfl, ?_, ?_, ?_⟩
        · rw [sessions, List.replicate_succ']
        · rw [List.map_append, payloads, List.replicate_succ']
          rfl
        · have counted : RetriedBatch.isOf taskId
              ⟨middle.sessions.length, .retry subject taskId, user.orgId, payload⟩ = true :=
            decide_eq_true rfl
          rw [sentCount_append, counted, sent]
          rfl
  obtain ⟨first, middle, ran, rfl, rfl, sessions, payloads, sent⟩ := kicks count
  have stored : ∃ task ∈ middle.tasks, task.isOf user.orgId taskId = true :=
    ⟨task, List.mem_of_find?_eq_some found, List.find?_some found⟩
  obtain ⟨second, final, settled, batches, ended⟩ :=
    run_settle library count [] middle sessions stored
  refine ⟨first ++ second, final, Machine.run_append _ |>.mpr ⟨middle, ran, settled⟩, ended, ?_, ?_⟩
  · rw [batches, payloads]
  · rw [batches, sent]

end Once

/-! ### A row with its spans -/

/-- A row that was stored with its spans. -/
def storedBatch : FailedTask Int where
  id := 1
  orgId := some 7
  projectId := some 5
  taskName := "app.workers.process_span:process_span_batch"
  taskArgs := some "\x7b\"batch_id\": \"batch-1\", \"spans\": []\x7d"
  error := some "boom"
  attempts := some 3
  failedAt := 0
  resolved := false

/-- The admin retries it, from the first statement to the last. -/
def oneRetry : List (FailedTaskAction Int) :=
  .receive (.retry 1 1) :: List.replicate 4 (.advance 0)

theorem oneRetry_ran : ∃ final, (FailedTaskLibrary.plain.machine Int).run
    (.fresh oneAdminProject [storedBatch] 2) oneRetry = some final ∧ final.batches.length = 1 := by
  obtain ⟨final, reached⟩ : ∃ final, (FailedTaskLibrary.plain.machine Int).run
      (.fresh oneAdminProject [storedBatch] 2) oneRetry = some final :=
    Option.isSome_iff_exists.mp (by decide +kernel)
  have sent : ((FailedTaskLibrary.plain.machine Int).run
      (.fresh oneAdminProject [storedBatch] 2) oneRetry).map
        (fun final => final.batches.length) = some 1 := by decide +kernel
  rw [reached, Option.map_some, Option.some.injEq] at sent
  exact ⟨final, reached, sent⟩

theorem retries_traced_storedBatch :
    ∃ final, (FailedTaskLibrary.plain.machine Int).run (.fresh oneAdminProject [storedBatch] 2)
        oneRetry = some final ∧ final.batches.length = 1 ∧
      ∀ batch ∈ final.batches, PayloadOf FailedTaskLibrary.plain final.tasks batch.orgId
        batch.request.taskId batch.payload := by
  obtain ⟨final, reached, sent⟩ := oneRetry_ran
  exact ⟨final, reached, sent, fun batch member => ((retries_traced reached).1 batch member).2.2.2⟩

theorem retried_once_storedBatch :
    ∃ final, (FailedTaskLibrary.plain.machine Int).run (.fresh oneAdminProject [storedBatch] 2)
        oneRetry = some final ∧ sentCount 1 final.batches ≤ 1 := by
  obtain ⟨final, reached, _⟩ := oneRetry_ran
  have key : PrimaryKey [storedBatch] 2 := ⟨by decide, by simp [storedBatch]⟩
  have apart : (FailedTaskLibrary.plain.machine Int).Along RetriesApart
      (.fresh oneAdminProject [storedBatch] 2) oneRetry := by
    refine ⟨?_, fun next _ => Machine.along_of_forall _ (fun action member _ => ?_) next⟩
    · rintro index orgId phase ⟨subject, found⟩
      cases found
    · rw [List.eq_of_mem_replicate member]
      trivial
  exact ⟨final, reached, (retried_once key apart reached 1).1⟩

/-- What a retry reads from the row. -/
def storedPayload : RetryPayload :=
  ⟨.str (.ofString "batch-1"), .str (.ofString (5 : UUID).str), []⟩

theorem retries_overlap_twice :
    ∃ actions final, (FailedTaskLibrary.plain.machine Int).run
        (.fresh oneAdminProject [storedBatch] 2) actions = some final ∧
      sentCount 1 final.batches = 2 := by
  have admin : requireAdmin oneAdminProject.users 1 = .ok ⟨⟨7, "admin"⟩, 1⟩ := rfl
  have found : [storedBatch].find? (FailedTask.isOf 7 1) = some storedBatch := rfl
  have read : FailedTaskLibrary.plain.readRetry storedBatch = .ok storedPayload := by rfl
  have parsed : storedPayload.projectUuid? = some 5 := by decide +kernel
  have owned : ownsProject oneAdminProject 7 5 = true := by decide +kernel
  obtain ⟨actions, final, ran, _, _, sent⟩ := retries_overlap admin found read parsed owned 2 2
  exact ⟨actions, final, ran, sent⟩

end LlmObs.Backend
