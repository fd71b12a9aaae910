import LlmObs.Backend.Api.FailedTasks
import LlmObs.Foundation.OrderedLimit
import LlmObs.Foundation.Outcome

/-!
Owns the listing of failed tasks: which rows an admin is shown and what is shown of their
arguments, which is the summary that was recorded, or its text where it was cut.
-/

namespace LlmObs.Backend

open LlmObs.Foundation
open JsonScanner (Value openContainers)

/-! ### The endpoint -/

/-- The query parameters of `list_failed_tasks`. -/
structure FailedTaskQuery where
  projectId : Option String
  includeResolved : Bool
  limit : Nat
deriving DecidableEq, Repr

/-- `task_args` of a `FailedTaskResponse`. -/
inductive ShownArgs where
  | none
  | document (entries : List (PyStr × Value))
  /-- A dictionary with the text as its `summary`. -/
  | summary (text : String)

/-- `FailedTaskResponse` -/
structure ShownFailedTask (Time : Type) where
  id : Int
  taskName : String
  projectId : Option String
  taskArgs : ShownArgs
  error : Option String
  attempts : Option Nat
  failedAt : Time
  resolved : Bool

/-- The `WHERE` clause of the listing. -/
def FailedTaskQuery.selects {Time : Type} (query : FailedTaskQuery) (orgId : UUID)
    (projectId : Option UUID) (task : FailedTask Time) : Bool :=
  task.orgId = some orgId && (projectId.all fun id => task.projectId = some id) &&
    (query.includeResolved || !task.resolved)

/-- `ORDER BY failed_at DESC` -/
def NewestFirst {Time : Type} [LE Time] (first second : FailedTask Time) : Prop :=
  second.failedAt ≤ first.failedAt

/-- The project of the query, once it is found among those of the organisation. -/
def FailedTaskQuery.project (query : FailedTaskQuery) (accounts : AccountDatabase)
    (orgId : UUID) : Except AccountsError (Option UUID) :=
  match query.projectId with
  | none => .ok none
  | some text =>
      match UUID.ofText? text with
      | none => .error invalidUuid
      | some projectId =>
          if ownsProject accounts orgId projectId then .ok (some projectId)
          else .error projectNotFound

namespace FailedTaskLibrary

variable (library : FailedTaskLibrary) {Time : Type}

/-- `task_args` of the row; a document that is neither an object nor `null` is refused by the
response model. -/
def serializeArgs : Option String → Except AccountsError ShownArgs
  | none => .ok .none
  | some text =>
      match JsonScanner.loads library.recursionLimit text.toList with
      | .error .valueError => .ok (.summary text)
      | .error (.recursionError _) =>
          .error (.raised ⟨.other, "maximum recursion depth exceeded"⟩)
      | .ok (.obj entries) => .ok (.document entries)
      | .ok .null => .ok .none
      | .ok _ => .error (.raised ⟨.valueError, "Input should be a valid dictionary"⟩)

def serializeFailedTask (task : FailedTask Time) : Except AccountsError (ShownFailedTask Time) := do
  let taskArgs ← library.serializeArgs task.taskArgs
  return {
    id := task.id
    taskName := task.taskName
    projectId := task.projectId.map UUID.str
    taskArgs := taskArgs
    error := task.error
    attempts := task.attempts
    failedAt := task.failedAt
    resolved := task.resolved }

/-- `list_failed_tasks` for an admin of `orgId`. `select` is what the database answers for a
`WHERE` clause. -/
def listFailedTasks (accounts : AccountDatabase) (orgId : UUID) (query : FailedTaskQuery)
    (select : (FailedTask Time → Bool) → List (FailedTask Time)) :
    Except AccountsError (List (ShownFailedTask Time)) := do
  let projectId ← query.project accounts orgId
  (select (query.selects orgId projectId)).mapM library.serializeFailedTask

end FailedTaskLibrary

/-! ### What is shown of recorded rows -/

section Recorded

variable {library : FailedTaskLibrary} {Time : Type}

/-- The row was recorded with these arguments, which nest no deeper than `json.loads` goes. -/
structure RecordedWith (library : FailedTaskLibrary) (task : FailedTask Time)
    (taskArgs : TaskArgs Json) : Prop where
  writable : intsWritable (argsDocument (summarizeTaskArgs library.toLowerCase taskArgs)) = true
  room : openContainers (argsDocument (summarizeTaskArgs library.toLowerCase taskArgs)) ≤
    library.recursionLimit
  stored : task.taskArgs = some (prefixText maxSummaryLength
    (library.dumps (summarizeTaskArgs library.toLowerCase taskArgs)))

/-- What an admin is shown of the arguments: the summary, or the beginning of its text. -/
def FailedTaskLibrary.shownArgs (library : FailedTaskLibrary) (taskArgs : TaskArgs Json) :
    ShownArgs :=
  let summary := summarizeTaskArgs library.toLowerCase taskArgs
  if (library.dumps summary).length ≤ maxSummaryLength then
    .document (JsonScanner.ofJsonEntries library.floatRepr
      (summary.entries.map fun entry => (entry.1, entry.2.toJson)))
  else .summary (prefixText maxSummaryLength (library.dumps summary))

/-- The text of a summary is read whole, or not at all. -/
theorem serializeArgs_recorded {task : FailedTask Time} {taskArgs : TaskArgs Json}
    (recorded : RecordedWith library task taskArgs) :
    library.serializeArgs task.taskArgs = .ok (library.shownArgs taskArgs) := by
  have written := written_of_writable library.isNumber_floatRepr _ recorded.writable
  have room := recorded.room
  rw [recorded.stored, FailedTaskLibrary.serializeArgs, FailedTaskLibrary.shownArgs]
  generalize summarizeTaskArgs library.toLowerCase taskArgs = summary at room written ⊢
  have characters : (prefixText maxSummaryLength (library.dumps summary)).toList =
      ((argsDocument summary).dumpsDefault library.floatRepr).take maxSummaryLength := by
    rw [prefixText, FailedTaskLibrary.dumps, String.toList_ofList, String.toList_ofList]
  have length : (library.dumps summary).length =
      ((argsDocument summary).dumpsDefault library.floatRepr).length := by
    rw [FailedTaskLibrary.dumps, String.length_ofList]
  rw [characters, length]
  by_cases fits : ((argsDocument summary).dumpsDefault library.floatRepr).length ≤ maxSummaryLength
  · rw [List.take_of_length_le fits, JsonScanner.loads_dumps _ written room, if_pos fits]
    rfl
  · have split := List.take_append_drop maxSummaryLength
      ((argsDocument summary).dumpsDefault library.floatRepr)
    have lost : ((argsDocument summary).dumpsDefault library.floatRepr).drop maxSummaryLength ≠
        [] := by
      rw [Ne, List.drop_eq_nil_iff]
      exact fits
    rw [JsonScanner.loads_cut_object written room split lost, if_neg fits]

/-- The row as it is shown. -/
structure Shows (library : FailedTaskLibrary) (task : FailedTask Time)
    (shown : ShownFailedTask Time) : Prop where
  id : shown.id = task.id
  failedAt : shown.failedAt = task.failedAt
  resolved : shown.resolved = task.resolved
  taskArgs : ∃ taskArgs, RecordedWith library task taskArgs ∧
    shown.taskArgs = library.shownArgs taskArgs

theorem serializeFailedTask_recorded {task : FailedTask Time} {taskArgs : TaskArgs Json}
    (recorded : RecordedWith library task taskArgs) :
    ∃ shown, library.serializeFailedTask task = .ok shown ∧ Shows library task shown := by
  rw [FailedTaskLibrary.serializeFailedTask, serializeArgs_recorded recorded]
  exact ⟨_, rfl, rfl, rfl, rfl, taskArgs, recorded, rfl⟩

/-- An admin who lists recorded rows of no project or of an own one is answered, in whatever
order the database returns rows of one time: with rows of the own organisation and of that
project, unresolved ones unless all are asked for, as many as the limit allows, the newest
first, none left out that is newer, each with its summary, or with the beginning of the
summary's text where it was cut. -/
theorem listFailedTasks_shows [LE Time] {tasks : List (FailedTask Time)}
    (recorded : ∀ task ∈ tasks, ∃ taskArgs, RecordedWith library task taskArgs)
    {accounts : AccountDatabase} {orgId : UUID} {query : FailedTaskQuery} {projectId : Option UUID}
    (found : query.project accounts orgId = .ok projectId)
    {select : (FailedTask Time → Bool) → List (FailedTask Time)}
    (answers : ∀ filter, IsTop NewestFirst query.limit (tasks.filter filter) (select filter)) :
    ∃ answer shown, library.listFailedTasks accounts orgId query select = .ok shown ∧
      List.Forall₂ (Shows library) answer shown ∧ answer.Pairwise NewestFirst ∧
      answer.length = min query.limit (tasks.countP (query.selects orgId projectId)) ∧
      (∀ task ∈ answer, task ∈ tasks ∧ task.orgId = some orgId ∧
        (∀ id, projectId = some id → task.projectId = some id) ∧
        (query.includeResolved = false → task.resolved = false)) ∧
      ∀ task ∈ tasks, query.selects orgId projectId task = true → task ∉ answer →
        ∀ first ∈ answer, NewestFirst first task := by
  have top := answers (query.selects orgId projectId)
  have each : ∀ task ∈ select (query.selects orgId projectId), ∃ shown,
      library.serializeFailedTask task = .ok shown ∧ Shows library task shown := by
    intro task member
    obtain ⟨taskArgs, with'⟩ := recorded task (List.mem_filter.mp (top.mem member)).1
    exact serializeFailedTask_recorded with'
  obtain ⟨shown, pairs⟩ := exists_forall₂_iff.mpr each
  refine ⟨select (query.selects orgId projectId), shown, ?_, pairs.imp fun _ _ facts => facts.2,
    top.pairwise, ?_, fun task member => ?_, fun task member selected leftOut first here => ?_⟩
  · rw [FailedTaskLibrary.listFailedTasks, found, ok_bind]
    exact mapM_eq_ok_iff.mpr (pairs.imp fun _ _ facts => facts.1)
  · rw [top.length, List.countP_eq_length_filter]
  · obtain ⟨stored, selected⟩ := List.mem_filter.mp (top.mem member)
    simp only [FailedTaskQuery.selects, Bool.and_eq_true, decide_eq_true_eq, Bool.or_eq_true,
      Bool.not_eq_true', Option.all_eq_true] at selected
    refine ⟨stored, selected.1.1, fun id same => ?_, fun unresolvedOnly => ?_⟩
    · simpa using selected.1.2 id same
    · rcases selected.2 with all | unresolved
      · rw [unresolvedOnly] at all
        cases all
      · exact unresolved
  · exact (top.le_of_notMem (List.mem_filter.mpr ⟨member, selected⟩) leftOut).2 first here

end Recorded

/-- The batch that the worker has recorded, listed by the admin. -/
theorem listFailedTasks_shows_failedBatch :
    ∃ task, FailedTaskLibrary.plain.handleFailedTask oneAdminProject failedBatch (0 : Int) 1 =
        some task ∧
      ∃ shown, FailedTaskLibrary.plain.listFailedTasks oneAdminProject 7 ⟨none, false, 100⟩
        (fun filter => [task].filter filter) = .ok shown := by
  obtain ⟨task, stored⟩ : ∃ task, FailedTaskLibrary.plain.handleFailedTask oneAdminProject
      failedBatch (0 : Int) 1 = some task := Option.isSome_iff_exists.mp (by decide +kernel)
  have recorded : RecordedWith FailedTaskLibrary.plain task failedBatch.taskArgs := by
    refine ⟨by decide +kernel, by decide +kernel, ?_⟩
    simp only [FailedTaskLibrary.handleFailedTask, Option.bind_eq_bind, Option.bind_eq_some_iff,
      Option.pure_def, Option.some.injEq] at stored
    obtain ⟨_, _, _, _, _, _, _, _, rfl⟩ := stored
    rfl
  have few : ∀ filter : FailedTask Int → Bool, IsTop NewestFirst 100 ([task].filter filter)
      ([task].filter filter) := by
    intro filter
    have short : ([task].filter filter).length ≤ 1 := List.length_filter_le _ _
    refine ⟨_, .refl _, ?_, (List.take_of_length_le (by omega)).symm⟩
    exact (List.pairwise_singleton NewestFirst task).filter filter
  have all : ∀ task' ∈ [task], ∃ taskArgs,
      RecordedWith FailedTaskLibrary.plain task' taskArgs := by
    intro task' member
    rw [List.mem_singleton.mp member]
    exact ⟨_, recorded⟩
  have noProject : (⟨none, false, 100⟩ : FailedTaskQuery).project oneAdminProject 7 = .ok none :=
    rfl
  obtain ⟨_, shown, listed, _⟩ := listFailedTasks_shows all noProject few
  exact ⟨task, stored, shown, listed⟩

end LlmObs.Backend
