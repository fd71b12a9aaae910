import LlmObs.Backend.Core.Accounts
import LlmObs.Backend.Services.FailedTasks
import LlmObs.Backend.Services.TraceCursor
import LlmObs.Foundation.JsonLoads
import LlmObs.Foundation.Machine

/-!
Owns the failed tasks from the row that the dead-letter worker stores to the requests of
admins: what resolves a row, what a retry sends to the queue, and what is left of the
arguments to retry, under any order of the statements of any number of requests.
-/

namespace LlmObs.Backend

open LlmObs.Foundation
open JsonScanner (Value Written WrittenEntries IsNumber openContainers)

/-! ### The table -/

/-- A row of `failed_tasks`. -/
structure FailedTask (Time : Type) where
  id : Int
  orgId : Option UUID
  projectId : Option UUID
  taskName : String
  taskArgs : Option String
  error : Option String
  attempts : Option Nat
  failedAt : Time
  resolved : Bool

/-- What the worker and the endpoints take from their Python library. -/
structure FailedTaskLibrary extends LowerCase where
  /-- `float.__repr__` -/
  floatRepr : ℚ → String
  isNumber_floatRepr : ∀ value, IsNumber (floatRepr value).toList
  /-- How many containers `json.loads` may have open below the caller's frames. -/
  recursionLimit : Nat
  recursionLimit_pos : 1 ≤ recursionLimit
  /-- `str` of a JSON value that is not a text. -/
  reprStr : Value → PyStr
  /-- `str` of an argument that is not a text. -/
  reprArg : TaskArg Json → String
  /-- `float(literal) == 0` -/
  isZero : List Char → Bool

/-! ### The dead-letter worker -/

/-- What `handle_failed_task` is called with. -/
structure FailedTaskCall where
  taskName : String
  taskArgs : TaskArgs Json
  error : String
  attempts : Nat

/-- The document that `json.dumps` writes for an argument. -/
def TaskArg.toJson : TaskArg Json → Json
  | .scalar .none => .null
  | .scalar (.bool value) => .bool value
  | .scalar (.int value) => .int value
  | .scalar (.float value) => .float value
  | .scalar (.str text) => .str text
  | .list _ items => .arr items
  | .other _ content => content

/-- `bool(value)` -/
def TaskArg.isTrue : TaskArg Json → Bool
  | .scalar .none => false
  | .scalar (.bool value) => value
  | .scalar (.int value) => decide (value ≠ 0)
  | .scalar (.float value) => decide (value ≠ 0)
  | .scalar (.str text) => decide (text ≠ "")
  | .list _ items => !items.isEmpty
  | .other _ content => content.isTruthy

def argsDocument (taskArgs : TaskArgs Json) : Json :=
  .obj (taskArgs.entries.map fun entry => (entry.1, entry.2.toJson))

/-- `int.__repr__` writes that many digits. -/
def intWritable (value : Int) : Bool := decide (value.natAbs < 10 ^ JsonScanner.maxStrDigits)

mutual

/-- `json.dumps` finds no integer that `int.__repr__` refuses. -/
def intsWritable : Json → Bool
  | .int value => intWritable value
  | .arr items => itemsWritable items
  | .obj entries => entriesWritable entries
  | _ => true

def itemsWritable : List Json → Bool
  | [] => true
  | item :: rest => intsWritable item && itemsWritable rest

def entriesWritable : List (String × Json) → Bool
  | [] => true
  | (_, value) :: rest => intsWritable value && entriesWritable rest

end

/-- A nullable column of type `uuid`; `none` where the text is refused. -/
def optionalUuid? : Option String → Option (Option UUID)
  | none => some none
  | some text => (UUID.ofText? text).map some

namespace FailedTaskLibrary

variable (library : FailedTaskLibrary) {Time : Type}

/-- `str(value)` -/
def strArg : TaskArg Json → String
  | .scalar (.str text) => text
  | arg => library.reprArg arg

/-- `json.dumps(task_args, default=str)` -/
def dumps (taskArgs : TaskArgs Json) : String :=
  String.ofList ((argsDocument taskArgs).dumpsDefault library.floatRepr)

def env (accounts : AccountDatabase) : FailedTaskEnv Json where
  toLowerCase := library.toLowerCase
  dumps := library.dumps
  strIfTrue arg := if arg.isTrue then some (library.strArg arg) else none
  orgOf projectId := do
    let id ← UUID.ofText? projectId
    let project ← accounts.projects.rows.find? fun project => project.id = id
    return project.orgId.str

/-- The row that `handle_failed_task` commits; `none` where `json.dumps` or one of its
statements raises. -/
def handleFailedTask (accounts : AccountDatabase) (call : FailedTaskCall) (failedAt : Time)
    (id : Int) : Option (FailedTask Time) := do
  let row := recordFailedTask (library.env accounts) call.taskName call.taskArgs call.error
    call.attempts failedAt
  guard (intsWritable (argsDocument (summarizeTaskArgs library.toLowerCase call.taskArgs)))
  guard (row.taskName.length ≤ 255)
  let orgId ← optionalUuid? row.orgId
  let projectId ← optionalUuid? row.projectId
  return {
    id := id
    orgId := orgId
    projectId := projectId
    taskName := row.taskName
    taskArgs := some row.taskArgs
    error := some row.error
    attempts := some row.attempts
    failedAt := row.failedAt
    resolved := false }

end FailedTaskLibrary

/-! ### The endpoints -/

/-- `WHERE id = :task_id AND org_id = :org` -/
def FailedTask.isOf {Time : Type} (orgId : UUID) (taskId : Int) (task : FailedTask Time) : Bool :=
  task.id = taskId ∧ task.orgId = some orgId

def isProcessSpanBatchTask (taskName : String) : Bool :=
  taskName = "process_span_batch" || endsWithText ":process_span_batch" taskName

/-- `document.get(key)`; a later member of an object replaces an earlier one. -/
def memberOf? (entries : List (PyStr × Value)) (key : String) : Option Value :=
  (entries.reverse.find? fun entry => entry.1 = .ofString key).map Prod.snd

/-- What a retry reads from the arguments of a row. -/
structure RetryPayload where
  batchId : Value
  projectId : Value
  spans : List Value

def failedTaskNotFound : AccountsError := .http 404 "Failed task not found"

def projectNotFound : AccountsError := .http 404 "Project not found"

def alreadyResolved : AccountsError := .http 409 "Failed task is already resolved"

def cannotBeRetried : AccountsError := .http 409 "Failed task type cannot be retried"

def argumentsNotRetryable : AccountsError := .http 409 "Failed task arguments are not retryable"

def payloadNotAvailable : AccountsError :=
  .http 409 "Failed task payload is not available for retry"

namespace FailedTaskLibrary

variable (library : FailedTaskLibrary) {Time : Type}

/-- `bool(value)` -/
def isTrue : Value → Bool
  | .null => false
  | .bool value => value
  | .number literal => !library.isZero literal
  | .str text => !text.isEmpty
  | .arr items => !items.isEmpty
  | .obj entries => !entries.isEmpty

/-- `str(value)` -/
def str : Value → PyStr
  | .str text => text
  | value => library.reprStr value

/-- `value if value else None` -/
def ifTrue (value : Option Value) : Option Value := value.filter library.isTrue

/-- The arguments of the row, once `json.loads` has read an object. -/
def readMembers (projectId : Option UUID) (entries : List (PyStr × Value)) :
    Except AccountsError RetryPayload :=
  let stored : Option Value := projectId.map fun id => .str (.ofString id.str)
  match library.ifTrue (memberOf? entries "batch_id"),
      (library.ifTrue (memberOf? entries "project_id")).or stored, memberOf? entries "spans" with
  | some batchId, some projectId, some (.arr spans) => .ok ⟨batchId, projectId, spans⟩
  | _, _, _ => .error payloadNotAvailable

/-- The checks of `retry_failed_task` on the row that it has selected. -/
def readRetry (task : FailedTask Time) : Except AccountsError RetryPayload :=
  if task.resolved then .error alreadyResolved
  else if !isProcessSpanBatchTask task.taskName then .error cannotBeRetried
  else
    let text := match task.taskArgs with
      | some text => if text = "" then "\x7b\x7d" else text
      | none => "\x7b\x7d"
    match JsonScanner.loads library.recursionLimit text.toList with
    | .error .valueError => .error argumentsNotRetryable
    | .error (.recursionError _) =>
        .error (.raised ⟨.other, "maximum recursion depth exceeded"⟩)
    | .ok (.obj entries) => library.readMembers task.projectId entries
    | .ok _ => .error (.raised ⟨.other, "object has no attribute 'get'"⟩)

end FailedTaskLibrary

/-- The parameter `pid` of the project's `SELECT`; `none` where the driver refuses it. -/
def RetryPayload.projectUuid? (payload : RetryPayload) : Option UUID :=
  match payload.projectId with
  | .str text => (text.mapM char?).bind fun characters => UUID.ofText? (String.ofList characters)
  | _ => none

/-- `SELECT id FROM projects WHERE id = :pid AND org_id = :org` finds a row. -/
def ownsProject (accounts : AccountDatabase) (orgId projectId : UUID) : Bool :=
  accounts.projects.rows.any fun project => project.id = projectId ∧ project.orgId = orgId

/-- `UPDATE failed_tasks SET resolved = true .. RETURNING id`; `none` where no row is found. -/
def markResolved? {Time : Type} (orgId : UUID) (taskId : Int) (tasks : List (FailedTask Time)) :
    Option (List (FailedTask Time)) :=
  if tasks.any (FailedTask.isOf orgId taskId) then
    some (tasks.map fun task =>
      if task.isOf orgId taskId then { task with resolved := true } else task)
  else none

/-! ### Concurrent requests -/

/-- A request of the user `subject`. -/
inductive FailedTaskRequest where
  | resolve (subject : UUID) (taskId : Int)
  | retry (subject : UUID) (taskId : Int)
deriving DecidableEq, Repr

def FailedTaskRequest.subject : FailedTaskRequest → UUID
  | .resolve subject _ => subject
  | .retry subject _ => subject

def FailedTaskRequest.taskId : FailedTaskRequest → Int
  | .resolve _ taskId => taskId
  | .retry _ taskId => taskId

/-- What a request does next. -/
inductive TaskPhase where
  | resolving
  | selecting
  | checking (payload : RetryPayload)
  | kicking (payload : RetryPayload)
  /-- The update that follows the kick. -/
  | settling

def FailedTaskRequest.firstPhase : FailedTaskRequest → TaskPhase
  | .resolve _ _ => .resolving
  | .retry _ _ => .selecting

inductive TaskSession where
  /-- The user was an admin of `orgId`. -/
  | running (request : FailedTaskRequest) (orgId : UUID) (phase : TaskPhase)
  | ended (request : FailedTaskRequest) (result : Except AccountsError Unit)
  /-- A crash, a cancellation, or an exception of the broker. -/
  | lost (request : FailedTaskRequest)

/-- A message that a retry has sent to the queue. -/
structure RetriedBatch where
  session : Nat
  request : FailedTaskRequest
  orgId : UUID
  payload : RetryPayload

structure FailedTaskSystem (Time : Type) where
  accounts : AccountDatabase
  tasks : List (FailedTask Time)
  nextId : Int
  sessions : List TaskSession
  batches : List RetriedBatch

inductive FailedTaskAction (Time : Type) where
  /-- Other requests change the accounts. -/
  | accountsChange (accounts : AccountDatabase)
  /-- The worker handles a dead letter; it may fail for reasons of its own. -/
  | handleFailedTask (call : FailedTaskCall) (failedAt : Time) (interrupted : Bool)
  | receive (request : FailedTaskRequest)
  | advance (index : Nat)
  | lose (index : Nat)

namespace FailedTaskSystem

variable {Time : Type} (system : FailedTaskSystem Time)

/-- A system that no request has reached. -/
def fresh (accounts : AccountDatabase) (tasks : List (FailedTask Time)) (nextId : Int) :
    FailedTaskSystem Time :=
  ⟨accounts, tasks, nextId, [], []⟩

def setSession (index : Nat) (session : TaskSession) : FailedTaskSystem Time :=
  { system with sessions := system.sessions.set index session }

/-- The statement that ends a request: the row is resolved, or is not there. -/
def settle (index : Nat) (request : FailedTaskRequest) (orgId : UUID) : FailedTaskSystem Time :=
  match markResolved? orgId request.taskId system.tasks with
  | some tasks => { system.setSession index (.ended request (.ok ())) with tasks := tasks }
  | none => system.setSession index (.ended request (.error failedTaskNotFound))

/-- The phase behind the `SELECT` of the row, or how the request ends. -/
def selected (library : FailedTaskLibrary) (request : FailedTaskRequest) (orgId : UUID) :
    TaskSession :=
  match system.tasks.find? (FailedTask.isOf orgId request.taskId) with
  | none => .ended request (.error failedTaskNotFound)
  | some task =>
      match library.readRetry task with
      | .error error => .ended request (.error error)
      | .ok payload => .running request orgId (.checking payload)

/-- The phase behind the `SELECT` of the project, or how the request ends. -/
def checked (request : FailedTaskRequest) (orgId : UUID) (payload : RetryPayload) :
    TaskSession :=
  match payload.projectUuid? with
  | none => .ended request (.error invalidUuid)
  | some projectId =>
      if ownsProject system.accounts orgId projectId then
        .running request orgId (.kicking payload)
      else .ended request (.error projectNotFound)

def received (request : FailedTaskRequest) : TaskSession :=
  match requireAdmin system.accounts.users request.subject with
  | .ok user => .running request user.orgId request.firstPhase
  | .error error => .ended request (.error error)

/-- The next statement of a request, and its effect. -/
def advance (library : FailedTaskLibrary) (index : Nat) (request : FailedTaskRequest)
    (orgId : UUID) : TaskPhase → FailedTaskSystem Time
  | .resolving => system.settle index request orgId
  | .selecting => system.setSession index (system.selected library request orgId)
  | .checking payload => system.setSession index (system.checked request orgId payload)
  | .kicking payload =>
      { system.setSession index (.running request orgId .settling) with
        batches := system.batches ++ [⟨index, request, orgId, payload⟩] }
  | .settling => system.settle index request orgId

def step (library : FailedTaskLibrary) :
    FailedTaskAction Time → Option (FailedTaskSystem Time)
  | .accountsChange accounts => some { system with accounts := accounts }
  | .handleFailedTask call failedAt interrupted =>
      if interrupted then some system
      else
        match library.handleFailedTask system.accounts call failedAt system.nextId with
        | some task => some { system with
            tasks := system.tasks ++ [task]
            nextId := system.nextId + 1 }
        | none => some system
  | .receive request =>
      some { system with sessions := system.sessions ++ [system.received request] }
  | .advance index =>
      match system.sessions[index]? with
      | some (.running request orgId phase) => some (system.advance library index request orgId phase)
      | _ => none
  | .lose index =>
      match system.sessions[index]? with
      | some (.running request _ _) => some (system.setSession index (.lost request))
      | _ => none

end FailedTaskSystem

def FailedTaskLibrary.machine (library : FailedTaskLibrary) (Time : Type) :
    Machine (FailedTaskSystem Time) (FailedTaskAction Time) :=
  ⟨fun system => system.step library⟩

/-! ### What is left of the arguments -/

/-- A summary has no list under the key of the spans. -/
theorem spans_summarizeTaskArgs {lowerCase : LowerCase} {taskArgs : TaskArgs Json}
    {arg : TaskArg Json} (member : ("spans", arg) ∈ (summarizeTaskArgs lowerCase taskArgs).entries) :
    ∃ value, arg = .scalar value := by
  obtain ⟨⟨key, value⟩, _, summarized⟩ := List.mem_map.mp (Dict.mem_of_mem_ofEntries member)
  have notSafe : "spans" ∉ safeArgKeys := by decide
  dsimp only [summarizeArg] at summarized
  by_cases sensitive : isSensitiveKey lowerCase key
  · rw [if_pos sensitive] at summarized
    exact ⟨_, (Prod.mk.inj summarized).2.symm⟩
  · rw [if_neg sensitive] at summarized
    by_cases safe : key ∈ safeArgKeys
    · rw [if_pos safe] at summarized
      rw [(Prod.mk.inj summarized).1] at safe
      exact absurd safe notSafe
    · rw [if_neg safe] at summarized
      cases value with
      | scalar value => exact ⟨value, (Prod.mk.inj summarized).2.symm⟩
      | other typeName content => exact ⟨_, (Prod.mk.inj summarized).2.symm⟩
      | list typeName items =>
          dsimp only at summarized
          split at summarized
          · exact ⟨_, (Prod.mk.inj summarized).2.symm⟩
          · exact ⟨_, (Prod.mk.inj summarized).2.symm⟩

theorem isNumber_of_writable {value : Int} (writable : intWritable value = true) :
    IsNumber (toString value).toList := by
  rw [intWritable, decide_eq_true_eq] at writable
  exact JsonScanner.isNumber_int writable

mutual

theorem written_of_writable {floatRepr : ℚ → String}
    (floats : ∀ value, IsNumber (floatRepr value).toList) (document : Json) :
    intsWritable document = true → Written floatRepr document := by
  match document with
  | .int _ => exact isNumber_of_writable
  | .float value => exact fun _ => floats value
  | .arr items => exact writtenItems_of_writable floats items
  | .obj entries => exact writtenEntries_of_writable floats entries
  | .null => exact fun _ => trivial
  | .bool _ => exact fun _ => trivial
  | .str _ => exact fun _ => trivial

theorem writtenItems_of_writable {floatRepr : ℚ → String}
    (floats : ∀ value, IsNumber (floatRepr value).toList) (items : List Json) :
    itemsWritable items = true → JsonScanner.WrittenItems floatRepr items := by
  match items with
  | [] => exact fun _ => trivial
  | item :: rest =>
      intro writable
      rw [itemsWritable, Bool.and_eq_true] at writable
      exact ⟨written_of_writable floats item writable.1,
        writtenItems_of_writable floats rest writable.2⟩

theorem writtenEntries_of_writable {floatRepr : ℚ → String}
    (floats : ∀ value, IsNumber (floatRepr value).toList) (entries : List (String × Json)) :
    entriesWritable entries = true → WrittenEntries floatRepr entries := by
  match entries with
  | [] => exact fun _ => trivial
  | entry :: rest =>
      intro writable
      rw [entriesWritable, Bool.and_eq_true] at writable
      exact ⟨written_of_writable floats entry.2 writable.1,
        writtenEntries_of_writable floats rest writable.2⟩

end

/-- A member that is read was written. -/
theorem memberOf?_ofJsonEntries {floatRepr : ℚ → String} {entries : List (String × Json)}
    {key : String} {value : Value}
    (found : memberOf? (JsonScanner.ofJsonEntries floatRepr entries) key = some value) :
    ∃ document, (key, document) ∈ entries ∧ JsonScanner.ofJson floatRepr document = value := by
  obtain ⟨entry, first, rfl⟩ := Option.map_eq_some_iff.mp found
  have named : entry.1 = .ofString key := by simpa using List.find?_some first
  have member := List.mem_reverse.mp (List.mem_of_find?_eq_some first)
  clear first found
  induction entries with
  | nil => cases member
  | cons head rest inductionHypothesis =>
      rw [JsonScanner.ofJsonEntries] at member
      rcases List.mem_cons.mp member with here | later
      · have same : head.1 = key := by
          rw [here] at named
          have texts := List.map_injective_iff.mpr (fun _ _ equal => Char.toNat_inj.mp equal) named
          exact String.toList_inj.mp texts
        refine ⟨head.2, ?_, ?_⟩
        · rw [← same]
          exact List.mem_cons_self ..
        · rw [here]
      · obtain ⟨document, stored, read⟩ := inductionHypothesis later
        exact ⟨document, List.mem_cons_of_mem _ stored, read⟩

namespace FailedTaskLibrary

variable {library : FailedTaskLibrary} {Time : Type}

/-- The arguments of the row are what `record_failed_task` has made of some arguments. -/
def Recorded (library : FailedTaskLibrary) (task : FailedTask Time) : Prop :=
  ∃ taskArgs : TaskArgs Json,
    intsWritable (argsDocument (summarizeTaskArgs library.toLowerCase taskArgs)) = true ∧
    task.taskArgs = some (prefixText maxSummaryLength
      (library.dumps (summarizeTaskArgs library.toLowerCase taskArgs)))

theorem recorded_handleFailedTask {accounts : AccountDatabase} {call : FailedTaskCall}
    {failedAt : Time} {id : Int} {task : FailedTask Time}
    (stored : library.handleFailedTask accounts call failedAt id = some task) :
    library.Recorded task := by
  simp only [handleFailedTask, Option.bind_eq_bind, Option.bind_eq_some_iff,
    Option.guard_eq_some', Option.pure_def, Option.some.injEq] at stored
  obtain ⟨_, writable, _, _, _, _, _, _, rfl⟩ := stored
  exact ⟨call.taskArgs, writable, rfl⟩

theorem unresolved_handleFailedTask {accounts : AccountDatabase} {call : FailedTaskCall}
    {failedAt : Time} {id : Int} {task : FailedTask Time}
    (stored : library.handleFailedTask accounts call failedAt id = some task) :
    task.resolved = false := by
  simp only [handleFailedTask, Option.bind_eq_bind, Option.bind_eq_some_iff,
    Option.guard_eq_some', Option.pure_def, Option.some.injEq] at stored
  obtain ⟨_, _, _, _, _, _, _, _, rfl⟩ := stored
  rfl

/-- What `json.loads` reads from a summary that was cut to some length: the summary, and
nothing where something was cut off. -/
theorem loads_prefixText {taskArgs : TaskArgs Json} {length limit : Nat} {value : Value}
    (writable : intsWritable (argsDocument taskArgs) = true)
    (read : JsonScanner.loads limit (prefixText length (library.dumps taskArgs)).toList =
      .ok value) : value = JsonScanner.ofJson library.floatRepr (argsDocument taskArgs) := by
  have written := written_of_writable library.isNumber_floatRepr _ writable
  have room := Nat.le_max_right limit (openContainers (argsDocument taskArgs))
  have more := JsonScanner.loads_mono
    (Nat.le_max_left limit (openContainers (argsDocument taskArgs))) read
  have split := List.take_append_drop length
    ((argsDocument taskArgs).dumpsDefault library.floatRepr)
  rw [prefixText, dumps, String.toList_ofList, String.toList_ofList] at more
  by_cases whole : ((argsDocument taskArgs).dumpsDefault library.floatRepr).drop length = []
  · rw [whole, List.append_nil] at split
    rw [split, JsonScanner.loads_dumps _ written room] at more
    exact (Except.ok.inj more).symm
  · rw [JsonScanner.loads_cut_object written room split whole] at more
    cases more

/-- No retry gets past the arguments of a row that was recorded. -/
theorem readRetry_recorded {task : FailedTask Time} (recorded : library.Recorded task) :
    ∃ error, library.readRetry task = .error error := by
  obtain ⟨taskArgs, writable, stored⟩ := recorded
  have refused : ∀ entries : List (PyStr × Value),
      (∀ spans, memberOf? entries "spans" ≠ some (.arr spans)) →
        ∃ error, library.readMembers task.projectId entries = .error error := by
    intro entries noSpans
    rw [readMembers]
    split
    · rename_i spans _ _ found
      exact absurd found (noSpans spans)
    · exact ⟨_, rfl⟩
  rw [readRetry, stored]
  split
  · exact ⟨_, rfl⟩
  · split
    · exact ⟨_, rfl⟩
    · dsimp only
      split
      · exact ⟨_, rfl⟩
      · exact ⟨_, rfl⟩
      · rename_i entries read
        apply refused
        intro spans found
        split at read
        · have blank := JsonScanner.loads_dumps (.obj []) (written_of_writable
            library.isNumber_floatRepr (.obj []) rfl) library.recursionLimit_pos
          have empty : entries = [] := Value.obj.inj (Except.ok.inj (read.symm.trans blank))
          rw [empty] at found
          cases found
        · have same := loads_prefixText writable read
          rw [argsDocument, JsonScanner.ofJson, Value.obj.injEq] at same
          rw [same] at found
          obtain ⟨document, member, isArray⟩ := memberOf?_ofJsonEntries found
          obtain ⟨entry, listed, equal⟩ := List.mem_map.mp member
          obtain ⟨key, arg⟩ := entry
          obtain ⟨rfl, rfl⟩ := Prod.mk.inj equal
          obtain ⟨value, rfl⟩ := spans_summarizeTaskArgs listed
          cases value <;> cases isArray
      · exact ⟨_, rfl⟩

end FailedTaskLibrary

/-! ### Retries of recorded rows -/

section Recorded

variable {library : FailedTaskLibrary} {Time : Type} {system next : FailedTaskSystem Time}

theorem mem_setSession {index : Nat} {session other : TaskSession}
    (member : other ∈ (system.setSession index session).sessions) :
    other ∈ system.sessions ∨ other = session :=
  List.mem_or_eq_of_mem_set member

theorem settle_batches (index : Nat) (request : FailedTaskRequest) (orgId : UUID) :
    (system.settle index request orgId).batches = system.batches := by
  unfold FailedTaskSystem.settle
  split <;> rfl

/-- A row after the update is one before it, resolved at most. -/
theorem mem_markResolved? {orgId : UUID} {taskId : Int} {tasks updated : List (FailedTask Time)}
    (marked : markResolved? orgId taskId tasks = some updated) {task : FailedTask Time}
    (member : task ∈ updated) :
    ∃ before ∈ tasks, task = before ∨
      before.isOf orgId taskId = true ∧ task = { before with resolved := true } := by
  unfold markResolved? at marked
  split at marked
  · cases marked
    obtain ⟨before, stored, rfl⟩ := List.mem_map.mp member
    refine ⟨before, stored, ?_⟩
    split
    · rename_i isIt
      exact Or.inr ⟨isIt, rfl⟩
    · exact Or.inl rfl
  · cases marked

theorem mem_settle_tasks {index : Nat} {request : FailedTaskRequest} {orgId : UUID}
    {task : FailedTask Time} (member : task ∈ (system.settle index request orgId).tasks) :
    ∃ before ∈ system.tasks, task = before ∨
      before.isOf orgId request.taskId = true ∧ task = { before with resolved := true } := by
  unfold FailedTaskSystem.settle at member
  split at member
  · rename_i tasks marked
    exact mem_markResolved? marked member
  · exact ⟨task, member, Or.inl rfl⟩

/-- How the last statement leaves its session. -/
theorem mem_settle_sessions {index : Nat} {request : FailedTaskRequest} {orgId : UUID}
    {session : TaskSession} (member : session ∈ (system.settle index request orgId).sessions) :
    session ∈ system.sessions ∨ ∃ result, session = .ended request result := by
  unfold FailedTaskSystem.settle at member
  split at member
  · rcases mem_setSession member with before | here
    · exact Or.inl before
    · exact Or.inr ⟨_, here⟩
  · rcases mem_setSession member with before | here
    · exact Or.inl before
    · exact Or.inr ⟨_, here⟩

/-- A retry that has not got past its row, or a request to resolve. -/
def TaskSession.Unretried : TaskSession → Prop
  | .running request _ phase => phase = request.firstPhase
  | .ended request result => ∀ subject taskId, request = .retry subject taskId → result ≠ .ok ()
  | .lost _ => True

/-- Rows that were recorded, and nothing that a retry has sent. -/
structure NothingRetried (library : FailedTaskLibrary) (system : FailedTaskSystem Time) :
    Prop where
  recorded : ∀ task ∈ system.tasks, library.Recorded task
  batches : system.batches = []
  sessions : ∀ session ∈ system.sessions, session.Unretried

/-- The selected row refuses the retry. -/
theorem selected_recorded (recorded : ∀ task ∈ system.tasks, library.Recorded task)
    (request : FailedTaskRequest) (orgId : UUID) :
    ∃ error, system.selected library request orgId = .ended request (.error error) := by
  unfold FailedTaskSystem.selected
  split
  · exact ⟨_, rfl⟩
  · rename_i task found
    obtain ⟨error, refused⟩ :=
      FailedTaskLibrary.readRetry_recorded (recorded task (List.mem_of_find?_eq_some found))
    rw [refused]
    exact ⟨error, rfl⟩

theorem unretried_received (request : FailedTaskRequest) :
    (system.received request).Unretried := by
  unfold FailedTaskSystem.received
  split
  · rfl
  · exact nofun

theorem NothingRetried.setSession (nothing : NothingRetried library system) {index : Nat}
    {session : TaskSession} (unretried : session.Unretried) :
    NothingRetried library (system.setSession index session) where
  recorded := nothing.recorded
  batches := nothing.batches
  sessions other member := by
    rcases mem_setSession member with before | rfl
    · exact nothing.sessions other before
    · exact unretried

/-- The update of a request to resolve. -/
theorem NothingRetried.settle (nothing : NothingRetried library system) (index : Nat)
    (subject : UUID) (taskId : Int) (orgId : UUID) :
    NothingRetried library (system.settle index (.resolve subject taskId) orgId) where
  recorded task member := by
    obtain ⟨before, stored, rfl | ⟨_, rfl⟩⟩ := mem_settle_tasks member
    · exact nothing.recorded _ stored
    · exact nothing.recorded before stored
  batches := (settle_batches ..).trans nothing.batches
  sessions session member := by
    rcases mem_settle_sessions member with before | ⟨result, rfl⟩
    · exact nothing.sessions session before
    · exact nofun

theorem NothingRetried.step (nothing : NothingRetried library system)
    {action : FailedTaskAction Time} (stepped : system.step library action = some next) :
    NothingRetried library next := by
  cases action with
  | accountsChange accounts =>
      cases stepped
      exact ⟨nothing.recorded, nothing.batches, nothing.sessions⟩
  | handleFailedTask call failedAt interrupted =>
      simp only [FailedTaskSystem.step] at stepped
      split at stepped
      · exact Option.some.inj stepped ▸ nothing
      · split at stepped
        · rename_i task stored
          cases stepped
          refine ⟨fun other member => ?_, nothing.batches, nothing.sessions⟩
          rcases List.mem_append.mp member with before | here
          · exact nothing.recorded other before
          · rw [List.mem_singleton.mp here]
            exact FailedTaskLibrary.recorded_handleFailedTask stored
        · exact Option.some.inj stepped ▸ nothing
  | receive request =>
      cases stepped
      refine ⟨nothing.recorded, nothing.batches, fun session member => ?_⟩
      rcases List.mem_append.mp member with before | here
      · exact nothing.sessions session before
      · rw [List.mem_singleton.mp here]
        exact unretried_received request
  | lose index =>
      simp only [FailedTaskSystem.step] at stepped
      split at stepped
      · cases stepped
        exact nothing.setSession trivial
      · cases stepped
  | advance index =>
      simp only [FailedTaskSystem.step] at stepped
      split at stepped
      · rename_i request orgId phase found
        have first : phase = request.firstPhase :=
          nothing.sessions _ (List.mem_of_getElem? found)
        subst first
        cases stepped
        cases request with
        | resolve subject taskId => exact nothing.settle index subject taskId orgId
        | retry subject taskId =>
            obtain ⟨error, refused⟩ :=
              selected_recorded nothing.recorded (.retry subject taskId) orgId
            have ended : TaskSession.Unretried (.ended (.retry subject taskId) (.error error)) :=
              fun _ _ _ => nofun
            show NothingRetried library (system.setSession index _)
            rw [refused]
            exact nothing.setSession ended
      · cases stepped

/-- What the dead-letter worker records cannot be retried: in whatever order failures are
recorded, users change and admins resolve and retry, no batch is sent to the queue and no
retry succeeds, and each one that goes on is refused by the row that it selects. -/
theorem recorded_never_retried {accounts : AccountDatabase} {tasks : List (FailedTask Time)}
    (recorded : ∀ task ∈ tasks, library.Recorded task) {nextId : Int}
    {actions : List (FailedTaskAction Time)} {final : FailedTaskSystem Time}
    (ran : (library.machine Time).run (.fresh accounts tasks nextId) actions = some final) :
    final.batches = [] ∧
    (∀ subject taskId, TaskSession.ended (.retry subject taskId) (.ok ()) ∉ final.sessions) ∧
    (∀ task ∈ final.tasks, library.Recorded task) ∧
    ∀ (index : Nat) subject taskId orgId phase,
      final.sessions[index]? = some (.running (.retry subject taskId) orgId phase) →
        ∃ error, (library.machine Time).step final (.advance index) =
          some (final.setSession index (.ended (.retry subject taskId) (.error error))) := by
  have nothing : NothingRetried library final :=
    Machine.run_invariant_always _ (fun _ _ _ before stepped => before.step stepped)
      ⟨recorded, rfl, List.forall_mem_nil _⟩ ran
  refine ⟨nothing.batches, fun subject taskId member => ?_, nothing.recorded,
    fun index subject taskId orgId phase found => ?_⟩
  · exact nothing.sessions _ member subject taskId rfl rfl
  · have first : phase = .selecting := nothing.sessions _ (List.mem_of_getElem? found)
    subst first
    obtain ⟨error, refused⟩ := selected_recorded nothing.recorded (.retry subject taskId) orgId
    refine ⟨error, ?_⟩
    show final.step library (.advance index) = _
    rw [← refused]
    simp only [FailedTaskSystem.step, found]
    rfl

end Recorded

/-! ### One failed batch -/

/-- Texts in lower case, and no floats. -/
def FailedTaskLibrary.plain : FailedTaskLibrary where
  lower := id
  lower_of_ascii _ _ := rfl
  floatRepr _ := "0.5"
  isNumber_floatRepr _ := ⟨.fraction, rfl, rfl⟩
  recursionLimit := 1000
  recursionLimit_pos := by decide
  reprStr _ := []
  reprArg _ := ""
  isZero literal := literal = ['0']

/-- An admin and a project of organization 7. -/
def oneAdminProject : AccountDatabase where
  organizations := Table.empty.insertOrSkip ⟨7, "seven", "seven-000001"⟩
  users := Table.empty.insertOrSkip ⟨1, 7, "admin@example.com", "hash", .admin, true⟩
  projects := Table.empty.insertOrSkip ⟨5, 7, "traces", "hash", true⟩
  invites := Table.empty
  memberships := Table.empty

/-- A batch with one span. -/
def failedBatch : FailedTaskCall where
  taskName := "app.workers.process_span:process_span_batch"
  taskArgs := ⟨[("batch_id", .scalar (.str "batch-1")), ("project_id", .scalar (.str (5 : UUID).str)),
    ("spans", .list "list" [.obj []])], by decide⟩
  error := "boom"
  attempts := 3

/-- The admin retries the batch that the worker has recorded. -/
theorem recorded_never_retried_failedBatch :
    ∃ final, (FailedTaskLibrary.plain.machine Int).run (.fresh oneAdminProject [] 1)
        [.handleFailedTask failedBatch 0 false, .receive (.retry 1 1), .advance 0] = some final ∧
      final.batches = [] := by
  obtain ⟨final, reached⟩ : ∃ final,
      (FailedTaskLibrary.plain.machine Int).run (.fresh oneAdminProject [] 1)
        [.handleFailedTask failedBatch 0 false, .receive (.retry 1 1), .advance 0] = some final :=
    Option.isSome_iff_exists.mp (by decide +kernel)
  exact ⟨final, reached, (recorded_never_retried (List.forall_mem_nil _) reached).1⟩

end LlmObs.Backend
