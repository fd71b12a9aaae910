import LlmObs.Backend.Runtime
import LlmObs.Backend.Services.FailedTasks
import LlmObs.Foundation.Machine
import LlmObs.Foundation.Outcome

/-!
Owns `DLQRetryMiddleware.on_error` behind `SmartRetryMiddleware.on_error`: what becomes
of one failed execution, and the executions of a task that always fails. It does not own
the delays between them, nor a broker that refuses a message.
-/

namespace LlmObs.Backend

open LlmObs.Foundation

/-- The parts of `TaskiqMessage` that the middleware reads. -/
structure TaskiqMessage (Content : Type) where
  taskName : String
  labels : PyDict String TaskScalar
  args : List (TaskArg Content)
  kwargs : TaskArgs Content

section Middleware

variable {Content Exc : Type}

/-- The message of a re-kick. -/
def TaskiqMessage.withRetries (retries : Int) (message : TaskiqMessage Content) :
    TaskiqMessage Content :=
  { message with labels := message.labels.set "_retries" (.int retries) }

def taskArgsForDlq (lowerCase : LowerCase) (message : TaskiqMessage Content) :
    TaskArgs Content :=
  let rawArgs : TaskArgs Content :=
    if message.kwargs.entries ≠ [] then message.kwargs
    else if endsWithText ":process_span_batch" message.taskName then
      .ofEntries (["batch_id", "project_id", "spans"].zip message.args)
    else .ofEntries (message.args.zipIdx.map fun arg => (s!"arg_{arg.2}", arg.1))
  summarizeTaskArgs lowerCase rawArgs

/-- What both middlewares decide with. -/
structure RetryConfig (Exc : Type) where
  /-- `isinstance(exception, tuple(self.types_of_exceptions))`, where they are given. -/
  typesOfExceptions : Option (Exc → Bool)
  isNoResultError : Exc → Bool
  /-- `is_retry_on_error`, on the label `retry_on_error`. -/
  isRetryOnError : Option TaskScalar → Bool
  defaultRetryCount : Int
  /-- `int` of a text; `none` is its `ValueError`. -/
  intOfText : String → Option Int

namespace RetryConfig

variable (config : RetryConfig Exc)

/-- `int(value)` -/
def intOf : TaskScalar → Except PyException Int
  | .none => .error ⟨.typeError, "int() argument must not be 'NoneType'"⟩
  | .bool value => .ok (if value then 1 else 0)
  | .int value => .ok value
  | .float value => .ok (value.num.tdiv value.den)
  | .str text =>
      match config.intOfText text with
      | some value => .ok value
      | none => .error ⟨.valueError, "invalid literal for int()"⟩

/-- `int(message.labels.get("_retries", 0))` -/
def retries (message : TaskiqMessage Content) : Except PyException Int :=
  config.intOf ((message.labels.get? "_retries").getD (.int 0))

/-- `int(message.labels.get("max_retries", self.default_retry_count))` -/
def maxRetries (message : TaskiqMessage Content) : Except PyException Int :=
  config.intOf ((message.labels.get? "max_retries").getD (.int config.defaultRetryCount))

/-- A retry may follow the exception. -/
def IsRetryableException (exception : Exc) : Prop :=
  (config.typesOfExceptions.all fun ofTypes => ofTypes exception) ∧
    config.isNoResultError exception = false

/-- A retry may follow the failure. -/
def IsRetryable (message : TaskiqMessage Content) (exception : Exc) : Prop :=
  config.IsRetryableException exception ∧
    config.isRetryOnError (message.labels.get? "retry_on_error")

instance (message : TaskiqMessage Content) (exception : Exc) :
    Decidable (config.IsRetryable message exception) :=
  inferInstanceAs (Decidable ((_ ∧ _) ∧ _))

end RetryConfig

/-- `SmartRetryMiddleware`: its `on_error` returns the message it has kicked again. -/
structure SmartRetryMiddleware (Content Exc : Type) extends RetryConfig Exc where
  smartOnError : TaskiqMessage Content → Exc → Except PyException (Option (TaskiqMessage Content))
  smartOnError_of_retryable : ∀ {message exception retries maxRetries},
    toRetryConfig.IsRetryable message exception →
    toRetryConfig.retries message = .ok retries →
    toRetryConfig.maxRetries message = .ok maxRetries →
    smartOnError message exception =
      .ok (if retries + 1 < maxRetries then some (message.withRetries (retries + 1)) else none)
  smartOnError_of_not_retryable : ∀ {message exception},
    ¬ toRetryConfig.IsRetryable message exception → smartOnError message exception = .ok none

/-- One that reads the labels first. -/
def SmartRetryMiddleware.ofConfig (config : RetryConfig Exc) :
    SmartRetryMiddleware Content Exc where
  toRetryConfig := config
  smartOnError message exception :=
    if config.IsRetryable message exception then do
      let retries ← config.retries message
      let maxRetries ← config.maxRetries message
      return if retries + 1 < maxRetries then some (message.withRetries (retries + 1)) else none
    else .ok none
  smartOnError_of_retryable := by
    intro message exception retries maxRetries retryable retriesRead maxRead
    rw [if_pos retryable, retriesRead, maxRead]
    rfl
  smartOnError_of_not_retryable := fun notRetryable => if_neg notRetryable

/-- What `handle_failed_task` is called with. -/
structure DeadLetter (Content : Type) where
  taskName : String
  taskArgs : TaskArgs Content
  error : String
  attempts : Int

/-- What becomes of a failed execution. -/
structure ErrorHandled (Content : Type) where
  rescheduled : Option (TaskiqMessage Content)
  deadLetter : Option (DeadLetter Content)

/-- `DLQRetryMiddleware` -/
structure DLQRetryMiddleware (Content Exc : Type) extends SmartRetryMiddleware Content Exc where
  lowerCase : LowerCase
  /-- `str(exception)` -/
  str : Exc → String

namespace DLQRetryMiddleware

variable (middleware : DLQRetryMiddleware Content Exc)

/-- `capture_final_failure` -/
def captureFinalFailure (message : TaskiqMessage Content) (exception : Exc) :
    Except PyException Bool :=
  if middleware.typesOfExceptions.any fun ofTypes => !ofTypes exception then .ok false
  else if middleware.isNoResultError exception then .ok false
  else if !middleware.isRetryOnError (message.labels.get? "retry_on_error") then .ok false
  else do
    let retries ← middleware.retries message
    let maxRetries ← middleware.maxRetries message
    return decide (maxRetries ≤ retries + 1)

def deadLetter (message : TaskiqMessage Content) (exception : Exc) (retries : Int) :
    DeadLetter Content where
  taskName := message.taskName
  taskArgs := taskArgsForDlq middleware.lowerCase message
  error := middleware.str exception
  attempts := retries + 1

def onError (message : TaskiqMessage Content) (exception : Exc) :
    Except PyException (ErrorHandled Content) := do
  let captureFinalFailure ← middleware.captureFinalFailure message exception
  let rescheduled ← middleware.smartOnError message exception
  if !captureFinalFailure then return ⟨rescheduled, none⟩
  let retries ← middleware.retries message
  return ⟨rescheduled, some (middleware.deadLetter message exception retries)⟩

/-! ### One failed execution -/

variable {middleware} {message : TaskiqMessage Content} {exception : Exc}

theorem captureFinalFailure_of_retryable
    (retryable : middleware.IsRetryable message exception) :
    middleware.captureFinalFailure message exception = (do
      let retries ← middleware.retries message
      let maxRetries ← middleware.maxRetries message
      return decide (maxRetries ≤ retries + 1)) := by
  obtain ⟨⟨ofTypes, result⟩, label⟩ := retryable
  have accepted : (middleware.typesOfExceptions.any fun types => !types exception) = false := by
    cases given : middleware.typesOfExceptions with
    | none => rfl
    | some types =>
        rw [given] at ofTypes
        simpa using ofTypes
  simp only [captureFinalFailure, accepted, result, label, Bool.not_true, Bool.false_eq_true,
    if_false]

theorem captureFinalFailure_of_not_retryable
    (notRetryable : ¬ middleware.IsRetryable message exception) :
    middleware.captureFinalFailure message exception = .ok false := by
  unfold captureFinalFailure
  split
  · rfl
  · rename_i accepted
    split
    · rfl
    · rename_i result
      split
      · rfl
      · rename_i label
        refine absurd ⟨⟨?_, ?_⟩, ?_⟩ notRetryable
        · cases given : middleware.typesOfExceptions with
          | none => rfl
          | some types => simpa [given] using accepted
        · simpa using result
        · simpa using label

/-- The two decisions agree: below the last attempt the message is kicked again, from
the last attempt on it is dead-lettered. -/
theorem onError_of_retryable {retries maxRetries : Int}
    (retryable : middleware.IsRetryable message exception)
    (retriesRead : middleware.retries message = .ok retries)
    (maxRead : middleware.maxRetries message = .ok maxRetries) :
    middleware.onError message exception = .ok (
      if retries + 1 < maxRetries then ⟨some (message.withRetries (retries + 1)), none⟩
      else ⟨none, some (middleware.deadLetter message exception retries)⟩) := by
  have rekicked := middleware.smartOnError_of_retryable retryable retriesRead
    maxRead
  unfold onError
  rw [captureFinalFailure_of_retryable retryable, retriesRead, maxRead, rekicked]
  by_cases more : retries + 1 < maxRetries
  · simp [ok_bind, more, pure, Except.pure]
  · have last : maxRetries ≤ retries + 1 := by omega
    simp [ok_bind, more, last, pure, Except.pure]

theorem onError_of_not_retryable (notRetryable : ¬ middleware.IsRetryable message exception) :
    middleware.onError message exception = .ok ⟨none, none⟩ := by
  unfold onError
  rw [captureFinalFailure_of_not_retryable notRetryable,
    middleware.smartOnError_of_not_retryable notRetryable]
  rfl

/-- Labels that are no numbers let the `ValueError` of `int` out. -/
theorem onError_of_unreadable (retryable : middleware.IsRetryable message exception)
    (unreadable : ¬ ∃ retries maxRetries, middleware.retries message = .ok retries ∧
      middleware.maxRetries message = .ok maxRetries) :
    ∃ error, middleware.onError message exception = .error error := by
  unfold onError
  rw [captureFinalFailure_of_retryable retryable]
  cases retriesRead : middleware.retries message with
  | error failure => exact ⟨failure, rfl⟩
  | ok retries =>
      cases maxRead : middleware.maxRetries message with
      | error failure => exact ⟨failure, rfl⟩
      | ok maxRetries => exact absurd ⟨retries, maxRetries, retriesRead, maxRead⟩ unreadable

end DLQRetryMiddleware

/-! ### A task that always fails -/

/-- The executions of one task. -/
structure TaskRun (Content : Type) where
  queue : List (TaskiqMessage Content)
  executions : Nat
  deadLetters : List (DeadLetter Content)

namespace DLQRetryMiddleware

variable (middleware : DLQRetryMiddleware Content Exc)

/-- A worker takes a message, and its execution fails with the action's exception. -/
def failing : Machine (TaskRun Content) Exc where
  step run exception :=
    match run.queue with
    | [] => none
    | message :: queue =>
        match middleware.onError message exception with
        | .error _ => some { run with queue := queue, executions := run.executions + 1 }
        | .ok handled => some {
            queue := queue ++ handled.rescheduled.toList
            executions := run.executions + 1
            deadLetters := run.deadLetters ++ handled.deadLetter.toList }

/-- A message of a task with `retry_on_error`, after `retries` of `maxRetries` executions. -/
structure Kicked (message : TaskiqMessage Content) (retries maxRetries : Int) : Prop where
  retryOnError : middleware.isRetryOnError (message.labels.get? "retry_on_error")
  retriesRead : middleware.retries message = .ok retries
  maxRead : middleware.maxRetries message = .ok maxRetries

variable {middleware} {message : TaskiqMessage Content} {retries maxRetries : Int}

theorem Kicked.withRetries (kicked : middleware.Kicked message retries maxRetries)
    (count : Int) : middleware.Kicked (message.withRetries count) count maxRetries where
  retryOnError := by
    rw [TaskiqMessage.withRetries, PyDict.get?_set_of_ne _ _ (by decide)]
    exact kicked.retryOnError
  retriesRead := by
    rw [RetryConfig.retries, TaskiqMessage.withRetries, PyDict.get?_set_self]
    rfl
  maxRead := by
    rw [RetryConfig.maxRetries, TaskiqMessage.withRetries,
      PyDict.get?_set_of_ne _ _ (by decide)]
    exact kicked.maxRead

theorem step_kicked (kicked : middleware.Kicked message retries maxRetries) {exception : Exc}
    (retryable : middleware.IsRetryableException exception) (executions : Nat) :
    middleware.failing.step ⟨[message], executions, []⟩ exception = some (
      if retries + 1 < maxRetries then
        ⟨[message.withRetries (retries + 1)], executions + 1, []⟩
      else ⟨[], executions + 1, [middleware.deadLetter message exception retries]⟩) := by
  have handled := middleware.onError_of_retryable ⟨retryable, kicked.retryOnError⟩
    kicked.retriesRead kicked.maxRead
  simp only [failing, handled]
  split <;> rfl

/-- What a run of failures has come to after `count` of them. -/
structure FailedSoFar (message : TaskiqMessage Content) (maxRetries : Int) (retries : Int)
    (exceptions : List Exc) (final : TaskRun Content) : Prop where
  atMost : retries + exceptions.length ≤ maxRetries
  kickedAgain : retries + exceptions.length < maxRetries → final.deadLetters = [] ∧
    ∃ next, final.queue = [next] ∧
      middleware.Kicked next (retries + exceptions.length) maxRetries
  deadLettered : retries + exceptions.length = maxRetries → final.queue = [] ∧
    ∃ last, exceptions.getLast? = some last ∧
      final.deadLetters = [middleware.deadLetter message last (maxRetries - 1)]

theorem FailedSoFar.initial (kicked : middleware.Kicked message retries maxRetries)
    (more : retries < maxRetries) (executions : Nat) :
    middleware.FailedSoFar message maxRetries retries [] ⟨[message], executions, []⟩ := by
  have counted : retries + (([] : List Exc).length : Int) = retries := Int.add_zero retries
  refine ⟨?_, ?_, ?_⟩
  · omega
  · rw [counted]
    exact fun _ => ⟨rfl, message, rfl, kicked⟩
  · omega

/-- The failures of a message that has been kicked again, and the one before. -/
theorem FailedSoFar.afterRetry {exception : Exc} {rest : List Exc} {final : TaskRun Content}
    (soFar : middleware.FailedSoFar (message.withRetries (retries + 1)) maxRetries (retries + 1)
      rest final) :
    middleware.FailedSoFar message maxRetries retries (exception :: rest) final := by
  have shifted : retries + ((exception :: rest).length : Int) = retries + 1 + rest.length := by
    rw [List.length_cons]
    omega
  refine ⟨?_, ?_, ?_⟩
  · rw [shifted]
    exact soFar.atMost
  · rw [shifted]
    exact soFar.kickedAgain
  · rw [shifted]
    intro done
    obtain ⟨empty, last, lastFailure, dead⟩ := soFar.deadLettered done
    refine ⟨empty, last, ?_, dead⟩
    rw [List.getLast?_cons, lastFailure]
    rfl

/-- The failure that leaves no retry. -/
theorem FailedSoFar.lastFailure (usedUp : retries + 1 = maxRetries) (exception : Exc)
    (executions : Nat) :
    middleware.FailedSoFar message maxRetries retries [exception]
      ⟨[], executions, [middleware.deadLetter message exception retries]⟩ := by
  have last : maxRetries - 1 = retries := by omega
  refine ⟨?_, ?_, ?_⟩
  · rw [List.length_singleton]
    omega
  · rw [List.length_singleton]
    omega
  · rw [last]
    exact fun _ => ⟨rfl, exception, rfl, rfl⟩

/-- By induction on the failures: each of them uses up one retry. -/
theorem failedSoFar_of_run {exceptions : List Exc} {executions : Nat}
    {final : TaskRun Content} (kicked : middleware.Kicked message retries maxRetries)
    (more : retries < maxRetries)
    (retryable : ∀ exception ∈ exceptions, middleware.IsRetryableException exception)
    (ran : middleware.failing.run ⟨[message], executions, []⟩ exceptions = some final) :
    final.executions = executions + exceptions.length ∧
      middleware.FailedSoFar message maxRetries retries exceptions final := by
  induction exceptions generalizing message retries executions with
  | nil =>
      obtain rfl := Option.some.inj ran
      exact ⟨rfl, .initial kicked more executions⟩
  | cons exception rest inductionHypothesis =>
      obtain ⟨next, stepped, remaining⟩ := middleware.failing.run_cons.mp ran
      obtain ⟨here, others⟩ := List.forall_mem_cons.mp retryable
      rw [step_kicked kicked here, Option.some.injEq] at stepped
      by_cases again : retries + 1 < maxRetries
      · rw [if_pos again] at stepped
        subst stepped
        obtain ⟨counted, soFar⟩ :=
          inductionHypothesis (kicked.withRetries (retries + 1)) again others remaining
        refine ⟨?_, soFar.afterRetry⟩
        rw [counted, List.length_cons]
        omega
      · rw [if_neg again] at stepped
        subst stepped
        -- The message has left the queue, so this failure was the last one.
        cases rest with
        | cons following _ =>
            obtain ⟨_, impossible, _⟩ := middleware.failing.run_cons.mp remaining
            cases impossible
        | nil =>
            obtain rfl := Option.some.inj remaining
            exact ⟨rfl, .lastFailure (by omega) exception (executions + 1)⟩

/-- A task with `retry_on_error` that always fails with exceptions that allow a retry is
executed exactly `max_retries` times and dead-lettered once, after the last of them. Of
one failed execution, the message is either kicked again or dead-lettered, never both,
where the failure is retryable and the labels are numbers; else it is neither. -/
theorem retried_or_deadLettered (middleware : DLQRetryMiddleware Content Exc) :
    (∀ message maxRetries, middleware.Kicked message 0 maxRetries → 1 ≤ maxRetries →
      ∀ exceptions final,
        (∀ exception ∈ exceptions, middleware.IsRetryableException exception) →
        middleware.failing.run ⟨[message], 0, []⟩ exceptions = some final →
          final.executions = exceptions.length ∧ exceptions.length ≤ maxRetries ∧
          (exceptions.length < maxRetries → final.deadLetters = [] ∧
            ∀ exception, middleware.IsRetryableException exception →
              (middleware.failing.step final exception).isSome) ∧
          (exceptions.length = maxRetries → final.queue = [] ∧
            ∃ last, exceptions.getLast? = some last ∧ final.deadLetters = [{
              taskName := message.taskName
              taskArgs := taskArgsForDlq middleware.lowerCase message
              error := middleware.str last
              attempts := maxRetries }])) ∧
    ∀ message exception,
      (middleware.IsRetryable message exception →
        ∀ retries maxRetries, middleware.retries message = .ok retries →
          middleware.maxRetries message = .ok maxRetries →
          ∃ handled, middleware.onError message exception = .ok handled ∧
            handled.rescheduled.isSome = decide (retries + 1 < maxRetries) ∧
            handled.deadLetter.isSome = !handled.rescheduled.isSome) ∧
      (middleware.IsRetryable message exception →
        (¬ ∃ retries maxRetries, middleware.retries message = .ok retries ∧
          middleware.maxRetries message = .ok maxRetries) →
        ∃ error, middleware.onError message exception = .error error) ∧
      (¬ middleware.IsRetryable message exception →
        middleware.onError message exception = .ok ⟨none, none⟩) := by
  constructor
  · intro message maxRetries kicked positive exceptions final retryable ran
    obtain ⟨counted, soFar⟩ := failedSoFar_of_run kicked (by omega) retryable ran
    have atMost := soFar.atMost
    refine ⟨by omega, by omega, fun more => ?_, fun done => ?_⟩
    · obtain ⟨none, next, queued, nextKicked⟩ := soFar.kickedAgain (by omega)
      refine ⟨none, fun exception here => ?_⟩
      have stepped := step_kicked nextKicked here final.executions
      rw [show final = ⟨[next], final.executions, []⟩ by rw [← queued, ← none]]
      rw [stepped]
      rfl
    · obtain ⟨empty, last, lastFailure, dead⟩ := soFar.deadLettered (by omega)
      refine ⟨empty, last, lastFailure, ?_⟩
      rw [dead, deadLetter, Int.sub_add_cancel]
  · intro message exception
    refine ⟨fun retryable retries maxRetries retriesRead maxRead => ?_,
      fun retryable => onError_of_unreadable retryable, onError_of_not_retryable⟩
    refine ⟨_, onError_of_retryable retryable retriesRead maxRead, ?_⟩
    by_cases more : retries + 1 < maxRetries
    · simp [more]
    · simp [more]

/-- A task that ends without a result is neither. -/
theorem noResult_neither :
    ¬ ∀ (middleware : DLQRetryMiddleware Unit Bool) (message : TaskiqMessage Unit)
        (exception : Bool), ∃ handled, middleware.onError message exception = .ok handled ∧
          handled.deadLetter.isSome = !handled.rescheduled.isSome := by
  intro oneOfThem
  obtain ⟨handled, returned, one⟩ := oneOfThem
    { SmartRetryMiddleware.ofConfig {
        typesOfExceptions := none
        isNoResultError := id
        isRetryOnError := fun label => label = some (.bool true)
        defaultRetryCount := 3
        intOfText := fun _ => none } with
      lowerCase := ⟨id, fun _ _ => rfl⟩
      str := fun _ => "" }
    { taskName := "app.workers.process_span:process_span_batch"
      labels := ⟨[("retry_on_error", .bool true), ("max_retries", .int 3)], by decide⟩
      args := []
      kwargs := ⟨[], List.nodup_nil⟩ }
    true
  obtain rfl := Except.ok.inj returned
  cases one

end DLQRetryMiddleware

end Middleware

end LlmObs.Backend
