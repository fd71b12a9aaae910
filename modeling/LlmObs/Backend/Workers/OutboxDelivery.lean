import LlmObs.Backend.Services.Outbox
import LlmObs.Foundation.Holdings
import LlmObs.Foundation.Machine

/-!
Owns the delivery of outbox events by any number of concurrent and retried
`deliver_span_outbox_events` tasks: each claims a list of events in one
statement and then publishes and settles them one by one. A task can end at any
await, by a failed publish, a failed database call or a crash; a retry is a new
task. It does not own the batch transactions that enqueue the events.
-/

namespace LlmObs.Backend

open LlmObs.Foundation

/-- Where a running delivery task stands with the first event it holds. -/
inductive DeliveryPhase where
  | publishing
  | markingDelivered
  | markingFailed (error : String)
deriving DecidableEq, Repr

/-- A running task: the claimed events it has not settled yet. -/
structure DeliveryTask where
  held : List OutboxEventPayload
  phase : DeliveryPhase

structure DeliveryState where
  events : OutboxTable
  tasks : Nat → Option DeliveryTask
  /-- Messages on the live channels, with the project of the channel. -/
  published : List (UUID × Json)

inductive DeliveryAction where
  /-- A batch transaction commits an event. -/
  | enqueue (now : Int) (id projectId : UUID) (eventType eventKey : String) (payload : Json)
  /-- A task starts and its claim commits; `locked` are the rows it skips. -/
  | claim (task : Nat) (now : Int) (locked : UUID → Bool) (projectId : Option UUID)
      (limit : Nat)
  /-- `redis.publish` of the first held event, or the exception it raises. -/
  | publish (task : Nat) (error : Option String)
  | markDelivered (task : Nat) (now : Int)
  | markFailed (task : Nat) (now : Int)
  /-- A crash, or an exception of a call outside the publish handler. A call that
  took effect before it raised is that call followed by this. -/
  | abort (task : Nat)

namespace DeliveryState

def initial : DeliveryState := ⟨Table.empty, fun _ => none, []⟩

/-- The events a task still holds. -/
def held (state : DeliveryState) (task : Nat) : List OutboxEventPayload :=
  match state.tasks task with
  | some running => running.held
  | none => []

/-- No delivery task is running. -/
def Idle (state : DeliveryState) : Prop := ∀ task, state.tasks task = none

/-- Every event that is neither delivered nor out of attempts can be claimed
again. -/
def Recoverable (state : DeliveryState) : Prop :=
  ∀ row ∈ state.events.rows, row.status ≠ .delivered →
    row.attempts < outboxMaxAttempts → row.status = .pending ∨ row.status = .failed

end DeliveryState

/-- What is left of a task once its first event is settled: the next event, or
nothing when the loop ends. -/
def continueDelivery : List OutboxEventPayload → Option DeliveryTask
  | [] => none
  | event :: rest => some ⟨event :: rest, .publishing⟩

/-- `deliver_span_outbox_events`, one await at a time. -/
def deliverSpanOutboxEvents (state : DeliveryState) : DeliveryAction → Option DeliveryState
  | .enqueue now id projectId eventType eventKey payload =>
      (enqueueOutboxEvent now id projectId eventType eventKey payload state.events).map
        fun events => { state with events := events }
  | .claim task now locked projectId limit =>
      match state.tasks task with
      | some _ => none
      | none =>
          let (events, claimed) :=
            claimPending now locked outboxSpanInserted projectId limit state.events
          some { state with
            events := events
            tasks := Function.update state.tasks task (continueDelivery claimed) }
  | .publish task error =>
      match state.tasks task with
      | some ⟨event :: rest, .publishing⟩ =>
          match error with
          | none => some { state with
              tasks := Function.update state.tasks task
                (some ⟨event :: rest, .markingDelivered⟩)
              published := state.published ++ [(event.projectId, event.payload)] }
          | some message => some { state with
              tasks := Function.update state.tasks task
                (some ⟨event :: rest, .markingFailed message⟩) }
      | _ => none
  | .markDelivered task now =>
      match state.tasks task with
      | some ⟨event :: rest, .markingDelivered⟩ => some { state with
          events := markDelivered now event.id state.events
          tasks := Function.update state.tasks task (continueDelivery rest) }
      | _ => none
  | .markFailed task now =>
      match state.tasks task with
      | some ⟨event :: _, .markingFailed error⟩ => some { state with
          events := markFailed now event.id error state.events
          tasks := Function.update state.tasks task none }
      | _ => none
  | .abort task =>
      match state.tasks task with
      | some _ => some { state with tasks := Function.update state.tasks task none }
      | none => none

def deliveryMachine : Machine DeliveryState DeliveryAction := ⟨deliverSpanOutboxEvents⟩

/-- The held events that the step drops without settling them: those behind a
failed publish, and all that an aborted task holds. -/
def abandoned (state : DeliveryState) : DeliveryAction → List OutboxEventPayload
  | .markFailed task _ => (state.held task).tail
  | .abort task => state.held task
  | _ => []

/-- Whatever the step drops has used up its attempts. -/
def AbandonsOnlySpent (state : DeliveryState) (action : DeliveryAction) : Prop :=
  ∀ event ∈ abandoned state action, outboxMaxAttempts ≤ event.attempts

/-! ### What one step can do -/

/-- What each step starts from and what it leaves. -/
inductive DeliveryMove (state : DeliveryState) : DeliveryAction → DeliveryState → Prop
  | enqueue {now : Int} {id projectId : UUID} {eventType eventKey : String} {payload : Json}
      {events : OutboxTable}
      (enqueued : enqueueOutboxEvent now id projectId eventType eventKey payload state.events =
        some events) :
      DeliveryMove state (.enqueue now id projectId eventType eventKey payload)
        { state with events := events }
  | claim {task : Nat} (now : Int) (locked : UUID → Bool) (projectId : Option UUID) (limit : Nat)
      (free : state.tasks task = none) :
      DeliveryMove state (.claim task now locked projectId limit) { state with
        events := (claimPending now locked outboxSpanInserted projectId limit state.events).1
        tasks := Function.update state.tasks task (continueDelivery
          (claimPending now locked outboxSpanInserted projectId limit state.events).2) }
  | publish {task : Nat} {error : Option String} {event : OutboxEventPayload}
      {rest : List OutboxEventPayload} {phase : DeliveryPhase} {published : List (UUID × Json)}
      (found : state.tasks task = some ⟨event :: rest, .publishing⟩)
      (settles : phase ≠ .publishing) :
      DeliveryMove state (.publish task error) { state with
        tasks := Function.update state.tasks task (some ⟨event :: rest, phase⟩)
        published := published }
  | markDelivered {task : Nat} {now : Int} {event : OutboxEventPayload}
      {rest : List OutboxEventPayload}
      (found : state.tasks task = some ⟨event :: rest, .markingDelivered⟩) :
      DeliveryMove state (.markDelivered task now) { state with
        events := markDelivered now event.id state.events
        tasks := Function.update state.tasks task (continueDelivery rest) }
  | markFailed {task : Nat} {now : Int} {event : OutboxEventPayload}
      {rest : List OutboxEventPayload} {error : String}
      (found : state.tasks task = some ⟨event :: rest, .markingFailed error⟩) :
      DeliveryMove state (.markFailed task now) { state with
        events := markFailed now event.id error state.events
        tasks := Function.update state.tasks task none }
  | abort {task : Nat} {running : DeliveryTask} (found : state.tasks task = some running) :
      DeliveryMove state (.abort task)
        { state with tasks := Function.update state.tasks task none }

theorem deliveryMove {state next : DeliveryState} {action : DeliveryAction}
    (stepped : deliveryMachine.step state action = some next) :
    DeliveryMove state action next := by
  simp only [deliveryMachine] at stepped
  cases action with
  | enqueue now id projectId eventType eventKey payload =>
      simp only [deliverSpanOutboxEvents, Option.map_eq_some_iff] at stepped
      obtain ⟨events, enqueued, rfl⟩ := stepped
      exact .enqueue enqueued
  | claim task now locked projectId limit =>
      cases found : state.tasks task with
      | some running => simp [deliverSpanOutboxEvents, found] at stepped
      | none =>
          simp only [deliverSpanOutboxEvents, found, Option.some.injEq] at stepped
          exact stepped ▸ .claim now locked projectId limit found
  | publish task error =>
      simp only [deliverSpanOutboxEvents] at stepped
      split at stepped
      · rename_i event rest found
        split at stepped
        · simp only [Option.some.injEq] at stepped
          exact stepped ▸ .publish found (by simp)
        · simp only [Option.some.injEq] at stepped
          exact stepped ▸ .publish found (by simp)
      · cases stepped
  | markDelivered task now =>
      simp only [deliverSpanOutboxEvents] at stepped
      split at stepped
      · rename_i event rest found
        simp only [Option.some.injEq] at stepped
        exact stepped ▸ .markDelivered found
      · cases stepped
  | markFailed task now =>
      simp only [deliverSpanOutboxEvents] at stepped
      split at stepped
      · rename_i event rest error found
        simp only [Option.some.injEq] at stepped
        exact stepped ▸ .markFailed found
      · cases stepped
  | abort task =>
      cases found : state.tasks task with
      | none => simp [deliverSpanOutboxEvents, found] at stepped
      | some running =>
          simp only [deliverSpanOutboxEvents, found, Option.some.injEq] at stepped
          exact stepped ▸ .abort found

/-- The effect of a step on the rows and on the events that tasks hold. -/
inductive DeliveryEffect (state next : DeliveryState) (action : DeliveryAction) : Prop
  | enqueued (rows : ∀ row ∈ next.events.rows, row ∈ state.events.rows ∨
        (row.status = .pending ∧ ∀ old ∈ state.events.rows, old.id ≠ row.id))
      (kept : ∀ row ∈ state.events.rows, row ∈ next.events.rows)
      (held : next.held = state.held) (nothing : abandoned state action = [])
  | claimed (task : Nat) (now : Int) (locked : UUID → Bool) (projectId : Option UUID)
      (limit : Nat) (free : state.held task = [])
      (events : next.events =
        (claimPending now locked outboxSpanInserted projectId limit state.events).1)
      (held : next.held = Function.update state.held task
        (claimPending now locked outboxSpanInserted projectId limit state.events).2)
      (nothing : abandoned state action = [])
  | moved (events : next.events = state.events) (held : next.held = state.held)
      (nothing : abandoned state action = [])
  | settled (task : Nat) (event : OutboxEventPayload) (kept dropped : List OutboxEventPayload)
      (before : state.held task = event :: (kept ++ dropped))
      (assign : OutboxEvent → OutboxEvent) (sameId : ∀ row, (assign row).id = row.id)
      (notProcessing : ∀ row, (assign row).status ≠ .processing)
      (rows : next.events.rows =
        state.events.rows.map fun row => if row.id = event.id then assign row else row)
      (held : next.held = Function.update state.held task kept)
      (drops : abandoned state action = dropped)
  | aborted (task : Nat) (events : next.events = state.events)
      (held : next.held = Function.update state.held task [])
      (drops : abandoned state action = state.held task)

theorem held_update (state : DeliveryState) (events : OutboxTable) (task : Nat)
    (running : Option DeliveryTask) (published : List (UUID × Json)) :
    DeliveryState.held ⟨events, Function.update state.tasks task running, published⟩ =
      Function.update state.held task (match running with
        | some running => running.held
        | none => []) := by
  funext other
  by_cases same : other = task
  · subst same
    simp [DeliveryState.held]
  · simp [DeliveryState.held, same]

theorem held_continueDelivery (held : List OutboxEventPayload) :
    (match continueDelivery held with
      | some running => running.held
      | none => []) = held := by
  cases held <;> rfl

theorem not_processing_deliver (now : Int) (row : OutboxEvent) :
    (row.deliver now).status ≠ .processing := by
  simp [OutboxEvent.deliver]

theorem not_processing_fail (now : Int) (error : String) (row : OutboxEvent) :
    (row.fail now error).status ≠ .processing := by
  unfold OutboxEvent.fail
  split <;> simp

theorem held_of_running {state : DeliveryState} {task : Nat} {running : DeliveryTask}
    (found : state.tasks task = some running) : state.held task = running.held := by
  simp [DeliveryState.held, found]

theorem held_of_free {state : DeliveryState} {task : Nat}
    (free : state.tasks task = none) : state.held task = [] := by
  simp [DeliveryState.held, free]

/-- Enqueuing keeps the rows; one that it adds is new, pending and untried. -/
theorem rows_of_enqueued {table events : OutboxTable} {now : Int} {id projectId : UUID}
    {eventType eventKey : String} {payload : Json}
    (enqueued : enqueueOutboxEvent now id projectId eventType eventKey payload table =
      some events) :
    (∀ row ∈ events.rows, row ∈ table.rows ∨
        row.status = .pending ∧ row.attempts = 0 ∧ ∀ old ∈ table.rows, old.id ≠ row.id) ∧
      ∀ row ∈ table.rows, row ∈ events.rows := by
  rcases enqueueOutboxEvent_rows enqueued with rfl | ⟨rows, newId⟩
  · exact ⟨fun _ stored => Or.inl stored, fun _ stored => stored⟩
  · refine ⟨fun row stored => ?_, fun row stored => ?_⟩
    · rw [rows, List.mem_append, List.mem_singleton] at stored
      rcases stored with old | rfl
      · exact Or.inl old
      · exact Or.inr ⟨rfl, rfl, newId⟩
    · rw [rows]
      exact List.mem_append_left _ stored

theorem deliveryEffect {state next : DeliveryState} {action : DeliveryAction}
    (stepped : deliveryMachine.step state action = some next) :
    DeliveryEffect state next action := by
  cases deliveryMove stepped with
  | enqueue enqueued =>
      obtain ⟨rows, kept⟩ := rows_of_enqueued enqueued
      exact .enqueued (fun row stored => (rows row stored).imp_right fun new => ⟨new.1, new.2.2⟩)
        kept rfl rfl
  | @claim task now locked projectId limit free =>
      refine .claimed task now locked projectId limit (held_of_free free) rfl ?_ rfl
      rw [held_update, held_continueDelivery]
  | @publish task _ event rest _ _ found _ =>
      have holding : state.held task = event :: rest := held_of_running found
      refine .moved rfl ?_ rfl
      rw [held_update, ← holding, Function.update_eq_self]
  | @markDelivered task now event rest found =>
      refine .settled task event rest [] ?_ (·.deliver now) (fun _ => rfl)
        (not_processing_deliver now) ?_ ?_ rfl
      · rw [held_of_running found, List.append_nil]
      · simp [markDelivered, OutboxTable.update_rows]
      · rw [held_update, held_continueDelivery]
  | @markFailed task now event rest error found =>
      refine .settled task event [] rest ?_ (·.fail now error) (fun _ => rfl)
        (not_processing_fail now error) ?_ ?_ ?_
      · rw [held_of_running found, List.nil_append]
      · simp [markFailed, OutboxTable.update_rows]
      · rw [held_update]
      · simp [abandoned, held_of_running found]
  | @abort task _ _ => exact .aborted task rfl (by rw [held_update]) rfl

/-! ### Held events and their rows -/

/-- What every reachable state keeps: a held event is the row that its claim
left, and no event is held twice. -/
structure HoldsClaims (state : DeliveryState) : Prop where
  row : ∀ task, ∀ event ∈ state.held task, ∃ row ∈ state.events.rows,
    row.id = event.id ∧ row.status = .processing ∧ row.attempts = event.attempts
  nodup : ∀ task, ((state.held task).map (·.id)).Nodup
  exclusive : ∀ first second, ∀ event ∈ state.held first, ∀ other ∈ state.held second,
    event.id = other.id → first = second

theorem holdsClaims_initial : HoldsClaims .initial where
  row := by simp [DeliveryState.held, DeliveryState.initial]
  nodup := by simp [DeliveryState.held, DeliveryState.initial]
  exclusive := by simp [DeliveryState.held, DeliveryState.initial]

/-- Letting go of events keeps the holdings, as long as the rows of the others
stay. -/
theorem HoldsClaims.release {state next : DeliveryState} (holds : HoldsClaims state)
    (task : Nat) {kept : List OutboxEventPayload}
    (sublist : kept.Sublist (state.held task))
    (held : next.held = Function.update state.held task kept)
    (rows : ∀ other, ∀ event ∈ next.held other, ∀ row ∈ state.events.rows,
      row.id = event.id → row ∈ next.events.rows) : HoldsClaims next := by
  have heldBefore : ∀ other, (next.held other).Sublist (state.held other) := by
    intro other
    rw [held]
    by_cases same : other = task
    · subst same
      rwa [Function.update_self]
    · rw [Function.update_of_ne same]
  refine ⟨fun other event member => ?_, fun other => ?_, ?_⟩
  · obtain ⟨row, stored, sameId, processing, attempts⟩ :=
      holds.row other event ((heldBefore other).subset member)
    exact ⟨row, rows other event member row stored sameId, sameId, processing, attempts⟩
  · exact ((heldBefore other).map _).nodup (holds.nodup other)
  · intro first second event member other otherMember
    exact holds.exclusive first second event ((heldBefore first).subset member) other
      ((heldBefore second).subset otherMember)

theorem HoldsClaims.claim {state next : DeliveryState} (holds : HoldsClaims state) {task : Nat}
    {now : Int} {locked : UUID → Bool} {projectId : Option UUID} {limit : Nat}
    (events : next.events =
      (claimPending now locked outboxSpanInserted projectId limit state.events).1)
    (held : next.held = Function.update state.held task
      (claimPending now locked outboxSpanInserted projectId limit state.events).2) :
    HoldsClaims next := by
  have untouched : ∀ other, ∀ event ∈ state.held other,
      event.id ∉ nextEvents now locked outboxSpanInserted projectId limit state.events := by
    intro other event member selected
    obtain ⟨row, stored, sameId, processing, -⟩ := holds.row other event member
    exact not_processing_of_mem_nextEvents stored (sameId ▸ selected) processing
  have selectedIds : ∀ event ∈
      (claimPending now locked outboxSpanInserted projectId limit state.events).2,
      event.id ∈ nextEvents now locked outboxSpanInserted projectId limit state.events := by
    intro event member
    obtain ⟨row, -, selected, rfl⟩ := mem_claimPending.mp member
    exact selected
  refine ⟨fun other event member => ?_, fun other => ?_, ?_⟩
  · rw [held] at member
    rw [events]
    rcases mem_update_iff.mp member with ⟨rfl, claimed⟩ | ⟨-, member⟩
    · obtain ⟨row, stored, selected, rfl⟩ := mem_claimPending.mp claimed
      exact ⟨row.claim now, mem_claimPending_rows.mpr ⟨row, stored, if_pos selected⟩,
        rfl, rfl, rfl⟩
    · obtain ⟨row, stored, sameId, processing, attempts⟩ := holds.row other event member
      refine ⟨row, mem_claimPending_rows.mpr ⟨row, stored, if_neg ?_⟩, sameId, processing,
        attempts⟩
      exact sameId ▸ untouched other event member
  · rw [held]
    by_cases same : other = task
    · subst same
      rw [Function.update_self]
      exact claimPending_ids_nodup ..
    · rw [Function.update_of_ne same]
      exact holds.nodup other
  · intro first second event member other otherMember sameId
    rw [held] at member otherMember
    rcases mem_update_iff.mp member with ⟨rfl, claimed⟩ | ⟨-, old⟩
    · rcases mem_update_iff.mp otherMember with ⟨rfl, -⟩ | ⟨-, otherOld⟩
      · rfl
      · exact absurd (sameId ▸ selectedIds event claimed) (untouched second other otherOld)
    · rcases mem_update_iff.mp otherMember with ⟨rfl, otherClaimed⟩ | ⟨-, otherOld⟩
      · exact absurd (sameId ▸ selectedIds other otherClaimed) (untouched first event old)
      · exact holds.exclusive first second event old other otherOld sameId

/-- In a settled task the other held events keep their rows. -/
theorem HoldsClaims.ne_settled {state : DeliveryState} (holds : HoldsClaims state)
    {task other : Nat} {event : OutboxEventPayload} {kept dropped : List OutboxEventPayload}
    (before : state.held task = event :: (kept ++ dropped)) {held : OutboxEventPayload}
    (member : held ∈ state.held other) (rest : other = task → held ∈ kept ++ dropped) :
    held.id ≠ event.id := by
  intro sameId
  have head : event ∈ state.held task := before ▸ List.mem_cons_self ..
  have sameTask := holds.exclusive other task held member event head sameId
  have distinct := holds.nodup task
  rw [before, List.map_cons, List.nodup_cons] at distinct
  exact distinct.1 (sameId ▸ List.mem_map_of_mem (rest sameTask))

theorem HoldsClaims.step {state next : DeliveryState} {action : DeliveryAction}
    (holds : HoldsClaims state) (effect : DeliveryEffect state next action) :
    HoldsClaims next := by
  cases effect with
  | enqueued rows kept held _ =>
      refine holds.release 0 (List.Sublist.refl _) ?_
        fun _ _ _ row stored _ => kept row stored
      rw [held, Function.update_eq_self]
  | claimed task now locked projectId limit _ events held _ => exact holds.claim events held
  | moved events held _ =>
      refine holds.release 0 (List.Sublist.refl _) ?_
        fun _ _ _ row stored _ => events ▸ stored
      rw [held, Function.update_eq_self]
  | settled task event kept dropped before assign sameId notProcessing rows held _ =>
      refine holds.release task ?_ held ?_
      · rw [before]
        exact (List.sublist_append_left kept dropped).cons event
      · intro other heldEvent member row stored rowId
        have notSettled : heldEvent.id ≠ event.id := by
          rw [held] at member
          rcases mem_update_iff.mp member with ⟨rfl, inKept⟩ | ⟨different, old⟩
          · have rest := List.mem_append_left dropped inKept
            exact holds.ne_settled before (before ▸ List.mem_cons_of_mem _ rest) fun _ => rest
          · exact holds.ne_settled before old fun same => absurd same different
        rw [rows, List.mem_map]
        exact ⟨row, stored, if_neg (rowId ▸ notSettled)⟩
  | aborted task events held _ =>
      exact holds.release task (List.nil_sublist _) held fun _ _ _ row stored _ => events ▸ stored

/-! ### Rows in processing have a holder, or are stranded for good -/

/-- Every row in processing that has attempts left is held by a running task. -/
def Covered (state : DeliveryState) : Prop :=
  ∀ row ∈ state.events.rows, row.status = .processing → row.attempts < outboxMaxAttempts →
    ∃ task, ∃ event ∈ state.held task, event.id = row.id

/-- Some row in processing that has attempts left is held by nobody. -/
def Stranded (state : DeliveryState) : Prop :=
  ∃ row ∈ state.events.rows, row.status = .processing ∧ row.attempts < outboxMaxAttempts ∧
    ∀ task, ∀ event ∈ state.held task, event.id ≠ row.id

theorem HoldsClaims.attempts_eq {state : DeliveryState} (holds : HoldsClaims state) {task : Nat}
    {event : OutboxEventPayload} {row : OutboxEvent} (member : event ∈ state.held task)
    (stored : row ∈ state.events.rows) (sameId : event.id = row.id) :
    row.attempts = event.attempts := by
  obtain ⟨heldRow, heldStored, heldId, -, attempts⟩ := holds.row task event member
  rw [OutboxTable.row_eq_of_id stored heldStored (sameId.symm.trans heldId.symm), attempts]

/-- A step that drops only spent events leaves no other row without a holder. -/
theorem Covered.step {state next : DeliveryState} {action : DeliveryAction}
    (covered : Covered state) (holds : HoldsClaims state)
    (effect : DeliveryEffect state next action) (spent : AbandonsOnlySpent state action) :
    Covered next := by
  intro row stored processing left
  have notDropped : ∀ task, ∀ event ∈ state.held task, event.id = row.id →
      row ∈ state.events.rows → event ∉ abandoned state action := by
    intro task event member sameId old dropped
    have bound := spent event dropped
    rw [← holds.attempts_eq member old sameId] at bound
    exact absurd left (not_lt.mpr bound)
  cases effect with
  | enqueued rows _ held _ =>
      rcases rows row stored with old | ⟨pending, -⟩
      · rw [held]
        exact covered row old processing left
      · rw [pending] at processing
        cases processing
  | claimed task now locked projectId limit free events held _ =>
      rw [events] at stored
      obtain ⟨old, oldStored, rfl⟩ := mem_claimPending_rows.mp stored
      by_cases selected :
          old.id ∈ nextEvents now locked outboxSpanInserted projectId limit state.events
      · refine ⟨task, (old.claim now).toPayload, ?_, by rw [if_pos selected]; rfl⟩
        rw [held]
        exact mem_update_iff.mpr
          (Or.inl ⟨rfl, mem_claimPending.mpr ⟨old, oldStored, selected, rfl⟩⟩)
      · rw [if_neg selected] at processing left
        obtain ⟨holder, event, member, sameId⟩ := covered old oldStored processing left
        refine ⟨holder, event, ?_, by rw [if_neg selected]; exact sameId⟩
        have different : holder ≠ task := by
          rintro rfl
          rw [free] at member
          cases member
        rw [held]
        exact mem_update_iff.mpr (Or.inr ⟨different, member⟩)
  | moved events held _ =>
      rw [held]
      exact covered row (events ▸ stored) processing left
  | settled task event kept dropped before assign sameIds notProcessing rows held drops =>
      rw [rows, List.mem_map] at stored
      obtain ⟨old, oldStored, rfl⟩ := stored
      by_cases isHead : old.id = event.id
      · rw [if_pos isHead] at processing
        exact absurd processing (notProcessing old)
      · rw [if_neg isHead] at processing left notDropped ⊢
        obtain ⟨holder, heldEvent, member, sameId⟩ := covered old oldStored processing left
        refine ⟨holder, heldEvent, ?_, sameId⟩
        rw [held, mem_update_iff]
        by_cases same : holder = task
        · subst same
          have undropped := notDropped holder heldEvent member sameId oldStored
          rw [before, List.mem_cons, List.mem_append] at member
          rw [drops] at undropped
          rcases member with rfl | kept | dropped
          · exact absurd sameId.symm isHead
          · exact Or.inl ⟨rfl, kept⟩
          · exact absurd dropped undropped
        · exact Or.inr ⟨same, member⟩
  | aborted task events held drops =>
      rw [events] at stored
      obtain ⟨holder, event, member, sameId⟩ := covered row stored processing left
      refine ⟨holder, event, ?_, sameId⟩
      rw [held, mem_update_iff]
      by_cases same : holder = task
      · subst same
        exact absurd (drops ▸ member) (notDropped holder event member sameId stored)
      · exact Or.inr ⟨same, member⟩

/-- Nothing brings a stranded row back: a claim does not select it and nobody
holds it. -/
theorem Stranded.step {state next : DeliveryState} {action : DeliveryAction}
    (stranded : Stranded state) (effect : DeliveryEffect state next action) :
    Stranded next := by
  obtain ⟨row, stored, processing, left, unheld⟩ := stranded
  cases effect with
  | enqueued _ kept held _ => exact ⟨row, kept row stored, processing, left, held ▸ unheld⟩
  | claimed task now locked projectId limit _ events held _ =>
      have unselected : row.id ∉
          nextEvents now locked outboxSpanInserted projectId limit state.events :=
        fun selected => not_processing_of_mem_nextEvents stored selected processing
      refine ⟨row, ?_, processing, left, fun other event member sameId => ?_⟩
      · rw [events]
        exact mem_claimPending_rows.mpr ⟨row, stored, if_neg unselected⟩
      · rw [held] at member
        rcases mem_update_iff.mp member with ⟨rfl, claimed⟩ | ⟨-, old⟩
        · obtain ⟨claimed, -, selected, rfl⟩ := mem_claimPending.mp claimed
          exact unselected (sameId ▸ selected)
        · exact unheld other event old sameId
  | moved events held _ => exact ⟨row, events ▸ stored, processing, left, held ▸ unheld⟩
  | settled task event kept dropped before assign sameIds notProcessing rows held _ =>
      have head : event ∈ state.held task := before ▸ List.mem_cons_self ..
      refine ⟨row, ?_, processing, left, fun other heldEvent member => ?_⟩
      · rw [rows, List.mem_map]
        exact ⟨row, stored, if_neg fun sameId => unheld task event head sameId.symm⟩
      · rw [held] at member
        rcases mem_update_iff.mp member with ⟨rfl, inKept⟩ | ⟨-, old⟩
        · refine unheld other heldEvent ?_
          rw [before]
          exact List.mem_cons_of_mem _ (List.mem_append_left _ inKept)
        · exact unheld other heldEvent old
  | aborted task events held _ =>
      refine ⟨row, events ▸ stored, processing, left, fun other event member => ?_⟩
      rw [held] at member
      rcases mem_update_iff.mp member with ⟨-, none⟩ | ⟨-, old⟩
      · cases none
      · exact unheld other event old

/-- A step that drops an event with attempts left strands its row. -/
theorem stranded_of_abandons {state next : DeliveryState} {action : DeliveryAction}
    (holds : HoldsClaims state) (effect : DeliveryEffect state next action)
    (breach : ¬ AbandonsOnlySpent state action) : Stranded next := by
  unfold AbandonsOnlySpent at breach
  push Not at breach
  obtain ⟨event, dropped, left⟩ := breach
  cases effect with
  | enqueued _ _ _ nothing => simp [nothing] at dropped
  | claimed _ _ _ _ _ _ _ _ nothing => simp [nothing] at dropped
  | moved _ _ nothing => simp [nothing] at dropped
  | settled task head kept lost before assign sameIds notProcessing rows held drops =>
      rw [drops] at dropped
      have member : event ∈ state.held task := by
        rw [before]
        exact List.mem_cons_of_mem _ (List.mem_append_right _ dropped)
      obtain ⟨row, stored, sameId, processing, attempts⟩ := holds.row task event member
      have notHead : event.id ≠ head.id :=
        holds.ne_settled before member fun _ => List.mem_append_right _ dropped
      refine ⟨row, ?_, processing, attempts ▸ left, fun other heldEvent heldMember => ?_⟩
      · rw [rows, List.mem_map]
        exact ⟨row, stored, if_neg (sameId ▸ notHead)⟩
      · rw [sameId]
        intro again
        rw [held] at heldMember
        rcases mem_update_iff.mp heldMember with ⟨rfl, inKept⟩ | ⟨different, old⟩
        · have distinct := holds.nodup other
          rw [before, List.map_cons, List.nodup_cons, List.map_append,
            List.nodup_append] at distinct
          exact distinct.2.2.2 _ (List.mem_map_of_mem inKept) _
            (List.mem_map_of_mem dropped) again
        · exact different (holds.exclusive other task heldEvent old event member again)
  | aborted task events held drops =>
      rw [drops] at dropped
      obtain ⟨row, stored, sameId, processing, attempts⟩ := holds.row task event dropped
      refine ⟨row, events ▸ stored, processing, attempts ▸ left,
        fun other heldEvent heldMember => ?_⟩
      rw [sameId]
      intro again
      rw [held] at heldMember
      rcases mem_update_iff.mp heldMember with ⟨-, none⟩ | ⟨different, old⟩
      · cases none
      · exact different (holds.exclusive other task heldEvent old event dropped again)

/-! ### Runs -/

theorem holdsClaims_of_run {actions : List DeliveryAction} {state final : DeliveryState}
    (holds : HoldsClaims state) (reached : deliveryMachine.run state actions = some final) :
    HoldsClaims final :=
  deliveryMachine.run_invariant_always
    (fun _ _ _ holds stepped => holds.step (deliveryEffect stepped)) holds reached

theorem covered_of_run {actions : List DeliveryAction} {state : DeliveryState}
    (reached : deliveryMachine.run .initial actions = some state)
    (spent : deliveryMachine.Along AbandonsOnlySpent .initial actions) : Covered state := by
  have both : HoldsClaims state ∧ Covered state := by
    refine deliveryMachine.run_invariant (fun state => HoldsClaims state ∧ Covered state)
      ?_ ?_ spent reached
    · intro state action next ⟨holds, covered⟩ spent stepped
      have effect := deliveryEffect stepped
      exact ⟨holds.step effect, covered.step holds effect spent⟩
    · refine ⟨holdsClaims_initial, ?_⟩
      simp [Covered, DeliveryState.initial, Table.empty]
  exact both.2

theorem stranded_of_run {actions : List DeliveryAction} {state final : DeliveryState}
    (stranded : Stranded state) (reached : deliveryMachine.run state actions = some final) :
    Stranded final :=
  deliveryMachine.run_invariant_always
    (fun _ _ _ stranded stepped => stranded.step (deliveryEffect stepped)) stranded reached

theorem recoverable_of_covered {state : DeliveryState} (idle : state.Idle)
    (covered : Covered state) : state.Recoverable := by
  intro row stored undelivered left
  cases status : row.status with
  | pending => exact Or.inl rfl
  | failed => exact Or.inr rfl
  | delivered => exact absurd status undelivered
  | processing =>
      obtain ⟨task, event, member, -⟩ := covered row stored status left
      rw [held_of_free (idle task)] at member
      cases member

theorem not_recoverable_of_stranded {state : DeliveryState} (stranded : Stranded state) :
    ¬ state.Recoverable := by
  obtain ⟨row, stored, processing, left, -⟩ := stranded
  intro recoverable
  have claimable := recoverable row stored (by simp [processing]) left
  simp [processing] at claimable

/-- Once no delivery task is running, every undelivered event with attempts left
can be claimed again exactly when no task of the run ended while it held an
unsettled event with attempts left. -/
theorem recoverable_iff_abandonsOnlySpent {actions : List DeliveryAction}
    {state : DeliveryState} (reached : deliveryMachine.run .initial actions = some state)
    (idle : state.Idle) :
    state.Recoverable ↔ deliveryMachine.Along AbandonsOnlySpent .initial actions := by
  constructor
  · intro recoverable
    by_contra breached
    obtain ⟨before, action, after, middle, next, -, ran, breach, stepped, onward⟩ :=
      deliveryMachine.exists_breach_of_not_along reached breached
    have holds := holdsClaims_of_run holdsClaims_initial ran
    have stranded := stranded_of_abandons holds (deliveryEffect stepped) breach
    exact not_recoverable_of_stranded (stranded_of_run stranded onward) recoverable
  · exact fun spent => recoverable_of_covered idle (covered_of_run reached spent)

/-- Two events are enqueued and claimed together by one task. -/
def claimBoth : List DeliveryAction :=
  [.enqueue 0 1 9 outboxSpanInserted "a" .null, .enqueue 0 2 9 outboxSpanInserted "b" .null,
    .claim 0 1 (fun _ => false) none 100]

theorem recoverable_iff_abandonsOnlySpent_failedLast :
    ∃ state, deliveryMachine.run .initial (claimBoth ++ [.publish 0 none, .markDelivered 0 2,
        .publish 0 (some "redis publish unavailable"), .markFailed 0 3]) = some state ∧
      (state.Recoverable ↔ deliveryMachine.Along AbandonsOnlySpent .initial
        (claimBoth ++ [.publish 0 none, .markDelivered 0 2,
          .publish 0 (some "redis publish unavailable"), .markFailed 0 3])) := by
  refine ⟨_, rfl, recoverable_iff_abandonsOnlySpent rfl fun task => ?_⟩
  by_cases first : task = 0
  · subst first
    rfl
  · simp [first, DeliveryState.initial]

/-- The publish of the first of two claimed events fails: the second one stays
in processing, and no claim selects it. -/
theorem firstPublishFails_strands :
    ∃ state, deliveryMachine.run .initial (claimBoth ++
        [.publish 0 (some "redis publish unavailable"), .markFailed 0 2]) = some state ∧
      state.Idle ∧ ¬ state.Recoverable := by
  refine ⟨_, rfl, fun task => ?_, fun recoverable => ?_⟩
  · by_cases first : task = 0
    · subst first
      rfl
    · simp [first, DeliveryState.initial]
  · have claimable := recoverable _ (List.mem_cons_of_mem _ (List.mem_cons_self ..))
    revert claimable
    decide

end LlmObs.Backend
