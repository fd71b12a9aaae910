import LlmObs.Backend.Workers.OutboxDelivery

/-!
Owns what the claims of any number of delivery tasks promise: an event has one holder,
its attempts are bounded and bound its publishes, and once it is delivered nothing
touches it again. `mark_delivered` and `mark_failed` look at no status, so all of it
rests on who holds an event.
-/

namespace LlmObs.Backend

open LlmObs.Foundation

/-- The event whose `redis.publish` the step is, whatever the outcome. -/
def publishedEvent? (state : DeliveryState) : DeliveryAction → Option UUID
  | .publish task _ => (state.held task).head?.map OutboxEventPayload.id
  | _ => none

def countPublish (state : DeliveryState) (action : DeliveryAction) (count : UUID → Nat) :
    UUID → Nat :=
  match publishedEvent? state action with
  | some id => Function.update count id (count id + 1)
  | none => count

/-- How often a run publishes each event, failing publishes included. -/
def publishCount (state : DeliveryState) (actions : List DeliveryAction) : UUID → Nat :=
  deliveryMachine.recordAlong countPublish state (fun _ => 0) actions

namespace DeliveryState

/-- The events that a task holds and has not published. -/
def unpublished (state : DeliveryState) (task : Nat) : List OutboxEventPayload :=
  match state.tasks task with
  | some ⟨held, .publishing⟩ => held
  | some ⟨held, _⟩ => held.tail
  | none => []

theorem unpublished_sublist (state : DeliveryState) (task : Nat) :
    (state.unpublished task).Sublist (state.held task) := by
  unfold unpublished held
  split
  · rename_i found
    rw [found]
  · rename_i found
    rw [found]
    exact List.tail_sublist _
  · exact List.nil_sublist _

end DeliveryState

/-! ### What one step can do to attempts and publishes -/

/-- The effect of a step on the rows, the events that tasks have yet to publish, and
the counts of publishes. -/
inductive PublishEffect (state next : DeliveryState) (action : DeliveryAction) : Prop
  | enqueued (rows : ∀ row ∈ next.events.rows, row ∈ state.events.rows ∨
        (row.attempts = 0 ∧ ∀ old ∈ state.events.rows, old.id ≠ row.id))
      (kept : ∀ row ∈ state.events.rows, row ∈ next.events.rows)
      (unpublished : next.unpublished = state.unpublished)
      (nothing : publishedEvent? state action = none)
  | claimed (task : Nat) (now : Int) (locked : UUID → Bool) (projectId : Option UUID)
      (limit : Nat)
      (events : next.events =
        (claimPending now locked outboxSpanInserted projectId limit state.events).1)
      (unpublished : next.unpublished = Function.update state.unpublished task
        (claimPending now locked outboxSpanInserted projectId limit state.events).2)
      (nothing : publishedEvent? state action = none)
  | published (task : Nat) (event : OutboxEventPayload) (rest : List OutboxEventPayload)
      (before : state.unpublished task = event :: rest) (events : next.events = state.events)
      (unpublished : next.unpublished = Function.update state.unpublished task rest)
      (publishes : publishedEvent? state action = some event.id)
  | settled (task : Nat) (event : OutboxEventPayload) (kept : List OutboxEventPayload)
      (holds : event ∈ state.held task) (assign : OutboxEvent → OutboxEvent)
      (same : ∀ row, (assign row).id = row.id ∧ (assign row).attempts = row.attempts)
      (rows : next.events.rows =
        state.events.rows.map fun row => if row.id = event.id then assign row else row)
      (sublist : kept.Sublist (state.unpublished task))
      (unpublished : next.unpublished = Function.update state.unpublished task kept)
      (nothing : publishedEvent? state action = none)
  | aborted (task : Nat) (events : next.events = state.events)
      (unpublished : next.unpublished = Function.update state.unpublished task [])
      (nothing : publishedEvent? state action = none)

theorem unpublished_update (state : DeliveryState) (events : OutboxTable) (task : Nat)
    (running : Option DeliveryTask) (published : List (UUID × Json)) :
    DeliveryState.unpublished ⟨events, Function.update state.tasks task running, published⟩ =
      Function.update state.unpublished task (match running with
        | some ⟨held, .publishing⟩ => held
        | some ⟨held, _⟩ => held.tail
        | none => []) := by
  funext other
  by_cases same : other = task
  · subst same
    simp [DeliveryState.unpublished]
  · simp [DeliveryState.unpublished, same]

theorem unpublished_continueDelivery (held : List OutboxEventPayload) :
    (match continueDelivery held with
      | some ⟨held, .publishing⟩ => held
      | some ⟨held, _⟩ => held.tail
      | none => []) = held := by
  cases held <;> rfl

theorem publishEffect {state next : DeliveryState} {action : DeliveryAction}
    (stepped : deliveryMachine.step state action = some next) :
    PublishEffect state next action := by
  cases deliveryMove stepped with
  | enqueue enqueued =>
      obtain ⟨rows, kept⟩ := rows_of_enqueued enqueued
      exact .enqueued (fun row stored => (rows row stored).imp_right fun new => new.2) kept rfl rfl
  | @claim task now locked projectId limit _ =>
      refine .claimed task now locked projectId limit rfl ?_ rfl
      rw [unpublished_update, unpublished_continueDelivery]
  | @publish task error event rest phase _ found settles =>
      refine .published task event rest ?_ rfl ?_ ?_
      · simp [DeliveryState.unpublished, found]
      · rw [unpublished_update]
        cases phase with
        | publishing => exact absurd rfl settles
        | markingDelivered => rfl
        | markingFailed => rfl
      · simp [publishedEvent?, held_of_running found]
  | @markDelivered task now event rest found =>
      refine .settled task event rest ?_ (·.deliver now) (fun _ => ⟨rfl, rfl⟩) ?_ ?_ ?_ rfl
      · simp [held_of_running found]
      · simp [markDelivered, OutboxTable.update_rows]
      · simp [DeliveryState.unpublished, found]
      · rw [unpublished_update, unpublished_continueDelivery]
  | @markFailed task now event rest error found =>
      refine .settled task event [] ?_ (·.fail now error) (fun _ => ⟨rfl, rfl⟩) ?_
        (List.nil_sublist _) (unpublished_update ..) rfl
      · simp [held_of_running found]
      · simp [markFailed, OutboxTable.update_rows]
  | @abort task _ _ => exact .aborted task rfl (unpublished_update ..) rfl

/-! ### Attempts bound publishes -/

/-- An event has been published at most once for each of its attempts, and less often
while a task that holds it has yet to publish it. -/
structure PublishesBounded (state : DeliveryState) (count : UUID → Nat) : Prop where
  claims : HoldsClaims state
  attempts : ∀ row ∈ state.events.rows, row.attempts ≤ outboxMaxAttempts
  published : ∀ row ∈ state.events.rows, count row.id ≤ row.attempts
  owed : ∀ task, ∀ event ∈ state.unpublished task, count event.id < event.attempts
  unknown : ∀ id, (∀ row ∈ state.events.rows, row.id ≠ id) → count id = 0

theorem publishesBounded_initial : PublishesBounded .initial fun _ => 0 where
  claims := holdsClaims_initial
  attempts := by simp [DeliveryState.initial, Table.empty]
  published := by simp
  owed := by simp [DeliveryState.unpublished, DeliveryState.initial]
  unknown := by simp

theorem countPublish_of_none {state : DeliveryState} {action : DeliveryAction}
    (nothing : publishedEvent? state action = none) (count : UUID → Nat) :
    countPublish state action count = count := by
  simp [countPublish, nothing]

theorem PublishesBounded.claim {state next : DeliveryState} {count : UUID → Nat}
    (bounded : PublishesBounded state count) (claims : HoldsClaims next) {task : Nat} {now : Int}
    {locked : UUID → Bool} {projectId : Option UUID} {limit : Nat}
    (events : next.events =
      (claimPending now locked outboxSpanInserted projectId limit state.events).1)
    (unpublished : next.unpublished = Function.update state.unpublished task
      (claimPending now locked outboxSpanInserted projectId limit state.events).2) :
    PublishesBounded next count := by
  refine ⟨claims, fun row stored => ?_, fun row stored => ?_, fun other event member => ?_,
    fun id absent => bounded.unknown id fun row stored sameId => ?_⟩
  · rw [events] at stored
    obtain ⟨old, oldStored, rfl⟩ := mem_claimPending_rows.mp stored
    split
    · rename_i selected
      obtain ⟨claimed, claimedStored, sameId, claimable⟩ :=
        exists_claimable_of_mem_nextEvents selected
      obtain rfl := OutboxTable.row_eq_of_id oldStored claimedStored sameId.symm
      have left : old.attempts < outboxMaxAttempts := by
        simp only [OutboxEvent.claimable, Bool.and_eq_true, decide_eq_true_eq] at claimable
        exact claimable.1.1.2
      exact left
    · exact bounded.attempts old oldStored
  · rw [events] at stored
    obtain ⟨old, oldStored, rfl⟩ := mem_claimPending_rows.mp stored
    have published := bounded.published old oldStored
    split
    · exact Nat.le_succ_of_le published
    · exact published
  · rw [unpublished] at member
    rcases mem_update_iff.mp member with ⟨-, claimed⟩ | ⟨-, old⟩
    · obtain ⟨row, stored, -, rfl⟩ := mem_claimPending.mp claimed
      exact Nat.lt_succ_of_le (bounded.published row stored)
    · exact bounded.owed other event old
  · refine absent _ (events ▸ mem_claimPending_rows.mpr ⟨row, stored, rfl⟩) ?_
    split <;> exact sameId

/-- No unpublished event but the first of a task has its id: not in that task, nor in
another one. -/
theorem HoldsClaims.ne_published {state : DeliveryState} (holds : HoldsClaims state)
    {task other : Nat} {event later : OutboxEventPayload} {rest : List OutboxEventPayload}
    (before : state.unpublished task = event :: rest)
    (member : later ∈ Function.update state.unpublished task rest other) :
    later.id ≠ event.id := by
  intro sameId
  rcases mem_update_iff.mp member with ⟨rfl, inRest⟩ | ⟨otherTask, old⟩
  · have distinct := ((state.unpublished_sublist other).map _).nodup (holds.nodup other)
    rw [before, List.map_cons, List.nodup_cons] at distinct
    exact distinct.1 (sameId ▸ List.mem_map_of_mem inRest)
  · have holding := (state.unpublished_sublist task).subset
      (before ▸ List.mem_cons_self .. : event ∈ state.unpublished task)
    exact otherTask (holds.exclusive other task later
      ((state.unpublished_sublist other).subset old) event holding sameId)

theorem PublishesBounded.publish {state next : DeliveryState} {count : UUID → Nat}
    (bounded : PublishesBounded state count) (claims : HoldsClaims next) {task : Nat}
    {event : OutboxEventPayload} {rest : List OutboxEventPayload}
    (before : state.unpublished task = event :: rest) (events : next.events = state.events)
    (unpublished : next.unpublished = Function.update state.unpublished task rest) :
    PublishesBounded next (Function.update count event.id (count event.id + 1)) := by
  have first : event ∈ state.unpublished task := before ▸ List.mem_cons_self ..
  have holding := (state.unpublished_sublist task).subset first
  have owed := bounded.owed task event first
  refine ⟨claims, events ▸ bounded.attempts, fun row stored => ?_,
    fun other later member => ?_, fun id absent => ?_⟩
  · rw [events] at stored
    by_cases isEvent : row.id = event.id
    · rw [isEvent, Function.update_self,
        bounded.claims.attempts_eq holding stored isEvent.symm]
      exact owed
    · rw [Function.update_of_ne isEvent]
      exact bounded.published row stored
  · rw [unpublished] at member
    rw [Function.update_of_ne (bounded.claims.ne_published before member)]
    rcases mem_update_iff.mp member with ⟨rfl, inRest⟩ | ⟨-, old⟩
    · exact bounded.owed other later (before ▸ List.mem_cons_of_mem _ inRest)
    · exact bounded.owed other later old
  · obtain ⟨row, stored, sameId, -⟩ := bounded.claims.row task event holding
    rw [events] at absent
    rw [Function.update_of_ne fun same => absent row stored (sameId.trans same.symm)]
    exact bounded.unknown id absent

/-- Neither settling nor dropping events makes any of them due for more publishes. -/
theorem PublishesBounded.settle {state next : DeliveryState} {count : UUID → Nat}
    (bounded : PublishesBounded state count) (claims : HoldsClaims next) {task : Nat}
    {kept : List OutboxEventPayload} {assign : OutboxEvent → OutboxEvent}
    (same : ∀ row, (assign row).id = row.id ∧ (assign row).attempts = row.attempts)
    (rows : next.events.rows = state.events.rows.map assign)
    (sublist : kept.Sublist (state.unpublished task))
    (unpublished : next.unpublished = Function.update state.unpublished task kept) :
    PublishesBounded next count := by
  refine ⟨claims, fun row stored => ?_, fun row stored => ?_, fun other later member => ?_,
    fun id absent => bounded.unknown id fun row stored sameId => ?_⟩
  · rw [rows, List.mem_map] at stored
    obtain ⟨old, oldStored, rfl⟩ := stored
    rw [(same old).2]
    exact bounded.attempts old oldStored
  · rw [rows, List.mem_map] at stored
    obtain ⟨old, oldStored, rfl⟩ := stored
    rw [(same old).1, (same old).2]
    exact bounded.published old oldStored
  · rw [unpublished] at member
    rcases mem_update_iff.mp member with ⟨rfl, inKept⟩ | ⟨-, old⟩
    · exact bounded.owed other later (sublist.subset inKept)
    · exact bounded.owed other later old
  · exact absent _ (rows ▸ List.mem_map_of_mem stored) ((same row).1.trans sameId)

theorem PublishesBounded.step {state next : DeliveryState} {action : DeliveryAction}
    {count : UUID → Nat} (bounded : PublishesBounded state count)
    (stepped : deliveryMachine.step state action = some next) :
    PublishesBounded next (countPublish state action count) := by
  have claims := bounded.claims.step (deliveryEffect stepped)
  cases publishEffect stepped with
  | enqueued rows kept unpublished nothing =>
      rw [countPublish_of_none nothing]
      refine ⟨claims, fun row stored => ?_, fun row stored => ?_, unpublished ▸ bounded.owed,
        fun id absent => bounded.unknown id fun row stored => absent row (kept row stored)⟩
      · rcases rows row stored with old | ⟨fresh, -⟩
        · exact bounded.attempts row old
        · omega
      · rcases rows row stored with old | ⟨-, newId⟩
        · exact bounded.published row old
        · rw [bounded.unknown row.id newId]
          exact Nat.zero_le _
  | claimed task now locked projectId limit events unpublished nothing =>
      rw [countPublish_of_none nothing]
      exact bounded.claim claims events unpublished
  | published task event rest before events unpublished publishes =>
      have counts : countPublish state action count =
          Function.update count event.id (count event.id + 1) := by
        simp [countPublish, publishes]
      rw [counts]
      exact bounded.publish claims before events unpublished
  | settled task event kept _ assign same rows sublist unpublished nothing =>
      rw [countPublish_of_none nothing]
      refine bounded.settle claims (fun row => ?_) rows sublist unpublished
      split
      · exact same row
      · exact ⟨rfl, rfl⟩
  | aborted task events unpublished nothing =>
      rw [countPublish_of_none nothing]
      refine bounded.settle claims (fun _ => ⟨rfl, rfl⟩) ?_ (List.nil_sublist _) unpublished
      rw [events, List.map_id']

/-! ### Delivered events -/

/-- The row is there and delivered, and nobody has published it since. -/
structure DeliveredRow (row : OutboxEvent) (state : DeliveryState) (count : UUID → Nat) :
    Prop where
  claims : HoldsClaims state
  stored : row ∈ state.events.rows
  delivered : row.status = .delivered
  unpublished : count row.id = 0

theorem DeliveredRow.unheld {row : OutboxEvent} {state : DeliveryState} {count : UUID → Nat}
    (delivered : DeliveredRow row state count) (task : Nat) :
    ∀ event ∈ state.held task, event.id ≠ row.id := by
  intro event member sameId
  obtain ⟨held, heldStored, heldId, processing, -⟩ := delivered.claims.row task event member
  obtain rfl := OutboxTable.row_eq_of_id heldStored delivered.stored (heldId.trans sameId)
  rw [delivered.delivered] at processing
  cases processing

theorem DeliveredRow.step {row : OutboxEvent} {state next : DeliveryState}
    {action : DeliveryAction} {count : UUID → Nat} (delivered : DeliveredRow row state count)
    (stepped : deliveryMachine.step state action = some next) :
    DeliveredRow row next (countPublish state action count) := by
  have claims := delivered.claims.step (deliveryEffect stepped)
  cases publishEffect stepped with
  | enqueued _ kept _ nothing =>
      rw [countPublish_of_none nothing]
      exact ⟨claims, kept row delivered.stored, delivered.delivered, delivered.unpublished⟩
  | claimed task now locked projectId limit events _ nothing =>
      rw [countPublish_of_none nothing]
      have unselected : row.id ∉
          nextEvents now locked outboxSpanInserted projectId limit state.events := by
        intro selected
        obtain ⟨claimed, claimedStored, sameId, claimable⟩ :=
          exists_claimable_of_mem_nextEvents selected
        obtain rfl := OutboxTable.row_eq_of_id delivered.stored claimedStored sameId.symm
        simp [OutboxEvent.claimable, delivered.delivered] at claimable
      refine ⟨claims, ?_, delivered.delivered, delivered.unpublished⟩
      rw [events]
      exact mem_claimPending_rows.mpr ⟨row, delivered.stored, if_neg unselected⟩
  | published task event rest before events _ publishes =>
      have holding := (state.unpublished_sublist task).subset
        (before ▸ List.mem_cons_self .. : event ∈ state.unpublished task)
      refine ⟨claims, events ▸ delivered.stored, delivered.delivered, ?_⟩
      simp only [countPublish, publishes]
      rw [Function.update_of_ne (delivered.unheld task event holding).symm]
      exact delivered.unpublished
  | settled task event _ holds assign _ rows _ _ nothing =>
      rw [countPublish_of_none nothing]
      refine ⟨claims, ?_, delivered.delivered, delivered.unpublished⟩
      rw [rows, List.mem_map]
      exact ⟨row, delivered.stored, if_neg (delivered.unheld task event holds).symm⟩
  | aborted _ events _ nothing =>
      rw [countPublish_of_none nothing]
      exact ⟨claims, events ▸ delivered.stored, delivered.delivered, delivered.unpublished⟩

/-! ### Runs -/

/-- In every state that concurrent delivery tasks reach, no two of them hold an event
and none holds it twice; an event has at most `outboxMaxAttempts` attempts, and at least
one for each publish; and a delivered event keeps its row, unheld and unpublished, in
whatever follows. -/
theorem claims_exclusive_bounded_final {actions : List DeliveryAction} {state : DeliveryState}
    (reached : deliveryMachine.run .initial actions = some state) :
    (∀ first second, ∀ event ∈ state.held first, ∀ other ∈ state.held second,
        event.id = other.id → first = second) ∧
      (∀ task, ((state.held task).map OutboxEventPayload.id).Nodup) ∧
      (∀ row ∈ state.events.rows, row.attempts ≤ outboxMaxAttempts ∧
        publishCount .initial actions row.id ≤ row.attempts) ∧
      ∀ row ∈ state.events.rows, row.status = .delivered → ∀ (later : List DeliveryAction) after,
        deliveryMachine.run state later = some after →
          row ∈ after.events.rows ∧ publishCount state later row.id = 0 ∧
            ∀ task, ∀ event ∈ after.held task, event.id ≠ row.id := by
  have bounded : PublishesBounded state (publishCount .initial actions) :=
    deliveryMachine.recordAlong_invariant (fun _ _ _ _ bounded stepped => bounded.step stepped)
      publishesBounded_initial reached
  refine ⟨bounded.claims.exclusive, bounded.claims.nodup,
    fun row stored => ⟨bounded.attempts row stored, bounded.published row stored⟩, ?_⟩
  intro row stored status later after ran
  have delivered : DeliveredRow row after (publishCount state later) :=
    deliveryMachine.recordAlong_invariant
      (fun _ _ _ _ delivered stepped => delivered.step stepped)
      ⟨bounded.claims, stored, status, rfl⟩ ran
  exact ⟨delivered.stored, delivered.unpublished, delivered.unheld⟩

/-- Two tasks, one of which fails its publish: the event is claimed again and
delivered. -/
theorem claims_exclusive_bounded_final_retried :
    ∃ state, deliveryMachine.run .initial
        [.enqueue 0 1 9 outboxSpanInserted "a" .null, .claim 0 1 (fun _ => false) none 100,
          .claim 1 1 (fun _ => false) none 100, .publish 0 (some "unavailable"),
          .markFailed 0 2, .claim 1 20000000 (fun _ => false) none 100, .publish 1 none,
          .markDelivered 1 20000001] = some state ∧
      ∀ row ∈ state.events.rows, row.attempts ≤ outboxMaxAttempts := by
  obtain ⟨state, reached⟩ : ∃ state, deliveryMachine.run .initial
      [.enqueue 0 1 9 outboxSpanInserted "a" .null, .claim 0 1 (fun _ => false) none 100,
        .claim 1 1 (fun _ => false) none 100, .publish 0 (some "unavailable"),
        .markFailed 0 2, .claim 1 20000000 (fun _ => false) none 100, .publish 1 none,
        .markDelivered 1 20000001] = some state := ⟨_, rfl⟩
  exact ⟨state, reached, fun row stored =>
    ((claims_exclusive_bounded_final reached).2.2.1 row stored).1⟩

end LlmObs.Backend
