import LlmObs.Backend.Models
import Mathlib.Data.List.Sort

/-!
Owns the statements of the outbox service: enqueueing an event inside a batch
transaction, claiming events, and recording a delivery or a failed attempt.
-/

namespace LlmObs.Backend

open LlmObs.Foundation

def outboxSpanInserted : String := "span.inserted"
def outboxMaxAttempts : Nat := 5

/-- Microseconds of a second. -/
def microsecondsPerSecond : Int := 1000000

structure OutboxEventPayload where
  id : UUID
  projectId : UUID
  eventType : String
  eventKey : String
  payload : Json
  attempts : Nat

/-- A new row: the columns the statement does not name take their defaults. -/
def newOutboxEvent (now : Int) (id projectId : UUID) (eventType eventKey : String)
    (payload : Json) : OutboxEvent where
  id := id
  projectId := projectId
  eventType := eventType
  eventKey := eventKey
  payload := payload
  status := .pending
  attempts := 0
  availableAt := now
  lockedAt := none
  deliveredAt := none
  lastError := none
  createdAt := now

/-- `INSERT .. ON CONFLICT (project_id, event_type, event_key) DO NOTHING`. A
reused primary key is not covered by that conflict target and raises. -/
def enqueueOutboxEvent (now : Int) (id projectId : UUID) (eventType eventKey : String)
    (payload : Json) (events : OutboxTable) : Option OutboxTable :=
  if ∃ row ∈ events.rows, row.uniqueKey = (projectId, eventType, eventKey) then some events
  else events.insert? (newOutboxEvent now id projectId eventType eventKey payload)

namespace OutboxEvent

/-- The `WHERE` clause of `claim_pending`. -/
def claimable (now : Int) (eventType : String) (projectId : Option UUID)
    (row : OutboxEvent) : Bool :=
  decide (row.eventType = eventType) &&
    (decide (row.status = .pending) || decide (row.status = .failed)) &&
    decide (row.attempts < outboxMaxAttempts) && decide (row.availableAt ≤ now) &&
    projectId.all fun project => decide (row.projectId = project)

def claim (now : Int) (row : OutboxEvent) : OutboxEvent :=
  { row with
    status := .processing
    attempts := row.attempts + 1
    lockedAt := some now }

def deliver (now : Int) (row : OutboxEvent) : OutboxEvent :=
  { row with
    status := .delivered
    deliveredAt := some now
    lockedAt := none
    lastError := none }

def fail (now : Int) (error : String) (row : OutboxEvent) : OutboxEvent :=
  { row with
    status := if outboxMaxAttempts ≤ row.attempts then .failed else .pending
    availableAt := now + min 300 (row.attempts * 10) * microsecondsPerSecond
    lockedAt := none
    lastError := some (String.ofList (error.toList.take 1000)) }

/-- The columns that `RETURNING` gives back. -/
def toPayload (row : OutboxEvent) : OutboxEventPayload where
  id := row.id
  projectId := row.projectId
  eventType := row.eventType
  eventKey := row.eventKey
  payload := row.payload
  attempts := row.attempts

end OutboxEvent

/-- An `UPDATE` of the rows that `selected` marks, keeping ids and unique keys. -/
def OutboxTable.update (events : OutboxTable) (selected : OutboxEvent → Bool)
    (assign : OutboxEvent → OutboxEvent)
    (keepsKeys : ∀ row, (assign row).id = row.id ∧ (assign row).uniqueKey = row.uniqueKey) :
    OutboxTable :=
  events.mapRows (fun row => if selected row then assign row else row) fun left right => by
    split <;> split <;> simp [keepsKeys]

theorem OutboxTable.update_rows (events : OutboxTable) (selected : OutboxEvent → Bool)
    (assign : OutboxEvent → OutboxEvent)
    (keepsKeys : ∀ row, (assign row).id = row.id ∧ (assign row).uniqueKey = row.uniqueKey) :
    (OutboxTable.update events selected assign keepsKeys).rows =
      events.rows.map fun row => if selected row then assign row else row := rfl

/-- The id of an event determines its row. -/
theorem OutboxTable.row_eq_of_id {events : OutboxTable} {left right : OutboxEvent}
    (leftMember : left ∈ events.rows) (rightMember : right ∈ events.rows)
    (sameId : left.id = right.id) : left = right :=
  Table.eq_of_clash (fun _ _ clashes => clashes.imp Eq.symm Eq.symm) leftMember rightMember
    (Or.inl sameId)

theorem OutboxTable.ids_nodup (events : OutboxTable) : (events.rows.map (·.id)).Nodup := by
  rw [List.Nodup, List.pairwise_map]
  exact events.unique.imp fun distinct sameId => distinct (Or.inl sameId)

/-- `next_events`: the ids of the oldest claimable rows that no other
transaction has locked. -/
def nextEvents (now : Int) (locked : UUID → Bool) (eventType : String)
    (projectId : Option UUID) (limit : Nat) (events : OutboxTable) : List UUID :=
  (((events.rows.filter fun row => row.claimable now eventType projectId && !locked row.id)
    |>.insertionSort fun left right => left.createdAt ≤ right.createdAt).take limit).map
      (·.id)

/-- `claim_pending` after its commit: the table, and the claimed events as
`RETURNING` lists them. -/
def claimPending (now : Int) (locked : UUID → Bool) (eventType : String)
    (projectId : Option UUID) (limit : Nat) (events : OutboxTable) :
    OutboxTable × List OutboxEventPayload :=
  let ids := nextEvents now locked eventType projectId limit events
  (OutboxTable.update events (fun row => decide (row.id ∈ ids)) (·.claim now)
      fun _ => ⟨rfl, rfl⟩,
    (events.rows.filter fun row => decide (row.id ∈ ids)).map fun row =>
      (row.claim now).toPayload)

def markDelivered (now : Int) (eventId : UUID) (events : OutboxTable) : OutboxTable :=
  OutboxTable.update events (fun row => decide (row.id = eventId)) (·.deliver now)
    fun _ => ⟨rfl, rfl⟩

def markFailed (now : Int) (eventId : UUID) (error : String) (events : OutboxTable) :
    OutboxTable :=
  OutboxTable.update events (fun row => decide (row.id = eventId)) (·.fail now error)
    fun _ => ⟨rfl, rfl⟩

/-! ### What the statements do to the rows -/

/-- Enqueueing adds at most one pending row, under an unused id. -/
theorem enqueueOutboxEvent_rows {now : Int} {id projectId : UUID} {eventType eventKey : String}
    {payload : Json} {events next : OutboxTable}
    (enqueued : enqueueOutboxEvent now id projectId eventType eventKey payload events =
      some next) :
    next = events ∨
      (next.rows = events.rows ++
          [newOutboxEvent now id projectId eventType eventKey payload] ∧
        ∀ old ∈ events.rows, old.id ≠ id) := by
  unfold enqueueOutboxEvent at enqueued
  split at enqueued
  · cases enqueued
    exact Or.inl rfl
  · have rows := Table.insert?_rows enqueued
    refine Or.inr ⟨rows, fun old stored sameId => ?_⟩
    have unique := next.unique
    rw [rows, List.pairwise_append] at unique
    exact unique.2.2 old stored _ (List.mem_singleton_self _) (Or.inl sameId)

/-- A claimed id belongs to a row that the `WHERE` clause accepts. -/
theorem exists_claimable_of_mem_nextEvents {now : Int} {locked : UUID → Bool}
    {eventType : String} {projectId : Option UUID} {limit : Nat} {events : OutboxTable}
    {id : UUID} (member : id ∈ nextEvents now locked eventType projectId limit events) :
    ∃ row ∈ events.rows, row.id = id ∧ row.claimable now eventType projectId = true := by
  obtain ⟨row, taken, sameId⟩ := List.mem_map.mp member
  have sorted := List.mem_of_mem_take taken
  rw [List.mem_insertionSort, List.mem_filter, Bool.and_eq_true] at sorted
  exact ⟨row, sorted.1, sameId, sorted.2.1⟩

theorem OutboxEvent.not_processing_of_claimable {now : Int} {eventType : String}
    {projectId : Option UUID} {row : OutboxEvent}
    (claimable : row.claimable now eventType projectId = true) :
    row.status ≠ .processing := by
  intro processing
  simp [OutboxEvent.claimable, processing] at claimable

theorem mem_claimPending {now : Int} {locked : UUID → Bool} {eventType : String}
    {projectId : Option UUID} {limit : Nat} {events : OutboxTable} {event : OutboxEventPayload} :
    event ∈ (claimPending now locked eventType projectId limit events).2 ↔
      ∃ row ∈ events.rows, row.id ∈ nextEvents now locked eventType projectId limit events ∧
        (row.claim now).toPayload = event := by
  simp only [claimPending, List.mem_map, List.mem_filter, decide_eq_true_eq, and_assoc]

theorem claimPending_ids_nodup (now : Int) (locked : UUID → Bool) (eventType : String)
    (projectId : Option UUID) (limit : Nat) (events : OutboxTable) :
    ((claimPending now locked eventType projectId limit events).2.map (·.id)).Nodup := by
  have ids : (claimPending now locked eventType projectId limit events).2.map (·.id) =
      (events.rows.filter fun row => decide (row.id ∈
        nextEvents now locked eventType projectId limit events)).map (·.id) := by
    rw [claimPending, List.map_map]
    rfl
  rw [ids]
  exact (List.filter_sublist.map _).nodup (OutboxTable.ids_nodup events)

/-- A row that a claim does not select stays, and a selected one is claimed. -/
theorem mem_claimPending_rows {now : Int} {locked : UUID → Bool} {eventType : String}
    {projectId : Option UUID} {limit : Nat} {events : OutboxTable} {row : OutboxEvent} :
    row ∈ (claimPending now locked eventType projectId limit events).1.rows ↔
      ∃ old ∈ events.rows,
        (if old.id ∈ nextEvents now locked eventType projectId limit events then old.claim now
          else old) = row := by
  simp [claimPending, OutboxTable.update_rows]

/-- No claimed row was in the middle of another delivery. -/
theorem not_processing_of_mem_nextEvents {now : Int} {locked : UUID → Bool}
    {eventType : String} {projectId : Option UUID} {limit : Nat} {events : OutboxTable}
    {row : OutboxEvent} (stored : row ∈ events.rows)
    (member : row.id ∈ nextEvents now locked eventType projectId limit events) :
    row.status ≠ .processing := by
  obtain ⟨claimed, claimedStored, sameId, claimable⟩ :=
    exists_claimable_of_mem_nextEvents member
  rw [OutboxTable.row_eq_of_id stored claimedStored sameId.symm]
  exact OutboxEvent.not_processing_of_claimable claimable

end LlmObs.Backend
