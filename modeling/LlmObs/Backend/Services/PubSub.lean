import LlmObs.Backend.Runtime
import LlmObs.Foundation.Machine
import LlmObs.Foundation.Outcome
import LlmObs.Foundation.Uuid

/-!
Owns the live stream of spans: the Redis client that the application opens, the listener
of `PubSubManager` with its restart, and the bounded queues of the subscribers. It says
which publishes reach the queues. Redis itself answers: lost connections are left out.
-/

namespace LlmObs.Backend

open LlmObs.Foundation

/-! ### The client -/

/-- A Python text or its UTF-8 bytes. -/
inductive PyText where
  | str (text : String)
  | bytes (text : String)
deriving DecidableEq, Repr

/-- `.decode()` -/
def PyText.decode : PyText → Except PyException String
  | .bytes text => .ok text
  | .str _ => .error ⟨.other, "'str' object has no attribute 'decode'"⟩

structure RedisClient where
  decodeResponses : Bool
deriving DecidableEq, Repr

/-- `get_redis` -/
def getRedis : RedisClient := ⟨true⟩

/-- What the client hands on of a text that Redis sends. -/
def RedisClient.receive (client : RedisClient) (text : String) : PyText :=
  if client.decodeResponses then .str text else .bytes text

/-- The entries of a message that `_listen` reads. -/
structure PubSubMessage where
  type : String
  channel : PyText
  data : PyText
deriving DecidableEq, Repr

def newSpanChannel (projectId : UUID) : String := "project:" ++ projectId.str ++ ":new_span"

def RedisClient.message (client : RedisClient) (projectId : UUID) (data : String) :
    PubSubMessage :=
  ⟨"pmessage", client.receive (newSpanChannel projectId), client.receive data⟩

/-! ### The manager -/

/-- An `asyncio.Queue(maxsize=50)`, with the key in `_queues` that it was added under. -/
structure LiveQueue where
  projectId : String
  items : List String
  subscribed : Bool
deriving DecidableEq, Repr

def queueSize : Nat := 50

/-- The queue is in `_queues[project_id]` and not full. -/
def LiveQueue.isReady (projectId : String) (queue : LiveQueue) : Bool :=
  queue.subscribed && decide (queue.projectId = projectId) &&
    decide (queue.items.length < queueSize)

/-- `put_nowait` where the loop over the queues of a project meets the queue. -/
def LiveQueue.put (projectId data : String) (queue : LiveQueue) : LiveQueue :=
  if queue.isReady projectId then { queue with items := queue.items ++ [data] } else queue

def indexError : PyException := ⟨.other, "list index out of range"⟩

/-- `.split(":")[1]` -/
def secondPart (channel : String) : Except PyException String :=
  match (channel.toList.splitOn ':')[1]? with
  | some part => .ok (String.ofList part)
  | none => .error indexError

/-- The body of the loop of `_listen`. -/
def handleMessage (message : PubSubMessage) (queues : List LiveQueue) :
    Except PyException (List LiveQueue) := do
  if message.type ≠ "pmessage" then return queues
  let channel ← message.channel.decode
  let projectId ← secondPart channel
  let data ← message.data.decode
  return queues.map (·.put projectId data)

/-- Where `_listen` is: in its loop, or asleep after an exception. -/
inductive ListenerPhase where
  | listening
  | sleeping
deriving DecidableEq, Repr

structure PubSubState where
  listener : ListenerPhase
  queues : List LiveQueue
deriving DecidableEq, Repr

inductive PubSubAction where
  | subscribe (projectId : UUID)
  | unsubscribe (projectId : UUID) (queue : Nat)
  | publish (projectId : UUID) (data : String)
  /-- A subscriber takes an item. -/
  | get (queue : Nat)
  /-- `asyncio.sleep(3)` is over, and the next `psubscribe` has taken effect. -/
  | wake
deriving DecidableEq, Repr

/-- The manager when `start` has subscribed. -/
def PubSubState.started : PubSubState := ⟨.listening, []⟩

def PubSubState.setQueue (state : PubSubState) (index : Nat) (queue : LiveQueue) : PubSubState :=
  { state with queues := state.queues.set index queue }

/-- `_queues[project_id].discard(q)` -/
def LiveQueue.discardFrom (projectId : UUID) (queue : LiveQueue) : LiveQueue :=
  { queue with subscribed := queue.subscribed && decide (queue.projectId ≠ projectId.str) }

namespace PubSubManager

variable (client : RedisClient)

/-- The listener meets a message, or is asleep and does not. -/
def listen (message : PubSubMessage) (state : PubSubState) : PubSubState :=
  match state.listener with
  | .sleeping => state
  | .listening =>
      match handleMessage message state.queues with
      | .ok queues => { state with queues := queues }
      | .error _ => { state with listener := .sleeping }

def step (state : PubSubState) : PubSubAction → Option PubSubState
  | .subscribe projectId =>
      some { state with queues := state.queues ++ [⟨projectId.str, [], true⟩] }
  | .unsubscribe projectId index =>
      state.queues[index]?.map fun queue => state.setQueue index (queue.discardFrom projectId)
  | .publish projectId data => some (listen (client.message projectId data) state)
  | .get index =>
      state.queues[index]?.bind fun queue =>
        if queue.items = [] then none
        else some (state.setQueue index { queue with items := queue.items.tail })
  | .wake =>
      if state.listener = .sleeping then some { state with listener := .listening } else none

def machine : Machine PubSubState PubSubAction := ⟨step client⟩

end PubSubManager

/-! ### Fan-out -/

/-- The queues after a publish that reaches the queues of its project that are not full,
and no others. -/
def fanOut (projectId : UUID) (data : String) (queues : List LiveQueue) : List LiveQueue :=
  queues.map (·.put projectId.str data)

/-- A publish leaves the queues as a fan-out does. -/
def FansOut (client : RedisClient) (state : PubSubState) : PubSubAction → Prop
  | .publish projectId data =>
      ∀ next, (PubSubManager.machine client).step state (.publish projectId data) = some next →
        next.queues = fanOut projectId data state.queues
  | _ => True

/-- A publish finds no queue of its project with room. -/
def FindsNone (state : PubSubState) : PubSubAction → Prop
  | .publish projectId _ => ∀ queue ∈ state.queues, queue.isReady projectId.str = false
  | _ => True

instance (state : PubSubState) (action : PubSubAction) : Decidable (FindsNone state action) := by
  cases action <;> unfold FindsNone <;> infer_instance

theorem put_of_not_ready {queue : LiveQueue} {projectId data : String}
    (notReady : queue.isReady projectId = false) : queue.put projectId data = queue := by
  rw [LiveQueue.put, notReady, if_neg Bool.false_ne_true]

theorem put_eq_self_iff {queue : LiveQueue} {projectId data : String} :
    queue.put projectId data = queue ↔ queue.isReady projectId = false := by
  refine ⟨fun same => ?_, put_of_not_ready⟩
  by_contra ready
  rw [Bool.not_eq_false] at ready
  rw [LiveQueue.put, if_pos ready] at same
  have longer := congrArg (fun queue => queue.items.length) same
  simp at longer

/-- A fan-out changes nothing exactly when no queue takes the message. -/
theorem fanOut_eq_self_iff {projectId : UUID} {data : String} {queues : List LiveQueue} :
    fanOut projectId data queues = queues ↔
      ∀ queue ∈ queues, queue.isReady projectId.str = false := by
  have pointwise : queues.map (·.put projectId.str data) = queues.map id ↔
      ∀ queue ∈ queues, queue.put projectId.str data = id queue := List.map_inj_left
  rw [List.map_id] at pointwise
  rw [fanOut, pointwise]
  simp only [id_eq, put_eq_self_iff]

/-! ### What the listener does -/

theorem colon_not_mem_str (id : UUID) : ':' ∉ id.str.toList := by
  have digits : ∀ digit : Fin 16, UUID.hexDigit digit ≠ ':' := by decide
  rw [UUID.str, String.toList_ofList, List.mem_ofFn]
  rintro ⟨position, colon⟩
  unfold UUID.charAt at colon
  split at colon
  · exact absurd colon (by decide)
  · exact digits _ colon

/-- The listener takes the project out of its channel. -/
theorem secondPart_newSpanChannel (projectId : UUID) :
    secondPart (newSpanChannel projectId) = .ok projectId.str := by
  have parts : (newSpanChannel projectId).toList.splitOn ':' =
      ["project".toList, projectId.str.toList, "new_span".toList] := by
    have text : (newSpanChannel projectId).toList =
        "project".toList ++ ':' :: (projectId.str.toList ++ ':' :: "new_span".toList) := by
      simp [newSpanChannel]
    rw [text, List.splitOn_append_cons_self, List.splitOn_append_cons_self,
      List.splitOn_eq_singleton (by decide),
      List.splitOn_eq_singleton (colon_not_mem_str projectId),
      List.splitOn_eq_singleton (by decide)]
    rfl
  rw [secondPart, parts]
  simp

/-- With a client that does not decode, a publish that is listened to fans out. -/
theorem handleMessage_bytes (projectId : UUID) (data : String) (queues : List LiveQueue) :
    handleMessage (RedisClient.message ⟨false⟩ projectId data) queues =
      .ok (fanOut projectId data queues) := by
  have decoded : ∀ text, (RedisClient.receive ⟨false⟩ text).decode = .ok text := fun _ => rfl
  simp only [handleMessage, RedisClient.message, decoded, ok_bind, secondPart_newSpanChannel]
  rfl

/-- A decoded channel has no `decode`. -/
theorem handleMessage_str (projectId : UUID) (data : String) (queues : List LiveQueue) :
    handleMessage (getRedis.message projectId data) queues =
      .error ⟨.other, "'str' object has no attribute 'decode'"⟩ := by
  rfl

/-! ### Runs -/

section

variable {state : PubSubState} {projectId : UUID} {data : String}

/-- What a publish leaves of the queues, by the client that the listener got. -/
theorem listen_getRedis :
    (PubSubManager.listen (getRedis.message projectId data) state).queues = state.queues := by
  unfold PubSubManager.listen
  split
  · rfl
  · rw [handleMessage_str]

theorem listen_bytes (listening : state.listener = .listening) :
    PubSubManager.listen (RedisClient.message ⟨false⟩ projectId data) state =
      { state with queues := fanOut projectId data state.queues } := by
  unfold PubSubManager.listen
  rw [listening]
  simp only [handleMessage_bytes]

end

/-- The client of the application fans a publish out exactly when no queue takes it. -/
theorem fansOut_iff_findsNone (state : PubSubState) (action : PubSubAction) :
    FansOut getRedis state action ↔ FindsNone state action := by
  cases action with
  | publish projectId data =>
      have stepped : (PubSubManager.machine getRedis).step state (.publish projectId data) =
          some (PubSubManager.listen (getRedis.message projectId data) state) := rfl
      simp only [FansOut, stepped, Option.some.injEq, forall_eq', listen_getRedis, FindsNone]
      rw [eq_comm]
      exact fanOut_eq_self_iff
  | _ => exact Iff.rfl

/-- In a run of the application the publishes fan out exactly when none of them finds a
queue of its project with room. -/
theorem along_fansOut_iff (actions : List PubSubAction) :
    (PubSubManager.machine getRedis).Along (FansOut getRedis) .started actions ↔
      (PubSubManager.machine getRedis).Along FindsNone .started actions := by
  have same : FansOut getRedis = FindsNone := by
    funext state action
    exact propext (fansOut_iff_findsNone state action)
  rw [same]

theorem not_fansOut :
    ¬(PubSubManager.machine getRedis).Along (FansOut getRedis) .started
      [.subscribe 5, .publish 5 "span"] := by
  intro along
  have publishes : FansOut getRedis ⟨.listening, [⟨UUID.str 5, [], true⟩]⟩ (.publish 5 "span") :=
    (along.2 _ rfl).1
  have notReady := (fansOut_iff_findsNone _ _).mp publishes _ (List.mem_singleton_self _)
  simp [LiveQueue.isReady, queueSize] at notReady

/-- A client that does not decode never puts the listener to sleep. -/
theorem listening_step {state next : PubSubState} {action : PubSubAction}
    (listening : state.listener = .listening)
    (stepped : (PubSubManager.machine ⟨false⟩).step state action = some next) :
    next.listener = .listening := by
  simp only [PubSubManager.machine] at stepped
  cases action with
  | subscribe projectId =>
      cases stepped
      exact listening
  | unsubscribe projectId index =>
      obtain ⟨queue, -, rfl⟩ := Option.map_eq_some_iff.mp stepped
      exact listening
  | publish projectId data =>
      rw [PubSubManager.step, listen_bytes listening] at stepped
      cases stepped
      exact listening
  | get index =>
      obtain ⟨queue, -, taken⟩ := Option.bind_eq_some_iff.mp stepped
      split at taken
      · cases taken
      · cases taken
        exact listening
  | wake =>
      simp [PubSubManager.step, listening] at stepped

/-- With a client that does not decode, every publish of every run fans out. -/
theorem along_fansOut_bytes (actions : List PubSubAction) :
    (PubSubManager.machine ⟨false⟩).Along (FansOut ⟨false⟩) .started actions := by
  have always : (PubSubManager.machine ⟨false⟩).Along (fun _ _ => True) .started actions :=
    (PubSubManager.machine ⟨false⟩).along_of_forall (fun _ _ _ => trivial) _
  have implies : ∀ state action, state.listener = .listening → True →
      FansOut ⟨false⟩ state action := by
    intro state action listening _
    cases action with
    | publish projectId data =>
        intro next stepped
        simp only [PubSubManager.machine, PubSubManager.step, listen_bytes listening,
          Option.some.injEq] at stepped
        rw [← stepped]
    | _ => trivial
  have kept : ∀ state action next, state.listener = .listening →
      (PubSubManager.machine ⟨false⟩).step state action = some next →
        next.listener = .listening := fun _ _ _ => listening_step
  exact always.mono kept implies rfl

end LlmObs.Backend
