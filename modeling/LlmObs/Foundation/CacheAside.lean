import LlmObs.Foundation.Machine
import Mathlib.Data.List.Basic

/-!
Owns a cache in front of a store. Clients look a query up in what they have kept
themselves, then in the cache, then in the store, and write what the store
answered back to the cache, each as a step of its own. Writers commit an edit of
the store and then take the entries it concerns out of the cache: by deleting keys
one after the other, or by scanning for the keys of a pattern and deleting what the
scan returned.

Nothing here names a concrete store, and nothing here says what clients may use.
-/

namespace LlmObs.Foundation

universe u

/-- How the cache is cleared after an edit. -/
inductive Invalidation (Key : Type) where
  /-- Delete a key, and then others, one call each. -/
  | delete (stale : Key) (others : List Key)
  /-- Delete in one call a fixed key and the keys a scan for a pattern returns;
  `stale` is the key under which clients keep what was edited. -/
  | scan (fixed : Key) (pattern : Key → Bool) (stale : Key)

namespace Invalidation

variable {Key : Type}

/-- The key whose entry the edit makes stale. -/
def stale : Invalidation Key → Key
  | .delete stale _ => stale
  | .scan _ _ stale => stale

def pattern : Invalidation Key → Key → Bool
  | .delete _ _ => fun _ => false
  | .scan _ pattern _ => pattern

end Invalidation

/-- A cached store: what queries read and write, and what edits do. -/
structure CacheAside (Store Query Edit Key Row Value Failure : Type) where
  key : Query → Key
  /-- The answer of the store. -/
  select : Store → Query → Option Row
  /-- The first of some cached values that answers the query, if one does. -/
  find : Query → List Value → Except Failure (Option Value)
  find_mem : ∀ query values value, find query values = .ok (some value) → value ∈ values
  /-- Whether an answer of the store is passed on. -/
  admits : Query → Row → Bool
  /-- What is written to the cache for an answer. -/
  encode : Row → Value
  /-- The store after an edit; an edit that fails clears nothing. -/
  commit : Store → Edit → Store × Option (Invalidation Key)
  /-- A client makes more than one query and keeps what it has used. -/
  keeps : Bool

namespace CacheAside

variable {Store Query Edit Key Row Value Failure : Type}

inductive ClientPhase (Query Row Value : Type) where
  | idle
  | getting (query : Query)
  | selecting (query : Query)
  | storing (query : Query) (row : Row)
  | used (query : Query) (value : Value)
  | missing (query : Query)
  | failed

/-- The client may begin a query. -/
def ClientPhase.ready (keeps : Bool) : ClientPhase Query Row Value → Bool
  | .idle => true
  | .used _ _ => keeps
  | .missing _ => keeps
  | .failed => keeps
  | _ => false

/-- What a client has used, and for which query. -/
def ClientPhase.used? : ClientPhase Query Row Value → Option (Query × Value)
  | .used query value => some (query, value)
  | _ => none

theorem ClientPhase.eq_used_of_used? {phase : ClientPhase Query Row Value} {query : Query}
    {value : Value} (used : phase.used? = some (query, value)) : phase = .used query value := by
  cases phase with
  | used usedQuery usedValue =>
      cases used
      rfl
  | _ => cases used

/-- A client: what it keeps, where it is, and which writers had responded when it
was opened. -/
structure Client (Query Key Row Value : Type) where
  kept : Key → List Value
  phase : ClientPhase Query Row Value
  after : Nat → Bool

inductive WriterPhase (Key : Type) where
  | scanning (passed found : List Key)
  | deleting (calls : List (List Key))
  | responded
  | failed

/-- A writer behind its commit, and the stores committed since, its own first. -/
structure Writer (Store Key : Type) where
  invalidation : Invalidation Key
  phase : WriterPhase Key
  since : List Store

structure State (Store Query Key Row Value : Type) where
  store : Store
  cache : Key → Option Value
  clients : Nat → Option (Client Query Key Row Value)
  writers : Nat → Option (Writer Store Key)

inductive ClientAction (Query : Type) where
  | begin (query : Query)
  | get
  | select
  /-- The entry is written; the client may not live to see it. -/
  | setex (answered : Bool)
  | abort

inductive WriterAction (Key : Type) where
  /-- The scan passes a key, present or not. -/
  | pass (key : Key)
  | endScan
  | delete
  | respond
  | abandon

inductive Action (Query Edit Key : Type) where
  | openClient (number : Nat)
  | client (number : Nat) (action : ClientAction Query)
  | commit (number : Nat) (edit : Edit)
  | writer (number : Nat) (action : WriterAction Key)
  | expire (key : Key)

/-- A function with one value replaced. -/
def put {Index Item : Type} [DecidableEq Index] (entries : Index → Item) (index : Index)
    (item : Item) : Index → Item :=
  fun other => if other = index then item else entries other

@[simp] theorem put_self {Index Item : Type} [DecidableEq Index] (entries : Index → Item)
    (index : Index) (item : Item) : put entries index item index = item := by
  simp [put]

theorem put_of_ne {Index Item : Type} [DecidableEq Index] (entries : Index → Item)
    {index other : Index} (item : Item) (different : other ≠ index) :
    put entries index item other = entries other := by
  simp [put, different]

/-- What is found after a replacement is the new item, or was there before. -/
theorem put_eq_some {Index Item : Type} [DecidableEq Index] {entries : Index → Option Item}
    {index other : Index} {item found : Item} :
    put entries index (some item) other = some found ↔
      other = index ∧ item = found ∨ other ≠ index ∧ entries other = some found := by
  by_cases same : other = index
  · simp [put, same]
  · simp [put, same]

def WriterPhase.start : Invalidation Key → WriterPhase Key
  | .delete stale others => .deleting ([stale] :: others.map fun key => [key])
  | .scan fixed _ _ => .scanning [] [fixed]

def Writer.Responded (writer : Writer Store Key) : Bool :=
  match writer.phase with
  | .responded => true
  | _ => false

section

variable [DecidableEq Key] (cached : CacheAside Store Query Edit Key Row Value Failure)

/-- The client with the value it has used kept. -/
def Client.use (client : Client Query Key Row Value) (key : Key) (query : Query) (value : Value) :
    Client Query Key Row Value :=
  { client with
    kept := put client.kept key (client.kept key ++ [value])
    phase := .used query value }

/-- A store that becomes the current one. -/
def State.advance (state : State Store Query Key Row Value) (store : Store) :
    State Store Query Key Row Value :=
  { state with
    store := store
    writers := fun number => (state.writers number).map fun writer =>
      { writer with since := writer.since ++ [store] } }

/-- One step of a client: the client and the cache after it. -/
def clientStep (store : Store) (cache : Key → Option Value)
    (client : Client Query Key Row Value) :
    ClientAction Query → Option (Client Query Key Row Value × (Key → Option Value))
  | .begin query =>
      if client.phase.ready cached.keeps then
        match cached.find query (client.kept (cached.key query)) with
        | .error _ => some ({ client with phase := .failed }, cache)
        | .ok (some value) => some ({ client with phase := .used query value }, cache)
        | .ok none => some ({ client with phase := .getting query }, cache)
      else none
  | .get =>
      match client.phase with
      | .getting query =>
          match cached.find query (cache (cached.key query)).toList with
          | .error _ => some ({ client with phase := .failed }, cache)
          | .ok (some value) => some (client.use (cached.key query) query value, cache)
          | .ok none => some ({ client with phase := .selecting query }, cache)
      | _ => none
  | .select =>
      match client.phase with
      | .selecting query =>
          match cached.select store query with
          | none => some ({ client with phase := .missing query }, cache)
          | some row =>
              if cached.admits query row then
                some ({ client with phase := .storing query row }, cache)
              else some ({ client with phase := .failed }, cache)
      | _ => none
  | .setex answered =>
      match client.phase with
      | .storing query row =>
          some (if answered then client.use (cached.key query) query (cached.encode row)
              else { client with phase := .failed },
            put cache (cached.key query) (some (cached.encode row)))
      | _ => none
  | .abort => some ({ client with phase := .failed }, cache)

/-- One step of a writer behind its commit: its phase and the cache after it. -/
def writerStep (cache : Key → Option Value) (writer : Writer Store Key) :
    WriterAction Key → Option (WriterPhase Key × (Key → Option Value))
  | .pass key =>
      match writer.phase with
      | .scanning passed found =>
          some (.scanning (key :: passed)
            (if writer.invalidation.pattern key && (cache key).isSome then key :: found
              else found), cache)
      | _ => none
  | .endScan =>
      match writer.phase with
      | .scanning passed found =>
          if writer.invalidation.stale ∈ passed then some (.deleting [found], cache) else none
      | _ => none
  | .delete =>
      match writer.phase with
      | .deleting (keys :: rest) =>
          some (.deleting rest, fun key => if key ∈ keys then none else cache key)
      | _ => none
  | .respond =>
      match writer.phase with
      | .deleting [] => some (.responded, cache)
      | _ => none
  | .abandon => if writer.Responded then none else some (.failed, cache)

def step (state : State Store Query Key Row Value) :
    Action Query Edit Key → Option (State Store Query Key Row Value)
  | .openClient number =>
      match state.clients number with
      | some _ => none
      | none =>
          some { state with
            clients := put state.clients number (some
              { kept := fun _ => []
                phase := .idle
                after := fun writer =>
                  ((state.writers writer).map (·.Responded)).getD false }) }
  | .client number action =>
      (state.clients number).bind fun client =>
        (clientStep cached state.store state.cache client action).map fun next =>
          { state with
            clients := put state.clients number (some next.1)
            cache := next.2 }
  | .commit number edit =>
      match state.writers number with
      | some _ => none
      | none =>
          match cached.commit state.store edit with
          | (store, none) => some (state.advance store)
          | (store, some invalidation) =>
              some { state.advance store with
                writers := put (state.advance store).writers number (some
                  { invalidation := invalidation
                    phase := .start invalidation
                    since := [store] }) }
  | .writer number action =>
      (state.writers number).bind fun writer =>
        (writerStep state.cache writer action).map fun next =>
          { state with
            writers := put state.writers number (some { writer with phase := next.1 })
            cache := next.2 }
  | .expire key => some { state with cache := put state.cache key none }

/-- One step, with what was found on its way. -/
inductive StateStep (state : State Store Query Key Row Value) :
    Action Query Edit Key → State Store Query Key Row Value → Prop where
  | opened {number : Nat} (unused : state.clients number = none) :
      StateStep state (.openClient number) { state with
        clients := put state.clients number (some
          { kept := fun _ => []
            phase := .idle
            after := fun writer => ((state.writers writer).map (·.Responded)).getD false }) }
  | client {number : Nat} {action : ClientAction Query} {client next : Client Query Key Row Value}
      {nextCache : Key → Option Value} (found : state.clients number = some client)
      (stepped : clientStep cached state.store state.cache client action =
        some (next, nextCache)) :
      StateStep state (.client number action) { state with
        clients := put state.clients number (some next)
        cache := nextCache }
  | unanswered {number : Nat} {edit : Edit} {store : Store}
      (unused : state.writers number = none)
      (commits : cached.commit state.store edit = (store, none)) :
      StateStep state (.commit number edit) (state.advance store)
  | committed {number : Nat} {edit : Edit} {store : Store} {invalidation : Invalidation Key}
      (unused : state.writers number = none)
      (commits : cached.commit state.store edit = (store, some invalidation)) :
      StateStep state (.commit number edit) { state.advance store with
        writers := put (state.advance store).writers number (some
          { invalidation := invalidation
            phase := .start invalidation
            since := [store] }) }
  | writer {number : Nat} {action : WriterAction Key} {writer : Writer Store Key}
      {phase : WriterPhase Key} {nextCache : Key → Option Value}
      (found : state.writers number = some writer)
      (stepped : writerStep state.cache writer action = some (phase, nextCache)) :
      StateStep state (.writer number action) { state with
        writers := put state.writers number (some { writer with phase := phase })
        cache := nextCache }
  | expired (key : Key) :
      StateStep state (.expire key) { state with cache := put state.cache key none }

theorem stateStep_of_some {state next : State Store Query Key Row Value}
    {action : Action Query Edit Key} (stepped : step cached state action = some next) :
    StateStep cached state action next := by
  cases action with
  | openClient number =>
      simp only [step] at stepped
      split at stepped
      · cases stepped
      · rename_i unused
        cases stepped
        exact .opened unused
  | client number action =>
      simp only [step, Option.bind_eq_some_iff, Option.map_eq_some_iff] at stepped
      obtain ⟨client, found, next, clientStepped, rfl⟩ := stepped
      exact .client found clientStepped
  | commit number edit =>
      simp only [step] at stepped
      split at stepped
      · cases stepped
      · rename_i unused
        split at stepped
        · rename_i commits
          cases stepped
          exact .unanswered unused commits
        · rename_i commits
          cases stepped
          exact .committed unused commits
  | writer number action =>
      simp only [step, Option.bind_eq_some_iff, Option.map_eq_some_iff] at stepped
      obtain ⟨writer, found, next, writerStepped, rfl⟩ := stepped
      exact .writer found writerStepped
  | expire key =>
      cases stepped
      exact .expired key

def machine : Machine (State Store Query Key Row Value) (Action Query Edit Key) where
  step := step cached

/-- Before any client or writer. -/
def State.initial (store : Store) (cache : Key → Option Value) :
    State Store Query Key Row Value where
  store := store
  cache := cache
  clients := fun _ => none
  writers := fun _ => none

end

end CacheAside

end LlmObs.Foundation
