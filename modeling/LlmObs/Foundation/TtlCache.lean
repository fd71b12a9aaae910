import LlmObs.Foundation.Machine
import Mathlib.Data.List.Basic

/-!
Owns a cache whose entries live for a fixed time, in front of a store that changes on its own.
A call looks its query up, asks the store if there is no live entry, and writes what it got,
each as a step of its own; other calls, changes of the store, losses of entries and the clock
come between. It says how old an answer can be.

Nothing here names a concrete store, and no entry is ever cleared by who changes the store.
-/

namespace LlmObs.Foundation

/-- A cached store: what calls read and write. -/
structure TtlCache (Store Query Choice Key Value Entry : Type) where
  key : Query → Key
  /-- How long an entry of the query lives. -/
  ttl : Query → Nat
  /-- An answer of the store at an instant; a choice settles what its order leaves open. -/
  answer : Choice → Int → Store → Query → Value
  /-- What is written for an answer, if it is written. -/
  encode : Value → Option Entry

namespace TtlCache

variable {Store Query Choice Key Value Entry : Type}

/-- What a call returns: an answer of its own, or an entry. -/
inductive Served (Value Entry : Type) where
  | fresh (value : Value)
  | cached (entry : Entry)
deriving DecidableEq, Repr

inductive Phase (Query Value Entry : Type) where
  | asking (query : Query)
  /-- No live entry was found. -/
  | selecting (query : Query)
  | storing (query : Query) (value : Value) (selectedAt : Int)
  | returned (query : Query) (served : Served Value Entry) (servedAt : Int)
  | stopped
deriving DecidableEq, Repr

structure State (Store Query Key Value Entry : Type) where
  now : Int
  store : Store
  /-- An entry and the instant from which on it is gone. -/
  entries : Key → Option (Entry × Int)
  calls : Nat → Option (Phase Query Value Entry)
  /-- The stores so far, each with an instant at which it was there. -/
  past : List (Int × Store)

def State.initial (now : Int) (store : Store) : State Store Query Key Value Entry :=
  ⟨now, store, fun _ => none, fun _ => none, [(now, store)]⟩

inductive CallAction (Choice : Type) where
  | get
  | select (choice : Choice)
  | setex
  /-- An exception, a cancellation or a crash. -/
  | stop

inductive Action (Store Query Choice Key : Type) where
  | begin (call : Nat) (query : Query)
  | call (number : Nat) (action : CallAction Choice)
  /-- An entry is lost before its time. -/
  | evict (key : Key)
  | change (store : Store)
  | elapse (duration : Nat)

namespace State

variable (state : State Store Query Key Value Entry)

/-- `GET` -/
def live (key : Key) : Option Entry :=
  match state.entries key with
  | some (entry, expiry) => if state.now < expiry then some entry else none
  | none => none

def setPhase (call : Nat) (phase : Phase Query Value Entry) : State Store Query Key Value Entry :=
  { state with calls := fun other => if other = call then some phase else state.calls other }

/-- `SETEX` -/
def setEntry [DecidableEq Key] (key : Key) (entry : Entry) (ttl : Nat) :
    State Store Query Key Value Entry :=
  { state with
    entries := fun other => if other = key then some (entry, state.now + ttl)
      else state.entries other }

end State

variable (cached : TtlCache Store Query Choice Key Value Entry)

section Machine

variable [DecidableEq Key]

/-- The step of a call from its phase. -/
def callStep (state : State Store Query Key Value Entry) (call : Nat) :
    CallAction Choice → Phase Query Value Entry → Option (State Store Query Key Value Entry)
  | .get, .asking query =>
      match state.live (cached.key query) with
      | some entry => some (state.setPhase call (.returned query (.cached entry) state.now))
      | none => some (state.setPhase call (.selecting query))
  | .select choice, .selecting query =>
      some (state.setPhase call
        (.storing query (cached.answer choice state.now state.store query) state.now))
  | .setex, .storing query value _ =>
      let after := state.setPhase call (.returned query (.fresh value) state.now)
      match cached.encode value with
      | some entry => some (after.setEntry (cached.key query) entry (cached.ttl query))
      | none => some after
  | .stop, _ => some (state.setPhase call .stopped)
  | _, _ => none

def step (state : State Store Query Key Value Entry) :
    Action Store Query Choice Key → Option (State Store Query Key Value Entry)
  | .begin call query =>
      match state.calls call with
      | none => some (state.setPhase call (.asking query))
      | some _ => none
  | .call number action => (state.calls number).bind (cached.callStep state number action)
  | .evict key =>
      some { state with entries := fun other => if other = key then none else state.entries other }
  | .change store => some { state with store := store, past := (state.now, store) :: state.past }
  | .elapse duration =>
      some { state with
        now := state.now + duration
        past := (state.now + duration, state.store) :: state.past }

def machine : Machine (State Store Query Key Value Entry) (Action Store Query Choice Key) :=
  ⟨cached.step⟩

end Machine

/-- What a call got is written at most `delay` after it was selected. -/
def WritesWithin (delay : Nat) (state : State Store Query Key Value Entry) :
    Action Store Query Choice Key → Prop
  | .call number .setex => ∀ query value selectedAt,
      state.calls number = some (.storing query value selectedAt) →
        state.now ≤ selectedAt + delay
  | _ => True

instance (delay : Nat) (state : State Store Query Key Value Entry)
    (action : Action Store Query Choice Key) : Decidable (WritesWithin delay state action) :=
  match action with
  | .call number .setex =>
      match here : state.calls number with
      | some (.storing _ _ selectedAt) =>
          decidable_of_iff (state.now ≤ selectedAt + delay)
            ⟨fun soon _ _ _ same => by
              cases here.symm.trans same
              exact soon, fun soon => soon _ _ _ here⟩
      | some (.asking _) | some (.selecting _) | some (.returned _ _ _) | some .stopped | none =>
          isTrue fun _ _ _ same => by cases here.symm.trans same
  | .begin _ _ | .call _ .get | .call _ (.select _) | .call _ .stop | .evict _ | .change _
  | .elapse _ => isTrue trivial

/-- What is served is the answer, as it is or as it was written. -/
def Serves (served : Served Value Entry) (value : Value) : Prop :=
  match served with
  | .fresh own => own = value
  | .cached entry => cached.encode value = some entry

/-- What was served is an answer of the store to the query, at most `age` before. -/
def AnsweredWithin (age : Nat) (past : List (Int × Store)) (query : Query)
    (served : Served Value Entry) (servedAt : Int) : Prop :=
  ∃ instant store choice, (instant, store) ∈ past ∧
    cached.Serves served (cached.answer choice instant store query) ∧
    instant ≤ servedAt ∧ servedAt ≤ instant + age

/-! ### The age of entries and answers -/

section Age

variable {cached} {delay : Nat} {state next : State Store Query Key Value Entry}

theorem AnsweredWithin.mono {age : Nat} {past later : List (Int × Store)} {query : Query}
    {served : Served Value Entry} {servedAt : Int}
    (answered : cached.AnsweredWithin age past query served servedAt) (kept : past ⊆ later) :
    cached.AnsweredWithin age later query served servedAt := by
  obtain ⟨instant, store, choice, there, rest⟩ := answered
  exact ⟨instant, store, choice, kept there, rest⟩

/-- What is known of a phase: an answer that is still to be written is of the past, and one
that was returned is of its query and not too old. -/
def PhaseSound (cached : TtlCache Store Query Choice Key Value Entry) (delay : Nat) (now : Int)
    (past : List (Int × Store)) : Phase Query Value Entry → Prop
  | .storing query value selectedAt => selectedAt ≤ now ∧ ∃ store choice,
      (selectedAt, store) ∈ past ∧ value = cached.answer choice selectedAt store query
  | .returned query served servedAt => servedAt ≤ now ∧
      cached.AnsweredWithin (cached.ttl query + delay) past query served servedAt
  | _ => True

variable (cached delay) in
/-- Entries hold answers to queries of their keys, and are gone before these are too old. -/
structure Aged (state : State Store Query Key Value Entry) : Prop where
  present : (state.now, state.store) ∈ state.past
  entries : ∀ key entry expiry, state.entries key = some (entry, expiry) →
    ∃ query instant store choice, cached.key query = key ∧ (instant, store) ∈ state.past ∧
      cached.encode (cached.answer choice instant store query) = some entry ∧
      instant ≤ state.now ∧ expiry ≤ instant + delay + cached.ttl query
  calls : ∀ call phase, state.calls call = some phase →
    PhaseSound cached delay state.now state.past phase

theorem PhaseSound.mono {now later : Int} {past more : List (Int × Store)}
    {phase : Phase Query Value Entry} (sound : PhaseSound cached delay now past phase)
    (ordered : now ≤ later) (kept : past ⊆ more) : PhaseSound cached delay later more phase := by
  cases phase with
  | storing query value selectedAt =>
      obtain ⟨before, store, choice, there, same⟩ := sound
      exact ⟨Int.le_trans before ordered, store, choice, kept there, same⟩
  | returned query served servedAt =>
      exact ⟨Int.le_trans sound.1 ordered, sound.2.mono kept⟩
  | _ => trivial

theorem aged_initial (now : Int) (store : Store) :
    Aged cached delay (.initial now store : State Store Query Key Value Entry) where
  present := List.mem_singleton_self _
  entries := nofun
  calls := nofun

/-- Another instant or another store is one more of the past. -/
theorem Aged.advance (aged : Aged cached delay state) {now : Int} (ordered : state.now ≤ now)
    (store : Store) :
    Aged cached delay
      { state with now := now, store := store, past := (now, store) :: state.past } where
  present := List.mem_cons_self ..
  entries := by
    intro key entry expiry found
    obtain ⟨query, instant, store, choice, same, there, written, before, gone⟩ :=
      aged.entries key entry expiry found
    exact ⟨query, instant, store, choice, same, List.mem_cons_of_mem _ there, written,
      Int.le_trans before ordered, gone⟩
  calls := fun call phase found =>
    (aged.calls call phase found).mono ordered (List.subset_cons_self ..)

theorem Aged.setPhase (aged : Aged cached delay state) {call : Nat}
    {phase : Phase Query Value Entry}
    (sound : PhaseSound cached delay state.now state.past phase) :
    Aged cached delay (state.setPhase call phase) where
  present := aged.present
  entries := aged.entries
  calls := by
    intro other found same
    simp only [State.setPhase] at same
    split at same
    · cases same
      exact sound
    · exact aged.calls other found same

theorem Aged.setEntry [DecidableEq Key] (aged : Aged cached delay state) {key : Key} {entry : Entry} {ttl : Nat}
    (sound : ∃ query instant store choice, cached.key query = key ∧
      (instant, store) ∈ state.past ∧
      cached.encode (cached.answer choice instant store query) = some entry ∧
      instant ≤ state.now ∧ state.now + ttl ≤ instant + delay + cached.ttl query) :
    Aged cached delay (state.setEntry key entry ttl) where
  present := aged.present
  entries := by
    intro other found expiry same
    simp only [State.setEntry] at same
    split at same
    · rename_i here
      cases same
      rw [here]
      exact sound
    · exact aged.entries other found expiry same
  calls := aged.calls

/-- A live entry is one of the query. -/
theorem Aged.answeredWithin (distinct : Function.Injective cached.key)
    (aged : Aged cached delay state) {query : Query} {entry : Entry}
    (found : state.live (cached.key query) = some entry) :
    cached.AnsweredWithin (cached.ttl query + delay) state.past query (.cached entry) state.now := by
  rw [State.live] at found
  split at found
  · rename_i stored expiry here
    split at found
    · cases found
      obtain ⟨other, instant, store, choice, same, there, written, before, gone⟩ :=
        aged.entries _ entry expiry here
      obtain rfl := distinct same
      exact ⟨instant, store, choice, there, written, before, by omega⟩
    · cases found
  · cases found

theorem aged_callStep [DecidableEq Key] (distinct : Function.Injective cached.key) (aged : Aged cached delay state)
    {call : Nat} {action : CallAction Choice} {phase : Phase Query Value Entry}
    (here : state.calls call = some phase)
    (soon : WritesWithin delay state (.call call action : Action Store Query Choice Key))
    (stepped : cached.callStep state call action phase = some next) :
    Aged cached delay next := by
  have known := aged.calls call phase here
  cases action with
  | stop =>
      cases stepped
      exact aged.setPhase trivial
  | get =>
      cases phase with
      | asking query =>
          rw [callStep] at stepped
          cases found : state.live (cached.key query) with
          | none =>
              rw [found] at stepped
              cases stepped
              exact aged.setPhase trivial
          | some entry =>
              rw [found] at stepped
              cases stepped
              exact aged.setPhase ⟨Int.le_refl _, aged.answeredWithin distinct found⟩
      | _ => cases stepped
  | select choice =>
      cases phase with
      | selecting query =>
          cases stepped
          exact aged.setPhase ⟨Int.le_refl _, _, choice, aged.present, rfl⟩
      | _ => cases stepped
  | setex =>
      cases phase with
      | storing query value selectedAt =>
          obtain ⟨before, store, choice, there, rfl⟩ := known
          have returned : Aged cached delay (state.setPhase call (.returned query
              (.fresh (cached.answer choice selectedAt store query)) state.now)) := by
            have within := soon query _ selectedAt here
            refine aged.setPhase ⟨Int.le_refl _, selectedAt, store, choice, there, rfl, before, ?_⟩
            omega
          rw [callStep] at stepped
          cases written : cached.encode (cached.answer choice selectedAt store query) with
          | none =>
              rw [written] at stepped
              cases stepped
              exact returned
          | some entry =>
              rw [written] at stepped
              cases stepped
              have within := soon query _ selectedAt here
              exact returned.setEntry ⟨query, selectedAt, store, choice, rfl, there, written, before,
                by show state.now + _ ≤ _; omega⟩
      | _ => cases stepped

theorem aged_step [DecidableEq Key] (distinct : Function.Injective cached.key)
    (aged : Aged cached delay state) {action : Action Store Query Choice Key}
    (soon : WritesWithin delay state action) (stepped : cached.step state action = some next) :
    Aged cached delay next := by
  cases action with
  | begin call query =>
      rw [step] at stepped
      split at stepped
      · cases stepped
        exact aged.setPhase trivial
      · cases stepped
  | call number action =>
      obtain ⟨phase, here, stepped⟩ := Option.bind_eq_some_iff.mp stepped
      exact aged_callStep distinct aged here soon stepped
  | evict key =>
      cases stepped
      refine ⟨aged.present, fun other entry expiry found => ?_, aged.calls⟩
      dsimp only at found
      split at found
      · cases found
      · exact aged.entries other entry expiry found
  | change store =>
      cases stepped
      exact aged.advance (Int.le_refl _) store
  | elapse duration =>
      cases stepped
      exact aged.advance (by omega) state.store

/-- No answer is older than its entry lives, and the delay with which it was written. -/
theorem answeredWithin_of_run [DecidableEq Key] (distinct : Function.Injective cached.key)
    {now : Int} {store : Store} {actions : List (Action Store Query Choice Key)}
    {final : State Store Query Key Value Entry}
    (soon : cached.machine.Along (WritesWithin delay) (.initial now store) actions)
    (reached : cached.machine.run (.initial now store) actions = some final) {call : Nat}
    {query : Query} {served : Served Value Entry} {servedAt : Int}
    (returned : final.calls call = some (.returned query served servedAt)) :
    cached.AnsweredWithin (cached.ttl query + delay) final.past query served servedAt := by
  have aged : Aged cached delay final :=
    cached.machine.run_invariant (Aged cached delay)
      (fun _ _ _ aged soon stepped => aged_step distinct aged soon stepped)
      (aged_initial now store) soon reached
  exact (aged.calls call _ returned).2

end Age

end TtlCache

end LlmObs.Foundation
