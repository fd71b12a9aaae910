import LlmObs.Foundation.Machine

/-!
Owns the transactions of any number of concurrent requests on one database under
read committed, statement by statement. A statement sees the last committed state
and what its own transaction has written, and is not enabled while another open
transaction holds a lock it needs; the writes of a transaction reach the database
at its commit, all of them or none.

Nothing here names a concrete table.
-/

namespace LlmObs.Foundation

/-! ### Statements, requests and sessions -/

/-- What a statement leads to. -/
inductive Reply (Phase Error : Type) where
  /-- Another open transaction holds a lock that the statement needs. -/
  | waits
  | raises (error : Error)
  | goes (phase : Phase)

/-- The transactions of a family of requests. A phase says which statement comes
next, and carries what the transaction has read and written. -/
structure TransactionSystem (Database Request Phase Lock Error : Type) where
  /-- What a request does before its transaction, given the time. -/
  start : Int → Database → Request → Except Error Phase
  /-- The locks that the transaction keeps until it ends. -/
  locks : Phase → List Lock
  /-- The next statement, given the locks of the other open transactions. -/
  statement : Database → (Lock → Bool) → Phase → Reply Phase Error
  /-- The database with the writes of the transaction; `none` while it has
  statements left. -/
  commit : Database → Phase → Option Database

/-- A request that has reached the server. -/
inductive Session (Phase Error : Type) where
  | running (phase : Phase)
  | committed
  /-- Rolled back: by an error, or without one by a crash. -/
  | failed (error : Option Error)

def Session.phase? {Phase Error : Type} : Session Phase Error → Option Phase
  | .running phase => some phase
  | _ => none

structure Sessions (Database Phase Error : Type) where
  database : Database
  now : Int
  sessions : List (Session Phase Error)
  /-- The committed transactions with their times, in the order of the commits. -/
  history : List (Phase × Int)

inductive SessionAction (Request : Type) where
  | begin (request : Request)
  | statement (index : Nat)
  | commit (index : Nat)
  /-- An exception outside the statements, a cancellation or a crash. -/
  | abort (index : Nat)
  | elapse (duration : Nat)

namespace Sessions

variable {Database Phase Error : Type}

/-- A database that no request has reached. -/
def idle (database : Database) (now : Int) : Sessions Database Phase Error :=
  ⟨database, now, [], []⟩

/-- The phase of an open transaction. -/
def phase? (state : Sessions Database Phase Error) (index : Nat) : Option Phase :=
  state.sessions[index]?.bind Session.phase?

/-- The phases of the open transactions. -/
def openPhases (state : Sessions Database Phase Error) : List Phase :=
  state.sessions.filterMap Session.phase?

def setSession (state : Sessions Database Phase Error) (index : Nat)
    (session : Session Phase Error) : Sessions Database Phase Error :=
  { state with sessions := state.sessions.set index session }

def push (state : Sessions Database Phase Error) (session : Session Phase Error) :
    Sessions Database Phase Error :=
  { state with sessions := state.sessions ++ [session] }

end Sessions

namespace TransactionSystem

variable {Database Request Phase Lock Error : Type} [DecidableEq Lock]
  (system : TransactionSystem Database Request Phase Lock Error)

/-- Some open transaction other than the one at `index` holds the lock. -/
def heldByOthers (sessions : List (Session Phase Error)) (index : Nat) (lock : Lock) : Bool :=
  (sessions.set index (.failed none)).any fun session =>
    session.phase?.any fun phase => (system.locks phase).contains lock

def startSession (state : Sessions Database Phase Error) (request : Request) :
    Session Phase Error :=
  match system.start state.now state.database request with
  | .ok phase => .running phase
  | .error error => .failed (some error)

def step (state : Sessions Database Phase Error) :
    SessionAction Request → Option (Sessions Database Phase Error)
  | .begin request => some (state.push (system.startSession state request))
  | .statement index =>
      match state.phase? index with
      | some phase =>
          match system.statement state.database (system.heldByOthers state.sessions index)
            phase with
          | .waits => none
          | .raises error => some (state.setSession index (.failed (some error)))
          | .goes moved => some (state.setSession index (.running moved))
      | none => none
  | .commit index =>
      match state.phase? index with
      | some phase =>
          match system.commit state.database phase with
          | some database => some { state.setSession index .committed with
              database := database
              history := state.history ++ [(phase, state.now)] }
          | none => none
      | none => none
  | .abort index =>
      match state.phase? index with
      | some _ => some (state.setSession index (.failed none))
      | none => none
  | .elapse duration => some { state with now := state.now + duration }

def machine : Machine (Sessions Database Phase Error) (SessionAction Request) := ⟨system.step⟩

/-! ### What one step can do -/

inductive Change (state : Sessions Database Phase Error) (action : SessionAction Request)
    (next : Sessions Database Phase Error) : Prop
  | began (request : Request) (session : Session Phase Error)
      (started : ∀ phase, session.phase? = some phase →
        system.start state.now state.database request = .ok phase)
      (same : next = state.push session)
  | moved (index : Nat) (phase moved : Phase) (acted : action = .statement index)
      (found : state.phase? index = some phase)
      (replied : system.statement state.database (system.heldByOthers state.sessions index)
        phase = .goes moved)
      (same : next = state.setSession index (.running moved))
  | failed (index : Nat) (phase : Phase) (error : Option Error)
      (found : state.phase? index = some phase)
      (same : next = state.setSession index (.failed error))
  | committed (index : Nat) (phase : Phase) (database : Database)
      (found : state.phase? index = some phase)
      (commits : system.commit state.database phase = some database)
      (same : next = { state.setSession index .committed with
        database := database
        history := state.history ++ [(phase, state.now)] })
  | elapsed (duration : Nat) (same : next = { state with now := state.now + duration })

variable {system}

theorem change_of_step {state next : Sessions Database Phase Error}
    {action : SessionAction Request} (stepped : system.machine.step state action = some next) :
    system.Change state action next := by
  simp only [machine] at stepped
  cases action with
  | begin request =>
      simp only [step, Option.some.injEq] at stepped
      refine .began request (system.startSession state request) (fun phase running => ?_)
        stepped.symm
      unfold startSession at running
      split at running
      · rename_i started
        rw [started]
        simpa [Session.phase?] using running
      · cases running
  | statement index =>
      simp only [step] at stepped
      split at stepped
      · rename_i phase found
        split at stepped
        · cases stepped
        · rename_i error _
          exact .failed index phase (some error) found (Option.some.inj stepped).symm
        · rename_i moved replied
          exact .moved index phase moved rfl found replied (Option.some.inj stepped).symm
      · cases stepped
  | commit index =>
      simp only [step] at stepped
      split at stepped
      · rename_i phase found
        split at stepped
        · rename_i database commits
          exact .committed index phase database found commits (Option.some.inj stepped).symm
        · cases stepped
      · cases stepped
  | abort index =>
      simp only [step] at stepped
      split at stepped
      · rename_i phase found
        exact .failed index phase none found (Option.some.inj stepped).symm
      · cases stepped
  | elapse duration =>
      exact .elapsed duration (Option.some.inj stepped).symm

end TransactionSystem

/-! ### Open transactions after a step -/

namespace Sessions

variable {Database Phase Error : Type} {state : Sessions Database Phase Error}
  {session : Session Phase Error} {index other : Nat} {phase : Phase}

theorem mem_openPhases : phase ∈ state.openPhases ↔ ∃ index, state.phase? index = some phase := by
  simp only [openPhases, List.mem_filterMap, phase?, Option.bind_eq_some_iff]
  constructor
  · rintro ⟨session, stored, running⟩
    obtain ⟨index, found⟩ := List.mem_iff_getElem?.mp stored
    exact ⟨index, session, found, running⟩
  · rintro ⟨index, session, found, running⟩
    exact ⟨session, List.mem_of_getElem? found, running⟩

theorem phase?_push (found : (state.push session).phase? other = some phase) :
    state.phase? other = some phase ∨
      other = state.sessions.length ∧ session.phase? = some phase := by
  rcases Nat.lt_trichotomy other state.sessions.length with old | same | beyond
  · left
    rwa [phase?, push, List.getElem?_append_left old] at found
  · right
    subst same
    exact ⟨rfl, by simpa [phase?, push] using found⟩
  · have outside : (state.sessions ++ [session])[other]? = none := by
      rw [List.getElem?_eq_none_iff, List.length_append, List.length_singleton]
      omega
    simp [phase?, push, outside] at found

theorem phase?_setSession (found : (state.setSession index session).phase? other = some phase) :
    other = index ∧ session.phase? = some phase ∨
      other ≠ index ∧ state.phase? other = some phase := by
  by_cases same : index = other
  · subst same
    left
    rw [phase?, setSession, List.getElem?_set_self'] at found
    cases old : state.sessions[index]? with
    | none => simp [old] at found
    | some before => exact ⟨rfl, by simpa [old] using found⟩
  · right
    rw [phase?, setSession, List.getElem?_set_ne same] at found
    exact ⟨fun equal => same equal.symm, found⟩

theorem openPhases_push (member : phase ∈ (state.push session).openPhases) :
    phase ∈ state.openPhases ∨ session.phase? = some phase := by
  obtain ⟨index, found⟩ := mem_openPhases.mp member
  rcases phase?_push found with old | ⟨-, new⟩
  · exact Or.inl (mem_openPhases.mpr ⟨index, old⟩)
  · exact Or.inr new

theorem openPhases_setSession (member : phase ∈ (state.setSession index session).openPhases) :
    phase ∈ state.openPhases ∨ session.phase? = some phase := by
  obtain ⟨other, found⟩ := mem_openPhases.mp member
  rcases phase?_setSession found with ⟨-, new⟩ | ⟨-, old⟩
  · exact Or.inr new
  · exact Or.inl (mem_openPhases.mpr ⟨other, old⟩)

/-- A session that has ended is no open transaction. -/
theorem phase?_ended (ended : session.phase? = none)
    (found : (state.setSession index session).phase? other = some phase) :
    other ≠ index ∧ state.phase? other = some phase := by
  rcases phase?_setSession found with ⟨-, impossible⟩ | old
  · rw [ended] at impossible
    cases impossible
  · exact old

end Sessions

namespace TransactionSystem

variable {Database Request Phase Lock Error : Type} [DecidableEq Lock]
  {system : TransactionSystem Database Request Phase Lock Error}
  {state next : Sessions Database Phase Error}

theorem heldByOthers_eq_false {index other : Nat}
    {phase : Phase} {lock : Lock}
    (free : system.heldByOthers state.sessions index lock = false)
    (found : state.phase? other = some phase) (different : other ≠ index) :
    lock ∉ system.locks phase := by
  intro held
  rw [heldByOthers, List.any_eq_false] at free
  obtain ⟨session, stored, running⟩ := Option.bind_eq_some_iff.mp found
  refine free session ?_ (by simpa [running] using held)
  have kept : (state.sessions.set index (.failed none))[other]? = some session := by
    rw [List.getElem?_set_ne (Ne.symm different), stored]
  exact List.mem_of_getElem? kept

/-! ### Invariants under interference -/

/-- What carries an invariant of the open transactions, `valid`, and one of the
database and the commits so far, `global`, through every step: locks are taken
only while they are free, a transaction keeps its own invariant, and the commits
of transactions that share no lock with it do not break that. -/
structure Preserves (system : TransactionSystem Database Request Phase Lock Error)
    (valid : Database → Phase → Prop)
    (global : Database → List (Phase × Int) → Prop) : Prop where
  locks_start : ∀ {now database request phase},
    system.start now database request = .ok phase → system.locks phase = []
  locks_goes : ∀ {database held phase moved},
    system.statement database held phase = .goes moved →
      ∀ lock ∈ system.locks moved, lock ∈ system.locks phase ∨ held lock = false
  valid_start : ∀ {now database request phase},
    system.start now database request = .ok phase → valid database phase
  valid_goes : ∀ {database history held phase moved}, global database history →
    valid database phase → system.statement database held phase = .goes moved →
      valid database moved
  valid_commit : ∀ {database next phase other}, valid database phase → valid database other →
    (∀ lock ∈ system.locks phase, lock ∉ system.locks other) →
      system.commit database other = some next → valid next phase
  global_commit : ∀ {database next history phase time}, global database history →
    valid database phase → system.commit database phase = some next →
      global next (history ++ [(phase, time)])

/-- The invariants, and that no two open transactions share a lock. -/
structure Kept (system : TransactionSystem Database Request Phase Lock Error)
    (valid : Database → Phase → Prop) (global : Database → List (Phase × Int) → Prop)
    (state : Sessions Database Phase Error) : Prop where
  exclusive : ∀ {index other phase otherPhase}, index ≠ other →
    state.phase? index = some phase → state.phase? other = some otherPhase →
      ∀ lock ∈ system.locks phase, lock ∉ system.locks otherPhase
  valid : ∀ {index phase}, state.phase? index = some phase → valid state.database phase
  global : global state.database state.history

variable {valid : Database → Phase → Prop} {global : Database → List (Phase × Int) → Prop}

omit [DecidableEq Lock] in
theorem kept_idle {database : Database} (initial : global database []) (now : Int) :
    system.Kept valid global (.idle database now) where
  exclusive _ found := by simp [Sessions.idle, Sessions.phase?] at found
  valid found := by simp [Sessions.idle, Sessions.phase?] at found
  global := initial

omit [DecidableEq Lock] in
theorem Kept.began (kept : system.Kept valid global state)
    (preserves : system.Preserves valid global) {request : Request}
    {session : Session Phase Error}
    (started : ∀ phase, session.phase? = some phase →
      system.start state.now state.database request = .ok phase) :
    system.Kept valid global (state.push session) where
  exclusive {index other phase otherPhase} different found otherFound := by
    rcases Sessions.phase?_push found with old | ⟨rfl, new⟩
    · rcases Sessions.phase?_push otherFound with otherOld | ⟨rfl, otherNew⟩
      · exact kept.exclusive different old otherOld
      · intro lock _ held
        rw [preserves.locks_start (started otherPhase otherNew)] at held
        cases held
    · intro lock held
      rw [preserves.locks_start (started phase new)] at held
      cases held
  valid {index phase} found := by
    rcases Sessions.phase?_push found with old | ⟨-, new⟩
    · exact kept.valid old
    · exact preserves.valid_start (started phase new)
  global := kept.global

theorem Kept.moved (kept : system.Kept valid global state)
    (preserves : system.Preserves valid global) {index : Nat} {phase moved : Phase}
    (found : state.phase? index = some phase)
    (replied : system.statement state.database (system.heldByOthers state.sessions index)
      phase = .goes moved) :
    system.Kept valid global (state.setSession index (.running moved)) := by
  have apart : ∀ {other otherPhase}, other ≠ index → state.phase? other = some otherPhase →
      ∀ lock ∈ system.locks moved, lock ∉ system.locks otherPhase := by
    intro other otherPhase different otherFound lock held
    rcases preserves.locks_goes replied lock held with old | free
    · exact kept.exclusive (Ne.symm different) found otherFound lock old
    · exact heldByOthers_eq_false free otherFound different
  refine ⟨?_, ?_, kept.global⟩
  · intro first second phase₁ phase₂ different found₁ found₂ lock held
    rcases Sessions.phase?_setSession found₁ with ⟨rfl, new₁⟩ | ⟨firstOther, old₁⟩
    · rcases Sessions.phase?_setSession found₂ with ⟨rfl, -⟩ | ⟨secondOther, old₂⟩
      · exact absurd rfl different
      · cases new₁
        exact apart secondOther old₂ lock held
    · rcases Sessions.phase?_setSession found₂ with ⟨rfl, new₂⟩ | ⟨-, old₂⟩
      · cases new₂
        exact fun shared => apart firstOther old₁ lock shared held
      · exact kept.exclusive different old₁ old₂ lock held
  · intro other otherPhase otherFound
    rcases Sessions.phase?_setSession otherFound with ⟨-, new⟩ | ⟨-, old⟩
    · cases new
      exact preserves.valid_goes kept.global (kept.valid found) replied
    · exact kept.valid old

omit [DecidableEq Lock] in
theorem Kept.failed (kept : system.Kept valid global state) (index : Nat)
    (error : Option Error) : system.Kept valid global (state.setSession index (.failed error)) where
  exclusive different found otherFound :=
    kept.exclusive different (Sessions.phase?_ended rfl found).2
      (Sessions.phase?_ended rfl otherFound).2
  valid found := kept.valid (Sessions.phase?_ended rfl found).2
  global := kept.global

omit [DecidableEq Lock] in
theorem Kept.committed (kept : system.Kept valid global state)
    (preserves : system.Preserves valid global) {index : Nat} {phase : Phase}
    {database : Database} (found : state.phase? index = some phase)
    (commits : system.commit state.database phase = some database) :
    system.Kept valid global { state.setSession index .committed with
      database := database
      history := state.history ++ [(phase, state.now)] } where
  exclusive different otherFound anotherFound :=
    kept.exclusive different (Sessions.phase?_ended rfl otherFound).2
      (Sessions.phase?_ended rfl anotherFound).2
  valid {other otherPhase} otherFound := by
    obtain ⟨different, old⟩ := Sessions.phase?_ended rfl otherFound
    exact preserves.valid_commit (kept.valid old) (kept.valid found)
      (kept.exclusive different old found) commits
  global := preserves.global_commit kept.global (kept.valid found) commits

theorem Kept.change (kept : system.Kept valid global state)
    (preserves : system.Preserves valid global) {action : SessionAction Request}
    (change : system.Change state action next) : system.Kept valid global next := by
  cases change with
  | began request session started same => exact same ▸ kept.began preserves started
  | moved index phase moved _ found replied same =>
      exact same ▸ kept.moved preserves found replied
  | failed index phase error found same => exact same ▸ kept.failed index error
  | committed index phase database found commits same =>
      exact same ▸ kept.committed preserves found commits
  | elapsed duration same => exact same ▸ ⟨kept.exclusive, kept.valid, kept.global⟩

/-- The invariants hold in every state that the requests reach. -/
theorem kept_of_run (preserves : system.Preserves valid global)
    {actions : List (SessionAction Request)} {state final : Sessions Database Phase Error}
    (initial : system.Kept valid global state)
    (reached : system.machine.run state actions = some final) :
    system.Kept valid global final :=
  system.machine.run_invariant_always
    (fun _ _ _ kept stepped => kept.change preserves (change_of_step stepped)) initial reached

/-! ### One request after the other -/

variable (system) in
/-- The statements of a transaction that runs alone. -/
def alone (database : Database) : Nat → Phase → Option Phase
  | 0, phase => some phase
  | statements + 1, phase =>
      match system.statement database (fun _ => false) phase with
      | .goes moved => alone database statements moved
      | _ => none

variable (system) in
/-- A request served alone: the database after it. It fails before its commit
unless `statements` is the number of statements of its transaction. -/
def call (now : Int) (database : Database) (request : Request) (statements : Nat) : Database :=
  match system.start now database request with
  | .error _ => database
  | .ok phase => ((system.alone database statements phase).bind (system.commit database)).getD
      database

omit [DecidableEq Lock] in
/-- A request served alone keeps what its commit keeps. -/
theorem call_keeps (invariant : Database → Prop) (valid : Database → Phase → Prop) {now : Int}
    {database : Database} {request : Request}
    (valid_start : ∀ {phase}, system.start now database request = .ok phase →
      valid database phase)
    (valid_goes : ∀ {held phase moved}, valid database phase →
      system.statement database held phase = .goes moved → valid database moved)
    (commits : ∀ {phase next}, valid database phase →
      system.commit database phase = some next → invariant next)
    (holds : invariant database) (statements : Nat) :
    invariant (system.call now database request statements) := by
  have advanced : ∀ {statements phase moved}, valid database phase →
      system.alone database statements phase = some moved → valid database moved := by
    intro statements
    induction statements with
    | zero =>
        intro phase moved isValid ran
        cases ran
        exact isValid
    | succ statements inductionHypothesis =>
        intro phase moved isValid ran
        simp only [alone] at ran
        split at ran
        · rename_i next replied
          exact inductionHypothesis (valid_goes isValid replied) ran
        · cases ran
  unfold call
  split
  · exact holds
  · rename_i phase started
    cases ran : system.alone database statements phase with
    | none => exact holds
    | some moved =>
        rw [Option.bind_some]
        cases committed : system.commit database moved with
        | none => exact holds
        | some next => exact commits (advanced (valid_start started) ran) committed

end TransactionSystem

end LlmObs.Foundation
