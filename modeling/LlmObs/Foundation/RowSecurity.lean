import LlmObs.Foundation.Machine
import Mathlib.Data.List.Basic

/-!
Owns sessions of any number of clients on pooled connections to one database under row
policies. A session names an owner in a setting of its first transaction; the policies read the
setting of the connection that a statement runs on. It says which rows a statement sees and
which ones a commit changes, whatever the statements are and however sessions share connections.

Rows are versions on a heap that only grows: a delete drops a version from what is live, an
update drops one and adds another. Nothing here names a concrete table.
-/

namespace LlmObs.Foundation

/-! ### Settings and policies -/

/-- A server connection and who uses it. -/
structure PooledConnection where
  /-- The setting outside of transactions; `none` before it is first named. -/
  standing : Option String
  /-- The setting that the open transaction made for itself. -/
  transactional : Option String
  holder : Option Nat
deriving DecidableEq, Repr

namespace PooledConnection

def fresh : PooledConnection := ⟨none, none, none⟩

/-- `current_setting(name, true)` -/
def current (connection : PooledConnection) : Option String :=
  connection.transactional.or connection.standing

/-- `set_config(name, value, true)` -/
def setConfig (connection : PooledConnection) (value : String) : PooledConnection :=
  { connection with transactional := some value }

/-- The end of a transaction: a setting that it made first stays behind as the empty text. -/
def finish (connection : PooledConnection) : PooledConnection :=
  match connection.transactional with
  | some _ => ⟨some (connection.standing.getD ""), none, none⟩
  | none => { connection with holder := none }

end PooledConnection

/-- The policies of some tables, over a setting that names the owner of rows. -/
structure RowPolicies (Row Table Owner Error : Type) where
  table : Row → Table
  owner : Row → Owner
  named : Option String → Option Owner
  named_none : named none = none
  named_empty : named (some "") = none
  /-- The rows of a table that its policy admits; its expression can raise. -/
  admits : Table → Option String → Except Error (Row → Bool)
  owner_of_admits : ∀ {table setting admitted row}, admits table setting = .ok admitted →
    admitted row = true → named setting = some (owner row)
  /-- The rows have the same unique key. -/
  clash : Row → Row → Bool
  /-- A new row violates the policy of its table. -/
  violation : Error

/-- What a statement does with the rows it sees. -/
structure RowEffect (Row : Type) where
  removes : Row → Bool
  written : List Row

/-- A statement over some tables. Of the rows that it does not see it learns at most whether one
of them has the unique key of a given row. -/
structure RowStatement (Row Table Error : Type) where
  tables : List Table
  run : (Row → Bool) → List Row → Except Error (RowEffect Row)

namespace RowPolicies

variable {Row Table Owner Error : Type} [DecidableEq Table]
  (policies : RowPolicies Row Table Owner Error)

/-- The rows of some tables that the policies admit under a setting. -/
def admitted (setting : Option String) : List Table → Except Error (Row → Bool)
  | [] => .ok fun _ => false
  | table :: rest =>
      match policies.admits table setting, admitted setting rest with
      | .ok first, .ok others =>
          .ok fun row => (policies.table row = table && first row) || others row
      | .error error, _ => .error error
      | .ok _, .error error => .error error

end RowPolicies

/-! ### Sessions -/

/-- An open transaction: the versions that it dropped and added. -/
structure RowTransaction where
  connection : Nat
  /-- The session made its setting in it. -/
  configured : Bool
  removed : List Nat
  written : List Nat
  aborted : Bool
deriving DecidableEq, Repr

/-- A session and the owner's text it was opened with. -/
structure PooledSession where
  context : Option String
  /-- The session has made its setting, or has none to make. -/
  entered : Bool
  transaction : Option RowTransaction
deriving DecidableEq, Repr

/-- A statement's rows: without policies, and as it saw them. -/
structure Reading (Row Table : Type) where
  context : Option String
  configured : Bool
  tables : List Table
  view : List Row
  visible : List Row

/-- The versions that a committed transaction dropped and added. -/
structure RowCommit where
  context : Option String
  removed : List Nat
  written : List Nat
deriving DecidableEq, Repr

def RowCommit.apply (live : List Nat) (commit : RowCommit) : List Nat :=
  live.filter (fun version => version ∉ commit.removed) ++ commit.written

structure PooledState (Row Table : Type) where
  heap : List Row
  /-- The committed versions. -/
  live : List Nat
  connections : Nat → PooledConnection
  sessions : Nat → Option PooledSession
  /-- What statements saw, the last one first. -/
  readings : List (Reading Row Table)
  commits : List RowCommit

inductive PooledAction (Row Table Error : Type) where
  | enter (session : Nat) (context : Option String)
  /-- A transaction starts on an idle connection. -/
  | begin (session connection : Nat)
  /-- The session makes its setting. -/
  | configure (session : Nat)
  | execute (session : Nat) (statement : RowStatement Row Table Error)
  | commit (session : Nat)
  | rollback (session : Nat)
  /-- The session is closed, or its client is gone. -/
  | leave (session : Nat)
  /-- Another server connection takes the place of an idle one. -/
  | reconnect (connection : Nat)

namespace PooledState

variable {Row Table Owner Error : Type}

/-- Stored rows that no session has reached. -/
def initial (rows : List Row) : PooledState Row Table where
  heap := rows
  live := List.range rows.length
  connections := fun _ => .fresh
  sessions := fun _ => none
  readings := []
  commits := []

variable (state : PooledState Row Table)

def rowsAt (versions : List Nat) : List Row := versions.filterMap fun version => state.heap[version]?

/-- The version is of such a row. -/
def isAt (selected : Row → Bool) (version : Nat) : Bool := state.heap[version]?.any selected

/-- The versions that a transaction works on: the committed ones and its own. -/
def view (transaction : RowTransaction) : List Nat :=
  state.live.filter (fun version => version ∉ transaction.removed) ++ transaction.written

def setSession (number : Nat) (session : Option PooledSession) : PooledState Row Table :=
  { state with sessions := fun other => if other = number then session else state.sessions other }

def setConnection (number : Nat) (connection : PooledConnection) : PooledState Row Table :=
  { state with
    connections := fun other => if other = number then connection else state.connections other }

/-- The end of a transaction on its connection. -/
def release (connection : Nat) : PooledState Row Table :=
  state.setConnection connection (state.connections connection).finish

/-- Of some versions those of such rows are the ones of such rows. -/
theorem rowsAt_filter (selected : Row → Bool) (versions : List Nat) :
    state.rowsAt (versions.filter (state.isAt selected)) =
      (state.rowsAt versions).filter selected := by
  induction versions with
  | nil => rfl
  | cons version rest inductionHypothesis =>
      simp only [rowsAt] at inductionHypothesis ⊢
      cases found : state.heap[version]? with
      | none => simp [isAt, found, inductionHypothesis]
      | some row => cases passes : selected row <;>
          simp [isAt, found, passes, inductionHypothesis]

end PooledState

/-- What a statement did: the versions that it saw and dropped, and the rows that it wrote. -/
structure Performed (Row : Type) where
  visible : List Nat
  removed : List Nat
  written : List Row

namespace RowPolicies

/-! ### Steps -/

section Steps

variable {Row Table Owner Error : Type} [DecidableEq Table]
  (policies : RowPolicies Row Table Owner Error)

/-- A statement in a transaction: it runs on the admitted rows, and what it writes must be
admitted too. -/
def perform (state : PooledState Row Table) (transaction : RowTransaction)
    (statement : RowStatement Row Table Error) : Except Error (Performed Row) := do
  let setting := (state.connections transaction.connection).current
  let admitted ← policies.admitted setting statement.tables
  let view := state.view transaction
  let visible := view.filter (state.isAt admitted)
  let effect ← statement.run (fun row => (state.rowsAt view).any (policies.clash row))
    (state.rowsAt visible)
  if effect.written.all admitted then
    pure ⟨visible, visible.filter (state.isAt effect.removes), effect.written⟩
  else throw policies.violation

/-- A transaction after a statement; its new rows are the next versions of the heap. -/
def moved (heap : List Row) (transaction : RowTransaction) (done : Performed Row) :
    RowTransaction :=
  { transaction with
    removed := transaction.removed ++ done.removed
    written := transaction.written.filter (fun version => version ∉ done.removed) ++
      List.range' heap.length done.written.length }

/-- A statement of a session in its transaction. -/
def executeStep (state : PooledState Row Table) (number : Nat) (session : PooledSession)
    (transaction : RowTransaction) (statement : RowStatement Row Table Error) :
    PooledState Row Table :=
  match policies.perform state transaction statement with
  | .ok done =>
      { state.setSession number (some { session with
          transaction := some (moved state.heap transaction done) }) with
        heap := state.heap ++ done.written
        readings := ⟨session.context, transaction.configured, statement.tables,
          state.rowsAt (state.view transaction), state.rowsAt done.visible⟩ :: state.readings }
  | .error _ =>
      state.setSession number (some { session with
        transaction := some { transaction with aborted := true } })

/-- The commit of an aborted transaction is a rollback. -/
def commitStep (state : PooledState Row Table) (number : Nat) (session : PooledSession)
    (transaction : RowTransaction) : PooledState Row Table :=
  let after := (state.setSession number (some { session with transaction := none })).release
    transaction.connection
  if transaction.aborted then after
  else
    let commit : RowCommit := ⟨session.context, transaction.removed, transaction.written⟩
    { after with live := commit.apply state.live, commits := state.commits ++ [commit] }

def step (state : PooledState Row Table) :
    PooledAction Row Table Error → Option (PooledState Row Table)
  | .enter number context =>
      match state.sessions number with
      | none => some (state.setSession number
          (some ⟨context, context.all fun text => text = "", none⟩))
      | some _ => none
  | .begin number connection =>
      match state.sessions number, (state.connections connection).holder with
      | some ⟨context, entered, none⟩, none =>
          some ((state.setSession number
              (some ⟨context, entered, some ⟨connection, false, [], [], false⟩⟩)).setConnection
            connection { state.connections connection with holder := some number })
      | _, _ => none
  | .configure number =>
      match state.sessions number with
      | some ⟨some text, false, some transaction⟩ =>
          some ((state.setSession number
              (some ⟨some text, true, some { transaction with configured := true }⟩)).setConnection
            transaction.connection ((state.connections transaction.connection).setConfig text))
      | _ => none
  | .execute number statement =>
      match state.sessions number with
      | some ⟨context, true, some transaction⟩ =>
          if transaction.aborted then none
          else some (policies.executeStep state number ⟨context, true, some transaction⟩ transaction
            statement)
      | _ => none
  | .commit number =>
      match state.sessions number with
      | some ⟨context, true, some transaction⟩ =>
          some (commitStep state number ⟨context, true, some transaction⟩ transaction)
      | _ => none
  | .rollback number =>
      match state.sessions number with
      | some ⟨context, true, some transaction⟩ =>
          some ((state.setSession number (some ⟨context, true, none⟩)).release
            transaction.connection)
      | _ => none
  | .leave number =>
      match state.sessions number with
      | some ⟨_, _, some transaction⟩ =>
          some ((state.setSession number none).release transaction.connection)
      | some ⟨_, _, none⟩ => some (state.setSession number none)
      | none => none
  | .reconnect connection =>
      match (state.connections connection).holder with
      | none => some (state.setConnection connection .fresh)
      | some _ => none

def machine : Machine (PooledState Row Table) (PooledAction Row Table Error) := ⟨policies.step⟩

end Steps

/-! ### Settings of a session -/

section Settings

variable {Row Table Owner Error : Type}

/-- The settings that a transaction runs under. -/
def HasSetting (context : Option String) (configured : Bool) (setting : Option String) : Prop :=
  if configured then setting = context ∧ setting ≠ none else setting = none ∨ setting = some ""

/-- A version of a row that the context names the owner of. -/
def OwnedAt (policies : RowPolicies Row Table Owner Error) (heap : List Row)
    (context : Option String) (version : Nat) : Prop :=
  ∃ row, heap[version]? = some row ∧ policies.named context = some (policies.owner row)

variable {policies : RowPolicies Row Table Owner Error}

theorem OwnedAt.append {heap : List Row} {context : Option String} {version : Nat}
    (owned : policies.OwnedAt heap context version) (more : List Row) :
    policies.OwnedAt (heap ++ more) context version := by
  obtain ⟨row, found, named⟩ := owned
  exact ⟨row, List.getElem?_append_left (List.getElem?_eq_some_iff.mp found).1 ▸ found, named⟩

/-- Only the owner that the context names can be the owner of what is admitted. -/
theorem named_context {context setting : Option String} {configured : Bool} {owner : Owner}
    (has : HasSetting context configured setting) (named : policies.named setting = some owner) :
    configured = true ∧ policies.named context = some owner := by
  cases configured with
  | true => exact ⟨rfl, has.1 ▸ named⟩
  | false =>
      rcases has with rfl | rfl
      · rw [policies.named_none] at named
        cases named
      · rw [policies.named_empty] at named
        cases named

end Settings

/-! ### The rows of an owner -/

section Owners

variable {Row Table Owner Error : Type} [DecidableEq Owner]

/-- The committed versions of an owner's rows. -/
def ofOwner (policies : RowPolicies Row Table Owner Error) (owner : Owner)
    (state : PooledState Row Table) : List Nat :=
  state.live.filter (state.isAt fun row => policies.owner row = owner)

/-- The commits of the sessions that name the owner. -/
def commitsOf (policies : RowPolicies Row Table Owner Error) (owner : Owner)
    (state : PooledState Row Table) : List RowCommit :=
  state.commits.filter fun commit => policies.named commit.context = some owner

/-- What is live is stored, and of an owner's rows it is what the commits of the owner's own
sessions made of `start`. -/
structure KeptFor (policies : RowPolicies Row Table Owner Error) (owner : Owner)
    (start : List Nat) (state : PooledState Row Table) : Prop where
  present : ∀ version ∈ state.live, version < state.heap.length
  made : policies.ofOwner owner state =
    (policies.commitsOf owner state).foldl RowCommit.apply start

variable {policies : RowPolicies Row Table Owner Error} {state next : PooledState Row Table}
  {owner : Owner} {start : List Nat}

theorem KeptFor.append (kept : KeptFor policies owner start state) {more : List Row}
    (heap : next.heap = state.heap ++ more) (live : next.live = state.live)
    (commits : next.commits = state.commits) : KeptFor policies owner start next where
  present := by
    intro version member
    rw [live] at member
    rw [heap, List.length_append]
    exact Nat.lt_add_right _ (kept.present version member)
  made := by
    have same : policies.ofOwner owner next = policies.ofOwner owner state := by
      rw [ofOwner, ofOwner, live]
      refine List.filter_congr fun version member => ?_
      rw [PooledState.isAt, PooledState.isAt, heap,
        List.getElem?_append_left (kept.present version member)]
    rw [same, kept.made, commitsOf, commitsOf, commits]

/-- A commit changes the rows of the owner that its session names, and no other's. -/
theorem KeptFor.commit (kept : KeptFor policies owner start state) {commit : RowCommit}
    (heap : next.heap = state.heap) (live : next.live = RowCommit.apply state.live commit)
    (commits : next.commits = state.commits ++ [commit])
    (owned : ∀ version, version ∈ commit.removed ∨ version ∈ commit.written →
      policies.OwnedAt state.heap commit.context version) :
    KeptFor policies owner start next where
  present := by
    intro version member
    rw [heap]
    rw [live] at member
    rcases List.mem_append.mp member with old | new
    · exact kept.present version (List.mem_filter.mp old).1
    · obtain ⟨row, found, -⟩ := owned version (.inr new)
      exact (List.getElem?_eq_some_iff.mp found).1
  made := by
    have isAt (version : Nat) (changed : version ∈ commit.removed ∨ version ∈ commit.written) :
        state.isAt (fun row => policies.owner row = owner) version =
          decide (policies.named commit.context = some owner) := by
      obtain ⟨row, found, named⟩ := owned version changed
      simp [PooledState.isAt, found, named]
    have versions : policies.ofOwner owner next =
        (state.live.filter fun version => version ∉ commit.removed).filter
            (state.isAt fun row => policies.owner row = owner) ++
          commit.written.filter (state.isAt fun row => policies.owner row = owner) := by
      have same : next.isAt (fun row => policies.owner row = owner) =
          state.isAt fun row => policies.owner row = owner := by
        funext version
        rw [PooledState.isAt, PooledState.isAt, heap]
      rw [ofOwner, live, same, RowCommit.apply, List.filter_append]
    rw [versions, List.filter_comm]
    by_cases own : policies.named commit.context = some owner
    · have written : commit.written.filter
          (state.isAt fun row => policies.owner row = owner) = commit.written :=
        List.filter_eq_self.mpr fun version member => by
          rw [isAt version (.inr member), decide_eq_true own]
      have listed : policies.commitsOf owner next = policies.commitsOf owner state ++ [commit] := by
        rw [commitsOf, commits, List.filter_append, List.filter_cons_of_pos (by simpa using own)]
        rfl
      rw [written, listed, List.foldl_append, ← kept.made]
      rfl
    · have written : commit.written.filter
          (state.isAt fun row => policies.owner row = owner) = [] :=
        List.filter_eq_nil_iff.mpr fun version member => by
          rw [isAt version (.inr member)]
          simpa using own
      have listed : policies.commitsOf owner next = policies.commitsOf owner state := by
        rw [commitsOf, commits, List.filter_append, List.filter_cons_of_neg (by simpa using own),
          List.filter_nil, List.append_nil]
        rfl
      have untouched : (state.live.filter (state.isAt fun row => policies.owner row = owner)).filter
          (fun version => version ∉ commit.removed) =
            state.live.filter (state.isAt fun row => policies.owner row = owner) := by
        refine List.filter_eq_self.mpr fun version member => ?_
        have mine := (List.mem_filter.mp member).2
        rw [decide_eq_true_iff]
        intro dropped
        rw [isAt version (.inl dropped)] at mine
        exact own (of_decide_eq_true mine)
      rw [written, listed, List.append_nil, untouched]
      exact kept.made

end Owners

/-! ### What a statement can do -/

variable {Row Table Owner Error : Type} [DecidableEq Table]
  {policies : RowPolicies Row Table Owner Error} {state next : PooledState Row Table}

theorem owner_of_admitted {setting : Option String} {tables : List Table}
    {admitted : Row → Bool} (granted : policies.admitted setting tables = .ok admitted)
    {row : Row} (passes : admitted row = true) :
    policies.named setting = some (policies.owner row) := by
  induction tables generalizing admitted with
  | nil =>
      cases granted
      cases passes
  | cons table rest inductionHypothesis =>
      rw [RowPolicies.admitted] at granted
      split at granted
      · rename_i first others here there
        cases granted
        rcases Bool.or_eq_true_iff.mp passes with own | other
        · exact policies.owner_of_admits here (Bool.and_eq_true_iff.mp own).2
        · exact inductionHypothesis there other
      · cases granted
      · cases granted

/-- A statement sees and drops admitted versions, and writes admitted rows. -/
structure PerformedUnder (policies : RowPolicies Row Table Owner Error)
    (state : PooledState Row Table) (transaction : RowTransaction) (tables : List Table)
    (done : Performed Row) (admitted : Row → Bool) : Prop where
  granted : policies.admitted (state.connections transaction.connection).current tables =
    .ok admitted
  visible : done.visible = (state.view transaction).filter (state.isAt admitted)
  removed : done.removed ⊆ done.visible
  written : ∀ row ∈ done.written, admitted row = true

theorem performedUnder {transaction : RowTransaction} {statement : RowStatement Row Table Error}
    {done : Performed Row} (performed : policies.perform state transaction statement = .ok done) :
    ∃ admitted, PerformedUnder policies state transaction statement.tables done admitted := by
  rw [perform] at performed
  cases granted : policies.admitted (state.connections transaction.connection).current
      statement.tables with
  | error error =>
      rw [granted] at performed
      cases performed
  | ok admitted =>
      rw [granted] at performed
      cases ran : statement.run
          (fun row => (state.rowsAt (state.view transaction)).any (policies.clash row))
          (state.rowsAt ((state.view transaction).filter (state.isAt admitted))) with
      | error error =>
          simp only [bind, Except.bind, ran] at performed
          cases performed
      | ok effect =>
          simp only [bind, Except.bind, ran] at performed
          split at performed
          · rename_i checked
            cases performed
            exact ⟨admitted, granted, rfl, fun _ member => (List.mem_filter.mp member).1,
              List.all_eq_true.mp checked⟩
          · cases performed

/-! ### What a run keeps -/

/-- A statement saw the rows that the policies admit under a setting of its transaction. -/
def ReadingAdmitted (policies : RowPolicies Row Table Owner Error) (reading : Reading Row Table) :
    Prop :=
  ∃ setting admitted, HasSetting reading.context reading.configured setting ∧
    policies.admitted setting reading.tables = .ok admitted ∧
    reading.visible = reading.view.filter admitted

/-- A session that is in a transaction holds its connection, with its own setting. -/
structure TransactionGuarded (policies : RowPolicies Row Table Owner Error)
    (state : PooledState Row Table) (number : Nat) (session : PooledSession)
    (transaction : RowTransaction) : Prop where
  holds : (state.connections transaction.connection).holder = some number
  own : (state.connections transaction.connection).transactional =
    if transaction.configured then session.context else none
  named : transaction.configured = true → session.context ≠ none
  removed : ∀ version ∈ transaction.removed,
    policies.OwnedAt state.heap session.context version
  written : ∀ version ∈ transaction.written,
    policies.OwnedAt state.heap session.context version

structure Guarded (policies : RowPolicies Row Table Owner Error) (state : PooledState Row Table) :
    Prop where
  idle : ∀ connection, (state.connections connection).holder = none →
    (state.connections connection).transactional = none
  standing : ∀ connection, (state.connections connection).standing = none ∨
    (state.connections connection).standing = some ""
  transactions : ∀ number session transaction, state.sessions number = some session →
    session.transaction = some transaction →
    TransactionGuarded policies state number session transaction
  readings : ∀ reading ∈ state.readings, policies.ReadingAdmitted reading
  commits : ∀ commit ∈ state.commits, ∀ version, version ∈ commit.removed ∨
    version ∈ commit.written → policies.OwnedAt state.heap commit.context version

theorem guarded_initial (rows : List Row) : Guarded policies (.initial rows) where
  idle := fun _ _ => rfl
  standing := fun _ => .inl rfl
  transactions := nofun
  readings := nofun
  commits := nofun

theorem TransactionGuarded.hasSetting {number : Nat} {session : PooledSession}
    {transaction : RowTransaction} (guarded : Guarded policies state)
    (own : TransactionGuarded policies state number session transaction) :
    HasSetting session.context transaction.configured
      (state.connections transaction.connection).current := by
  rw [HasSetting, PooledConnection.current, own.own]
  cases configured : transaction.configured with
  | false => exact guarded.standing transaction.connection
  | true =>
      cases named : session.context with
      | none => exact absurd named (own.named configured)
      | some text => exact ⟨rfl, nofun⟩

theorem Guarded.visible_owned {transaction : RowTransaction} {number : Nat}
    {session : PooledSession} {tables : List Table} {done : Performed Row} {admitted : Row → Bool}
    (guarded : Guarded policies state)
    (own : TransactionGuarded policies state number session transaction)
    (under : PerformedUnder policies state transaction tables done admitted) {version : Nat}
    (member : version ∈ done.visible) : policies.OwnedAt state.heap session.context version := by
  rw [under.visible] at member
  obtain ⟨row, found, passes⟩ := (Option.any_eq_true _ _).mp (List.mem_filter.mp member).2
  exact ⟨row, found, (named_context (own.hasSetting guarded)
    (owner_of_admitted under.granted passes)).2⟩

/-- A session and a connection of its own change. -/
theorem Guarded.rewire (guarded : Guarded policies state) {number connection : Nat}
    {session : Option PooledSession} {server : PooledConnection}
    (before : ∀ other, (state.connections connection).holder = some other → other = number)
    (standing : server.standing = none ∨ server.standing = some "")
    (idle : server.holder = none → server.transactional = none)
    (own : ∀ found transaction, session = some found → found.transaction = some transaction →
      TransactionGuarded policies ((state.setSession number session).setConnection connection
        server) number found transaction) :
    Guarded policies ((state.setSession number session).setConnection connection server) where
  idle := by
    intro other free
    simp only [PooledState.setConnection, PooledState.setSession] at free ⊢
    split
    · rename_i here
      rw [if_pos here] at free
      exact idle free
    · rename_i elsewhere
      rw [if_neg elsewhere] at free
      exact guarded.idle other free
  standing := by
    intro other
    simp only [PooledState.setConnection, PooledState.setSession]
    split
    · exact standing
    · exact guarded.standing other
  transactions := by
    intro other found transaction stored running
    by_cases here : other = number
    · subst here
      refine own found transaction ?_ running
      simpa [PooledState.setConnection, PooledState.setSession] using stored
    · have old : state.sessions other = some found := by
        simpa [PooledState.setConnection, PooledState.setSession, here] using stored
      have known := guarded.transactions other found transaction old running
      -- another session holds another connection
      have apart : transaction.connection ≠ connection := by
        rintro same
        exact here (before other (same ▸ known.holds))
      have same : ((state.setSession number session).setConnection connection server).connections
          transaction.connection = state.connections transaction.connection := if_neg apart
      exact ⟨same ▸ known.holds, same ▸ known.own, known.named, known.removed, known.written⟩
  readings := guarded.readings
  commits := guarded.commits

/-- A transaction ends: its connection forgets the setting. -/
theorem Guarded.release (guarded : Guarded policies state) {number : Nat}
    {session : PooledSession} {transaction : RowTransaction}
    (stored : state.sessions number = some session)
    (running : session.transaction = some transaction) {after : Option PooledSession}
    (ended : ∀ found, after = some found → found.transaction = none) :
    Guarded policies ((state.setSession number after).release transaction.connection) := by
  have own := guarded.transactions number session transaction stored running
  have standing := guarded.standing transaction.connection
  have finished : ((state.setSession number after).connections transaction.connection).finish =
      (state.connections transaction.connection).finish := rfl
  rw [PooledState.release, finished]
  refine guarded.rewire ?_ ?_ ?_ ?_
  · intro other holds
    rw [own.holds] at holds
    exact (Option.some.inj holds).symm
  · rw [PooledConnection.finish]
    split
    · right
      rcases standing with unnamed | empty
      · rw [unnamed]
        rfl
      · rw [empty]
        rfl
    · exact standing
  · intro _
    rw [PooledConnection.finish]
    split
    · rfl
    · assumption
  · intro found transaction same running
    rw [ended found same] at running
    cases running

theorem Guarded.execute (guarded : Guarded policies state) {number : Nat}
    {session : PooledSession} {transaction : RowTransaction}
    (stored : state.sessions number = some session)
    (running : session.transaction = some transaction)
    (statement : RowStatement Row Table Error) :
    Guarded policies (policies.executeStep state number session transaction statement) := by
  have own := guarded.transactions number session transaction stored running
  rw [executeStep]
  cases performed : policies.perform state transaction statement with
  | error error =>
      refine ⟨guarded.idle, guarded.standing, ?_, guarded.readings, guarded.commits⟩
      intro other found later member here
      simp only [PooledState.setSession] at member
      split at member
      · rename_i same
        subst same
        cases member
        cases here
        exact ⟨own.holds, own.own, own.named, own.removed, own.written⟩
      · have known := guarded.transactions other found later member here
        exact ⟨known.holds, known.own, known.named, known.removed, known.written⟩
  | ok done =>
      obtain ⟨admitted, under⟩ := performedUnder performed
      refine ⟨guarded.idle, guarded.standing, ?_, ?_, ?_⟩
      · intro other found later member here
        simp only [PooledState.setSession] at member
        split at member
        · rename_i same
          subst same
          cases member
          cases here
          refine ⟨own.holds, own.own, own.named, ?_, ?_⟩
          · intro version dropped
            rcases List.mem_append.mp dropped with old | new
            · exact (own.removed version old).append _
            · exact (guarded.visible_owned own under (under.removed new)).append _
          · intro version added
            rcases List.mem_append.mp added with old | new
            · exact (own.written version (List.mem_filter.mp old).1).append _
            · obtain ⟨offset, inside, rfl⟩ := List.mem_range'.mp new
              have found : (state.heap ++ done.written)[state.heap.length + 1 * offset]? =
                  some done.written[offset] := by
                rw [List.getElem?_append_right (by omega)]
                simp [inside]
              exact ⟨_, found, (named_context (own.hasSetting guarded)
                (owner_of_admitted under.granted
                  (under.written _ (List.getElem_mem inside)))).2⟩
        · have known := guarded.transactions other found later member here
          exact ⟨known.holds, known.own, known.named,
            fun version dropped => (known.removed version dropped).append _,
            fun version added => (known.written version added).append _⟩
      · intro reading member
        rcases List.mem_cons.mp member with rfl | old
        · refine ⟨_, admitted, own.hasSetting guarded, under.granted, ?_⟩
          rw [under.visible]
          exact PooledState.rowsAt_filter ..
        · exact guarded.readings reading old
      · intro commit member version changed
        exact (guarded.commits commit member version changed).append _

theorem Guarded.commit (guarded : Guarded policies state) {number : Nat}
    {session : PooledSession} {transaction : RowTransaction}
    (stored : state.sessions number = some session)
    (running : session.transaction = some transaction) :
    Guarded policies (commitStep state number session transaction) := by
  have own := guarded.transactions number session transaction stored running
  have released : Guarded policies ((state.setSession number
      (some { session with transaction := none })).release transaction.connection) :=
    guarded.release stored running (by rintro found ⟨⟩; rfl)
  rw [commitStep]
  split
  · exact released
  · refine ⟨released.idle, released.standing, ?_, released.readings, ?_⟩
    · intro other found later member here
      have known := released.transactions other found later member here
      exact ⟨known.holds, known.own, known.named, known.removed, known.written⟩
    · intro commit member version changed
      rcases List.mem_append.mp member with old | new
      · exact guarded.commits commit old version changed
      · obtain rfl := List.mem_singleton.mp new
        rcases changed with dropped | added
        · exact own.removed version dropped
        · exact own.written version added

theorem guarded_step (guarded : Guarded policies state) {action : PooledAction Row Table Error}
    (stepped : policies.step state action = some next) : Guarded policies next := by
  cases action with
  | enter number context =>
      rw [step] at stepped
      split at stepped
      · cases stepped
        refine ⟨guarded.idle, guarded.standing, ?_, guarded.readings, guarded.commits⟩
        intro other found later member here
        simp only [PooledState.setSession] at member
        split at member
        · cases member
          cases here
        · have known := guarded.transactions other found later member here
          exact ⟨known.holds, known.own, known.named, known.removed, known.written⟩
      · cases stepped
  | begin number connection =>
      rw [step] at stepped
      split at stepped
      · rename_i context entered stored free
        cases stepped
        refine guarded.rewire ?_ (guarded.standing connection) nofun ?_
        · intro other holds
          rw [free] at holds
          cases holds
        · intro found transaction same running
          cases same
          cases running
          exact ⟨by simp [PooledState.setConnection], by
            simpa [PooledState.setConnection] using guarded.idle connection free, nofun, nofun,
            nofun⟩
      · cases stepped
  | configure number =>
      rw [step] at stepped
      split at stepped
      · rename_i text transaction stored
        cases stepped
        have own := guarded.transactions number _ transaction stored rfl
        refine guarded.rewire ?_ (guarded.standing transaction.connection) ?_ ?_
        · intro other holds
          rw [own.holds] at holds
          exact (Option.some.inj holds).symm
        · intro free
          rw [PooledConnection.setConfig, own.holds] at free
          cases free
        · intro found transaction same running
          cases same
          cases running
          exact ⟨by simpa [PooledState.setConnection, PooledConnection.setConfig] using own.holds,
            by simp [PooledState.setConnection, PooledConnection.setConfig], nofun, own.removed,
            own.written⟩
      · cases stepped
  | execute number statement =>
      rw [step] at stepped
      split at stepped
      · rename_i context transaction stored
        split at stepped
        · cases stepped
        · cases stepped
          exact guarded.execute stored rfl statement
      · cases stepped
  | commit number =>
      rw [step] at stepped
      split at stepped
      · rename_i context transaction stored
        cases stepped
        exact guarded.commit stored rfl
      · cases stepped
  | rollback number =>
      rw [step] at stepped
      split at stepped
      · rename_i context transaction stored
        cases stepped
        exact guarded.release stored rfl (by rintro found ⟨⟩; rfl)
      · cases stepped
  | leave number =>
      rw [step] at stepped
      split at stepped
      · rename_i context entered transaction stored
        cases stepped
        exact guarded.release stored rfl nofun
      · cases stepped
        refine ⟨guarded.idle, guarded.standing, ?_, guarded.readings, guarded.commits⟩
        intro other found later member here
        simp only [PooledState.setSession] at member
        split at member
        · cases member
        · have known := guarded.transactions other found later member here
          exact ⟨known.holds, known.own, known.named, known.removed, known.written⟩
      · cases stepped
  | reconnect connection =>
      rw [step] at stepped
      split at stepped
      · rename_i free
        cases stepped
        refine ⟨?_, ?_, ?_, guarded.readings, guarded.commits⟩
        · intro other unheld
          simp only [PooledState.setConnection] at unheld ⊢
          split
          · rfl
          · rename_i elsewhere
            rw [if_neg elsewhere] at unheld
            exact guarded.idle other unheld
        · intro other
          simp only [PooledState.setConnection]
          split
          · exact .inl rfl
          · exact guarded.standing other
        · intro other found transaction member here
          have known := guarded.transactions other found transaction member here
          have apart : transaction.connection ≠ connection := by
            rintro rfl
            rw [known.holds] at free
            cases free
          have same : (state.setConnection connection .fresh).connections transaction.connection =
              state.connections transaction.connection := if_neg apart
          exact ⟨same ▸ known.holds, same ▸ known.own, known.named, known.removed, known.written⟩
      · cases stepped

theorem guarded_run {rows : List Row} {actions : List (PooledAction Row Table Error)}
    {final : PooledState Row Table}
    (reached : policies.machine.run (.initial rows) actions = some final) :
    Guarded policies final :=
  policies.machine.run_invariant_always (fun _ _ _ guarded stepped => guarded_step guarded stepped)
    (guarded_initial rows) reached

/-! ### What sessions see and change -/

/-- A statement sees rows of the owner that its session names, and these only in the transaction
in which the session made its setting. -/
theorem ReadingAdmitted.owned {reading : Reading Row Table}
    (admitted : policies.ReadingAdmitted reading) {row : Row} (seen : row ∈ reading.visible) :
    reading.configured = true ∧ policies.named reading.context = some (policies.owner row) := by
  obtain ⟨setting, passes, has, granted, visible⟩ := admitted
  rw [visible] at seen
  exact named_context has (owner_of_admitted granted (List.mem_filter.mp seen).2)

/-- The policies admit the rows of the owner, and no others, under the text. -/
def Exact (policies : RowPolicies Row Table Owner Error) (text : String) (owner : Owner) : Prop :=
  ∀ table, ∃ admitted, policies.admits table (some text) = .ok admitted ∧
    ∀ row, policies.table row = table → (admitted row = true ↔ policies.owner row = owner)

theorem Exact.admitted {text : String} {owner : Owner} (exact : policies.Exact text owner)
    {tables : List Table} {admitted : Row → Bool}
    (granted : policies.admitted (some text) tables = .ok admitted) (row : Row) :
    admitted row = true ↔ policies.table row ∈ tables ∧ policies.owner row = owner := by
  induction tables generalizing admitted with
  | nil =>
      cases granted
      simp
  | cons table rest inductionHypothesis =>
      obtain ⟨first, here, own⟩ := exact table
      rw [RowPolicies.admitted, here] at granted
      cases there : policies.admitted (some text) rest with
      | error error =>
          rw [there] at granted
          cases granted
      | ok others =>
          rw [there] at granted
          cases granted
          have tail := inductionHypothesis there
          have head := own row
          by_cases same : policies.table row = table
          · simp [same, tail, head same]
          · simp [same, tail]

/-- Under exact policies a statement sees all rows of the owner in its tables, or none. -/
theorem ReadingAdmitted.visible_eq [DecidableEq Owner] {reading : Reading Row Table}
    (admitted : policies.ReadingAdmitted reading) {text : String} {owner : Owner}
    (exact : policies.Exact text owner) (context : reading.context = some text) :
    reading.visible = if reading.configured then
      reading.view.filter fun row => policies.table row ∈ reading.tables ∧
        policies.owner row = owner else [] := by
  cases configured : reading.configured with
  | false =>
      refine List.eq_nil_iff_forall_not_mem.mpr fun row seen => ?_
      have owned := (admitted.owned seen).1
      rw [configured] at owned
      cases owned
  | true =>
      obtain ⟨setting, passes, has, granted, visible⟩ := admitted
      rw [HasSetting, if_pos configured, context] at has
      rw [has.1] at granted
      rw [visible, if_pos rfl]
      refine List.filter_congr fun row _ => ?_
      rw [Bool.eq_iff_iff, decide_eq_true_iff]
      exact exact.admitted granted row

/-- A step adds to the heap, or commits. -/
theorem stored_cases {action : PooledAction Row Table Error}
    (stepped : policies.step state action = some next) :
    (∃ more, next.heap = state.heap ++ more ∧ next.live = state.live ∧
        next.commits = state.commits) ∨
      ∃ commit, next.heap = state.heap ∧ next.live = RowCommit.apply state.live commit ∧
        next.commits = state.commits ++ [commit] := by
  have unchanged (same : next.heap = state.heap ∧ next.live = state.live ∧
      next.commits = state.commits) : ∃ more, next.heap = state.heap ++ more ∧
        next.live = state.live ∧ next.commits = state.commits :=
    ⟨[], by rw [List.append_nil, same.1], same.2⟩
  cases action with
  | execute number statement =>
      rw [step] at stepped
      split at stepped
      · split at stepped
        · cases stepped
        · cases stepped
          rw [executeStep]
          left
          split
          · exact ⟨_, rfl, rfl, rfl⟩
          · exact ⟨[], (List.append_nil _).symm, rfl, rfl⟩
      · cases stepped
  | commit number =>
      rw [step] at stepped
      split at stepped
      · cases stepped
        rw [commitStep]
        split
        · exact .inl ⟨[], (List.append_nil _).symm, rfl, rfl⟩
        · exact .inr ⟨_, rfl, rfl, rfl⟩
      · cases stepped
  | _ =>
      rw [step] at stepped
      split at stepped <;> cases stepped <;> exact .inl (unchanged ⟨rfl, rfl, rfl⟩)

variable [DecidableEq Owner]

/-- Whatever sessions do, the rows of an owner are what its own sessions committed. -/
theorem ofOwner_of_run {rows : List Row} {actions : List (PooledAction Row Table Error)}
    {final : PooledState Row Table}
    (reached : policies.machine.run (.initial rows) actions = some final) (owner : Owner) :
    policies.ofOwner owner final = (policies.commitsOf owner final).foldl RowCommit.apply
      (policies.ofOwner owner (.initial rows)) := by
  have initially : KeptFor policies owner (policies.ofOwner owner (.initial rows))
      (.initial rows) := ⟨fun version member => List.mem_range.mp member, rfl⟩
  have both : Guarded policies final ∧
      KeptFor policies owner (policies.ofOwner owner (.initial rows)) final := by
    refine @Machine.run_invariant_always _ _ policies.machine
      (fun state => Guarded policies state ∧
        KeptFor policies owner (policies.ofOwner owner (.initial rows)) state)
      (fun state action next holds stepped => ?_) _ _ _ ⟨guarded_initial rows, initially⟩ reached
    obtain ⟨guarded, kept⟩ := holds
    have after := guarded_step guarded stepped
    refine ⟨after, ?_⟩
    rcases stored_cases stepped with ⟨more, heap, live, commits⟩ | ⟨commit, heap, live, commits⟩
    · exact kept.append heap live commits
    · refine kept.commit heap live commits fun version changed => ?_
      have member : commit ∈ next.commits := by simp [commits]
      exact heap ▸ after.commits commit member version changed
  exact both.2.made

end RowPolicies

end LlmObs.Foundation
