import LlmObs.Foundation.Outcome

/-!
Owns requests as scripts of statements on one database session, where every statement
can fail: what a script leaves committed when it returns, raises or loses the answer of
a commit, and the rule that what holds of the writes at each commit holds of all
committed ones. The session sees its own writes and no other session.

Nothing here names a concrete table.
-/

namespace LlmObs.Foundation

/-! ### Scripts and runs -/

/-- What a request does on its session. A statement that selects or returns rows hands
the script the tables that it found. -/
inductive Script (Database Write Error Value : Type) where
  | done (value : Value)
  | fail (error : Error)
  | select (next : Database → Script Database Write Error Value)
  | execute (write : Write) (next : Database → Script Database Write Error Value)
  | commit (next : Script Database Write Error Value)

/-- A statement that raises. A commit can raise after it took effect. -/
structure Fault (Error : Type) where
  error : Error
  tookEffect : Bool

/-- A session after some statements. -/
structure ScriptState (Database Write : Type) where
  /-- The committed tables. -/
  database : Database
  committed : List Write
  /-- The tables with the pending writes. -/
  view : Database
  pending : List Write
  statements : Nat

namespace ScriptState

variable {Database Write : Type}

def begin (database : Database) : ScriptState Database Write := ⟨database, [], database, [], 0⟩

def answered (state : ScriptState Database Write) : ScriptState Database Write :=
  { state with statements := state.statements + 1 }

def wrote (state : ScriptState Database Write) (write : Write) (view : Database) :
    ScriptState Database Write :=
  { state with view := view, pending := state.pending ++ [write] }

def publish (state : ScriptState Database Write) : ScriptState Database Write :=
  { state with
    database := state.view
    committed := state.committed ++ state.pending
    pending := [] }

section

variable (state : ScriptState Database Write) (write : Write) (view database : Database)

@[simp] theorem statements_begin : (begin database : ScriptState Database Write).statements = 0 :=
  rfl

@[simp] theorem database_begin :
    (begin database : ScriptState Database Write).database = database := rfl

@[simp] theorem view_begin : (begin database : ScriptState Database Write).view = database := rfl

@[simp] theorem statements_answered : state.answered.statements = state.statements + 1 := rfl

@[simp] theorem view_answered : state.answered.view = state.view := rfl

@[simp] theorem database_answered : state.answered.database = state.database := rfl

@[simp] theorem statements_wrote : (state.wrote write view).statements = state.statements := rfl

@[simp] theorem view_wrote : (state.wrote write view).view = view := rfl

@[simp] theorem database_wrote : (state.wrote write view).database = state.database := rfl

@[simp] theorem database_publish : state.publish.database = state.view := rfl

end

end ScriptState

namespace Script

variable {Database Write Error Value Result : Type}

/-- How a script ends, with the session it leaves: pending writes are rolled back. The
fault of each statement is given by how many were answered before it. -/
def run (apply : Write → Database → Except Error Database) (fault : Nat → Option (Fault Error)) :
    Script Database Write Error Value → ScriptState Database Write →
      Except Error Value × ScriptState Database Write
  | .done value, state => (.ok value, state)
  | .fail error, state => (.error error, state)
  | .select next, state =>
      match fault state.statements with
      | some failure => (.error failure.error, state)
      | none => run apply fault (next state.view) state.answered
  | .execute write next, state =>
      match fault state.statements with
      | some failure => (.error failure.error, state)
      | none =>
          match apply write state.view with
          | .error error => (.error error, state)
          | .ok view => run apply fault (next state.view) (state.wrote write view).answered
  | .commit next, state =>
      match fault state.statements with
      | some failure =>
          (.error failure.error, if failure.tookEffect then state.publish else state)
      | none => run apply fault next state.publish.answered

/-! ### Sequences -/

def bind : Script Database Write Error Value → (Value → Script Database Write Error Result) →
    Script Database Write Error Result
  | .done value, rest => rest value
  | .fail error, _ => .fail error
  | .select next, rest => .select fun found => (next found).bind rest
  | .execute write next, rest => .execute write fun found => (next found).bind rest
  | .commit next, rest => .commit (next.bind rest)

instance : Monad (Script Database Write Error) where
  pure := .done
  bind := bind

/-- What a query answers, or the exception that the request raises about it. -/
def query (answer : Database → Except Error Value) : Script Database Write Error Value :=
  .select fun found =>
    match answer found with
    | .ok value => .done value
    | .error error => .fail error

/-- A value that the request has at hand, or the exception that it raises. -/
def ofExcept : Except Error Value → Script Database Write Error Value
  | .ok value => .done value
  | .error error => .fail error

/-- A write whose rows are not returned. -/
def write (statement : Write) : Script Database Write Error Unit :=
  .execute statement fun _ => .done ()

/-- A write that raises where it found no row. -/
def writeFound (statement : Write) (found : Database → Bool) (missing : Error) :
    Script Database Write Error Unit :=
  .execute statement fun database => if found database then .done () else .fail missing

/-- `async with db.begin()` around `body`. -/
def transaction (body : Script Database Write Error Value) : Script Database Write Error Value :=
  body.bind fun value => .commit (.done value)

section

variable {apply : Write → Database → Except Error Database}
  {fault : Nat → Option (Fault Error)} {state : ScriptState Database Write}

theorem run_bind (script : Script Database Write Error Value)
    (rest : Value → Script Database Write Error Result) :
    (script >>= rest).run apply fault state =
      match script.run apply fault state with
      | (.ok value, after) => (rest value).run apply fault after
      | (.error error, after) => (.error error, after) := by
  show (script.bind rest).run apply fault state = _
  induction script generalizing state with
  | done value => rfl
  | fail error => rfl
  | select next inductionHypothesis =>
      rw [bind, run, run]
      cases fault state.statements with
      | some failure => rfl
      | none => exact inductionHypothesis _
  | execute write next inductionHypothesis =>
      rw [bind, run, run]
      cases fault state.statements with
      | some failure => rfl
      | none =>
          cases apply write state.view with
          | error error => rfl
          | ok view => exact inductionHypothesis _
  | commit next inductionHypothesis =>
      rw [bind, run, run]
      cases fault state.statements with
      | some failure => rfl
      | none => exact inductionHypothesis

@[simp] theorem run_pure (value : Value) :
    (pure value : Script Database Write Error Value).run apply fault state = (.ok value, state) :=
  rfl

theorem run_query (answer : Database → Except Error Value) :
    (query answer : Script Database Write Error Value).run apply fault state =
      match fault state.statements with
      | some failure => (.error failure.error, state)
      | none => (answer state.view, state.answered) := by
  rw [query, run]
  cases fault state.statements with
  | some failure => rfl
  | none => cases answered : answer state.view <;> rfl

theorem run_write (statement : Write) :
    (write statement : Script Database Write Error Unit).run apply fault state =
      match fault state.statements with
      | some failure => (.error failure.error, state)
      | none =>
          match apply statement state.view with
          | .error error => (.error error, state)
          | .ok view => (.ok (), (state.wrote statement view).answered) := rfl

theorem run_writeFound (statement : Write) (found : Database → Bool) (missing : Error) :
    (writeFound statement found missing : Script Database Write Error Unit).run apply fault
        state =
      match fault state.statements with
      | some failure => (.error failure.error, state)
      | none =>
          match apply statement state.view with
          | .error error => (.error error, state)
          | .ok view =>
              (if found state.view then .ok () else .error missing,
                (state.wrote statement view).answered) := by
  rw [writeFound, run]
  cases fault state.statements with
  | some failure => rfl
  | none =>
      cases apply statement state.view with
      | error error => rfl
      | ok view => cases here : found state.view <;> rfl

theorem run_transaction (body : Script Database Write Error Value) :
    body.transaction.run apply fault state =
      match body.run apply fault state with
      | (.ok value, after) =>
          match fault after.statements with
          | some failure =>
              (.error failure.error, if failure.tookEffect then after.publish else after)
          | none => (.ok value, after.publish.answered)
      | (.error error, after) => (.error error, after) :=
  run_bind body fun value => .commit (.done value)

end

/-! ### Committed writes -/

/-- The writes one after another. -/
def replay (apply : Write → Database → Except Error Database) (writes : List Write)
    (database : Database) : Except Error Database :=
  writes.foldlM (fun database write => apply write database) database

section

variable {apply : Write → Database → Except Error Database}
  {fault : Nat → Option (Fault Error)}

theorem replay_append (first rest : List Write) (database : Database) :
    replay apply (first ++ rest) database = replay apply first database >>= replay apply rest :=
  List.foldlM_append

theorem replay_concat {writes : List Write} {write : Write} {database view next : Database}
    (replayed : replay apply writes database = .ok view) (applied : apply write view = .ok next) :
    replay apply (writes ++ [write]) database = .ok next := by
  rw [replay_append, replayed]
  show replay apply [write] view = .ok next
  rw [replay, List.foldlM_cons, applied]
  rfl

/-- The tables of a session are what its writes make of those it began with. -/
structure Accounted (apply : Write → Database → Except Error Database) (initial : Database)
    (state : ScriptState Database Write) : Prop where
  committed : replay apply state.committed initial = .ok state.database
  pending : replay apply state.pending state.database = .ok state.view

theorem accounted_begin (database : Database) :
    Accounted apply database (.begin database) := ⟨rfl, rfl⟩

namespace Accounted

variable {initial : Database} {state : ScriptState Database Write}

theorem answered (accounted : Accounted apply initial state) :
    Accounted apply initial state.answered := ⟨accounted.committed, accounted.pending⟩

theorem wrote (accounted : Accounted apply initial state) {write : Write} {view : Database}
    (applied : apply write state.view = .ok view) :
    Accounted apply initial (state.wrote write view) :=
  ⟨accounted.committed, replay_concat accounted.pending applied⟩

theorem publish (accounted : Accounted apply initial state) :
    Accounted apply initial state.publish := by
  refine ⟨?_, rfl⟩
  show replay apply (state.committed ++ state.pending) initial = .ok state.view
  rw [replay_append, accounted.committed]
  exact accounted.pending

end Accounted

theorem accounted_run {initial : Database} {state : ScriptState Database Write}
    (accounted : Accounted apply initial state) (script : Script Database Write Error Value) :
    Accounted apply initial (script.run apply fault state).2 := by
  induction script generalizing state with
  | done value => exact accounted
  | fail error => exact accounted
  | select next inductionHypothesis =>
      rw [run]
      split
      · exact accounted
      · exact inductionHypothesis _ accounted.answered
  | execute write next inductionHypothesis =>
      rw [run]
      split
      · exact accounted
      · split
        · exact accounted
        · rename_i applied
          exact inductionHypothesis _ (accounted.wrote applied).answered
  | commit next inductionHypothesis =>
      rw [run]
      split
      · split
        · exact accounted.publish
        · exact accounted
      · exact inductionHypothesis accounted.publish.answered

end

/-! ### What holds at each commit -/

/-- From any tables, with `committed` and `pending` writes, every commit of the script
leaves committed writes with `holds`, and `post` is true of what it returns, of these and
of the writes that are still pending. -/
def Commits (holds : List Write → Prop) (post : Value → List Write → List Write → Prop) :
    Script Database Write Error Value → List Write → List Write → Prop
  | .done value, committed, pending => post value committed pending
  | .fail _, _, _ => True
  | .select next, committed, pending => ∀ found, (next found).Commits holds post committed pending
  | .execute write next, committed, pending =>
      ∀ found, (next found).Commits holds post committed (pending ++ [write])
  | .commit next, committed, pending =>
      holds (committed ++ pending) ∧ next.Commits holds post (committed ++ pending) []

section

variable {holds : List Write → Prop} {post : Value → List Write → List Write → Prop}
  {committed pending : List Write}

theorem commits_bind {script : Script Database Write Error Value}
    {rest : Value → Script Database Write Error Result}
    {post : Result → List Write → List Write → Prop} :
    (script >>= rest).Commits holds post committed pending ↔
      script.Commits holds
        (fun value committed pending => (rest value).Commits holds post committed pending)
        committed pending := by
  show (script.bind rest).Commits holds post committed pending ↔ _
  induction script generalizing committed pending with
  | done value => exact Iff.rfl
  | fail error => exact Iff.rfl
  | select next inductionHypothesis =>
      exact forall_congr' fun found => inductionHypothesis found
  | execute write next inductionHypothesis =>
      exact forall_congr' fun found => inductionHypothesis found
  | commit next inductionHypothesis =>
      exact and_congr_right fun _ => inductionHypothesis

theorem Commits.mono {script : Script Database Write Error Value}
    {weaker : Value → List Write → List Write → Prop}
    (commits : script.Commits holds post committed pending)
    (implies : ∀ value committed pending, post value committed pending →
      weaker value committed pending) :
    script.Commits holds weaker committed pending := by
  induction script generalizing committed pending with
  | done value => exact implies value committed pending commits
  | fail error => trivial
  | select next inductionHypothesis =>
      exact fun found => inductionHypothesis found (commits found)
  | execute write next inductionHypothesis =>
      exact fun found => inductionHypothesis found (commits found)
  | commit next inductionHypothesis =>
      exact ⟨commits.1, inductionHypothesis commits.2⟩

/-- Whatever the script returns, it has written and committed nothing. -/
def ReadOnly (script : Script Database Write Error Value) : Prop :=
  ∀ (holds : List Write → Prop) (committed pending : List Write),
    script.Commits holds (fun _ committedAfter pendingAfter =>
      committedAfter = committed ∧ pendingAfter = pending) committed pending

theorem readOnly_pure (value : Value) :
    (pure value : Script Database Write Error Value).ReadOnly :=
  fun _ _ _ => ⟨rfl, rfl⟩

theorem readOnly_query (answer : Database → Except Error Value) :
    (query answer : Script Database Write Error Value).ReadOnly := by
  intro holds committed pending found
  dsimp only
  split
  · exact ⟨rfl, rfl⟩
  · trivial

theorem readOnly_ofExcept (outcome : Except Error Value) :
    (ofExcept outcome : Script Database Write Error Value).ReadOnly := by
  intro holds committed pending
  cases outcome with
  | ok value => exact ⟨rfl, rfl⟩
  | error error => trivial

theorem readOnly_ite {condition : Prop} [Decidable condition]
    {yes no : Script Database Write Error Value} (whenTrue : yes.ReadOnly)
    (whenFalse : no.ReadOnly) : (if condition then yes else no).ReadOnly := by
  split
  · exact whenTrue
  · exact whenFalse

/-- After a script that only reads, the rest starts where it started. -/
theorem ReadOnly.bind {script : Script Database Write Error Value}
    {rest : Value → Script Database Write Error Result}
    {post : Result → List Write → List Write → Prop} (readOnly : script.ReadOnly)
    (whole : ∀ value, (rest value).Commits holds post committed pending) :
    (script >>= rest).Commits holds post committed pending := by
  refine commits_bind.mpr ((readOnly holds committed pending).mono ?_)
  rintro value _ _ ⟨rfl, rfl⟩
  exact whole value

section Writes

variable {post : Unit → List Write → List Write → Prop} {statement : Write}

theorem commits_write (written : post () committed (pending ++ [statement])) :
    (write statement : Script Database Write Error Unit).Commits holds post committed
      pending :=
  fun _ => written

theorem commits_writeFound {found : Database → Bool} {missing : Error}
    (written : post () committed (pending ++ [statement])) :
    (writeFound statement found missing : Script Database Write Error Unit).Commits holds post
      committed pending := by
  intro database
  dsimp only
  split
  · exact written
  · trivial

end Writes

/-- A transaction commits once, after its body. -/
theorem commits_transaction {body : Script Database Write Error Value}
    (whole : body.Commits holds (fun _ committed pending => holds (committed ++ pending))
      committed pending) :
    body.transaction.Commits holds (fun _ _ pending => pending = []) committed pending :=
  commits_bind.mpr (whole.mono fun _ _ _ published => ⟨published, rfl⟩)

end

/-- What every commit leaves true of the committed writes is true of all that a run leaves
committed, whichever statements fail. -/
theorem committed_run {apply : Write → Database → Except Error Database}
    {fault : Nat → Option (Fault Error)} {holds : List Write → Prop}
    {post : Value → List Write → List Write → Prop}
    {script : Script Database Write Error Value} {state : ScriptState Database Write}
    (commits : script.Commits holds post state.committed state.pending)
    (before : holds state.committed) :
    holds (script.run apply fault state).2.committed := by
  induction script generalizing state with
  | done value => exact before
  | fail error => exact before
  | select next inductionHypothesis =>
      rw [run]
      split
      · exact before
      · exact inductionHypothesis _ (commits state.view) before
  | execute write next inductionHypothesis =>
      rw [run]
      split
      · exact before
      · split
        · exact before
        · exact inductionHypothesis _ (commits state.view) before
  | commit next inductionHypothesis =>
      rw [run]
      split
      · split
        · exact commits.1
        · exact before
      · exact inductionHypothesis commits.2 commits.1

/-! ### Transactions that nothing disturbs -/

section

variable {apply : Write → Database → Except Error Database}

/-- What the statements of a script compute when each of them answers: a value, and the
tables with the writes. -/
def eval (apply : Write → Database → Except Error Database) :
    Script Database Write Error Value → Database → Except Error (Value × Database)
  | .done value, database => .ok (value, database)
  | .fail error, _ => .error error
  | .select next, database => (next database).eval apply database
  | .execute write next, database => do
      let view ← apply write database
      (next database).eval apply view
  | .commit next, database => next.eval apply database

theorem eval_bind (script : Script Database Write Error Value)
    (rest : Value → Script Database Write Error Result) (database : Database) :
    (script >>= rest).eval apply database = (do
      let (value, view) ← script.eval apply database
      (rest value).eval apply view) := by
  show (script.bind rest).eval apply database = _
  induction script generalizing database with
  | done value => rfl
  | fail error => rfl
  | select next inductionHypothesis => exact inductionHypothesis database database
  | execute write next inductionHypothesis =>
      rw [bind, eval, eval]
      cases apply write database with
      | error error => rfl
      | ok view => exact inductionHypothesis database view
  | commit next inductionHypothesis => exact inductionHypothesis database

theorem eval_write (statement : Write) (database : Database) :
    (write statement : Script Database Write Error Unit).eval apply database = (do
      let view ← apply statement database
      return ((), view)) := rfl

section

variable (answer : Database → Except Error Value) (outcome : Except Error Value)
  (statement : Write) (rest : Value → Script Database Write Error Result)
  (next : Unit → Script Database Write Error Result) (database : Database)

theorem eval_query_bind :
    (query answer >>= rest).eval apply database = (do
      let value ← answer database
      (rest value).eval apply database) := by
  rw [eval_bind, query, eval]
  cases answer database with
  | error error => rfl
  | ok value => rfl

theorem eval_ofExcept_bind :
    (ofExcept outcome >>= rest).eval apply database = (do
      let value ← outcome
      (rest value).eval apply database) := by
  rw [eval_bind]
  cases outcome with
  | error error => rfl
  | ok value => rfl

theorem eval_write_bind :
    (write statement >>= next).eval apply database = (do
      let view ← apply statement database
      (next ()).eval apply view) := by
  rw [eval_bind, eval_write]
  cases apply statement database with
  | error error => rfl
  | ok view => rfl

theorem eval_writeFound_bind (found : Database → Bool) (missing : Error) :
    (writeFound statement found missing >>= next).eval apply database = (do
      let view ← apply statement database
      if found database then (next ()).eval apply view else .error missing) := by
  rw [eval_bind, writeFound, eval]
  cases apply statement database with
  | error error => rfl
  | ok view =>
      rw [ok_bind, ok_bind]
      cases found database with
      | true => rfl
      | false => rfl

end

/-- The script leaves its commit to its caller. -/
def CommitFree : Script Database Write Error Value → Prop
  | .done _ | .fail _ => True
  | .select next | .execute _ next => ∀ found, (next found).CommitFree
  | .commit _ => False

theorem commitFree_pure (value : Value) :
    (pure value : Script Database Write Error Value).CommitFree := trivial

theorem CommitFree.bind {script : Script Database Write Error Value}
    {rest : Value → Script Database Write Error Result} (free : script.CommitFree)
    (rests : ∀ value, (rest value).CommitFree) : (script >>= rest).CommitFree := by
  show (script.bind rest).CommitFree
  induction script with
  | done value => exact rests value
  | fail error => trivial
  | select next inductionHypothesis => exact fun found => inductionHypothesis found (free found)
  | execute write next inductionHypothesis =>
      exact fun found => inductionHypothesis found (free found)
  | commit next => exact free.elim

theorem commitFree_ofExcept (outcome : Except Error Value) :
    (ofExcept outcome : Script Database Write Error Value).CommitFree := by
  cases outcome with
  | error error => trivial
  | ok value => trivial

theorem commitFree_query (answer : Database → Except Error Value) :
    (query answer : Script Database Write Error Value).CommitFree := by
  intro found
  dsimp only
  cases answer found with
  | error error => trivial
  | ok value => trivial

theorem commitFree_write (statement : Write) :
    (write statement : Script Database Write Error Unit).CommitFree := fun _ => trivial

theorem commitFree_writeFound (statement : Write) (found : Database → Bool) (missing : Error) :
    (writeFound statement found missing : Script Database Write Error Unit).CommitFree := by
  intro database
  dsimp only
  split
  · trivial
  · trivial

theorem commitFree_ite {condition : Prop} [Decidable condition]
    {yes no : Script Database Write Error Value} (whenTrue : yes.CommitFree)
    (whenFalse : no.CommitFree) : (if condition then yes else no).CommitFree := by
  split
  · exact whenTrue
  · exact whenFalse

/-- What a transaction leaves: its own tables, or the ones before. -/
def leaves (database : Database) : Except Error (Value × Database) → Database
  | .ok (_, view) => view
  | .error _ => database

theorem database_run_of_commitFree {script : Script Database Write Error Value}
    (free : script.CommitFree) (state : ScriptState Database Write) :
    (script.transaction.run apply (fun _ => none) state).2.database =
      leaves state.database (script.eval apply state.view) := by
  induction script generalizing state with
  | done value => rfl
  | fail error => rfl
  | select next inductionHypothesis =>
      exact inductionHypothesis state.view (free state.view) state.answered
  | execute write next inductionHypothesis =>
      rw [transaction, bind, run, eval]
      cases apply write state.view with
      | error error => rfl
      | ok view =>
          exact inductionHypothesis state.view (free state.view) (state.wrote write view).answered
  | commit next => exact free.elim

/-- A transaction that nothing disturbs takes effect as one step. -/
theorem database_transaction {script : Script Database Write Error Value}
    (free : script.CommitFree) (database : Database) :
    (script.transaction.run apply (fun _ => none) (.begin database)).2.database =
      leaves database (script.eval apply database) :=
  database_run_of_commitFree free (.begin database)

/-- What comes before a transaction may stand in it. -/
theorem bind_transaction (script : Script Database Write Error Value)
    (body : Value → Script Database Write Error Result) :
    (script >>= fun value => (body value).transaction) = (script >>= body).transaction := by
  show script.bind _ = (script.bind body).bind _
  induction script with
  | done value => rfl
  | fail error => rfl
  | select next inductionHypothesis =>
      exact congrArg Script.select (funext fun found => inductionHypothesis found)
  | execute write next inductionHypothesis =>
      exact congrArg (Script.execute write) (funext fun found => inductionHypothesis found)
  | commit next inductionHypothesis => exact congrArg Script.commit inductionHypothesis

end

end Script

end LlmObs.Foundation
