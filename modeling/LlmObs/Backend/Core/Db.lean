import LlmObs.Backend.Models
import LlmObs.Backend.Runtime
import LlmObs.Foundation.RowSecurity

/-!
Owns `get_db` and the row policies of the telemetry tables: which rows the statements of a
session see and change when sessions of all projects share the connections of the runtime role.
The role owns no table and bypasses no policy.
-/

namespace LlmObs.Backend

open LlmObs.Foundation

/-! ### The protected tables -/

inductive ProtectedTable where
  | spans
  | traces
  | spanMetricBuckets
deriving DecidableEq, Repr

inductive ProtectedRow where
  | span (row : SpanRow)
  | trace (row : TraceRow)
  | spanMetricBucket (row : SpanMetricBucket)

namespace ProtectedRow

def table : ProtectedRow → ProtectedTable
  | .span _ => .spans
  | .trace _ => .traces
  | .spanMetricBucket _ => .spanMetricBuckets

def projectId : ProtectedRow → UUID
  | .span row => row.projectId
  | .trace row => row.projectId
  | .spanMetricBucket row => row.projectId

/-- The primary keys; those of spans and traces do not name the project. -/
def clash : ProtectedRow → ProtectedRow → Bool
  | .span left, .span right => SpanRow.primaryKey left = SpanRow.primaryKey right
  | .trace left, .trace right => TraceRow.primaryKey left = TraceRow.primaryKey right
  | .spanMetricBucket left, .spanMetricBucket right =>
      SpanMetricBucket.primaryKey left = SpanMetricBucket.primaryKey right
  | _, _ => false

end ProtectedRow

/-! ### The policies -/

/-- The cast of the database from text to `uuid`, which raises where it reads none. -/
structure UuidCast where
  read : String → Option UUID
  read_str : ∀ id : UUID, read id.str = some id

def invalidUuidError (text : String) : PyException :=
  ⟨.sqlAlchemyError, "invalid input syntax for type uuid: \"" ++ text ++ "\""⟩

def rowPolicyError : PyException :=
  ⟨.sqlAlchemyError, "new row violates row-level security policy"⟩

namespace UuidCast

variable (cast : UuidCast)

/-- `NULLIF(current_setting('app.current_project_id', true), '')::uuid` -/
def projectContext (setting : Option String) : Except PyException (Option UUID) :=
  match setting.filter fun text => text ≠ "" with
  | none => .ok none
  | some text =>
      match cast.read text with
      | some projectId => .ok (some projectId)
      | none => .error (invalidUuidError text)

/-- `spans_project_isolation` and `traces_project_isolation` -/
def projectIsolation (setting : Option String) : Except PyException (ProtectedRow → Bool) :=
  (cast.projectContext setting).map fun context row => decide (context = some row.projectId)

/-- `span_metric_buckets_project_isolation` -/
def bucketIsolation (setting : Option String) (row : ProtectedRow) : Bool :=
  setting.any fun text => decide (text ≠ "") && decide (row.projectId.str = text)

def admits (table : ProtectedTable) (setting : Option String) :
    Except PyException (ProtectedRow → Bool) :=
  match table with
  | .spans | .traces => cast.projectIsolation setting
  | .spanMetricBuckets => .ok (bucketIsolation setting)

/-- The project that a setting names. -/
def namedProject (setting : Option String) : Option UUID :=
  (setting.filter fun text => text ≠ "").bind cast.read

theorem namedProject_of_projectContext {setting : Option String} {context : Option UUID}
    (read : cast.projectContext setting = .ok context) : cast.namedProject setting = context := by
  rw [projectContext] at read
  rw [namedProject]
  split at read
  · rename_i unset
    cases read
    rw [unset]
    rfl
  · rename_i text set
    rw [set]
    split at read
    · rename_i projectId found
      cases read
      exact found
    · cases read

theorem namedProject_of_admits {table : ProtectedTable} {setting : Option String}
    {admitted : ProtectedRow → Bool} {row : ProtectedRow}
    (granted : cast.admits table setting = .ok admitted) (passes : admitted row = true) :
    cast.namedProject setting = some row.projectId := by
  have own (isolated : cast.projectIsolation setting = .ok admitted) :
      cast.namedProject setting = some row.projectId := by
    rw [projectIsolation] at isolated
    cases read : cast.projectContext setting with
    | error error =>
        rw [read] at isolated
        cases isolated
    | ok context =>
        rw [read] at isolated
        cases isolated
        rw [cast.namedProject_of_projectContext read]
        exact of_decide_eq_true passes
  cases table with
  | spans => exact own granted
  | traces => exact own granted
  | spanMetricBuckets =>
      cases granted
      obtain ⟨text, rfl, named⟩ := (Option.any_eq_true _ _).mp passes
      obtain ⟨given, same⟩ := Bool.and_eq_true_iff.mp named
      rw [namedProject, Option.filter_some, if_pos given, Option.bind_some,
        ← of_decide_eq_true same]
      exact cast.read_str _

/-- Row-level security of the telemetry tables. -/
def rowPolicies : RowPolicies ProtectedRow ProtectedTable UUID PyException where
  table := ProtectedRow.table
  owner := ProtectedRow.projectId
  named := cast.namedProject
  named_none := rfl
  named_empty := rfl
  admits := cast.admits
  owner_of_admits := cast.namedProject_of_admits
  clash := ProtectedRow.clash
  violation := rowPolicyError

theorem str_ne_empty (id : UUID) : id.str ≠ "" := by
  intro empty
  have length := id.length_str
  rw [empty] at length
  cases length

/-- `str(project_id)` names the project to every policy. -/
theorem exact_str (projectId : UUID) : cast.rowPolicies.Exact projectId.str projectId := by
  have given : (some projectId.str).filter (fun text => text ≠ "") = some projectId.str := by
    rw [Option.filter_some, if_pos (decide_eq_true (str_ne_empty projectId))]
  have isolated : ∃ admitted, cast.projectIsolation (some projectId.str) = .ok admitted ∧
      ∀ row : ProtectedRow, admitted row = true ↔ row.projectId = projectId := by
    refine ⟨fun row => decide (some projectId = some row.projectId), ?_, fun row => ?_⟩
    · rw [projectIsolation, projectContext, given]
      simp only [cast.read_str]
      rfl
    · rw [decide_eq_true_iff, Option.some.injEq, eq_comm]
  intro table
  cases table with
  | spans =>
      obtain ⟨admitted, granted, own⟩ := isolated
      exact ⟨admitted, granted, fun row _ => own row⟩
  | traces =>
      obtain ⟨admitted, granted, own⟩ := isolated
      exact ⟨admitted, granted, fun row _ => own row⟩
  | spanMetricBuckets =>
      refine ⟨_, rfl, fun row _ => ?_⟩
      show bucketIsolation (some projectId.str) row = true ↔ row.projectId = projectId
      rw [bucketIsolation, Option.any_some, Bool.and_eq_true, decide_eq_true_iff,
        decide_eq_true_iff, UUID.str_inj]
      exact and_iff_right (str_ne_empty projectId)

end UuidCast

/-! ### Isolation -/

abbrev DbState := PooledState ProtectedRow ProtectedTable
abbrev DbAction := PooledAction ProtectedRow ProtectedTable PyException

/-- Whatever statements ran, each of them saw rows of the project that its session was opened
for, and only in the transaction in which the session made its setting; each commit dropped and
added such rows; and the stored rows of a project are what the commits of its own sessions made
of them. -/
structure SessionsIsolated (cast : UuidCast) (rows : List ProtectedRow) (state : DbState) :
    Prop where
  seen : ∀ reading ∈ state.readings, ∀ row ∈ reading.visible,
    reading.configured = true ∧ cast.namedProject reading.context = some row.projectId
  changed : ∀ commit ∈ state.commits, ∀ version, version ∈ commit.removed ∨
    version ∈ commit.written → ∃ row, state.heap[version]? = some row ∧
      cast.namedProject commit.context = some row.projectId
  kept : ∀ projectId, cast.rowPolicies.ofOwner projectId state =
    (cast.rowPolicies.commitsOf projectId state).foldl RowCommit.apply
      (cast.rowPolicies.ofOwner projectId (.initial rows : DbState))

theorem sessions_isolated (cast : UuidCast) {rows : List ProtectedRow} {actions : List DbAction}
    {final : DbState}
    (reached : cast.rowPolicies.machine.run (.initial rows) actions = some final) :
    SessionsIsolated cast rows final where
  seen := fun reading member _ seen =>
    ((RowPolicies.guarded_run reached).readings reading member).owned seen
  changed := (RowPolicies.guarded_run reached).commits
  kept := RowPolicies.ofOwner_of_run reached

/-- The driver's reading of a text, which takes more spellings than the cast. -/
def UuidCast.ofDriver : UuidCast := ⟨UUID.ofText?, UUID.ofText?_str⟩

/-- A stored trace of a project. -/
def traceOf (projectId : UUID) : ProtectedRow :=
  .trace ⟨projectId, projectId, 0, none, 0, 0, 0, .ok⟩

/-- `DELETE FROM traces` and `SELECT .. FROM traces`, without a condition. -/
def onAllTraces (removes : Bool) : RowStatement ProtectedRow ProtectedTable PyException :=
  ⟨[.traces], fun _ _ => .ok ⟨fun _ => removes, []⟩⟩

/-- A session deletes, and reads again after its commit; another one takes its connection. -/
def sharedConnection : List DbAction :=
  [.enter 0 (some (UUID.str 1)), .begin 0 0, .configure 0, .execute 0 (onAllTraces true),
    .commit 0, .begin 0 0, .execute 0 (onAllTraces false), .leave 0,
    .enter 1 (some (UUID.str 2)), .begin 1 0, .configure 1, .execute 1 (onAllTraces false)]

theorem sessions_isolated_sharedConnection : ∃ final,
    UuidCast.ofDriver.rowPolicies.machine.run (.initial [traceOf 1, traceOf 2])
      sharedConnection = some final ∧
    (final.live, final.readings.map fun reading => reading.visible.map ProtectedRow.projectId) =
      ([1], [[2], [], [1]]) ∧
    SessionsIsolated .ofDriver [traceOf 1, traceOf 2] final := by
  have seen : ((UuidCast.ofDriver.rowPolicies.machine.run (.initial [traceOf 1, traceOf 2])
      sharedConnection).map fun final => (final.live,
        final.readings.map fun reading => reading.visible.map ProtectedRow.projectId)) =
      some ([1], [[2], [], [1]]) := by
    decide +kernel
  obtain ⟨final, reached, same⟩ := Option.map_eq_some_iff.mp seen
  exact ⟨final, reached, same, sessions_isolated .ofDriver reached⟩

end LlmObs.Backend
