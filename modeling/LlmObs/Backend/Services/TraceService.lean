import LlmObs.Backend.Models
import LlmObs.Backend.Services.TraceCursor
import LlmObs.Foundation.Keyset
import Mathlib.Data.Prod.Lex

/-!
Owns the list of a project's traces: the conditions that a request puts into the query,
the page it selects, and what following its cursors returns, over traces that stay and
over traces that are added or start earlier meanwhile.
-/

namespace LlmObs.Backend

open LlmObs.Foundation

/-! ### The query -/

/-- What the database and its driver decide about a comparison. -/
structure TraceSession where
  /-- The instant of a naive parameter. -/
  localInstant : Int → Int
  /-- `left < right` of texts in the collation of the database. -/
  textLt : PyStr → PyStr → Bool
  /-- Lower-case UUIDs are ordered as texts as they are as values. -/
  textLt_str : ∀ left right : UUID,
    textLt (.ofString left.str) (.ofString right.str) = decide (left.toFin < right.toFin)

/-- The keyword arguments of `list_with_cursor`. -/
structure TraceFilters where
  model : Option String
  status : Option String
  fromDt : Option Datetime
  toDt : Option Datetime
deriving DecidableEq, Repr

/-- An element of `conditions`, with its parameters. -/
inductive TraceCondition where
  | inProject (projectId : UUID)
  | beforeCursor (cursorDt : Datetime) (cursorId : PyStr)
  | withModel (model : String)
  | withStatus (status : String)
  | startedFrom (fromDt : Datetime)
  | startedTo (toDt : Datetime)
deriving DecidableEq, Repr

/-- The columns that a condition names. -/
def TraceCondition.columns : TraceCondition → List String
  | .inProject _ => ["project_id"]
  | .beforeCursor _ _ => ["started_at", "id"]
  | .withModel _ => ["model"]
  | .withStatus _ => ["status"]
  | .startedFrom _ => ["started_at"]
  | .startedTo _ => ["started_at"]

/-- The text parameters of a condition. -/
def TraceCondition.texts : TraceCondition → List PyStr
  | .beforeCursor _ cursorId => [cursorId]
  | .withModel model => [.ofString model]
  | .withStatus status => [.ofString status]
  | _ => []

/-- The columns of `traces`. -/
def traceColumns : List String :=
  ["id", "project_id", "started_at", "ended_at", "total_tokens", "total_cost_usd",
    "span_count", "status"]

/-- Whether a row meets a condition over columns of the table. -/
def TraceCondition.holds (session : TraceSession) (row : TraceRow) : TraceCondition → Bool
  | .inProject projectId => row.projectId = projectId
  | .beforeCursor cursorDt cursorId =>
      row.startedAt < cursorDt.toTimestamptz session.localInstant ||
        (decide (row.startedAt = cursorDt.toTimestamptz session.localInstant) &&
          session.textLt (.ofString row.id.str) cursorId)
  | .withModel _ => false
  | .withStatus status => row.status.text = status
  | .startedFrom fromDt => fromDt.toTimestamptz session.localInstant ≤ row.startedAt
  | .startedTo toDt => row.startedAt ≤ toDt.toTimestamptz session.localInstant

def undefinedColumnError (column : String) : PyException :=
  ⟨.sqlAlchemyError, "column \"" ++ column ++ "\" does not exist"⟩

def invalidTextError : PyException :=
  ⟨.sqlAlchemyError, "invalid input for query argument"⟩

/-- What `ORDER BY started_at DESC, id DESC` compares. -/
def TraceRow.pageKey (row : TraceRow) : Int ×ₗ Fin (2 ^ 128) :=
  toLex (row.startedAt, row.id.toFin)

/-- A text parameter without surrogates, which the driver refuses, and without the zero
byte, which the database does. -/
def isSendable (text : PyStr) : Bool :=
  text.all fun codePoint => (char? codePoint).isSome && codePoint ≠ 0

/-- `SELECT .. FROM traces WHERE .. ORDER BY started_at DESC, id DESC LIMIT :limit` -/
def selectTraces (session : TraceSession) (traces : TraceTable)
    (conditions : List TraceCondition) (limit : Nat) : Except PyException (List TraceRow) :=
  match (conditions.flatMap TraceCondition.columns).find? fun column =>
    !traceColumns.contains column with
  | some column => .error (undefinedColumnError column)
  | none =>
      if (conditions.flatMap TraceCondition.texts).all isSendable then
        .ok ((Keyset.descending TraceRow.pageKey (traces.rows.filter fun row =>
          conditions.all fun condition => condition.holds session row)).take limit)
      else .error invalidTextError

/-! ### One page -/

/-- A filter that is set to a text. -/
def givenText (filter : Option String) : Option String := filter.filter fun text => text ≠ ""

/-- The conditions of a request, the cursor's decoded. -/
def TraceFilters.conditions (filters : TraceFilters) (projectId : UUID)
    (before : Option (Datetime × PyStr)) : List TraceCondition :=
  [.inProject projectId] ++
    (before.map fun cursor => .beforeCursor cursor.1 cursor.2).toList ++
    ((givenText filters.model).map .withModel).toList ++
    ((givenText filters.status).map .withStatus).toList ++
    (filters.fromDt.map .startedFrom).toList ++
    (filters.toDt.map .startedTo).toList

/-- The decoded cursor of a request; an empty one counts as none. -/
def readCursor (library : CursorLibrary) (cursor : Option PyStr) :
    Except PyException (Option (Datetime × PyStr)) :=
  match cursor.filter fun text => text ≠ [] with
  | none => .ok none
  | some text => (library.decodeTraceCursor text).map some

/-- `encode_trace_cursor(last["started_at"], str(last["id"]))` -/
def cursorOf (library : CursorLibrary) (key : Int ×ₗ Fin (2 ^ 128)) : PyStr :=
  .ofString (library.encodeTraceCursor (.utc (ofLex key).1) (UUID.str (BitVec.ofFin (ofLex key).2)))

def listWithCursor (library : CursorLibrary) (session : TraceSession) (traces : TraceTable)
    (projectId : UUID) (cursor : Option PyStr) (limit : Nat) (filters : TraceFilters) :
    Except PyException (List TraceRow × Option PyStr) := do
  let before ← readCursor library cursor
  let rows ← selectTraces session traces (filters.conditions projectId before) (limit + 1)
  let items := rows.take limit
  let nextCursor :=
    if limit < rows.length then
      items.getLast?.map fun last => cursorOf library last.pageKey
    else none
  return (items, nextCursor)

/-! ### What a request matches -/

/-- What a filter other than the model selects. -/
structure TraceFilters.Matches (filters : TraceFilters) (session : TraceSession)
    (row : TraceRow) : Prop where
  status : ∀ status, filters.status = some status → status = "" ∨ row.status.text = status
  fromDt : ∀ fromDt, filters.fromDt = some fromDt →
    fromDt.toTimestamptz session.localInstant ≤ row.startedAt
  toDt : ∀ toDt, filters.toDt = some toDt →
    row.startedAt ≤ toDt.toTimestamptz session.localInstant

section Page

variable {library : CursorLibrary} {session : TraceSession} {traces : TraceTable}
  {projectId : UUID} {limit : Nat} {filters : TraceFilters}

theorem isSendable_ofString {text : String} :
    isSendable (.ofString text) = true ↔ '\x00' ∉ text.toList := by
  simp only [isSendable, PyStr.ofString, codePoints, List.all_eq_true, List.mem_map,
    forall_exists_index, and_imp, forall_apply_eq_imp_iff₂, char?_toNat, Option.isSome_some,
    Bool.true_and, decide_eq_true_eq]
  constructor
  · exact fun nonzero member => nonzero _ member rfl
  · intro absent character member zero
    have same : character = '\x00' := Char.toNat_inj.mp zero
    exact absent (same ▸ member)

theorem isSendable_str (id : UUID) : isSendable (.ofString id.str) = true := by
  rw [isSendable_ofString, UUID.str, String.toList_ofList, List.mem_ofFn]
  rintro ⟨position, zero⟩
  have digits : ∀ digit : Fin 16, UUID.hexDigit digit ≠ '\x00' := by decide
  rw [UUID.charAt] at zero
  split at zero
  · cases zero
  · exact digits _ zero

/-- The condition of a filter holds where the filter is given. -/
theorem all_toList_map {Value : Type} (given : Option Value) (condition : Value → TraceCondition)
    (row : TraceRow) :
    ((given.map condition).toList.all fun condition => condition.holds session row) = true ↔
      ∀ value, given = some value → (condition value).holds session row = true := by
  cases given with
  | none => simp
  | some value => simp

/-- The conditions of a request without a model, apart from its cursor. -/
theorem holds_conditions (noModel : givenText filters.model = none) (row : TraceRow) :
    ((filters.conditions projectId none).all fun condition => condition.holds session row) =
        true ↔
      row.projectId = projectId ∧ filters.Matches session row := by
  have statusHolds : (∀ status, givenText filters.status = some status →
        (TraceCondition.withStatus status).holds session row = true) ↔
      ∀ status, filters.status = some status → status = "" ∨ row.status.text = status := by
    simp only [givenText, Option.filter_eq_some_iff, TraceCondition.holds, decide_eq_true_eq]
    constructor
    · intro held status given
      by_cases empty : status = ""
      · exact Or.inl empty
      · exact Or.inr (held status ⟨given, empty⟩)
    · intro matched status given
      exact (matched status given.1).resolve_left given.2
  have fromHolds : (∀ fromDt, filters.fromDt = some fromDt →
        (TraceCondition.startedFrom fromDt).holds session row = true) ↔
      ∀ fromDt, filters.fromDt = some fromDt →
        fromDt.toTimestamptz session.localInstant ≤ row.startedAt := by
    simp only [TraceCondition.holds, decide_eq_true_eq]
  have toHolds : (∀ toDt, filters.toDt = some toDt →
        (TraceCondition.startedTo toDt).holds session row = true) ↔
      ∀ toDt, filters.toDt = some toDt →
        row.startedAt ≤ toDt.toTimestamptz session.localInstant := by
    simp only [TraceCondition.holds, decide_eq_true_eq]
  have projectHolds : ([TraceCondition.inProject projectId].all
        fun condition => condition.holds session row) = true ↔ row.projectId = projectId := by
    simp [TraceCondition.holds]
  simp only [TraceFilters.conditions, noModel, Option.map_none, Option.toList_none,
    List.append_nil, List.all_append, Bool.and_eq_true, projectHolds, all_toList_map,
    statusHolds, fromHolds, toHolds]
  constructor
  · rintro ⟨⟨⟨own, status⟩, fromDt⟩, toDt⟩
    exact ⟨own, status, fromDt, toDt⟩
  · rintro ⟨own, status, fromDt, toDt⟩
    exact ⟨⟨⟨own, status⟩, fromDt⟩, toDt⟩

/-- A cursor adds the keyset condition. -/
theorem holds_conditions_cursor (before : Option (Int ×ₗ Fin (2 ^ 128))) (row : TraceRow) :
    ((filters.conditions projectId (before.map fun key =>
        (.utc (ofLex key).1, .ofString (UUID.str (BitVec.ofFin (ofLex key).2))))).all
      fun condition => condition.holds session row) =
    (Keyset.below TraceRow.pageKey before row &&
      (filters.conditions projectId none).all fun condition => condition.holds session row) := by
  cases before with
  | none => rfl
  | some key =>
      have keyset : TraceCondition.holds session row (.beforeCursor (.utc (ofLex key).1)
          (.ofString (UUID.str (BitVec.ofFin (ofLex key).2)))) =
          Keyset.below TraceRow.pageKey (some key) row := by
        rw [Bool.eq_iff_iff, Keyset.below, decide_eq_true_iff, Prod.Lex.lt_iff]
        simp [TraceCondition.holds, session.textLt_str, TraceRow.pageKey]
      simp only [TraceFilters.conditions, Option.map_some, Option.map_none, Option.toList_some,
        Option.toList_none, List.append_nil, List.all_append, List.all_cons, List.all_nil,
        Bool.and_true, keyset, Bool.and_assoc]
      exact Bool.and_left_comm _ _ _

theorem base64Chars_ne_nil {bytes : List UInt8} (nonempty : bytes ≠ []) :
    base64Chars bytes ≠ [] := by
  match bytes, nonempty with
  | [_], _ => exact List.cons_ne_nil _ _
  | [_, _], _ => exact List.cons_ne_nil _ _
  | _ :: _ :: _ :: _, _ => exact List.cons_ne_nil _ _

theorem cursorOf_ne_nil (key : Int ×ₗ Fin (2 ^ 128)) : cursorOf library key ≠ [] := by
  rw [cursorOf]
  apply CursorLibrary.ofString_ne_nil
  intro empty
  have chars := congrArg String.toList empty
  rw [CursorLibrary.encodeTraceCursor, String.toList_ofList, urlsafeB64encode, String.toList_empty,
    List.map_eq_nil_iff, b64encode] at chars
  refine base64Chars_ne_nil ?_ chars
  rw [CursorLibrary.payloadText, Json.objectText, List.cons_append, List.flatMap_cons]
  exact List.append_ne_nil_of_left_ne_nil (by decide) _

/-- Every cursor that a page hands out is read as the key of its last row. -/
theorem readCursor_cursorOf (key : Int ×ₗ Fin (2 ^ 128)) :
    readCursor library (some (cursorOf library key)) =
      .ok (some (.utc (ofLex key).1, .ofString (UUID.str (BitVec.ofFin (ofLex key).2)))) := by
  have nonempty : UUID.str (BitVec.ofFin (ofLex key).2) ≠ "" := by
    intro empty
    have length := UUID.length_str (BitVec.ofFin (ofLex key).2)
    rw [empty] at length
    cases length
  have decoded : library.decodeTraceCursor (cursorOf library key) = _ :=
    CursorLibrary.decode_encode (Datetime.aware_utc (ofLex key).1) nonempty
  simp only [readCursor, Option.filter, cursorOf_ne_nil, ne_eq, not_false_eq_true, decide_true,
    if_true, decoded, Except.map]

/-- The conditions of a request without a model name columns of the table only. -/
theorem columns_known {condition : TraceCondition}
    (noModel : ∀ model, condition ≠ .withModel model) {column : String}
    (named : column ∈ condition.columns) : traceColumns.contains column = true := by
  cases condition with
  | withModel model => exact absurd rfl (noModel model)
  | beforeCursor cursorDt cursorId =>
      rcases List.mem_cons.mp named with rfl | last
      · decide
      · rw [List.mem_singleton.mp last]
        decide
  | inProject own =>
      rw [List.mem_singleton.mp named]
      decide
  | withStatus status =>
      rw [List.mem_singleton.mp named]
      decide
  | startedFrom fromDt =>
      rw [List.mem_singleton.mp named]
      decide
  | startedTo toDt =>
      rw [List.mem_singleton.mp named]
      decide

theorem ne_withModel (noModel : givenText filters.model = none)
    {before : Option (Datetime × PyStr)} {condition : TraceCondition}
    (member : condition ∈ filters.conditions projectId before) (model : String) :
    condition ≠ .withModel model := by
  rintro rfl
  simp [TraceFilters.conditions, noModel] at member

theorem sendable_texts (plain : ∀ status, filters.status = some status →
      '\x00' ∉ status.toList) (noModel : givenText filters.model = none)
    {before : Option (Datetime × PyStr)}
    (sendable : ∀ cursor, before = some cursor → isSendable cursor.2 = true) :
    ((filters.conditions projectId before).flatMap TraceCondition.texts).all isSendable =
      true := by
  rw [List.all_eq_true]
  intro text member
  obtain ⟨condition, listed, isText⟩ := List.mem_flatMap.mp member
  simp only [TraceFilters.conditions, noModel, Option.map_none, Option.toList_none,
    List.append_nil, List.mem_append, List.mem_singleton, Option.mem_toList,
    Option.map_eq_some_iff] at listed
  rcases listed with (((rfl | ⟨cursor, given, rfl⟩) | ⟨status, given, rfl⟩) |
    ⟨fromDt, given, rfl⟩) | ⟨toDt, given, rfl⟩
  · cases isText
  · rw [List.mem_singleton.mp isText]
    exact sendable cursor given
  · rw [List.mem_singleton.mp isText, isSendable_ofString]
    exact plain status (Option.filter_eq_some_iff.mp given).1
  · cases isText
  · cases isText

theorem selectTraces_eq (noModel : givenText filters.model = none)
    (plain : ∀ status, filters.status = some status → '\x00' ∉ status.toList)
    (before : Option (Int ×ₗ Fin (2 ^ 128))) (count : Nat) :
    selectTraces session traces (filters.conditions projectId (before.map fun key =>
        (.utc (ofLex key).1, .ofString (UUID.str (BitVec.ofFin (ofLex key).2))))) count =
      .ok ((Keyset.remaining TraceRow.pageKey (traces.rows.filter fun row =>
        (filters.conditions projectId none).all fun condition => condition.holds session row)
        before).take count) := by
  have known : ((filters.conditions projectId (before.map fun key =>
      (Datetime.utc (ofLex key).1,
        PyStr.ofString (UUID.str (BitVec.ofFin (ofLex key).2))))).flatMap
      TraceCondition.columns).find? (fun column => !traceColumns.contains column) = none := by
    rw [List.find?_eq_none]
    intro column member
    obtain ⟨condition, listed, named⟩ := List.mem_flatMap.mp member
    rw [columns_known (ne_withModel noModel listed) named]
    decide
  have textSendable : ∀ cursor, (before.map fun key =>
      (Datetime.utc (ofLex key).1, PyStr.ofString (UUID.str (BitVec.ofFin (ofLex key).2)))) =
      some cursor → isSendable cursor.2 = true := by
    intro cursor given
    obtain ⟨key, -, same⟩ := Option.map_eq_some_iff.mp given
    rw [← same]
    exact isSendable_str (BitVec.ofFin (ofLex key).2)
  have sendable := @sendable_texts projectId filters plain noModel _ textSendable
  rw [selectTraces, known]
  simp only [sendable, if_true, holds_conditions_cursor, Keyset.remaining, List.filter_filter]

/-- A page of the code is a page of the keys. -/
theorem listWithCursor_page (noModel : givenText filters.model = none)
    (plain : ∀ status, filters.status = some status → '\x00' ∉ status.toList)
    (before : Option (Int ×ₗ Fin (2 ^ 128))) :
    listWithCursor library session traces projectId (before.map (cursorOf library)) limit
        filters =
      .ok ((Keyset.page TraceRow.pageKey limit (traces.rows.filter fun row =>
          (filters.conditions projectId none).all fun condition => condition.holds session row)
          before).1,
        (Keyset.page TraceRow.pageKey limit (traces.rows.filter fun row =>
          (filters.conditions projectId none).all fun condition => condition.holds session row)
          before).2.map (cursorOf library)) := by
  have read : readCursor library (before.map (cursorOf library)) =
      .ok (before.map fun key =>
        (.utc (ofLex key).1, .ofString (UUID.str (BitVec.ofFin (ofLex key).2)))) := by
    cases before with
    | none => rfl
    | some key => exact readCursor_cursorOf key
  rw [listWithCursor, read, ok_bind, selectTraces_eq noModel plain, ok_bind]
  simp only [Keyset.page, pure, Except.pure]
  split
  · simp only [Option.map_map, Function.comp_def]
  · simp only [Option.map_none]

end Page

/-! ### Following the cursors -/

/-- The rows of all pages, where page `index` is read from `tables index`. -/
def followTraces (library : CursorLibrary) (session : TraceSession) (tables : Nat → TraceTable)
    (projectId : UUID) (limit : Nat) (filters : TraceFilters) (fuel : Nat) :
    Except PyException (Option (List TraceRow)) :=
  follow (fun index cursor =>
    listWithCursor library session (tables index) projectId cursor limit filters) fuel 0 none

/-- What changes between two pages: traces are added, and starts move earlier. -/
def TraceTable.SinksTo (projectId : UUID) (earlier later : TraceTable) : Prop :=
  ∀ row ∈ earlier.rows, row.projectId = projectId →
    ∃ version ∈ later.rows, version.projectId = projectId ∧ version.id = row.id ∧
      version.startedAt ≤ row.startedAt

section Follow

variable {library : CursorLibrary} {session : TraceSession} {projectId : UUID} {limit : Nat}

/-- The rows that a request selects from, before its cursor. -/
def matching (session : TraceSession) (projectId : UUID) (filters : TraceFilters)
    (traces : TraceTable) : List TraceRow :=
  traces.rows.filter fun row =>
    (filters.conditions projectId none).all fun condition => condition.holds session row

theorem mem_matching {filters : TraceFilters} (noModel : givenText filters.model = none)
    {traces : TraceTable} {row : TraceRow} :
    row ∈ matching session projectId filters traces ↔
      row ∈ traces.rows ∧ row.projectId = projectId ∧ filters.Matches session row := by
  rw [matching, List.mem_filter, holds_conditions noModel]

/-- The primary key tells any two rows apart. -/
theorem distinct_matching (filters : TraceFilters) (traces : TraceTable) :
    Keyset.Distinct TraceRow.pageKey (matching session projectId filters traces) := by
  apply List.Pairwise.filter
  apply traces.unique.imp
  intro left right distinct same
  have fields := Prod.mk.inj (toLex.injective same)
  apply distinct
  rw [TraceRow.primaryKey, TraceRow.primaryKey, fields.1, BitVec.toFin_inj.mp fields.2]

theorem followTraces_eq {filters : TraceFilters} (noModel : givenText filters.model = none)
    (plain : ∀ status, filters.status = some status → '\x00' ∉ status.toList)
    (tables : Nat → TraceTable) (fuel : Nat) :
    followTraces library session tables projectId limit filters fuel =
      follow (fun index cursor => .ok (Keyset.page TraceRow.pageKey limit
        (matching session projectId filters (tables index)) cursor)) fuel 0 none := by
  rw [followTraces]
  exact follow_encoded (cursorOf library)
    (fun index cursor => listWithCursor_page noModel plain cursor) fuel 0 none

theorem followTraces_unchanged {filters : TraceFilters}
    (noModel : givenText filters.model = none)
    (plain : ∀ status, filters.status = some status → '\x00' ∉ status.toList)
    (positive : 1 ≤ limit) (traces : TraceTable) :
    ∃ rows,
      (∀ fuel, traces.rows.length < fuel →
        followTraces library session (fun _ => traces) projectId limit filters fuel =
          .ok (some rows)) ∧
      rows.Pairwise (fun earlier later => later.pageKey < earlier.pageKey) ∧
      ∀ row, row ∈ rows ↔
        row ∈ traces.rows ∧ row.projectId = projectId ∧ filters.Matches session row := by
  have distinct := @distinct_matching session projectId filters traces
  refine ⟨Keyset.remaining TraceRow.pageKey (matching session projectId filters traces) none,
    ?_, Keyset.remaining_strict distinct none, ?_⟩
  · intro fuel enough
    have few : (Keyset.remaining TraceRow.pageKey
        (matching session projectId filters traces) none).length ≤ traces.rows.length := by
      rw [Keyset.remaining, Keyset.descending, List.length_insertionSort]
      exact (List.length_filter_le _ _).trans (List.length_filter_le _ _)
    rw [followTraces_eq noModel plain]
    exact Keyset.follow_remaining distinct positive (fun _ _ => rfl)
      (Nat.lt_of_le_of_lt few enough)
  · intro row
    rw [Keyset.mem_remaining, mem_matching noModel]
    simp [Keyset.below]

/-- The filters of a list without any. -/
def noFilters : TraceFilters := ⟨none, none, none, none⟩

theorem mem_matching_noFilters {traces : TraceTable} {row : TraceRow} :
    row ∈ matching session projectId noFilters traces ↔
      row ∈ traces.rows ∧ row.projectId = projectId := by
  rw [mem_matching rfl]
  simp only [and_congr_right_iff, and_iff_left_iff_imp]
  intro _ _
  exact ⟨by simp [noFilters], by simp [noFilters], by simp [noFilters]⟩

theorem sinks_matching {earlier later : TraceTable} (sinks : earlier.SinksTo projectId later) :
    Keyset.Sinks TraceRow.pageKey TraceRow.id
      (matching session projectId noFilters earlier)
      (matching session projectId noFilters later) := by
  intro row member
  obtain ⟨stored, own⟩ := mem_matching_noFilters.mp member
  obtain ⟨version, versionStored, versionOwn, sameId, noLater⟩ := sinks row stored own
  refine ⟨version, mem_matching_noFilters.mpr ⟨versionStored, versionOwn⟩, sameId, ?_⟩
  rw [TraceRow.pageKey, TraceRow.pageKey, sameId, Prod.Lex.le_iff]
  rcases lt_or_eq_of_le noLater with before | same
  · exact .inl before
  · exact .inr ⟨same, le_refl _⟩

theorem followTraces_changing (positive : 1 ≤ limit) {tables : Nat → TraceTable}
    (sinks : ∀ index, (tables index).SinksTo projectId (tables (index + 1))) {fuel : Nat}
    {rows : List TraceRow}
    (ended : followTraces library session tables projectId limit noFilters fuel = .ok (some rows))
    {row : TraceRow} (stored : row ∈ (tables 0).rows) (own : row.projectId = projectId) :
    ∃ returned ∈ rows, returned.id = row.id ∧ returned.startedAt ≤ row.startedAt := by
  rw [followTraces_eq rfl (by simp [noFilters])] at ended
  obtain ⟨returned, isReturned, sameId, noHigher⟩ := Keyset.follow_covers
    (fun index => distinct_matching noFilters (tables index))
    (fun index => sinks_matching (sinks index)) positive ended
    (mem_matching_noFilters.mpr ⟨stored, own⟩) rfl
  refine ⟨returned, isReturned, sameId, ?_⟩
  rw [Prod.Lex.le_iff] at noHigher
  rcases noHigher with before | same
  · exact le_of_lt before
  · exact le_of_eq same.1

theorem followTraces_isOk (tables : Nat → TraceTable) (fuel : Nat) :
    ∃ outcome,
      followTraces library session tables projectId limit noFilters fuel = .ok outcome := by
  rw [followTraces_eq rfl (by simp [noFilters])]
  exact follow_isOk fuel 0 none

theorem followTraces_ends (positive : 1 ≤ limit) {tables : Nat → TraceTable} {count : Nat}
    (settled : ∀ later, count ≤ later → tables later = tables count) :
    ∃ fuel rows,
      followTraces library session tables projectId limit noFilters fuel = .ok (some rows) := by
  have steady : ∀ later, 0 + count ≤ later →
      matching session projectId noFilters (tables later) =
        matching session projectId noFilters (tables (0 + count)) := by
    intro later after
    rw [Nat.zero_add] at after ⊢
    rw [settled later after]
  obtain ⟨fuel, rows, ended⟩ := @Keyset.follow_ends _ _ _ _ _ _ PyException
    (fun index => @distinct_matching session projectId noFilters (tables index)) positive count 0
    steady none
  refine ⟨fuel, rows, ?_⟩
  rw [followTraces_eq rfl (by simp [noFilters])]
  exact ended

end Follow

/-- A database that orders texts of UUIDs as the UUIDs themselves. -/
def TraceSession.ofUuids : TraceSession where
  localInstant := id
  textLt := fun left right =>
    match left.mapM char?, right.mapM char? with
    | some leftText, some rightText =>
        match UUID.ofText? (String.ofList leftText), UUID.ofText? (String.ofList rightText) with
        | some leftId, some rightId => decide (leftId.toFin < rightId.toFin)
        | _, _ => false
    | _, _ => false
  textLt_str := by
    intro left right
    simp only [PyStr.ofString, mapM_char?_codePoints, String.ofList_toList, UUID.ofText?_str]

end LlmObs.Backend
