import LlmObs.Backend.Services.TraceService
import LlmObs.Backend.Workers.ProcessSpan

/-!
Owns the model filter of the list of traces. The model is a property of the spans, and
the query looks for it in a column that `traces` does not have: a request that names a
model fails, and one with an empty model selects as one without it.
-/

namespace LlmObs.Backend

open LlmObs.Foundation

/-- The project has a stored span of the trace with this model. -/
def Database.HasModel (db : Database) (projectId traceId : UUID) (model : String) : Prop :=
  ∃ span ∈ db.spans.rows, span.projectId = projectId ∧ span.traceId = traceId ∧
    span.model = model

/-- The pages of a request hold exactly the project's traces that meet the other filters
and have a span with the model. -/
def SelectsBySpans (library : CursorLibrary) (session : TraceSession) (db : Database)
    (projectId : UUID) (limit : Nat) (model : String) (status : Option String)
    (fromDt toDt : Option Datetime) : Prop :=
  ∃ fuel rows,
    followTraces library session (fun _ => db.traces) projectId limit
      ⟨some model, status, fromDt, toDt⟩ fuel = .ok (some rows) ∧
    ∀ row, row ∈ rows ↔ row ∈ db.traces.rows ∧ row.projectId = projectId ∧
      TraceFilters.Matches ⟨some model, status, fromDt, toDt⟩ session row ∧
      db.HasModel projectId row.id model

/-- What `list_traces` lets through as a status. -/
def AcceptedStatus (status : Option String) : Prop :=
  ∀ text, status = some text → text = "ok" ∨ text = "error"

section

variable {library : CursorLibrary} {session : TraceSession} {db : Database} {projectId : UUID}
  {limit : Nat} {model : String} {status : Option String} {fromDt toDt : Option Datetime}

theorem AcceptedStatus.plain (accepted : AcceptedStatus status) (text : String)
    (given : status = some text) : '\x00' ∉ text.toList := by
  rcases accepted text given with rfl | rfl
  · decide
  · decide

/-- A query with a model names a column that is not there. -/
theorem selectTraces_model (named : model ≠ "") (traces : TraceTable)
    (before : Option (Datetime × PyStr)) (count : Nat) :
    ∃ column, selectTraces session traces
      (TraceFilters.conditions ⟨some model, status, fromDt, toDt⟩ projectId before) count =
        .error (undefinedColumnError column) := by
  have listed : TraceCondition.withModel model ∈
      TraceFilters.conditions ⟨some model, status, fromDt, toDt⟩ projectId before := by
    simp [TraceFilters.conditions, givenText, Option.filter, named]
  have unknown : ((TraceFilters.conditions ⟨some model, status, fromDt, toDt⟩ projectId
      before).flatMap TraceCondition.columns).find?
        (fun column => !traceColumns.contains column) ≠ none := by
    intro known
    rw [List.find?_eq_none] at known
    have absent := known "model" (List.mem_flatMap.mpr ⟨_, listed, List.mem_singleton_self _⟩)
    exact absent (by decide)
  obtain ⟨column, found⟩ := Option.ne_none_iff_exists'.mp unknown
  exact ⟨column, by rw [selectTraces, found]⟩

/-- So its first page is an error, and no walk over the pages returns. -/
theorem followTraces_model (named : model ≠ "") (tables : Nat → TraceTable) (fuel : Nat)
    (rows : List TraceRow) :
    followTraces library session tables projectId limit ⟨some model, status, fromDt, toDt⟩ fuel ≠
      .ok (some rows) := by
  intro returned
  cases fuel with
  | zero => cases returned
  | succ fuel =>
      obtain ⟨column, failed⟩ := @selectTraces_model session projectId model status fromDt toDt
        named (tables 0) none (limit + 1)
      have page : listWithCursor library session (tables 0) projectId none limit
          ⟨some model, status, fromDt, toDt⟩ = .error (undefinedColumnError column) := by
        rw [listWithCursor, readCursor, Option.filter_none, ok_bind, failed]
        rfl
      rw [followTraces, follow, page] at returned
      cases returned

end

/-- One trace, its span of another model or of none. -/
def Database.ofOneSpan (model : String) : Database :=
  { Database.empty with
    traces := ⟨[newTraceRow 7 1 10 .ok], by decide⟩
    spans := ⟨[spanOf model], List.pairwise_singleton _ _⟩ }
where
  /-- A span of trace 1 of project 7. -/
  spanOf (model : String) : SpanRow :=
    { id := 3, traceId := 1, projectId := 7, parentSpanId := none, name := "call"
      provider := "openai", model := model, inputTokens := 0, outputTokens := 0, costUsd := 0
      latencyMs := 0, status := .ok, error := none, startedAt := 10, payloadS3Key := none
      payloadStatus := .omitted, payloadDropReason := none, metadata := [] }

end LlmObs.Backend
