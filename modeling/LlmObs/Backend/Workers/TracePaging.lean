import LlmObs.Backend.Services.TraceService
import LlmObs.Backend.Workers.AttemptEffect

/-!
Owns paging through the traces while they are ingested: a batch adds traces and moves
starts earlier, and both leave a walk over the pages complete.
-/

namespace LlmObs.Backend

open LlmObs.Foundation

/-! ### What ingest does between two pages -/

theorem TraceTable.SinksTo.refl (projectId : UUID) (traces : TraceTable) :
    traces.SinksTo projectId traces :=
  fun row stored own => ⟨row, stored, own, rfl, le_refl _⟩

theorem TraceTable.SinksTo.trans {projectId : UUID} {first second third : TraceTable}
    (earlier : first.SinksTo projectId second) (later : second.SinksTo projectId third) :
    first.SinksTo projectId third := by
  intro row stored own
  obtain ⟨version, versionStored, versionOwn, sameId, noLater⟩ := earlier row stored own
  obtain ⟨last, lastStored, lastOwn, lastId, lastNoLater⟩ := later version versionStored versionOwn
  exact ⟨last, lastStored, lastOwn, lastId.trans sameId, lastNoLater.trans noLater⟩

/-- Whichever way a call of `ensure_trace_row` goes, no start moves later. -/
theorem TraceEnsured.sinksTo {localInstant : Int → Int} {projectId traceId : UUID}
    {startedAt : Datetime} {traces next : TraceTable}
    (ensured : TraceEnsured localInstant projectId traceId startedAt traces next)
    (reader : UUID) : traces.SinksTo reader next := by
  intro row stored own
  by_cases target : row.Of projectId traceId
  · obtain ⟨version, versionStored, versionOf, noLater⟩ :=
      (ensured.covers row.startedAt).mpr (.inl ⟨row, stored, target, le_refl _⟩)
    refine ⟨version, versionStored, ?_, versionOf.2.trans target.2.symm, noLater⟩
    rw [versionOf.1, ← target.1, own]
  · exact ⟨row, (ensured.others row target).mpr stored, own, rfl, le_refl _⟩

/-- Induction on the traces of the batch. -/
theorem ensureTraceRows_sinksTo {runtime : Runtime} {env : AttemptEnv} {projectId : UUID}
    {traceMap : List (UUID × PreparedSpan)} {traces next : TraceTable}
    {starts : List (UUID × Datetime)}
    (aware : ∀ entry ∈ traceMap, entry.2.startedAt.Aware)
    (done : ensureTraceRows runtime env projectId traceMap traces = .ok (next, starts))
    (reader : UUID) : traces.SinksTo reader next := by
  induction traceMap generalizing traces next starts with
  | nil =>
      simp only [ensureTraceRows, Except.ok.injEq, Prod.mk.injEq] at done
      rw [← done.1]
      exact .refl reader traces
  | cons head rest inductionHypothesis =>
      obtain ⟨middle, start, later, -, ensures, others, -⟩ := ensureTraceRows_cons done
      have ensured := traceEnsured_of_ok (aware head (List.mem_cons_self ..)) ensures
      exact (ensured.sinksTo reader).trans (inductionHypothesis
        (fun entry member => aware entry (List.mem_cons_of_mem _ member)) others)

/-- An attempt at a batch, faults included, adds traces and moves starts earlier only. -/
theorem processSpanBatch_sinksTo (runtime : Runtime) (env : AttemptEnv) (projectId : UUID)
    (spans : List SpanSchema) (world : World) (reader : UUID) :
    world.db.traces.SinksTo reader
      (processSpanBatch runtime env projectId spans world).world.db.traces := by
  rcases processSpanBatch_cases runtime env projectId spans world with
    ⟨-, unchanged⟩ | ⟨stored, -, attempt⟩
  · rw [unchanged]
    exact .refl reader _
  · obtain ⟨traceMap, -, mapOf, ensured⟩ := attempt.stores.traces
    exact ensureTraceRows_sinksTo (attempt.stores.traceMap_aware mapOf) ensured reader

/-! ### Exact paging -/

/-- Two traces of one start, paged one by one. -/
def twoTraces : TraceTable :=
  ⟨[newTraceRow 7 1 10 .ok, newTraceRow 7 2 10 .error], by decide⟩

end LlmObs.Backend
