import LlmObs.Backend.Services.Analytics
import LlmObs.Backend.Services.CostLookups
import LlmObs.Backend.Services.PubSub
import LlmObs.Foundation.TtlCache

/-!
Owns the three metrics endpoints of a project behind their Redis entries: `get_metrics_overview`,
`get_metrics_timeseries` and `get_metrics_analytics`. Spans come and go while entries live; it
says of which project, period and instant a response is, for any interleaving of requests.
-/

namespace LlmObs.Backend

open LlmObs.Foundation

inductive MetricsKind where
  | overview
  | timeseries
  | analytics
deriving DecidableEq, Repr

def MetricsKind.text : MetricsKind → String
  | overview => "overview"
  | timeseries => "timeseries"
  | analytics => "analytics"

def Period.text : Period → String
  | .oneHour => "1h"
  | .oneDay => "24h"
  | .sevenDays => "7d"
  | .thirtyDays => "30d"

/-- `{"1h": 30, "24h": 60, "7d": 300, "30d": 300}[period]` -/
def Period.ttlSeconds : Period → Nat
  | .oneHour => 30
  | .oneDay => 60
  | .sevenDays => 300
  | .thirtyDays => 300

/-- The time to live of an entry, in microseconds. -/
def Period.ttl (period : Period) : Nat := period.ttlSeconds * 1000000

structure MetricsQuery where
  kind : MetricsKind
  projectId : UUID
  period : Period
deriving DecidableEq, Repr

/-- `f"metrics:overview:{project['id']}:{period}"` and its siblings. -/
def MetricsQuery.cacheKey (query : MetricsQuery) : String :=
  "metrics:" ++ query.kind.text ++ ":" ++ query.projectId.str ++ ":" ++ query.period.text

inductive MetricsAnswer where
  | overview (totals : MetricsOverview)
  | timeseries (points : List TimeseriesPoint)
  | analytics (tables : Analytics)
deriving DecidableEq, Repr

/-- What the database sessions have in common. -/
structure MetricsSession where
  locale : Locale
  offset : Int

/-- How the database orders what the queries of `get_analytics` leave open. -/
structure TieBreak (session : MetricsSession) where
  analytics : Period → Int → List SpanRow → Analytics
  allowed : ∀ period now spans,
    IsAnalytics session.locale session.offset period now spans (analytics period now spans)

/-- The service's answer at an instant. -/
def metricsAnswer (session : MetricsSession) (tieBreak : TieBreak session) (now : Int)
    (table : SpanTable) (query : MetricsQuery) : MetricsAnswer :=
  match query.kind with
  | .overview => .overview (getOverview query.period now query.projectId table)
  | .timeseries =>
      .timeseries (getTimeseries session.offset query.period now query.projectId table)
  | .analytics => .analytics (tieBreak.analytics query.period now
      (SpanTable.since query.projectId (now - query.period.toInterval) table))

/-- The endpoints behind Redis, where `dumps` is `json.dumps(result, default=str)`. An empty
entry is not taken for one. -/
def metricsCache (session : MetricsSession) (dumps : MetricsAnswer → String) :
    TtlCache SpanTable MetricsQuery (TieBreak session) String MetricsAnswer String where
  key := MetricsQuery.cacheKey
  ttl query := query.period.ttl
  answer := metricsAnswer session
  encode answer := if dumps answer = "" then none else some (dumps answer)

theorem MetricsKind.colon_not_mem (kind : MetricsKind) : ':' ∉ kind.text.toList := by
  cases kind <;> decide

theorem MetricsKind.text_injective : Function.Injective MetricsKind.text := by
  intro left right same
  cases left <;> cases right <;> first | rfl | exact absurd same (by decide)

theorem Period.text_injective : Function.Injective Period.text := by
  intro left right same
  cases left <;> cases right <;> first | rfl | exact absurd same (by decide)

/-- Each query has an entry of its own. -/
theorem MetricsQuery.cacheKey_injective : Function.Injective MetricsQuery.cacheKey := by
  intro left right same
  have texts := congrArg String.toList same
  simp only [cacheKey, String.toList_append, List.append_assoc] at texts
  have inner := List.append_cancel_left texts
  obtain ⟨kinds, rest⟩ := PricedName.eq_of_split left.kind.colon_not_mem right.kind.colon_not_mem inner
  obtain ⟨ids, periods⟩ := PricedName.eq_of_split (colon_not_mem_str _) (colon_not_mem_str _) rest
  cases left
  cases right
  simp only [mk.injEq]
  exact ⟨MetricsKind.text_injective (String.toList_inj.mp kinds),
    UUID.str_injective (String.toList_inj.mp ids),
    Period.text_injective (String.toList_inj.mp periods)⟩

/-- A response is the service's answer to its own query, at an instant at most an entry's life
and the delay of its writing before; what is read from Redis is that answer as it was dumped. -/
def RecentMetrics (session : MetricsSession) (dumps : MetricsAnswer → String) (delay : Nat)
    (past : List (Int × SpanTable)) (query : MetricsQuery)
    (served : TtlCache.Served MetricsAnswer String) (servedAt : Int) : Prop :=
  ∃ instant table tieBreak, (instant, table) ∈ past ∧
    (served = .fresh (metricsAnswer session tieBreak instant table query) ∨
      served = .cached (dumps (metricsAnswer session tieBreak instant table query))) ∧
    instant ≤ servedAt ∧ servedAt ≤ instant + query.period.ttl + delay

/-- In any run of requests, changes of the spans and losses of entries, where an answer is
written at most `delay` after it was selected. -/
theorem metrics_recent (session : MetricsSession) (dumps : MetricsAnswer → String) (delay : Nat)
    {now : Int} {table : SpanTable}
    {actions : List (TtlCache.Action SpanTable MetricsQuery (TieBreak session) String)}
    {final : TtlCache.State SpanTable MetricsQuery String MetricsAnswer String}
    (soon : (metricsCache session dumps).machine.Along (TtlCache.WritesWithin delay)
      (.initial now table) actions)
    (reached : (metricsCache session dumps).machine.run (.initial now table) actions = some final)
    {request : Nat} {query : MetricsQuery} {served : TtlCache.Served MetricsAnswer String}
    {servedAt : Int} (returned : final.calls request = some (.returned query served servedAt)) :
    RecentMetrics session dumps delay final.past query served servedAt := by
  obtain ⟨instant, table, tieBreak, there, serves, before, recent⟩ :=
    TtlCache.answeredWithin_of_run MetricsQuery.cacheKey_injective soon reached returned
  have within : servedAt ≤ instant + query.period.ttl + delay := by
    rw [Int.add_assoc]
    exact recent
  refine ⟨instant, table, tieBreak, there, ?_, before, within⟩
  cases served with
  | fresh answer =>
      left
      rw [← show _ = answer from serves.symm]
      rfl
  | cached entry =>
      right
      have written : (if dumps (metricsAnswer session tieBreak instant table query) = "" then none
          else some (dumps (metricsAnswer session tieBreak instant table query))) = some entry :=
        serves
      split at written
      · cases written
      · rw [Option.some.inj written]

/-- The order in which the rows are found. -/
def foundOrder (session : MetricsSession) : TieBreak session :=
  ⟨getAnalytics session.locale session.offset, isAnalytics_getAnalytics _ _⟩

/-- The entry for the totals of a project without spans. -/
def noSpansText : String :=
  "\x7b\"total_spans\": 0, \"error_count\": 0, \"error_rate_pct\": null, " ++
  "\"avg_latency_ms\": null, \"p95_latency_ms\": null, \"p99_latency_ms\": null, " ++
  "\"total_cost_usd\": \"0\", \"total_tokens\": 0\x7d"

/-- A request a second after the one that filled the entry. -/
def askedTwice :
    List (TtlCache.Action SpanTable MetricsQuery (TieBreak ⟨.posix, 0⟩) String) :=
  let query : MetricsQuery := ⟨.overview, 1, .oneHour⟩
  [.begin 1 query, .call 1 .get, .call 1 (.select (foundOrder _)), .call 1 .setex,
    .elapse 1000000, .begin 2 query, .call 2 .get]

theorem metrics_recent_askedTwice : ∃ final,
    (metricsCache ⟨.posix, 0⟩ fun _ => noSpansText).machine.run (.initial 0 .empty) askedTwice =
      some final ∧
    RecentMetrics ⟨.posix, 0⟩ (fun _ => noSpansText) 0 final.past ⟨.overview, 1, .oneHour⟩
      (.cached noSpansText) 1000000 := by
  have soon : (metricsCache ⟨.posix, 0⟩ fun _ => noSpansText).machine.Along
      (TtlCache.WritesWithin 0) (.initial 0 .empty) askedTwice := by decide +kernel
  have served : (((metricsCache ⟨.posix, 0⟩ fun _ => noSpansText).machine.run (.initial 0 .empty)
      askedTwice).map fun final => final.calls 2) =
        some (some (.returned ⟨.overview, 1, .oneHour⟩ (.cached noSpansText) 1000000)) := by
    decide +kernel
  obtain ⟨final, reached, returned⟩ := Option.map_eq_some_iff.mp served
  exact ⟨final, reached, metrics_recent ⟨.posix, 0⟩ (fun _ => noSpansText) 0 soon reached returned⟩

end LlmObs.Backend
