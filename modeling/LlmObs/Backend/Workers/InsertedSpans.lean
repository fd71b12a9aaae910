import LlmObs.Backend.Workers.StoredSpans
import LlmObs.Foundation.Counter

/-!
Owns the matching of inserted rows back to the prepared spans: the loop of
`select_inserted_spans` consumes a counter of the inserted identities, and takes of each
identity as many prepared spans as were inserted, the earliest ones. An identity that no
prepared span has is left over.
-/

namespace LlmObs.Backend

open LlmObs.Foundation

/-- `(span["id"], span["started_at"])` -/
def PreparedSpan.spanIdentity (span : PreparedSpan) : SpanIdentity := (span.id, span.startedAt)

/-- What two prepared spans of one identity have in common. -/
def PreparedSpan.identityKey (span : PreparedSpan) : UUID × Datetime.Key :=
  span.spanIdentity.key

/-- `inserted_spans` are the prepared spans of the inserted identities: in their order, as
many of each identity as were inserted, and of each identity the earliest ones. -/
structure MatchedBack (prepared : List PreparedSpan) (inserted : List SpanIdentity)
    (selected : List PreparedSpan) : Prop where
  ordered : selected.Sublist prepared
  exact : (selected.map PreparedSpan.identityKey).Perm (inserted.map SpanIdentity.key)
  earliest : Counter.Earliest PreparedSpan.identityKey prepared selected

/-- The loop of `select_inserted_spans` over its `Counter`. -/
theorem selectInsertedSpans_eq_consume (prepared : List PreparedSpan)
    (remaining : List (UUID × Datetime.Key)) :
    selectInsertedSpans prepared remaining =
      Counter.consume PreparedSpan.identityKey prepared (Counter.ofList remaining) := by
  induction prepared generalizing remaining with
  | nil => rfl
  | cons span rest inductionHypothesis =>
      rw [selectInsertedSpans, Counter.consume, Counter.count_ofList]
      show (if span.identityKey ∈ remaining then _ else _) = _
      by_cases member : span.identityKey ∈ remaining
      · have counted : 0 < remaining.count span.identityKey := List.count_pos_iff.mpr member
        rw [if_pos member, if_neg (by omega), Counter.decrement_ofList member,
          inductionHypothesis]
        rfl
      · rw [if_neg member, if_pos (by rw [List.count_eq_zero.mpr member]; rfl),
          inductionHypothesis]

/-- The matching leaves no choice. -/
theorem MatchedBack.eq {prepared selected : List PreparedSpan} {inserted : List SpanIdentity}
    (matched : MatchedBack prepared inserted selected) :
    selected = selectInsertedSpans prepared (inserted.map SpanIdentity.key) := by
  rw [selectInsertedSpans_eq_consume, ← Counter.ofList_perm matched.exact]
  exact matched.earliest.eq_consume

/-- Identities of prepared spans are matched back exactly. -/
theorem selectInsertedSpans_matchedBack {prepared : List PreparedSpan}
    {inserted : List SpanIdentity}
    (available : (inserted.map SpanIdentity.key).Subperm
      (prepared.map PreparedSpan.identityKey)) :
    MatchedBack prepared inserted
      (selectInsertedSpans prepared (inserted.map SpanIdentity.key)) := by
  rw [selectInsertedSpans_eq_consume]
  exact {
    ordered := Counter.consume_sublist
    exact := Counter.map_consume_perm available
    earliest := Counter.earliest_consume }

/-- A prepared span of an identity, with an output to tell spans of one identity apart. -/
def repeatedSpan (startedAt : Int) (name : String) : PreparedSpan where
  id := 7
  traceId := 1
  projectId := 1
  parentSpanId := none
  name := name
  provider := "openai"
  model := "gpt-4o"
  inputTokens := 0
  outputTokens := 0
  costUsd := 0
  latencyMs := 0
  status := .ok
  error := none
  startedAt := .utc startedAt
  payloadS3Key := none
  payloadStatus := .omitted
  payloadDropReason := none
  metadata := []

/-- Of three spans of one identity and one of another, two of the first are inserted. -/
theorem selectInsertedSpans_matchedBack_repeated :
    MatchedBack
      [repeatedSpan 0 "first", repeatedSpan 60 "other", repeatedSpan 0 "second",
        repeatedSpan 0 "third"]
      [(7, .utc 0), (7, .utc 0)]
      (selectInsertedSpans
        [repeatedSpan 0 "first", repeatedSpan 60 "other", repeatedSpan 0 "second",
          repeatedSpan 0 "third"]
        ([(7, .utc 0), (7, .utc 0)].map SpanIdentity.key)) :=
  selectInsertedSpans_matchedBack (List.subperm_ext_iff.mpr (by decide))

/-- What an insert of spans with aware starts returns are identities of prepared spans. -/
theorem subperm_bulkInsertSpans (localInstant : Int → Int) (table : SpanTable)
    {prepared : List PreparedSpan} (aware : ∀ span ∈ prepared, span.startedAt.Aware) :
    ((bulkInsertSpans localInstant prepared table).2.map SpanIdentity.key).Subperm
      (prepared.map PreparedSpan.identityKey) := by
  have keys : (storedSpans localInstant table prepared).map (fun span =>
        (span.id, Datetime.Key.aware (span.startedAt.toTimestamptz localInstant))) =
      (storedSpans localInstant table prepared).map PreparedSpan.identityKey := by
    refine List.map_congr_left fun span member => ?_
    have isAware := aware span ((firstNew_sublist _ _).subset member)
    rw [PreparedSpan.identityKey, PreparedSpan.spanIdentity, SpanIdentity.key,
      isAware.key_eq localInstant]
  rw [bulkInsertSpans_identities, keys]
  exact ((firstNew_sublist _ _).map _).subperm

end LlmObs.Backend
