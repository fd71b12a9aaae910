import LlmObs.Backend.Schemas.IngestRequest
import LlmObs.Backend.Services.OtlpEncodings
import LlmObs.Backend.Services.OtlpReadable

/-!
Owns `receive_otlp` past the rate limiter: the spans of a body that it hands to
`accept_batch`, and its response. The clock stands still during one request. Validation
is per span, but the converter reads the spans of a document together, so that they are
accepted independently of each other exactly when each of them can be read.
-/

namespace LlmObs.Backend

open LlmObs.Foundation

/-! ### Validation of converted spans -/

/-- A `SpanSchema`, with its metadata beside its other fields. -/
structure AcceptedSpan where
  span : SpanSchema
  metadata : PyAttributes

/-- What validation of a converted span takes from the installation. -/
structure OtlpValidation extends Validation where
  /-- `len(str(metadata))` -/
  metadataLength : PyAttributes → Nat
  /-- `str(exc.errors()[0].get("msg", exc))` of a span that is refused. -/
  firstMessage : ConvertedSpan → String

def orNull : Option String → Json
  | some text => .str text
  | none => .null

/-- The keyword arguments of `SpanSchema`, but for `metadata`. -/
def ConvertedSpan.arguments (span : ConvertedSpan) : List (String × Json) :=
  [("span_id", .str span.spanId), ("trace_id", .str span.traceId),
    ("parent_span_id", orNull span.parentSpanId), ("name", .str span.name),
    ("provider", .str span.provider), ("model", .str span.model),
    ("input_tokens", .int span.inputTokens), ("output_tokens", .int span.outputTokens),
    ("error", orNull span.error), ("latency_ms", .float span.latencyMs),
    ("started_at", .str span.startedAt)]

/-- `SpanSchema(**span)`; `none` is its `ValidationError`. No `uuid4` is drawn, since
`span_id` is always given. -/
def OtlpValidation.spanSchema (validation : OtlpValidation) (now : Int) (span : ConvertedSpan) :
    Option AcceptedSpan := do
  let schema ← validation.span now 0 (.obj span.arguments)
  let metadata ← constrained (fun metadata => validation.metadataLength metadata ≤ 10000)
    span.metadata
  return ⟨schema, metadata⟩

/-! ### Requests -/

/-- The variables of the loop of `receive_otlp`. -/
structure OtlpTally where
  acceptedSpans : List AcceptedSpan
  rejectedCount : Nat
  validationErrors : List String

def OtlpTally.initial : OtlpTally := ⟨[], 0, []⟩

/-- The body of the loop of `receive_otlp`. -/
def OtlpValidation.tally (validation : OtlpValidation) (now : Int) (tally : OtlpTally)
    (span : ConvertedSpan) : OtlpTally :=
  match validation.spanSchema now span with
  | some accepted => { tally with acceptedSpans := tally.acceptedSpans ++ [accepted] }
  | none =>
      { tally with
        rejectedCount := tally.rejectedCount + 1
        validationErrors := tally.validationErrors ++ [validation.firstMessage span] }

structure PartialSuccess where
  rejectedSpans : Nat
  errorMessage : String

inductive OtlpResponse where
  /-- A 400 response. -/
  | badRequest (error : String)
  | ok (partialSuccess : Option PartialSuccess)

/-- `rejectedSpans` of a response. -/
def OtlpResponse.rejectedSpans : OtlpResponse → Nat
  | .ok (some partialSuccess) => partialSuccess.rejectedSpans
  | .ok none | .badRequest _ => 0

/-- What a request leads to. -/
structure OtlpReceipt where
  /-- The spans of the call of `accept_batch`, which is not made for none. -/
  accepted : List AcceptedSpan
  response : OtlpResponse

def OtlpTally.receipt (tally : OtlpTally) : OtlpReceipt where
  accepted := tally.acceptedSpans
  response := .ok (if tally.rejectedCount = 0 then none
    else some ⟨tally.rejectedCount, "; ".intercalate (tally.validationErrors.take 3)⟩)

def receiveOtlp (library : OtlpLibrary) (validation : OtlpValidation) (now : Int)
    (body : OtlpBody) : OtlpReceipt :=
  match library.parse body with
  | none => ⟨[], .badRequest "Unable to parse OTLP trace export"⟩
  | some spans => (spans.foldl (validation.tally now) .initial).receipt

/-! ### Spans on their own -/

/-- The document of one span. -/
def documentOf (span : JsonSpan) : List (ResourceSpans JsonSpan) := [⟨[⟨[span]⟩]⟩]

section

variable (library : OtlpLibrary) (validation : OtlpValidation) (now : Int)

/-- The spans that are accepted are those accepted on their own, in document order, and
the others are counted as rejected. -/
structure AcceptedIndependently (resourceSpans : List (ResourceSpans JsonSpan)) : Prop where
  accepted : (receiveOtlp library validation now (.json resourceSpans)).accepted =
    (requestSpans resourceSpans).flatMap fun span =>
      (receiveOtlp library validation now (.json (documentOf span))).accepted
  counted : (receiveOtlp library validation now (.json resourceSpans)).accepted.length +
      (receiveOtlp library validation now (.json resourceSpans)).response.rejectedSpans =
    (requestSpans resourceSpans).length

/-! ### The loop -/

theorem filterMap_cons_eq_append {α β : Type} (choose : α → Option β) (item : α)
    (rest : List α) :
    (item :: rest).filterMap choose = (choose item).toList ++ rest.filterMap choose := by
  cases chosen : choose item with
  | none => exact List.filterMap_cons_none chosen
  | some value => exact List.filterMap_cons_some chosen

theorem acceptedSpans_tally (spans : List ConvertedSpan) (tally : OtlpTally) :
    (spans.foldl (validation.tally now) tally).acceptedSpans =
      tally.acceptedSpans ++ spans.filterMap (validation.spanSchema now) := by
  induction spans generalizing tally with
  | nil => exact (List.append_nil _).symm
  | cons span rest inductionHypothesis =>
      rw [List.foldl_cons, inductionHypothesis, OtlpValidation.tally, filterMap_cons_eq_append]
      cases validation.spanSchema now span with
      | none => rfl
      | some accepted => exact List.append_assoc ..

/-- Each span is either accepted or counted as rejected. -/
theorem accepted_add_rejected_tally (spans : List ConvertedSpan) (tally : OtlpTally) :
    (spans.foldl (validation.tally now) tally).acceptedSpans.length +
        (spans.foldl (validation.tally now) tally).rejectedCount =
      tally.acceptedSpans.length + tally.rejectedCount + spans.length := by
  induction spans generalizing tally with
  | nil => rfl
  | cons span rest inductionHypothesis =>
      rw [List.foldl_cons, inductionHypothesis, OtlpValidation.tally, List.length_cons]
      cases validation.spanSchema now span with
      | none =>
          show tally.acceptedSpans.length + (tally.rejectedCount + 1) + rest.length = _
          omega
      | some accepted =>
          show (tally.acceptedSpans ++ [accepted]).length + tally.rejectedCount + rest.length = _
          rw [List.length_append, List.length_singleton]
          omega

theorem rejectedSpans_receipt (tally : OtlpTally) :
    tally.receipt.response.rejectedSpans = tally.rejectedCount := by
  rw [OtlpTally.receipt]
  by_cases none : tally.rejectedCount = 0
  · rw [if_pos none, none]
    rfl
  · rw [if_neg none]
    rfl

/-! ### Documents -/

theorem receiveOtlp_of_converted {resourceSpans : List (ResourceSpans JsonSpan)}
    {converted : List ConvertedSpan}
    (done : (requestSpans resourceSpans).mapM (·.convert library) = .ok converted) :
    receiveOtlp library validation now (.json resourceSpans) =
      (converted.foldl (validation.tally now) .initial).receipt := by
  rw [receiveOtlp, OtlpLibrary.parse, extractSpans, done]
  rfl

theorem accepted_of_converted {resourceSpans : List (ResourceSpans JsonSpan)}
    {converted : List ConvertedSpan}
    (done : (requestSpans resourceSpans).mapM (·.convert library) = .ok converted) :
    (receiveOtlp library validation now (.json resourceSpans)).accepted =
      converted.filterMap (validation.spanSchema now) := by
  rw [receiveOtlp_of_converted library validation now done]
  exact acceptedSpans_tally validation now converted .initial

theorem accepted_documentOf {span : JsonSpan} {converted : ConvertedSpan}
    (done : span.convert library = .ok converted) :
    (receiveOtlp library validation now (.json (documentOf span))).accepted =
      (validation.spanSchema now converted).toList := by
  have alone : (requestSpans (documentOf span)).mapM (·.convert library) = .ok [converted] :=
    mapM_eq_ok_iff.mpr (.cons done .nil)
  rw [accepted_of_converted library validation now alone, filterMap_cons_eq_append]
  exact List.append_nil _

/-- Where each span is read, each is accepted as it would be on its own. -/
theorem filterMap_eq_flatMap {spans : List JsonSpan} {converted : List ConvertedSpan}
    (done : List.Forall₂ (fun span result => span.convert library = .ok result) spans converted) :
    converted.filterMap (validation.spanSchema now) =
      spans.flatMap fun span =>
        (receiveOtlp library validation now (.json (documentOf span))).accepted := by
  induction done with
  | nil => rfl
  | @cons span result _ _ read _ inductionHypothesis =>
      rw [List.flatMap_cons, accepted_documentOf library validation now read,
        ← inductionHypothesis]
      exact filterMap_cons_eq_append ..

/-- Spans are accepted independently exactly when none of them is unreadable: one that is
leaves the whole document to a 400 response. -/
theorem acceptedIndependently_iff (resourceSpans : List (ResourceSpans JsonSpan)) :
    AcceptedIndependently library validation now resourceSpans ↔
      ∀ span ∈ requestSpans resourceSpans, span.Readable library := by
  have readable : (∃ converted,
      (requestSpans resourceSpans).mapM (·.convert library) = .ok converted) ↔
        ∀ span ∈ requestSpans resourceSpans, span.Readable library := by
    simp only [mapM_isOk_iff, convert_isOk_iff_readable]
  rw [← readable]
  constructor
  · intro independent
    have counted := independent.counted
    cases outcome : (requestSpans resourceSpans).mapM (·.convert library) with
    | ok converted => exact ⟨converted, rfl⟩
    | error exception =>
        rw [receiveOtlp, OtlpLibrary.parse, extractSpans, outcome] at counted
        have empty : requestSpans resourceSpans = [] := List.eq_nil_of_length_eq_zero counted.symm
        rw [empty] at outcome
        cases outcome
  · rintro ⟨converted, done⟩
    have each := mapM_eq_ok_iff.mp done
    refine ⟨?_, ?_⟩
    · rw [accepted_of_converted library validation now done]
      exact filterMap_eq_flatMap library validation now each
    · rw [receiveOtlp_of_converted library validation now done, rejectedSpans_receipt]
      show (converted.foldl (validation.tally now) .initial).acceptedSpans.length + _ = _
      rw [accepted_add_rejected_tally, each.length_eq]
      exact Nat.zero_add _

end

/-- Validation of spans that start at the epoch, with identifiers of 16 or 32 digits. -/
def plainValidation : OtlpValidation where
  runtime := Runtime.inUtc
  uuid? := fun _ => none
  uuid5 := fun _ => 1
  int? := fun
    | .int value => some value
    | _ => none
  float? := fun
    | .float value => some value
    | _ => none
  datetime? := fun
    | .str "1970-01-01T00:00:00+00:00" => some (.utc 0)
    | _ => none
  strLength := fun _ => 2
  metadataLength := fun _ => 2
  firstMessage := fun _ => "Value error"

/-- A span that starts and ends at the epoch. -/
def plainSpan (attributes : List (String × JsonAnyValue)) : JsonSpan where
  traceId := ⟨some "4bf92f3577b34da6a3ce929d0e0e4736", none⟩
  spanId := ⟨some "00f067aa0ba902b7", none⟩
  name := some "chat"
  attributes := attributes

/-- A span beside one whose token count is an infinite double. -/
def infiniteTokensDocument : List (ResourceSpans JsonSpan) :=
  [⟨[⟨[plainSpan [],
    plainSpan [("gen_ai.usage.input_tokens", .doubleValue (.text "Infinity"))]]⟩]⟩]

/-- The first span is accepted on its own and not in the document. -/
theorem not_acceptedIndependently_infiniteTokens :
    (receiveOtlp OtlpLibrary.plain plainValidation 0
        (.json (documentOf (plainSpan [])))).accepted.length = 1 ∧
      (receiveOtlp OtlpLibrary.plain plainValidation 0
        (.json infiniteTokensDocument)).accepted.length = 0 ∧
      ¬AcceptedIndependently OtlpLibrary.plain plainValidation 0 infiniteTokensDocument := by
  refine ⟨by decide +kernel, by decide +kernel, ?_⟩
  intro independent
  exact absurd independent.counted (by decide +kernel)

end LlmObs.Backend
