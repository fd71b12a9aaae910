import LlmObs.Backend.Schemas.Ingest
import LlmObs.Backend.Runtime

/-!
Owns the validation of an ingest body: which JSON documents `IngestRequest`
accepts, and the spans it makes of them. The scalar parsers of the validation
library and the UUID functions of the standard library are parameters.
-/

namespace LlmObs.Backend

open LlmObs.Foundation

/-- What validation takes from the installation. -/
structure Validation where
  runtime : Runtime
  /-- `uuid.UUID(text)`; `none` is its `ValueError`. -/
  uuid? : String → Option UUID
  /-- `uuid.uuid5(OTLP_ID_NAMESPACE, text)` -/
  uuid5 : String → UUID
  /-- A value of a field of type `int`. -/
  int? : Json → Option Int
  /-- A value of a field of type `float`. -/
  float? : Json → Option ℚ
  /-- A value of a field of type `datetime`. -/
  datetime? : Json → Option Datetime
  /-- `len(str(value))` of a dict. -/
  strLength : List (String × Json) → Nat

/-! ### Fields -/

/-- A value of a field of type `str`. -/
def str? : Json → Option String
  | .str text => some text
  | _ => none

/-- A value of a field of type `dict[str, Any]`. -/
def dict? : Json → Option (List (String × Json))
  | .obj entries => some entries
  | _ => none

/-- A value of a field of type `list`. -/
def list? : Json → Option (List Json)
  | .arr items => some items
  | _ => none

/-- A field with a default. -/
def fieldOr {α : Type} (default : α) (parse : Json → Option α) (value : Option Json) : Option α :=
  match value with
  | none => some default
  | some value => parse value

/-- A field of an optional type, with the default `None`. -/
def optionalField {α : Type} (parse : Json → Option α) (value : Option Json) :
    Option (Option α) :=
  match value with
  | none | some .null => some none
  | some value => (parse value).map some

/-- The value, if it meets the constraint of its field. -/
def constrained {α : Type} (constraint : α → Bool) (value : α) : Option α :=
  if constraint value then some value else none

theorem constrained_eq_some {α : Type} {constraint : α → Bool} {value result : α}
    (kept : constrained constraint value = some result) :
    constraint value = true ∧ value = result := by
  rw [constrained] at kept
  split_ifs at kept with met
  exact ⟨met, Option.some.inj kept⟩

/-- The characters `0-9a-f`. -/
def isLowerHex (character : Char) : Bool :=
  "0123456789abcdef".toList.contains character

/-- `normalize_span_identifier` of a text. -/
def Validation.normalizeSpanIdentifier (validation : Validation) (value : String) :
    Option UUID :=
  let value := validation.runtime.strip value
  if value = "" then none
  else
    let lowered := validation.runtime.lower value
    if !lowered.toList.contains '-' && (lowered.length = 16 || lowered.length = 32) &&
        lowered.toList.all isLowerHex then some (validation.uuid5 lowered)
    else validation.uuid? value

/-- `normalize_provider` -/
def Validation.normalizeProvider (validation : Validation) (value : String) : String :=
  let value := validation.runtime.strip (validation.runtime.lower value)
  if value ∈ allowedProviders then value else "custom"

theorem Validation.normalizeProvider_mem (validation : Validation) (value : String) :
    validation.normalizeProvider value ∈ allowedProviders := by
  dsimp only [Validation.normalizeProvider]
  split
  · assumption
  · decide

/-! ### Spans -/

/-- The field `span_id`: its default factory draws `uuid4`, and the validator
does not run on the default. -/
def Validation.spanId (validation : Validation) (uuid4 : UUID) (value : Option Json) :
    Option UUID :=
  fieldOr uuid4 (fun value => str? value >>= validation.normalizeSpanIdentifier) value

/-- The values of the other fields, parsed and not yet held against the bounds
that `SpanSchema` carries. -/
structure SpanValues where
  traceId : UUID
  parentSpanId : Option UUID
  name : String
  provider : String
  model : String
  inputMessages : List Json
  output : Option String
  error : Option String
  inputTokens : Int
  outputTokens : Int
  latencyMs : ℚ
  startedAt : Datetime
  metadata : List (String × Json)

def Validation.spanValues (validation : Validation) (entries : List (String × Json)) :
    Option SpanValues := do
  let traceId ← entries.lookup "trace_id" >>= str? >>=
    constrained (fun text => 1 ≤ text.length && text.length ≤ 64) >>=
    validation.normalizeSpanIdentifier
  let parentSpanId ← optionalField
    (fun value => str? value >>= constrained (fun text => text.length ≤ 64) >>=
      validation.normalizeSpanIdentifier) (entries.lookup "parent_span_id")
  let name ← fieldOr "llm_call" str? (entries.lookup "name")
  let provider ← entries.lookup "provider" >>= str? >>= constrained fun text => text.length ≤ 50
  let model ← entries.lookup "model" >>= str?
  let inputMessages ← fieldOr []
    (fun value => list? value >>= constrained fun items => items.all fun item =>
      (dict? item).isSome) (entries.lookup "input_messages")
  let output ← optionalField str? (entries.lookup "output")
  let error ← optionalField str? (entries.lookup "error")
  let inputTokens ← fieldOr 0 validation.int? (entries.lookup "input_tokens")
  let outputTokens ← fieldOr 0 validation.int? (entries.lookup "output_tokens")
  let latencyMs ← entries.lookup "latency_ms" >>= validation.float?
  let startedAt ← entries.lookup "started_at" >>= validation.datetime?
  let metadata ← fieldOr []
    (fun value => dict? value >>= constrained fun entries =>
      validation.strLength entries ≤ 10000) (entries.lookup "metadata")
  return {
    traceId := traceId
    parentSpanId := parentSpanId
    name := name
    provider := provider
    model := model
    inputMessages := inputMessages
    output := output
    error := error
    inputTokens := inputTokens
    outputTokens := outputTokens
    latencyMs := latencyMs
    startedAt := startedAt
    metadata := metadata }

/-- The bounds of the fields. -/
def SpanValues.Bounded (values : SpanValues) : Prop :=
  values.name.length ≤ 255 ∧ values.model.length ≤ 100 ∧ values.inputMessages.length ≤ 1000 ∧
    (∀ text ∈ values.output, text.length ≤ 100000) ∧
    (∀ text ∈ values.error, text.length ≤ 10000) ∧
    (0 ≤ values.inputTokens ∧ values.inputTokens ≤ 10000000) ∧
    (0 ≤ values.outputTokens ∧ values.outputTokens ≤ 10000000) ∧
    0 ≤ values.latencyMs ∧ values.latencyMs ≤ 3600000

instance (values : SpanValues) : Decidable values.Bounded :=
  inferInstanceAs (Decidable (_ ∧ _ ∧ _ ∧ _ ∧ _ ∧ _ ∧ _ ∧ _ ∧ _))

/-- The span of bounded values under an identifier. -/
def Validation.spanSchema (validation : Validation) (spanId : UUID) (values : SpanValues)
    (bounds : values.Bounded) : SpanSchema where
  spanId := spanId
  traceId := values.traceId
  parentSpanId := values.parentSpanId
  name := values.name
  provider := validation.normalizeProvider values.provider
  model := values.model
  inputMessages := values.inputMessages
  output := values.output
  error := values.error
  inputTokens := values.inputTokens.toNat
  outputTokens := values.outputTokens.toNat
  latencyMs := values.latencyMs
  startedAt := values.startedAt
  metadata := values.metadata
  name_le := bounds.1
  provider_mem := validation.normalizeProvider_mem values.provider
  model_le := bounds.2.1
  inputMessages_le := bounds.2.2.1
  output_le := bounds.2.2.2.1
  error_le := bounds.2.2.2.2.1
  inputTokens_le := by have := bounds.2.2.2.2.2.1; omega
  outputTokens_le := by have := bounds.2.2.2.2.2.2.1; omega
  latencyMs_nonneg := bounds.2.2.2.2.2.2.2.1
  latencyMs_le := bounds.2.2.2.2.2.2.2.2

/-- `SpanSchema` of a JSON document. -/
def Validation.span (validation : Validation) (now : Int) (uuid4 : UUID) (value : Json) :
    Option SpanSchema := do
  let entries ← dict? value
  let spanId ← validation.spanId uuid4 (entries.lookup "span_id")
  let values ← validation.spanValues entries
  if bounds : values.Bounded then
    constrained (SpanSchema.noFutureTimestamps now)
      (validation.spanSchema spanId values bounds)
  else none

/-- What validation takes from the document, the clock and the draw. -/
theorem span_eq_some {validation : Validation} {now : Int} {uuid4 : UUID} {value : Json}
    {span : SpanSchema} (validated : validation.span now uuid4 value = some span) :
    ∃ entries values bounds, dict? value = some entries ∧
      validation.spanId uuid4 (entries.lookup "span_id") = some span.spanId ∧
      validation.spanValues entries = some values ∧
      span = validation.spanSchema span.spanId values bounds ∧
      span.noFutureTimestamps now = true := by
  simp only [Validation.span, Option.bind_eq_bind, Option.bind_eq_some_iff] at validated
  obtain ⟨entries, isDict, spanId, identified, values, parsed, built⟩ := validated
  split at built
  · rename_i bounds
    obtain ⟨notFuture, rfl⟩ := constrained_eq_some built
    exact ⟨entries, values, bounds, isDict, identified, parsed, rfl, notFuture⟩
  · cases built

/-- What the values of a document take from it. -/
theorem spanValues_eq_some {validation : Validation} {entries : List (String × Json)}
    {values : SpanValues} (parsed : validation.spanValues entries = some values) :
    (entries.lookup "trace_id" >>= str? >>=
        constrained (fun text => 1 ≤ text.length && text.length ≤ 64) >>=
          validation.normalizeSpanIdentifier) = some values.traceId ∧
      optionalField (fun value => str? value >>= constrained (fun text => text.length ≤ 64) >>=
        validation.normalizeSpanIdentifier) (entries.lookup "parent_span_id") =
          some values.parentSpanId ∧
      (entries.lookup "provider" >>= str? >>= constrained fun text => text.length ≤ 50) =
        some values.provider := by
  rw [Validation.spanValues] at parsed
  obtain ⟨traceId, isTrace, parsed⟩ := Option.bind_eq_some_iff.mp parsed
  obtain ⟨parentSpanId, isParent, parsed⟩ := Option.bind_eq_some_iff.mp parsed
  obtain ⟨name, _, parsed⟩ := Option.bind_eq_some_iff.mp parsed
  obtain ⟨provider, isProvider, parsed⟩ := Option.bind_eq_some_iff.mp parsed
  obtain ⟨model, _, parsed⟩ := Option.bind_eq_some_iff.mp parsed
  obtain ⟨inputMessages, _, parsed⟩ := Option.bind_eq_some_iff.mp parsed
  obtain ⟨output, _, parsed⟩ := Option.bind_eq_some_iff.mp parsed
  obtain ⟨error, _, parsed⟩ := Option.bind_eq_some_iff.mp parsed
  obtain ⟨inputTokens, _, parsed⟩ := Option.bind_eq_some_iff.mp parsed
  obtain ⟨outputTokens, _, parsed⟩ := Option.bind_eq_some_iff.mp parsed
  obtain ⟨latencyMs, _, parsed⟩ := Option.bind_eq_some_iff.mp parsed
  obtain ⟨startedAt, _, parsed⟩ := Option.bind_eq_some_iff.mp parsed
  obtain ⟨metadata, _, parsed⟩ := Option.bind_eq_some_iff.mp parsed
  cases parsed
  exact ⟨isTrace, isParent, isProvider⟩

/-- The values of a document have its provider. -/
theorem provider_of_spanValues {validation : Validation} {entries : List (String × Json)}
    {values : SpanValues} {provider : String}
    (parsed : validation.spanValues entries = some values)
    (sent : entries.lookup "provider" = some (.str provider)) : values.provider = provider := by
  have isProvider := (spanValues_eq_some parsed).2.2
  rw [sent] at isProvider
  change constrained (fun text => text.length ≤ 50) provider = some values.provider at isProvider
  exact (constrained_eq_some isProvider).2.symm

/-- The spans of a list; `uuid4` draws a value for each position. -/
def Validation.spans (validation : Validation) (now : Int) (uuid4 : Nat → UUID) :
    Nat → List Json → Option (List SpanSchema)
  | _, [] => some []
  | position, value :: rest => do
      let span ← validation.span now (uuid4 position) value
      let spans ← validation.spans now uuid4 (position + 1) rest
      return span :: spans

/-! ### Requests -/

structure IngestRequest where
  spans : List SpanSchema
  idempotencyKey : Option String
  spans_pos : 1 ≤ spans.length
  spans_le : spans.length ≤ maxSpans
  idempotencyKey_le : ∀ key ∈ idempotencyKey, key.length ≤ 128

/-- `IngestRequest` of a JSON body. -/
def Validation.ingestRequest (validation : Validation) (now : Int) (uuid4 : Nat → UUID)
    (body : Json) : Option IngestRequest := do
  let entries ← dict? body
  let values ← entries.lookup "spans" >>= list?
  let spans ← validation.spans now uuid4 0 values
  let idempotencyKey ← optionalField str? (entries.lookup "idempotency_key")
  if bounds : (1 ≤ spans.length ∧ spans.length ≤ maxSpans) ∧
      ∀ key ∈ idempotencyKey, key.length ≤ 128 then
    some ⟨spans, idempotencyKey, bounds.1.1, bounds.1.2, bounds.2⟩
  else none

end LlmObs.Backend
