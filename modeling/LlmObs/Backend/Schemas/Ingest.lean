import LlmObs.Foundation.Json
import LlmObs.Foundation.Uuid
import LlmObs.Foundation.Datetime

/-!
Owns the validated spans of an ingest request. A `SpanSchema` carries the bounds
that validation established, so an out-of-range span cannot be built.
-/

namespace LlmObs.Backend

open LlmObs.Foundation

def allowedProviders : List String :=
  ["openai", "anthropic", "gigachat", "yandexgpt", "ollama", "gemini", "mistral", "cohere",
    "custom"]

/-- A span that validation accepted; identifiers are normalised to UUIDs. -/
structure SpanSchema where
  spanId : UUID
  traceId : UUID
  parentSpanId : Option UUID := none
  name : String := "llm_call"
  provider : String
  model : String
  inputMessages : List Json := []
  output : Option String := none
  error : Option String := none
  inputTokens : Nat := 0
  outputTokens : Nat := 0
  latencyMs : ℚ
  startedAt : Datetime
  metadata : List (String × Json) := []
  name_le : name.length ≤ 255 := by decide
  provider_mem : provider ∈ allowedProviders := by decide
  model_le : model.length ≤ 100 := by decide
  inputMessages_le : inputMessages.length ≤ 1000 := by decide
  output_le : ∀ text ∈ output, text.length ≤ 100000 := by decide
  error_le : ∀ text ∈ error, text.length ≤ 10000 := by decide
  inputTokens_le : inputTokens ≤ 10000000 := by decide
  outputTokens_le : outputTokens ≤ 10000000 := by decide
  latencyMs_nonneg : 0 ≤ latencyMs := by decide +kernel
  latencyMs_le : latencyMs ≤ 3600000 := by decide +kernel

/-- The longest list of spans that `IngestRequest` accepts. -/
def maxSpans : Nat := 100

/-- `no_future_timestamps`: a naive start counts as UTC, and at most five minutes
of clock skew are allowed. -/
def SpanSchema.noFutureTimestamps (now : Int) (span : SpanSchema) : Bool :=
  let instant := match span.startedAt.instant? with
    | some instant => instant
    | none => span.startedAt.wall
  decide (instant ≤ now + 5 * microsecondsPerMinute)

end LlmObs.Backend
