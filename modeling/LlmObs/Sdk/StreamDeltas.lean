import LlmObs.Sdk.Instrumentation

/-!
Owns what the traced streams read out of a chunk: the text delta and the token counts of an
OpenAI chunk and of an Anthropic event, from values of any shape.
-/

namespace LlmObs.Sdk

/-- A value that a client library hands out. -/
inductive PyValue where
  | none
  | bool (value : Bool)
  | int (value : Int)
  | str (text : String)
  | list (items : List PyValue)
  | dict (entries : List (String × PyValue))
  | object (attributes : List (String × PyValue))

/-- What Python's own functions give on values where it is not written out here. -/
structure Builtins where
  /-- `str(value)` of a value that is not a str -/
  shown : PyValue → String
  /-- `int(value)` of a value that is not an int -/
  parsed : PyValue → Except Raised Int
  /-- `value[0]` where it raises -/
  notSubscriptable : PyValue → Raised

namespace PyValue

/-- `bool(value)` -/
def truthy : PyValue → Bool
  | .none => false
  | .bool value => value
  | .int value => value ≠ 0
  | .str text => text ≠ ""
  | .list items => ! items.isEmpty
  | .dict entries => ! entries.isEmpty
  | .object _ => true

/-- `value or default` -/
def orElse (value default : PyValue) : PyValue := if value.truthy then value else default

/-- `value is None` -/
def isNone : PyValue → Bool
  | .none => true
  | _ => false

/-- The text of a str. -/
def text? : PyValue → Option String
  | .str text => some text
  | _ => Option.none

variable (builtins : Builtins)

/-- `str(value)` -/
def toStr : PyValue → String
  | .str text => text
  | value => builtins.shown value

/-- `int(value)` -/
def toInt : PyValue → Except Raised Int
  | .int value => .ok value
  | .bool value => .ok (if value then 1 else 0)
  | value => builtins.parsed value

/-- `value[0]` -/
def first : PyValue → Except Raised PyValue
  | .list (item :: _) => .ok item
  | .str text =>
      match text.toList with
      | letter :: _ => .ok (.str (String.singleton letter))
      | [] => .error (builtins.notSubscriptable (.str text))
  | value => .error (builtins.notSubscriptable value)

end PyValue

/-- `_get_value` -/
def getValue (obj : PyValue) (name : String) (default : PyValue) : PyValue :=
  match obj with
  | .dict entries => (entries.lookup name).getD default
  | .object attributes => (attributes.lookup name).getD default
  | _ => default

/-- `int(_get_value(usage, name, 0) or 0)` -/
def tokenCount (builtins : Builtins) (usage : PyValue) (name : String) : Except Raised Int :=
  ((getValue usage name (.int 0)).orElse (.int 0)).toInt builtins

/-! ### What is kept of a stream -/

/-- `_output_parts`, `_input_tokens` and `_output_tokens` -/
structure Capture where
  parts : List PyValue
  inputTokens : Int
  outputTokens : Int

def Capture.start : Capture := ⟨[], 0, 0⟩

/-- `if delta: self._output_parts.append(delta)` -/
def Capture.append (capture : Capture) (delta : PyValue) : Capture :=
  if delta.truthy then { capture with parts := capture.parts ++ [delta] } else capture

namespace OpenAI

variable (builtins : Builtins)

/-- `_extract_usage` -/
def extractUsage (response : PyValue) : Except Raised (Int × Int) := do
  let usage := getValue response "usage" .none
  let inputTokens ← tokenCount builtins usage "prompt_tokens"
  let outputTokens ← tokenCount builtins usage "completion_tokens"
  return (inputTokens, outputTokens)

/-- `_extract_stream_delta` -/
def extractStreamDelta (chunk : PyValue) : Except Raised PyValue := do
  let choices := (getValue chunk "choices" (.list [])).orElse (.list [])
  if choices.truthy then
    let choice ← choices.first builtins
    let delta := getValue choice "delta" .none
    return (getValue delta "content" (.str "")).orElse (.str "")
  else
    return .str ""

/-- `_capture_chunk`, with the exception it raises. What it did before stays done. -/
def captureChunk (capture : Capture) (chunk : PyValue) : Capture × Option Raised :=
  match extractStreamDelta builtins chunk with
  | .error exception => (capture, some exception)
  | .ok delta =>
      let appended := capture.append delta
      if (getValue chunk "usage" .none).isNone then (appended, none)
      else
        match extractUsage builtins chunk with
        | .error exception => (appended, some exception)
        | .ok (inputTokens, outputTokens) =>
            ({ appended with inputTokens := inputTokens, outputTokens := outputTokens }, none)

end OpenAI

namespace Anthropic

variable (builtins : Builtins)

/-- `_extract_stream_delta` -/
def extractStreamDelta (event : PyValue) : PyValue :=
  let text := getValue (getValue event "delta" .none) "text" .none
  if text.truthy then .str (text.toStr builtins)
  else
    let text := getValue (getValue event "content_block" .none) "text" .none
    .str (if text.truthy then text.toStr builtins else "")

/-- `_extract_message_start_usage` -/
def extractMessageStartUsage (event : PyValue) : Except Raised (Int × Int) := do
  let message := getValue event "message" .none
  let usage := getValue message "usage" .none
  let inputTokens ← tokenCount builtins usage "input_tokens"
  let outputTokens ← tokenCount builtins usage "output_tokens"
  return (inputTokens, outputTokens)

/-- `_capture_event`, with the exception it raises. What it did before stays done. -/
def captureEvent (capture : Capture) (event : PyValue) : Capture × Option Raised :=
  let appended := capture.append (extractStreamDelta builtins event)
  match extractMessageStartUsage builtins event with
  | .error exception => (appended, some exception)
  | .ok (startInputTokens, startOutputTokens) =>
      let started :=
        if startInputTokens ≠ 0 ∨ startOutputTokens ≠ 0 then
          { appended with inputTokens := startInputTokens, outputTokens := startOutputTokens }
        else appended
      let usage := getValue event "usage" .none
      if usage.isNone then (started, none)
      else
        match tokenCount builtins usage "output_tokens" with
        | .error exception => (started, some exception)
        | .ok outputTokens =>
            if outputTokens ≠ 0 then ({ started with outputTokens := outputTokens }, none)
            else (started, none)

end Anthropic

namespace Client

/-- `_capture_chunk` or `_capture_event` -/
def capture (builtins : Builtins) : Client → Capture → PyValue → Capture × Option Raised
  | .openai => OpenAI.captureChunk builtins
  | .anthropic => Anthropic.captureEvent builtins

/-- The exception that reading a chunk raises, if any. -/
def unreadable (builtins : Builtins) (client : Client) (chunk : PyValue) : Option Raised :=
  (client.capture builtins .start chunk).2

/-- The delta that is kept of a chunk: none, or one that is not empty. -/
def deltas (builtins : Builtins) (client : Client) (chunk : PyValue) : List PyValue :=
  (client.capture builtins .start chunk).1.parts

/-- The text delta of a chunk, which is empty if it has none. -/
def textDelta (builtins : Builtins) (client : Client) (chunk : PyValue) : String :=
  String.join ((client.deltas builtins chunk).filterMap PyValue.text?)

end Client

/-! ### A chunk is read alike at every point of a stream -/

theorem Capture.append_parts (capture : Capture) (delta : PyValue) :
    (capture.append delta).parts = capture.parts ++ (Capture.start.append delta).parts := by
  rw [Capture.append, Capture.append]
  split
  · rfl
  · exact (List.append_nil _).symm

theorem OpenAI.captureChunk_start (builtins : Builtins) (capture : Capture) (chunk : PyValue) :
    (captureChunk builtins capture chunk).1.parts =
        capture.parts ++ (captureChunk builtins .start chunk).1.parts ∧
      (captureChunk builtins capture chunk).2 = (captureChunk builtins .start chunk).2 := by
  rw [captureChunk, captureChunk]
  cases extractStreamDelta builtins chunk with
  | error exception => exact ⟨(List.append_nil _).symm, rfl⟩
  | ok delta =>
      by_cases absent : (getValue chunk "usage" .none).isNone = true
      · simp only [absent, if_true]
        exact ⟨capture.append_parts delta, trivial⟩
      · simp only [absent]
        cases extractUsage builtins chunk with
        | error exception => exact ⟨capture.append_parts delta, rfl⟩
        | ok tokens => exact ⟨capture.append_parts delta, rfl⟩

/-- Reading the token counts of an event changes nothing of the parts. -/
theorem Anthropic.captureEvent_parts (builtins : Builtins) (capture : Capture)
    (event : PyValue) :
    (captureEvent builtins capture event).1.parts =
      (capture.append (extractStreamDelta builtins event)).parts := by
  rw [captureEvent]
  cases extractMessageStartUsage builtins event with
  | error exception => rfl
  | ok tokens =>
      by_cases started : tokens.1 ≠ 0 ∨ tokens.2 ≠ 0 <;>
        by_cases absent : (getValue event "usage" .none).isNone = true <;>
        simp only [started, absent] <;>
        cases tokenCount builtins (getValue event "usage" .none) "output_tokens" <;>
        grind

theorem Anthropic.captureEvent_raised (builtins : Builtins) (capture : Capture)
    (event : PyValue) :
    (captureEvent builtins capture event).2 = (captureEvent builtins .start event).2 := by
  rw [captureEvent, captureEvent]
  cases extractMessageStartUsage builtins event with
  | error exception => rfl
  | ok tokens =>
      by_cases absent : (getValue event "usage" .none).isNone = true
      · simp only [absent, if_true]
      · simp only [absent]
        cases tokenCount builtins (getValue event "usage" .none) "output_tokens" <;> grind

theorem Client.capture_parts (builtins : Builtins) (client : Client) (capture : Capture)
    (chunk : PyValue) :
    (client.capture builtins capture chunk).1.parts =
      capture.parts ++ client.deltas builtins chunk := by
  cases client with
  | openai => exact (OpenAI.captureChunk_start builtins capture chunk).1
  | anthropic =>
      have here := Anthropic.captureEvent_parts builtins capture chunk
      have atStart := Anthropic.captureEvent_parts builtins .start chunk
      rw [Client.deltas, Client.capture, here, atStart]
      exact capture.append_parts _

theorem Client.capture_raised (builtins : Builtins) (client : Client) (capture : Capture)
    (chunk : PyValue) :
    (client.capture builtins capture chunk).2 = client.unreadable builtins chunk := by
  cases client with
  | openai => exact (OpenAI.captureChunk_start builtins capture chunk).2
  | anthropic => exact Anthropic.captureEvent_raised builtins capture chunk

/-- An Anthropic stream keeps text only. -/
theorem Client.text_of_anthropic (builtins : Builtins) (event : PyValue) :
    ∀ delta ∈ Client.anthropic.deltas builtins event, delta.text?.isSome := by
  have isText : (Anthropic.extractStreamDelta builtins event).text?.isSome := by
    rw [Anthropic.extractStreamDelta]
    split <;> rfl
  intro delta member
  rw [Client.deltas, Client.capture, Anthropic.captureEvent_parts, Capture.append] at member
  split at member
  · rwa [List.mem_singleton.mp member]
  · cases member

end LlmObs.Sdk
