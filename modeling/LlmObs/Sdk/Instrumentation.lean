import Mathlib.Data.List.Basic
import Mathlib.Data.String.Basic

/-!
Owns what the SDK does around the code of an application: the wrapper of `@trace`, the
blocks of `ManualSpan`, and the patched calls of the OpenAI and Anthropic clients with their
streams. All of them share two context variables. A run of an application is a program over
these, with exceptions that pass through them.
-/

namespace LlmObs.Sdk

/-! ### Exceptions -/

/-- An exception that is raised. -/
structure Raised where
  /-- `isinstance(exc, Exception)`: not a cancellation, an exit or the like. -/
  isException : Bool
  /-- `bool(exc)` -/
  truthy : Bool
  /-- `str(exc)` -/
  message : String
  /-- What the traceback module prints of it, which is never empty. -/
  formatted : String
  formatted_ne : formatted ≠ ""

/-- How a body ends. -/
inductive Ending where
  | returned
  | raised (exception : Raised)

def Ending.IsRaised : Ending → Prop
  | .returned => False
  | .raised _ => True

/-! ### The errors that are recorded -/

/-- `except Exception: error_str = tb.format_exc()` -/
def traceError : Ending → Option String
  | .raised exception => if exception.isException then some exception.formatted else none
  | .returned => none

/-- `"".join(tb.format_exception(exc_type, exc, traceback)) if exc else None` -/
def manualError : Ending → Option String
  | .raised exception => if exception.truthy then some exception.formatted else none
  | .returned => none

/-- `except Exception as e: error_str = str(e)` -/
def clientError : Ending → Option String
  | .raised exception => if exception.isException then some exception.message else none
  | .returned => none

/-! ### Spans -/

/-- The entries of a recorded span that say what it is, where it stands and how it ended. -/
structure SpanData (Id : Type) where
  traceId : Id
  spanId : Id
  name : String
  provider : String
  parentSpanId : Option Id
  error : Option String

/-- One activation of a mechanism: the ids that it uses, and, beside the code, the span ids
of the activations around it, innermost first. -/
structure Activation (Id : Type) where
  traceId : Id
  spanId : Id
  parentSpanId : Option Id
  enclosing : List Id

def Activation.span {Id : Type} (activation : Activation Id) (name provider : String)
    (error : Option String) : SpanData Id :=
  ⟨activation.traceId, activation.spanId, name, provider, activation.parentSpanId, error⟩

/-- What `ManualSpan.__init__` keeps, and, beside the code, the activations around it. -/
structure ManualSpan (Id : Type) where
  name : String
  traceId : Id
  spanId : Id
  parentSpanId : Option Id
  createdUnder : List Id

inductive Client where
  | openai
  | anthropic
deriving DecidableEq, Repr

def Client.spanName : Client → String
  | .openai => "openai.chat.completions.create"
  | .anthropic => "anthropic.messages.create"

def Client.provider : Client → String
  | .openai => "openai"
  | .anthropic => "anthropic"

/-- A `_TracedOpenAIStream` or `_TracedAnthropicStream`. -/
structure TracedStream (Id : Type) where
  client : Client
  traceId : Id
  spanId : Id
  parentSpanId : Option Id
  recorded : Bool

/-- `self._recorded = True` -/
def TracedStream.ended {Id : Type} (stream : TracedStream Id) : TracedStream Id :=
  { stream with recorded := true }

/-- What the finally block of a wrapped function records. -/
def traceSpan {Id : Type} (activation : Activation Id) (name : String) (ending : Ending) :
    SpanData Id :=
  activation.span name "custom" (traceError ending)

/-- What `__aexit__` records. -/
def manualSpan {Id : Type} (activation : Activation Id) (name : String) (ending : Ending) :
    SpanData Id :=
  activation.span name "custom" (manualError ending)

/-- What a patched call records for a response. Where the body returned a response on which
`_extract_usage` or `_extract_output` raises, the exception is swallowed with the span. -/
def clientSpan {Id : Type} (client : Client) (activation : Activation Id) (readable : Bool)
    (ending : Ending) : Option (SpanData Id) :=
  match ending with
  | .returned =>
      if readable then
        some (activation.span client.spanName client.provider (clientError .returned))
      else none
  | .raised exception =>
      some (activation.span client.spanName client.provider (clientError (.raised exception)))

/-- What `_record` hands to the tracer. Where the captured deltas cannot be joined, the
exception is swallowed with the span. -/
def streamSpan {Id : Type} (stream : TracedStream Id) (readable : Bool) (ending : Ending) :
    Option (SpanData Id) :=
  if readable then
    some ⟨stream.traceId, stream.spanId, stream.client.spanName, stream.client.provider,
      stream.parentSpanId, clientError ending⟩
  else none

/-! ### Programs -/

/-- What the foreign call of a patched client returns. -/
inductive Reply where
  | response (readable : Bool)
  /-- An asynchronous stream, which the caller keeps in a variable. -/
  | stream (slot : Nat)
deriving DecidableEq, Repr

/-- What an application does in one run, in one task. -/
inductive Program where
  | skip
  | seq (first second : Program)
  | raise (exception : Raised)
  /-- `try: body` with an `except` clause for some exceptions. -/
  | attempt (catches : Raised → Bool) (body handler : Program)
  /-- A call of a function under `@trace`. -/
  | trace (name : String) (body : Program)
  /-- `slot = span(name)` -/
  | createSpan (slot : Nat) (name : String)
  /-- `async with slot: body` -/
  | withSpan (slot : Nat) (body : Program)
  /-- A patched call, where the foreign call does `body`. -/
  | call (client : Client) (reply : Reply) (body : Program)
  /-- The traced stream of a variable comes to its end, after the foreign stream did
  `body`. -/
  | endStream (slot : Nat) (readable : Bool) (body : Program)

/-- An entry of a `ManualSpan`, with the activations around its creation and its entry. -/
structure Entry (Id : Type) where
  spanId : Id
  createdUnder : List Id
  enteredUnder : List Id

structure SdkState (Id : Type) where
  /-- `_current_trace_id` -/
  currentTraceId : Option Id
  /-- `_current_span_id` -/
  currentSpanId : Option Id
  /-- How often `uuid.uuid4()` was called. -/
  draws : Nat
  slots : Nat → Option (ManualSpan Id)
  streams : List (TracedStream Id)
  streamSlots : Nat → Option Nat
  /-- What the tracer was given. -/
  recorded : List (SpanData Id)
  /-- Beside the code: the activations so far, the entries of manual spans, and the
  activations whose response or stream could not be read. -/
  activations : List (Activation Id)
  entries : List (Entry Id)
  unreadable : List Id

def SdkState.start {Id : Type} : SdkState Id :=
  ⟨none, none, 0, fun _ => none, [], fun _ => none, [], [], [], []⟩

namespace SdkState

variable {Id : Type}

/-- Both variables are set. -/
def enter (activation : Activation Id) (entries : List (Entry Id)) (state : SdkState Id) :
    SdkState Id :=
  { state with
    currentTraceId := some activation.traceId
    currentSpanId := some activation.spanId
    activations := state.activations ++ [activation]
    entries := state.entries ++ entries }

/-- Both variables are reset to what they were. -/
def leave (state before : SdkState Id) : SdkState Id :=
  { state with currentTraceId := before.currentTraceId, currentSpanId := before.currentSpanId }

def record (span : SpanData Id) (state : SdkState Id) : SdkState Id :=
  { state with recorded := state.recorded ++ [span] }

/-- The span of an activation is recorded, unless it was swallowed. -/
def recordOr (spanId : Id) (span : Option (SpanData Id)) (state : SdkState Id) : SdkState Id :=
  match span with
  | some span => state.record span
  | none => { state with unreadable := state.unreadable ++ [spanId] }

/-- A traced stream is made and kept in a variable. -/
def addStream (slot : Nat) (stream : TracedStream Id) (state : SdkState Id) : SdkState Id :=
  { state with
    streams := state.streams ++ [stream]
    streamSlots := fun other => if other = slot then some state.streams.length
      else state.streamSlots other }

/-- `_record` of a traced stream, which does nothing the second time. -/
def recordStream (index : Nat) (readable : Bool) (ending : Ending) (state : SdkState Id) :
    SdkState Id :=
  match state.streams[index]? with
  | none => state
  | some stream =>
      if stream.recorded then state
      else
        recordOr stream.spanId (streamSpan stream readable ending)
          { state with streams := state.streams.set index stream.ended }

/-- The finally block of a patched call. A stream that was returned is recorded at its end. -/
def endCall (client : Client) (activation : Activation Id) (reply : Reply) (ending : Ending)
    (state : SdkState Id) : SdkState Id :=
  match ending, reply with
  | .returned, .stream slot =>
      state.addStream slot
        ⟨client, activation.traceId, activation.spanId, activation.parentSpanId, false⟩
  | .returned, .response readable =>
      state.recordOr activation.spanId (clientSpan client activation readable .returned)
  | .raised exception, _ =>
      state.recordOr activation.spanId (clientSpan client activation true (.raised exception))

variable (uuid4 : Nat → Id)

/-- The ids of a wrapped function and of a patched call: a new span id, and the current trace
id or a new one. -/
def newActivation (stack : List Id) (state : SdkState Id) : Activation Id where
  traceId := state.currentTraceId.getD (uuid4 (state.draws + 1))
  spanId := uuid4 state.draws
  parentSpanId := state.currentSpanId
  enclosing := stack

/-- The state after these draws. -/
def drawn (state : SdkState Id) : SdkState Id :=
  { state with draws := state.draws + if state.currentTraceId.isSome then 1 else 2 }

/-- `ManualSpan.__init__` -/
def newManualSpan (stack : List Id) (name : String) (state : SdkState Id) : ManualSpan Id :=
  match state.currentTraceId with
  | some traceId => ⟨name, traceId, uuid4 state.draws, state.currentSpanId, stack⟩
  | none => ⟨name, uuid4 state.draws, uuid4 (state.draws + 1), state.currentSpanId, stack⟩

def setSlot (slot : Nat) (span : ManualSpan Id) (state : SdkState Id) : SdkState Id :=
  { state with slots := fun other => if other = slot then some span else state.slots other }

/-- `ManualSpan.__aenter__`: the ids are taken anew. -/
def manualActivation (stack : List Id) (span : ManualSpan Id) (state : SdkState Id) :
    Activation Id where
  traceId := state.currentTraceId.getD span.traceId
  spanId := span.spanId
  parentSpanId := state.currentSpanId
  enclosing := stack

end SdkState

/-- A variable that was never assigned. -/
def nameError : Raised := ⟨true, true, "name is not defined", "NameError", by decide⟩

variable {Id : Type}

/-- A run, with the activations around it. -/
def eval (uuid4 : Nat → Id) (stack : List Id) :
    Program → SdkState Id → Ending × SdkState Id
  | .skip, state => (.returned, state)
  | .seq first second, state =>
      let ran := eval uuid4 stack first state
      match ran.1 with
      | .returned => eval uuid4 stack second ran.2
      | .raised exception => (.raised exception, ran.2)
  | .raise exception, state => (.raised exception, state)
  | .attempt catches body handler, state =>
      let ran := eval uuid4 stack body state
      match ran.1 with
      | .returned => (.returned, ran.2)
      | .raised exception =>
          if catches exception then eval uuid4 stack handler ran.2
          else (.raised exception, ran.2)
  | .trace name body, state =>
      let activation := state.newActivation uuid4 stack
      let ran := eval uuid4 (activation.spanId :: stack) body (state.drawn.enter activation [])
      (ran.1, (ran.2.leave state).record (traceSpan activation name ran.1))
  | .createSpan slot name, state =>
      (.returned, state.drawn.setSlot slot (state.newManualSpan uuid4 stack name))
  | .withSpan slot body, state =>
      match state.slots slot with
      | none => (.raised nameError, state)
      | some span =>
          let activation := state.manualActivation stack span
          let ran := eval uuid4 (activation.spanId :: stack) body
            (state.enter activation [⟨span.spanId, span.createdUnder, stack⟩])
          (ran.1, (ran.2.leave state).record (manualSpan activation span.name ran.1))
  | .call client reply body, state =>
      let activation := state.newActivation uuid4 stack
      let ran := eval uuid4 (activation.spanId :: stack) body (state.drawn.enter activation [])
      (ran.1, (ran.2.leave state).endCall client activation reply ran.1)
  | .endStream slot readable body, state =>
      match state.streamSlots slot with
      | none => (.raised nameError, state)
      | some index =>
          let ran := eval uuid4 stack body state
          (ran.1, ran.2.recordStream index readable ran.1)

end LlmObs.Sdk
