import Mathlib.Data.Rat.Floor
import LlmObs.Backend.Runtime
import LlmObs.Foundation.Dict
import LlmObs.Foundation.Outcome
import LlmObs.Foundation.Uuid

/-!
Owns `OTLPConverter`: the spans it makes of an `ExportTraceServiceRequest`, which it
reads once from protobuf messages and once from the dicts of OTLP/JSON. Members of
messages and dicts that it does not read are left out, and a list that is absent counts
as an empty one. No member is `null`.
-/

namespace LlmObs.Backend

open LlmObs.Foundation

/-! ### Python values -/

/-- A `float`; the sign of zero is left out. -/
inductive PyFloat where
  | finite (value : ℚ)
  | infinity (negative : Bool)
  | nan
deriving DecidableEq, Repr

/-- A value of the metadata of a converted span. -/
inductive PyValue where
  | none
  | bool (value : Bool)
  | int (value : Int)
  | float (value : PyFloat)
  | str (text : String)
  | list (items : List PyValue)
  | dict (entries : List (String × PyValue))
deriving Repr

/-- What the converter takes from Python. -/
structure OtlpLibrary where
  runtime : Runtime
  /-- `int(text)`; `none` is its `ValueError`. -/
  int? : String → Option Int
  /-- `float(text)`; `none` is its `ValueError`. -/
  float? : String → Option PyFloat
  /-- `float(integer)`; `none` is its `OverflowError`. -/
  floatOfInt? : Int → Option PyFloat
  /-- `str(value)` of a value that is no text. -/
  str : PyValue → String
  /-- `float(nanoseconds / 1_000_000)`; `none` is its `OverflowError`. -/
  millis? : Int → Option ℚ
  /-- `datetime.fromtimestamp(nanoseconds / 1e9, tz=UTC).isoformat()`; `none` is its
  exception. -/
  isoformat? : Int → Option String
  int?_repr : ∀ value : Int, -2 ^ 64 < value → value < 2 ^ 64 →
    int? value.repr = some value
  float?_infinity : float? "Infinity" = some (.infinity false)
  float?_negativeInfinity : float? "-Infinity" = some (.infinity true)
  float?_nan : float? "NaN" = some .nan
  millis?_isSome : ∀ nanoseconds : Int, -2 ^ 64 < nanoseconds → nanoseconds < 2 ^ 64 →
    (millis? nanoseconds).isSome = true
  isoformat?_isSome : ∀ nanoseconds : Int, 0 ≤ nanoseconds → nanoseconds < 2 ^ 64 →
    (isoformat? nanoseconds).isSome = true

def intTypeError : PyException := ⟨.typeError, "int() argument must be a string or a real number"⟩
def intValueError : PyException := ⟨.valueError, "invalid literal for int() with base 10"⟩
def nanValueError : PyException := ⟨.valueError, "cannot convert float NaN to integer"⟩
def floatValueError : PyException := ⟨.valueError, "could not convert string to float"⟩

/-- `OverflowError` -/
def infinityOverflowError : PyException := ⟨.other, "cannot convert float infinity to integer"⟩
def intOverflowError : PyException := ⟨.other, "int too large to convert to float"⟩

/-- `OverflowError` or `ValueError`, by the platform. -/
def timestampError : PyException := ⟨.other, "timestamp out of range for platform time_t"⟩

/-- `AttributeError` of a message without the attribute. -/
def attributeError : PyException := ⟨.other, "get"⟩

/-- The value, or the exception that `none` stands for. -/
def orRaise {α : Type} (exception : PyException) : Option α → Except PyException α
  | some value => .ok value
  | .none => .error exception

/-- `int` of a finite float. -/
def truncate (value : ℚ) : Int := if 0 ≤ value then ⌊value⌋ else ⌈value⌉

/-- `int(value)` -/
def OtlpLibrary.int (library : OtlpLibrary) : PyValue → Except PyException Int
  | .bool value => .ok (if value then 1 else 0)
  | .int value => .ok value
  | .float (.finite value) => .ok (truncate value)
  | .float (.infinity _) => .error infinityOverflowError
  | .float .nan => .error nanValueError
  | .str text => orRaise intValueError (library.int? text)
  | .none | .list _ | .dict _ => .error intTypeError

/-- `_parse_int`, whose default is always zero. -/
def OtlpLibrary.parseInt (library : OtlpLibrary) (value : PyValue) : Except PyException Int :=
  match library.int value with
  | .ok value => .ok value
  | .error exception =>
      if exception.type = .typeError ∨ exception.type = .valueError then .ok 0
      else .error exception

/-! ### Attributes -/

def genaiProviderAttributes : List String := ["gen_ai.provider.name", "gen_ai.system"]
def genaiModelAttributes : List String := ["gen_ai.response.model", "gen_ai.request.model"]

def genaiInputTokenAttributes : List String :=
  ["gen_ai.usage.input_tokens", "gen_ai.usage.prompt_tokens"]

def genaiOutputTokenAttributes : List String :=
  ["gen_ai.usage.output_tokens", "gen_ai.usage.completion_tokens"]

/-- The attributes of a converted span. -/
abbrev PyAttributes := List (String × PyValue)

/-- `value not in (None, "")` -/
def PyValue.isGiven : PyValue → Bool
  | .none => false
  | .str text => decide (text ≠ "")
  | _ => true

/-- `str(value)` -/
def OtlpLibrary.strOf (library : OtlpLibrary) : PyValue → String
  | .str text => text
  | value => library.str value

/-- `_get_attr_str` -/
def OtlpLibrary.getAttrStr (library : OtlpLibrary) (attrs : PyAttributes) (default : String) :
    List String → String
  | [] => default
  | name :: names =>
      match attrs.lookup name with
      | some value =>
          if value.isGiven then library.strOf value
          else library.getAttrStr attrs default names
      | none => library.getAttrStr attrs default names

/-- `_get_attr_int` -/
def OtlpLibrary.getAttrInt (library : OtlpLibrary) (attrs : PyAttributes) :
    List String → Except PyException Int
  | [] => .ok 0
  | name :: names =>
      match attrs.lookup name with
      | some value => library.parseInt value
      | none => library.getAttrInt attrs names

/-! ### Converted spans -/

/-- The dict that `_extract_spans` makes of a span. -/
structure ConvertedSpan where
  spanId : String
  traceId : String
  parentSpanId : Option String
  name : String
  provider : String
  model : String
  inputTokens : Int
  outputTokens : Int
  error : Option String
  latencyMs : ℚ
  startedAt : String
  metadata : PyAttributes

/-- `text or None` -/
def orNone (text : String) : Option String := if text = "" then none else some text

/-- The fields of a span as the readers give them. Which of several exceptions comes first
is left out: each of them leaves no spans. -/
def OtlpLibrary.convert (library : OtlpLibrary) (spanId traceId parentSpanId name : String)
    (attrs : PyAttributes) (error : Option String) (latencyMs : ℚ) (startedAt : String) :
    Except PyException ConvertedSpan := do
  let inputTokens ← library.getAttrInt attrs genaiInputTokenAttributes
  let outputTokens ← library.getAttrInt attrs genaiOutputTokenAttributes
  return {
    spanId := spanId
    traceId := traceId
    parentSpanId := orNone parentSpanId
    name := name
    provider := library.getAttrStr attrs "custom" genaiProviderAttributes
    model := library.getAttrStr attrs "unknown" genaiModelAttributes
    inputTokens := inputTokens
    outputTokens := outputTokens
    error := error
    latencyMs := latencyMs
    startedAt := startedAt
    metadata := attrs }

/-- `trace_pb2.Status.STATUS_CODE_ERROR` -/
def statusCodeError : Int := 2

/-- `_get_status_error` of a status with this code and message. -/
def OtlpLibrary.statusError (library : OtlpLibrary) (code : Int) (message : String) :
    Option String :=
  if code = statusCodeError then
    let message := library.runtime.strip message
    some (if message = "" then "OTLP span status ERROR" else message)
  else none

/-- `_get_latency` -/
def OtlpLibrary.latency (library : OtlpLibrary) (start finish : Int) : Except PyException ℚ :=
  orRaise intOverflowError (library.millis? (finish - start))

/-- `_get_time` -/
def OtlpLibrary.time (library : OtlpLibrary) (start : Int) : Except PyException String :=
  orRaise timestampError (library.isoformat? start)

/-! ### Requests -/

/-- `ScopeSpans`, over the representation of its spans. -/
structure ScopeSpans (Span : Type) where
  spans : List Span

structure ResourceSpans (Span : Type) where
  scopeSpans : List (ScopeSpans Span)

/-- The spans of a request in document order. -/
def requestSpans {Span : Type} (resourceSpans : List (ResourceSpans Span)) : List Span :=
  resourceSpans.flatMap fun rs => rs.scopeSpans.flatMap (·.spans)

/-- `_extract_spans` -/
def extractSpans {Span : Type} (convert : Span → Except PyException ConvertedSpan)
    (resourceSpans : List (ResourceSpans Span)) : Except PyException (List ConvertedSpan) :=
  (requestSpans resourceSpans).mapM convert

/-! ### Protobuf messages -/

/-- `AnyValue` -/
inductive AnyValue where
  /-- `WhichOneof("value")` is `None`. -/
  | unset
  | string (text : String)
  | bool (value : Bool)
  | int (value : Int64)
  | double (value : PyFloat)
  | array (values : List AnyValue)
  | kvlist (values : List (String × AnyValue))
  | bytes (value : List UInt8)

structure ProtoStatus where
  message : String
  code : Int32

structure ProtoSpan where
  traceId : List UInt8
  spanId : List UInt8
  parentSpanId : List UInt8
  name : String
  startTimeUnixNano : UInt64
  endTimeUnixNano : UInt64
  attributes : List (String × AnyValue)
  status : Option ProtoStatus

/-- `bytes.hex` -/
def hexText (bytes : List UInt8) : String :=
  String.ofList (bytes.flatMap fun byte =>
    [UUID.hexDigit (Fin.ofNat 16 (byte.toNat / 16)), UUID.hexDigit (Fin.ofNat 16 byte.toNat)])

mutual

/-- `_decode_any_value` of a message, with the text that it makes of bytes. -/
def AnyValue.decode (bytesText : List UInt8 → String) : AnyValue → PyValue
  | .unset => .none
  | .string text => .str text
  | .bool value => .bool value
  | .int value => .int value.toInt
  | .double value => .float value
  | .array values => .list (decodeItems bytesText values)
  | .kvlist values => .dict (Dict.ofEntries (decodeEntries bytesText values))
  | .bytes value => .str (bytesText value)

def AnyValue.decodeItems (bytesText : List UInt8 → String) : List AnyValue → List PyValue
  | [] => []
  | item :: rest => item.decode bytesText :: decodeItems bytesText rest

def AnyValue.decodeEntries (bytesText : List UInt8 → String) :
    List (String × AnyValue) → List (String × PyValue)
  | [] => []
  | (key, value) :: rest => (key, value.decode bytesText) :: decodeEntries bytesText rest

end

/-- `_get_attrs` of a message: an empty field is falsy, and a message has no `get`. -/
def ProtoSpan.getAttrs (span : ProtoSpan) : Except PyException PyAttributes :=
  if span.attributes = [] then .error attributeError
  else .ok (Dict.ofEntries (AnyValue.decodeEntries hexText span.attributes))

/-- `_get_status_error` of a message, where an unset status is the default one. -/
def ProtoSpan.getStatusError (library : OtlpLibrary) (span : ProtoSpan) : Option String :=
  let status := span.status.getD ⟨"", 0⟩
  library.statusError status.code.toInt status.message

/-- The body of the loop of `_extract_spans`. -/
def ProtoSpan.convert (library : OtlpLibrary) (span : ProtoSpan) :
    Except PyException ConvertedSpan := do
  let attrs ← span.getAttrs
  let latencyMs ← library.latency span.startTimeUnixNano.toNat span.endTimeUnixNano.toNat
  let startedAt ← library.time span.startTimeUnixNano.toNat
  library.convert (hexText span.spanId) (hexText span.traceId) (hexText span.parentSpanId)
    span.name attrs (span.getStatusError library) latencyMs startedAt

/-! ### OTLP/JSON documents -/

/-- A number of a document, or a text in its place. -/
inductive JsonNumber where
  | text (content : String)
  | int (value : Int)
  | float (value : PyFloat)

/-- A member that the converter looks up under its `lowerCamelCase` name first. -/
structure Aliased (α : Type) where
  camelCase : Option α := none
  snakeCase : Option α := none

/-- `value.get(json_field, value.get(field))` -/
def Aliased.get {α : Type} (member : Aliased α) : Option α := member.camelCase <|> member.snakeCase

inductive JsonAnyValue where
  /-- `{}`, which also stands for an absent value. -/
  | empty
  | stringValue (text : String)
  | boolValue (value : Bool)
  | intValue (value : JsonNumber)
  | doubleValue (value : JsonNumber)
  | arrayValue (values : List JsonAnyValue)
  | kvlistValue (values : List (String × JsonAnyValue))
  | bytesValue (text : String)

structure JsonStatus where
  message : Option String := none
  code : Option JsonNumber := none

structure JsonSpan where
  traceId : Aliased String := {}
  spanId : Aliased String := {}
  parentSpanId : Aliased String := {}
  name : Option String := none
  startTimeUnixNano : Aliased JsonNumber := {}
  endTimeUnixNano : Aliased JsonNumber := {}
  attributes : List (String × JsonAnyValue) := []
  status : Option JsonStatus := none

def JsonNumber.value : JsonNumber → PyValue
  | .text content => .str content
  | .int value => .int value
  | .float value => .float value

/-- `bool(number)` -/
def JsonNumber.isTruthy : JsonNumber → Bool
  | .text content => decide (content ≠ "")
  | .int value => decide (value ≠ 0)
  | .float value => decide (value ≠ .finite 0)

/-- `number or 0` -/
def orZero : Option JsonNumber → PyValue
  | some number => if number.isTruthy then number.value else .int 0
  | none => .int 0

/-- `float(number)` -/
def OtlpLibrary.float (library : OtlpLibrary) : JsonNumber → Except PyException PyFloat
  | .text content => orRaise floatValueError (library.float? content)
  | .int value => orRaise intOverflowError (library.floatOfInt? value)
  | .float value => .ok value

mutual

/-- `_decode_any_value` of a dict. -/
def JsonAnyValue.decode (library : OtlpLibrary) : JsonAnyValue → Except PyException PyValue
  | .empty => .ok .none
  | .stringValue text => .ok (.str text)
  | .boolValue value => .ok (.bool value)
  | .intValue number => (library.parseInt number.value).map .int
  | .doubleValue number => (library.float number).map .float
  | .arrayValue values => (decodeItems library values).map .list
  | .kvlistValue values =>
      (decodeEntries library values).map fun entries => .dict (Dict.ofEntries entries)
  | .bytesValue text => .ok (.str text)

def JsonAnyValue.decodeItems (library : OtlpLibrary) :
    List JsonAnyValue → Except PyException (List PyValue)
  | [] => .ok []
  | item :: rest => do
      let item ← item.decode library
      let rest ← decodeItems library rest
      return item :: rest

def JsonAnyValue.decodeEntries (library : OtlpLibrary) :
    List (String × JsonAnyValue) → Except PyException (List (String × PyValue))
  | [] => .ok []
  | (key, value) :: rest => do
      let value ← value.decode library
      let rest ← decodeEntries library rest
      return (key, value) :: rest

end

/-- `_get_attrs` of a dict. -/
def JsonSpan.getAttrs (library : OtlpLibrary) (span : JsonSpan) : Except PyException PyAttributes :=
  (JsonAnyValue.decodeEntries library span.attributes).map Dict.ofEntries

/-- `_get_status_error` of a dict. -/
def JsonSpan.getStatusError (library : OtlpLibrary) (span : JsonSpan) :
    Except PyException (Option String) :=
  match span.status with
  | none => .ok none
  | some status => do
      let code ← library.parseInt ((status.code.map JsonNumber.value).getD .none)
      return library.statusError code (status.message.getD "")

/-- The body of the loop of `_extract_spans`. -/
def JsonSpan.convert (library : OtlpLibrary) (span : JsonSpan) :
    Except PyException ConvertedSpan := do
  let attrs ← span.getAttrs library
  let error ← span.getStatusError library
  let start ← library.int (orZero span.startTimeUnixNano.get)
  let finish ← library.int (orZero span.endTimeUnixNano.get)
  let latencyMs ← library.latency start finish
  let startedAt ← library.time start
  library.convert (span.spanId.get.getD "") (span.traceId.get.getD "")
    (span.parentSpanId.get.getD "") (span.name.getD "") attrs error latencyMs startedAt

/-! ### Bodies -/

/-- A body as `ParseFromString` or `json.loads` reads it. -/
inductive OtlpBody where
  | protobuf (resourceSpans : List (ResourceSpans ProtoSpan))
  | json (resourceSpans : List (ResourceSpans JsonSpan))

/-- `OTLPConverter.parse`; any exception becomes `None`. -/
def OtlpLibrary.parse (library : OtlpLibrary) : OtlpBody → Option (List ConvertedSpan)
  | .protobuf resourceSpans => (extractSpans (·.convert library) resourceSpans).toOption
  | .json resourceSpans => (extractSpans (·.convert library) resourceSpans).toOption

/-! ### What a conversion returns -/

section

variable (library : OtlpLibrary)

theorem parseInt_of_int {value : PyValue} {result : Int} (read : library.int value = .ok result) :
    library.parseInt value = .ok result := by
  rw [OtlpLibrary.parseInt, read]

/-- `int` of an infinite float is the one failure that `_parse_int` lets through. -/
theorem parseInt_isOk_iff (value : PyValue) :
    (∃ result, library.parseInt value = .ok result) ↔
      ∀ negative, value ≠ .float (.infinity negative) := by
  cases value with
  | float value =>
      cases value with
      | infinity negative =>
          constructor
          · rintro ⟨result, read⟩
            cases read
          · intro finite
            exact absurd rfl (finite negative)
      | finite value => exact ⟨fun _ _ => nofun, fun _ => ⟨_, rfl⟩⟩
      | nan => exact ⟨fun _ _ => nofun, fun _ => ⟨0, rfl⟩⟩
  | str text =>
      refine ⟨fun _ _ => nofun, fun _ => ?_⟩
      cases read : library.int? text with
      | some result =>
          exact ⟨result, by rw [OtlpLibrary.parseInt, OtlpLibrary.int, read, orRaise]⟩
      | none => exact ⟨0, by rw [OtlpLibrary.parseInt, OtlpLibrary.int, read, orRaise]; rfl⟩
  | none | list _ | dict _ => exact ⟨fun _ _ => nofun, fun _ => ⟨0, rfl⟩⟩
  | bool _ | int _ => exact ⟨fun _ _ => nofun, fun _ => ⟨_, rfl⟩⟩

theorem getAttrInt_isOk_iff (attrs : PyAttributes) (names : List String) :
    (∃ result, library.getAttrInt attrs names = .ok result) ↔
      ∀ negative, names.findSome? (attrs.lookup ·) ≠ some (.float (.infinity negative)) := by
  induction names with
  | nil => exact ⟨fun _ _ => nofun, fun _ => ⟨0, rfl⟩⟩
  | cons name names inductionHypothesis =>
      rw [OtlpLibrary.getAttrInt, List.findSome?_cons]
      cases attrs.lookup name with
      | none => exact inductionHypothesis
      | some value =>
          simp only [ne_eq, Option.some.injEq]
          exact parseInt_isOk_iff library value

theorem metadata_of_convert {spanId traceId parentSpanId name : String} {attrs : PyAttributes}
    {error : Option String} {latencyMs : ℚ} {startedAt : String} {converted : ConvertedSpan}
    (done : library.convert spanId traceId parentSpanId name attrs error latencyMs startedAt =
      .ok converted) : converted.metadata = attrs := by
  rw [OtlpLibrary.convert] at done
  obtain ⟨inputTokens, -, rest⟩ := bind_eq_ok.mp done
  obtain ⟨outputTokens, -, built⟩ := bind_eq_ok.mp rest
  exact congrArg ConvertedSpan.metadata (Except.ok.inj built).symm

theorem convert_isOk_iff (spanId traceId parentSpanId name : String) (attrs : PyAttributes)
    (error : Option String) (latencyMs : ℚ) (startedAt : String) :
    (∃ converted, library.convert spanId traceId parentSpanId name attrs error latencyMs
        startedAt = .ok converted) ↔
      (∃ tokens, library.getAttrInt attrs genaiInputTokenAttributes = .ok tokens) ∧
        ∃ tokens, library.getAttrInt attrs genaiOutputTokenAttributes = .ok tokens := by
  rw [OtlpLibrary.convert]
  constructor
  · rintro ⟨converted, done⟩
    obtain ⟨inputTokens, inputRead, rest⟩ := bind_eq_ok.mp done
    obtain ⟨outputTokens, outputRead, -⟩ := bind_eq_ok.mp rest
    exact ⟨⟨inputTokens, inputRead⟩, outputTokens, outputRead⟩
  · rintro ⟨⟨inputTokens, inputRead⟩, outputTokens, outputRead⟩
    rw [inputRead, ok_bind, outputRead, ok_bind]
    exact ⟨_, rfl⟩

end

end LlmObs.Backend
