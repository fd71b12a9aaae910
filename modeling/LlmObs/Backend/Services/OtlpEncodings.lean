import Mathlib
import LlmObs.Backend.Services.Otlp
import LlmObs.Foundation.Outcome

/-!
Owns the two encodings of a request: the OTLP/JSON document of a protobuf message, and
where the converter makes the same spans of both. They part where a message has no
attributes, and where a value of bytes is left in the attributes. A float attribute that
is read as a token count and is infinite leaves no spans on either way.
-/

namespace LlmObs.Backend

open LlmObs.Foundation

/-! ### The JSON document of a message -/

def base64Char (digit : Nat) : Char :=
  "ABCDEFGHIJKLMNOPQRSTUVWXYZabcdefghijklmnopqrstuvwxyz0123456789+/".toList.getD digit 'A'

/-- Four characters for three bytes, and the padding of the last ones. -/
def base64Chars : List UInt8 → List Char
  | [] => []
  | [first] =>
      [base64Char (first.toNat / 4), base64Char (first.toNat % 4 * 16), '=', '=']
  | [first, second] =>
      [base64Char (first.toNat / 4), base64Char (first.toNat % 4 * 16 + second.toNat / 16),
        base64Char (second.toNat % 16 * 4), '=']
  | first :: second :: third :: rest =>
      base64Char (first.toNat / 4) :: base64Char (first.toNat % 4 * 16 + second.toNat / 16) ::
        base64Char (second.toNat % 16 * 4 + third.toNat / 64) ::
        base64Char (third.toNat % 64) :: base64Chars rest

def base64Text (bytes : List UInt8) : String := String.ofList (base64Chars bytes)

/-- A double as a JSON number, or as the text of a value that has none. -/
def PyFloat.encode : PyFloat → JsonNumber
  | .finite value => .float (.finite value)
  | .infinity false => .text "Infinity"
  | .infinity true => .text "-Infinity"
  | .nan => .text "NaN"

mutual

def AnyValue.encode : AnyValue → JsonAnyValue
  | .unset => .empty
  | .string text => .stringValue text
  | .bool value => .boolValue value
  | .int value => .intValue (.text value.toInt.repr)
  | .double value => .doubleValue value.encode
  | .array values => .arrayValue (encodeItems values)
  | .kvlist values => .kvlistValue (encodeEntries values)
  | .bytes value => .bytesValue (base64Text value)

def AnyValue.encodeItems : List AnyValue → List JsonAnyValue
  | [] => []
  | item :: rest => item.encode :: encodeItems rest

def AnyValue.encodeEntries : List (String × AnyValue) → List (String × JsonAnyValue)
  | [] => []
  | (key, value) :: rest => (key, value.encode) :: encodeEntries rest

end

/-- A member, unless it has its default value. -/
def unlessDefault {α β : Type} [DecidableEq α] (default : α) (encode : α → β) (value : α) :
    Option β :=
  if value = default then none else some (encode value)

def ProtoStatus.encode (status : ProtoStatus) : JsonStatus where
  message := unlessDefault "" id status.message
  code := unlessDefault 0 (fun code : Int32 => .int code.toInt) status.code

/-- A 64-bit integer as a decimal string. -/
def decimalText (time : UInt64) : JsonNumber := .text (time.toNat : Int).repr

def ProtoSpan.encode (span : ProtoSpan) : JsonSpan where
  traceId := ⟨unlessDefault [] hexText span.traceId, none⟩
  spanId := ⟨unlessDefault [] hexText span.spanId, none⟩
  parentSpanId := ⟨unlessDefault [] hexText span.parentSpanId, none⟩
  name := unlessDefault "" id span.name
  startTimeUnixNano := ⟨unlessDefault 0 decimalText span.startTimeUnixNano, none⟩
  endTimeUnixNano := ⟨unlessDefault 0 decimalText span.endTimeUnixNano, none⟩
  attributes := AnyValue.encodeEntries span.attributes
  status := span.status.map ProtoStatus.encode

def encodeRequest (resourceSpans : List (ResourceSpans ProtoSpan)) :
    List (ResourceSpans JsonSpan) :=
  resourceSpans.map fun rs => ⟨rs.scopeSpans.map fun ss => ⟨ss.spans.map ProtoSpan.encode⟩⟩

/-! ### Where the encodings agree -/

mutual

/-- The bytes within a value that no later entry of a key replaces. -/
def AnyValue.visibleBytes : AnyValue → List (List UInt8)
  | .bytes value => [value]
  | .array values => (visibleItems values).flatten
  | .kvlist values => (Dict.ofEntries (visibleEntries values)).flatMap Prod.snd
  | .unset | .string _ | .bool _ | .int _ | .double _ => []

def AnyValue.visibleItems : List AnyValue → List (List (List UInt8))
  | [] => []
  | item :: rest => item.visibleBytes :: visibleItems rest

def AnyValue.visibleEntries : List (String × AnyValue) → List (String × List (List UInt8))
  | [] => []
  | (key, value) :: rest => (key, value.visibleBytes) :: visibleEntries rest

end

/-- The attribute that `_get_attr_int` reads. -/
def ProtoSpan.attribute (span : ProtoSpan) (names : List String) : Option AnyValue :=
  names.findSome? fun name => (Dict.ofEntries span.attributes).lookup name

/-- A span of which both encodings give the same dict. -/
structure ProtoSpan.ConvertsAlike (span : ProtoSpan) : Prop where
  hasAttributes : span.attributes ≠ []
  noBytes : ∀ bytes ∈ (AnyValue.kvlist span.attributes).visibleBytes, bytes = []
  inputTokens : ∀ negative,
    span.attribute genaiInputTokenAttributes ≠ some (.double (.infinity negative))
  outputTokens : ∀ negative,
    span.attribute genaiOutputTokenAttributes ≠ some (.double (.infinity negative))

/-! ### Texts of bytes -/

theorem base64Chars_cases : ∀ bytes : List UInt8, bytes ≠ [] →
    '=' ∈ base64Chars bytes ∨ (base64Chars bytes).length < 2 * bytes.length
  | [], nonempty => absurd rfl nonempty
  | [_], _ => by simp [base64Chars]
  | [_, _], _ => by simp [base64Chars]
  | first :: second :: third :: rest, _ => by
      rw [base64Chars]
      by_cases last : rest = []
      · subst last
        right
        show 4 < 6
        omega
      · rcases base64Chars_cases rest last with padded | shorter
        · left
          simp [padded]
        · right
          simp only [List.length_cons]
          omega

theorem hexText_ne_base64Text {bytes : List UInt8} (nonempty : bytes ≠ []) :
    hexText bytes ≠ base64Text bytes := by
  intro same
  have chars := congrArg String.toList same
  simp only [hexText, base64Text, String.toList_ofList] at chars
  have unpadded : ∀ digit, UUID.hexDigit digit ≠ '=' := by decide
  rcases base64Chars_cases bytes nonempty with padded | shorter
  · rw [← chars] at padded
    obtain ⟨byte, -, digit⟩ := List.mem_flatMap.mp padded
    simp only [List.mem_cons, List.not_mem_nil, or_false] at digit
    rcases digit with high | low
    · exact unpadded _ high.symm
    · exact unpadded _ low.symm
  · rw [← chars, List.length_flatMap] at shorter
    simp only [List.length_cons, List.length_nil, List.map_const', List.sum_replicate,
      smul_eq_mul] at shorter
    omega

/-- Hexadecimal digits and base64 agree on no bytes only. -/
theorem hexText_eq_base64Text_iff {bytes : List UInt8} :
    hexText bytes = base64Text bytes ↔ bytes = [] := by
  constructor
  · intro same
    by_contra nonempty
    exact hexText_ne_base64Text nonempty same
  · rintro rfl
    rfl

/-! ### Any values -/

theorem decodeItems_eq_map (bytesText : List UInt8 → String) (items : List AnyValue) :
    AnyValue.decodeItems bytesText items = items.map (·.decode bytesText) := by
  induction items with
  | nil => rw [AnyValue.decodeItems, List.map_nil]
  | cons item rest inductionHypothesis =>
      rw [AnyValue.decodeItems, inductionHypothesis, List.map_cons]

theorem decodeEntries_eq_mapValues (bytesText : List UInt8 → String)
    (entries : List (String × AnyValue)) :
    AnyValue.decodeEntries bytesText entries = Dict.mapValues (·.decode bytesText) entries := by
  induction entries with
  | nil => rw [AnyValue.decodeEntries, Dict.mapValues, List.map_nil]
  | cons entry rest inductionHypothesis =>
      rw [AnyValue.decodeEntries, inductionHypothesis, Dict.mapValues, Dict.mapValues,
        List.map_cons]

theorem visibleItems_eq_map (items : List AnyValue) :
    AnyValue.visibleItems items = items.map (·.visibleBytes) := by
  induction items with
  | nil => rw [AnyValue.visibleItems, List.map_nil]
  | cons item rest inductionHypothesis =>
      rw [AnyValue.visibleItems, inductionHypothesis, List.map_cons]

theorem visibleEntries_eq_mapValues (entries : List (String × AnyValue)) :
    AnyValue.visibleEntries entries = Dict.mapValues (·.visibleBytes) entries := by
  induction entries with
  | nil => rw [AnyValue.visibleEntries, Dict.mapValues, List.map_nil]
  | cons entry rest inductionHypothesis =>
      rw [AnyValue.visibleEntries, inductionHypothesis, Dict.mapValues, Dict.mapValues,
        List.map_cons]

section

variable {left right : List UInt8 → String}

/-- Two texts of bytes make the same dict exactly when they agree on what is visible. -/
theorem ofEntries_decode_eq_iff {entries : List (String × AnyValue)}
    (values : ∀ entry ∈ entries, entry.2.decode left = entry.2.decode right ↔
      ∀ bytes ∈ entry.2.visibleBytes, left bytes = right bytes) :
    Dict.ofEntries (AnyValue.decodeEntries left entries) =
        Dict.ofEntries (AnyValue.decodeEntries right entries) ↔
      ∀ bytes ∈ (AnyValue.kvlist entries).visibleBytes, left bytes = right bytes := by
  rw [decodeEntries_eq_mapValues, decodeEntries_eq_mapValues, Dict.ofEntries_mapValues,
    Dict.ofEntries_mapValues, Dict.mapValues_eq_iff, AnyValue.visibleBytes,
    visibleEntries_eq_mapValues, Dict.ofEntries_mapValues]
  constructor
  · intro same bytes visible
    obtain ⟨entry, member, within⟩ := List.mem_flatMap.mp visible
    obtain ⟨source, kept, rfl⟩ := List.mem_map.mp member
    exact (values source (Dict.mem_of_mem_ofEntries kept)).mp (same source kept) bytes within
  · intro agree entry kept
    refine (values entry (Dict.mem_of_mem_ofEntries kept)).mpr fun bytes within => ?_
    exact agree bytes (List.mem_flatMap.mpr ⟨_, List.mem_map_of_mem kept, within⟩)

mutual

theorem decode_eq_iff : ∀ value : AnyValue, value.decode left = value.decode right ↔
    ∀ bytes ∈ value.visibleBytes, left bytes = right bytes
  | .bytes value => by
      rw [AnyValue.decode, AnyValue.decode, AnyValue.visibleBytes, List.forall_mem_singleton,
        PyValue.str.injEq]
  | .array values => by
      have items := decode_items_eq_iff values
      rw [AnyValue.decode, AnyValue.decode, AnyValue.visibleBytes, PyValue.list.injEq,
        decodeItems_eq_map, decodeItems_eq_map, List.map_inj_left, visibleItems_eq_map,
        List.forall_mem_flatten]
      constructor
      · intro same group member
        obtain ⟨item, listed, rfl⟩ := List.mem_map.mp member
        exact (items item listed).mp (same item listed)
      · intro agree item listed
        exact (items item listed).mpr (agree _ (List.mem_map_of_mem listed))
  | .kvlist values => by
      rw [AnyValue.decode, AnyValue.decode, PyValue.dict.injEq]
      exact ofEntries_decode_eq_iff (decode_entries_eq_iff values)
  | .unset | .string _ | .bool _ | .int _ | .double _ => by
      simp [AnyValue.decode, AnyValue.visibleBytes]

theorem decode_items_eq_iff : ∀ items : List AnyValue, ∀ item ∈ items,
    item.decode left = item.decode right ↔
      ∀ bytes ∈ item.visibleBytes, left bytes = right bytes
  | [], _, member => absurd member List.not_mem_nil
  | head :: rest, item, member => by
      rcases List.mem_cons.mp member with here | later
      · exact here ▸ decode_eq_iff head
      · exact decode_items_eq_iff rest item later

theorem decode_entries_eq_iff : ∀ entries : List (String × AnyValue), ∀ entry ∈ entries,
    entry.2.decode left = entry.2.decode right ↔
      ∀ bytes ∈ entry.2.visibleBytes, left bytes = right bytes
  | [], _, member => absurd member List.not_mem_nil
  | (key, value) :: rest, entry, member => by
      rcases List.mem_cons.mp member with here | later
      · exact here ▸ decode_eq_iff value
      · exact decode_entries_eq_iff rest entry later

end

end

/-! ### Reading a document back -/

theorem getD_unlessDefault {α β : Type} [DecidableEq α] {default : α} (encode : α → β)
    {fallback : β} (agree : encode default = fallback) (value : α) :
    (unlessDefault default encode value).getD fallback = encode value := by
  rw [unlessDefault]
  by_cases unset : value = default
  · rw [if_pos unset, unset, agree, Option.getD_none]
  · rw [if_neg unset, Option.getD_some]

theorem get_camelCase {α : Type} (member : Option α) :
    Aliased.get ⟨member, none⟩ = member := by
  cases member with
  | none => rfl
  | some value => rfl

theorem getD_encodedId (id : List UInt8) :
    (Aliased.get ⟨unlessDefault [] hexText id, none⟩).getD "" = hexText id := by
  rw [get_camelCase]
  exact getD_unlessDefault hexText rfl id

section

variable (library : OtlpLibrary)

theorem int_repr {value : Int} (above : -2 ^ 64 < value) (below : value < 2 ^ 64) :
    library.int (.str value.repr) = .ok value := by
  rw [OtlpLibrary.int, library.int?_repr value above below, orRaise]

theorem float_encode (value : PyFloat) : library.float value.encode = .ok value := by
  cases value with
  | finite value => rfl
  | nan => rw [PyFloat.encode, OtlpLibrary.float, library.float?_nan, orRaise]
  | infinity negative =>
      cases negative with
      | false => rw [PyFloat.encode, OtlpLibrary.float, library.float?_infinity, orRaise]
      | true => rw [PyFloat.encode, OtlpLibrary.float, library.float?_negativeInfinity, orRaise]

mutual

/-- The converter reads of a document what it reads of the message, but for the text of
bytes. -/
theorem decode_encode : ∀ value : AnyValue,
    value.encode.decode library = .ok (value.decode base64Text)
  | .int value => by
      have above := Int64.le_toInt value
      have below := Int64.toInt_lt value
      have read : library.int (.str value.toInt.repr) = .ok value.toInt :=
        int_repr library (by omega) (by omega)
      rw [AnyValue.encode, JsonAnyValue.decode, JsonNumber.value, parseInt_of_int library read]
      rfl
  | .double value => by
      rw [AnyValue.encode, JsonAnyValue.decode, float_encode]
      rfl
  | .array values => by
      rw [AnyValue.encode, JsonAnyValue.decode, decodeItems_encode values]
      rfl
  | .kvlist values => by
      rw [AnyValue.encode, JsonAnyValue.decode, decodeEntries_encode values]
      rfl
  | .unset | .string _ | .bool _ | .bytes _ => rfl

theorem decodeItems_encode : ∀ items : List AnyValue,
    JsonAnyValue.decodeItems library (AnyValue.encodeItems items) =
      .ok (AnyValue.decodeItems base64Text items)
  | [] => rfl
  | item :: rest => by
      rw [AnyValue.encodeItems, JsonAnyValue.decodeItems, decode_encode item, ok_bind,
        decodeItems_encode rest]
      rfl

theorem decodeEntries_encode : ∀ entries : List (String × AnyValue),
    JsonAnyValue.decodeEntries library (AnyValue.encodeEntries entries) =
      .ok (AnyValue.decodeEntries base64Text entries)
  | [] => rfl
  | (key, value) :: rest => by
      rw [AnyValue.encodeEntries, JsonAnyValue.decodeEntries, decode_encode value, ok_bind,
        decodeEntries_encode rest]
      rfl

end

theorem getAttrs_encode (span : ProtoSpan) : span.encode.getAttrs library =
    .ok (Dict.ofEntries (AnyValue.decodeEntries base64Text span.attributes)) := by
  show (JsonAnyValue.decodeEntries library (AnyValue.encodeEntries span.attributes)).map _ = _
  rw [decodeEntries_encode]
  rfl

theorem parseInt_code_encode (status : ProtoStatus) :
    library.parseInt ((status.encode.code.map JsonNumber.value).getD .none) =
      .ok status.code.toInt := by
  show library.parseInt (((unlessDefault 0 (fun code : Int32 => JsonNumber.int code.toInt)
    status.code).map JsonNumber.value).getD .none) = _
  rw [unlessDefault]
  by_cases unset : status.code = 0
  · rw [if_pos unset, unset]
    rfl
  · rw [if_neg unset]
    rfl

theorem getStatusError_encode (span : ProtoSpan) :
    span.encode.getStatusError library = .ok (span.getStatusError library) := by
  obtain ⟨traceId, spanId, parentSpanId, name, start, finish, attributes, status⟩ := span
  cases status with
  | none => rfl
  | some status =>
      have message : status.encode.message.getD "" = status.message :=
        getD_unlessDefault id rfl status.message
      show (library.parseInt _ >>= fun code => Except.ok (library.statusError code
        (status.encode.message.getD ""))) = _
      rw [parseInt_code_encode, ok_bind, message]
      rfl

theorem int_orZero_decimalText (time : UInt64) :
    library.int (orZero (unlessDefault 0 decimalText time)) = .ok time.toNat := by
  have below := UInt64.toNat_lt time
  rw [unlessDefault]
  by_cases unset : time = 0
  · rw [if_pos unset, unset]
    rfl
  · have written : (time.toNat : Int).repr ≠ "" := Nat.repr_ne_empty
    rw [if_neg unset, orZero, decimalText, JsonNumber.isTruthy, if_pos (decide_eq_true written),
      JsonNumber.value, int_repr library (by omega) (by omega)]

/-! ### Both conversions of a span -/

theorem latency_isOk (start finish : UInt64) :
    ∃ latencyMs, library.latency start.toNat finish.toNat = .ok latencyMs := by
  have startBelow := UInt64.toNat_lt start
  have finishBelow := UInt64.toNat_lt finish
  obtain ⟨latencyMs, computed⟩ := Option.isSome_iff_exists.mp
    (library.millis?_isSome (finish.toNat - start.toNat) (by omega) (by omega))
  exact ⟨latencyMs, by rw [OtlpLibrary.latency, computed, orRaise]⟩

theorem time_isOk (start : UInt64) : ∃ startedAt, library.time start.toNat = .ok startedAt := by
  have below := UInt64.toNat_lt start
  obtain ⟨startedAt, computed⟩ := Option.isSome_iff_exists.mp
    (library.isoformat?_isSome start.toNat (by omega) (by omega))
  exact ⟨startedAt, by rw [OtlpLibrary.time, computed, orRaise]⟩

/-- What `_get_attr_int` finds in the converted attributes of a message. -/
theorem findSome?_lookup_decode (bytesText : List UInt8 → String) (span : ProtoSpan)
    (names : List String) :
    (names.findSome? fun name =>
        (Dict.ofEntries (AnyValue.decodeEntries bytesText span.attributes)).lookup name) =
      (span.attribute names).map (·.decode bytesText) := by
  rw [decodeEntries_eq_mapValues, Dict.ofEntries_mapValues, Dict.findSome?_lookup_mapValues]
  rfl

/-- A token count of a message is read unless it is an infinite double. -/
theorem tokens_isOk_iff (bytesText : List UInt8 → String) (span : ProtoSpan)
    (names : List String) :
    (∃ tokens, library.getAttrInt
        (Dict.ofEntries (AnyValue.decodeEntries bytesText span.attributes)) names = .ok tokens) ↔
      ∀ negative, span.attribute names ≠ some (.double (.infinity negative)) := by
  rw [getAttrInt_isOk_iff, findSome?_lookup_decode]
  cases span.attribute names with
  | none => simp
  | some value => cases value <;> simp [AnyValue.decode]

/-- The document of a message gives its span, with base64 as the text of bytes. -/
theorem convert_encode {span : ProtoSpan} {latencyMs : ℚ} {startedAt : String}
    (measured : library.latency span.startTimeUnixNano.toNat span.endTimeUnixNano.toNat =
      .ok latencyMs)
    (formatted : library.time span.startTimeUnixNano.toNat = .ok startedAt) :
    span.encode.convert library =
      library.convert (hexText span.spanId) (hexText span.traceId) (hexText span.parentSpanId)
        span.name (Dict.ofEntries (AnyValue.decodeEntries base64Text span.attributes))
        (span.getStatusError library) latencyMs startedAt := by
  have start : span.encode.startTimeUnixNano.get =
      unlessDefault 0 decimalText span.startTimeUnixNano := get_camelCase _
  have finish : span.encode.endTimeUnixNano.get =
      unlessDefault 0 decimalText span.endTimeUnixNano := get_camelCase _
  have spanId : span.encode.spanId.get.getD "" = hexText span.spanId :=
    getD_encodedId span.spanId
  have traceId : span.encode.traceId.get.getD "" = hexText span.traceId :=
    getD_encodedId span.traceId
  have parentSpanId : span.encode.parentSpanId.get.getD "" = hexText span.parentSpanId :=
    getD_encodedId span.parentSpanId
  have name : span.encode.name.getD "" = span.name := getD_unlessDefault id rfl span.name
  rw [JsonSpan.convert, getAttrs_encode, ok_bind, getStatusError_encode, ok_bind, start, finish,
    int_orZero_decimalText, ok_bind, int_orZero_decimalText, ok_bind, measured, ok_bind,
    formatted, ok_bind, spanId, traceId, parentSpanId, name]

/-- Two sets of attributes give one dict exactly when they are the same and their token
counts can be read. -/
theorem convert_same_iff {spanId traceId parentSpanId name : String} {left right : PyAttributes}
    {error : Option String} {latencyMs : ℚ} {startedAt : String} :
    (∃ converted,
        library.convert spanId traceId parentSpanId name left error latencyMs startedAt =
          .ok converted ∧
        library.convert spanId traceId parentSpanId name right error latencyMs startedAt =
          .ok converted) ↔
      left = right ∧ ∃ converted,
        library.convert spanId traceId parentSpanId name left error latencyMs startedAt =
          .ok converted := by
  constructor
  · rintro ⟨converted, leftDone, rightDone⟩
    have same := (metadata_of_convert library leftDone).symm.trans
      (metadata_of_convert library rightDone)
    exact ⟨same, converted, leftDone⟩
  · rintro ⟨rfl, converted, done⟩
    exact ⟨converted, done, done⟩

theorem convertsAlike_iff (span : ProtoSpan) :
    (∃ converted, span.convert library = .ok converted ∧
        span.encode.convert library = .ok converted) ↔ span.ConvertsAlike := by
  obtain ⟨latencyMs, measured⟩ := latency_isOk library span.startTimeUnixNano span.endTimeUnixNano
  obtain ⟨startedAt, formatted⟩ := time_isOk library span.startTimeUnixNano
  rw [convert_encode library measured formatted, ProtoSpan.convert, ProtoSpan.getAttrs]
  by_cases empty : span.attributes = []
  · rw [if_pos empty, error_bind]
    constructor
    · rintro ⟨converted, raised, -⟩
      cases raised
    · intro alike
      exact absurd empty alike.hasAttributes
  · have sameAttributes := @ofEntries_decode_eq_iff hexText base64Text span.attributes
      (decode_entries_eq_iff span.attributes)
    rw [if_neg empty, ok_bind, measured, ok_bind, formatted, ok_bind, convert_same_iff,
      convert_isOk_iff, sameAttributes, tokens_isOk_iff, tokens_isOk_iff]
    simp only [hexText_eq_base64Text_iff]
    constructor
    · rintro ⟨noBytes, inputTokens, outputTokens⟩
      exact ⟨empty, noBytes, inputTokens, outputTokens⟩
    · intro alike
      exact ⟨alike.noBytes, alike.inputTokens, alike.outputTokens⟩

end

/-! ### Requests -/

theorem requestSpans_encodeRequest (resourceSpans : List (ResourceSpans ProtoSpan)) :
    requestSpans (encodeRequest resourceSpans) =
      (requestSpans resourceSpans).map ProtoSpan.encode := by
  simp only [requestSpans, encodeRequest, List.flatMap_map, List.map_flatMap]

/-- `parse` gives the same spans for both encodings of a request. -/
def EncodingsAgree (library : OtlpLibrary) (resourceSpans : List (ResourceSpans ProtoSpan)) :
    Prop :=
  ∃ spans, library.parse (.protobuf resourceSpans) = some spans ∧
    library.parse (.json (encodeRequest resourceSpans)) = some spans

/-- Both encodings of a request give its spans exactly when each span has attributes,
shows no bytes in them and has no infinite double for a token count. -/
theorem encodingsAgree_iff (library : OtlpLibrary)
    (resourceSpans : List (ResourceSpans ProtoSpan)) :
    EncodingsAgree library resourceSpans ↔
      ∀ span ∈ requestSpans resourceSpans, span.ConvertsAlike := by
  have returned : EncodingsAgree library resourceSpans ↔
      ∃ spans, (requestSpans resourceSpans).mapM (·.convert library) = .ok spans ∧
        ((requestSpans resourceSpans).map ProtoSpan.encode).mapM (·.convert library) =
          .ok spans := by
    simp only [EncodingsAgree, OtlpLibrary.parse, extractSpans, requestSpans_encodeRequest,
      toOption_eq_some]
  rw [returned, exists_mapM_eq_ok_iff]
  simp only [convertsAlike_iff]

/-- Python on texts that are plain decimal digits, with no date but the epoch. -/
def OtlpLibrary.plain : OtlpLibrary where
  runtime := Runtime.inUtc
  int? := String.toInt?
  float? := fun text =>
    if text = "Infinity" then some (.infinity false)
    else if text = "-Infinity" then some (.infinity true)
    else if text = "NaN" then some .nan
    else text.toInt?.map fun value => .finite value
  floatOfInt? := fun value => some (.finite value)
  str := fun _ => ""
  millis? := fun nanoseconds => some (nanoseconds / 1000000)
  isoformat? := fun _ => some "1970-01-01T00:00:00+00:00"
  int?_repr := fun value _ _ => Int.toInt?_repr value
  float?_infinity := rfl
  float?_negativeInfinity := by decide
  float?_nan := by decide
  millis?_isSome := fun _ _ _ => rfl
  isoformat?_isSome := fun _ _ _ => rfl

/-- A request of one span that has no attributes. -/
def bareRequest : List (ResourceSpans ProtoSpan) :=
  [⟨[⟨[{
    traceId := List.replicate 16 1
    spanId := List.replicate 8 2
    parentSpanId := []
    name := "chat"
    startTimeUnixNano := 0
    endTimeUnixNano := 0
    attributes := []
    status := none }]⟩]⟩]

/-- The document of the request is read, and the message is not. -/
theorem not_encodingsAgree_bareRequest :
    ¬EncodingsAgree OtlpLibrary.plain bareRequest ∧
      (OtlpLibrary.plain.parse (.json (encodeRequest bareRequest))).isSome = true := by
  constructor
  · rintro ⟨spans, fromMessage, -⟩
    cases fromMessage
  · rfl

end LlmObs.Backend
