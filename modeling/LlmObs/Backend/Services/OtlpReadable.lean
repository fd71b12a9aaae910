import LlmObs.Backend.Services.Otlp

/-!
Owns the spans of OTLP/JSON documents that the converter reads without an exception. A
document gives its spans in order exactly when it can read each of them: one exception
anywhere leaves none.
-/

namespace LlmObs.Backend

open LlmObs.Foundation

variable (library : OtlpLibrary)

/-! ### Readable spans -/

/-- `int(number)` is no `OverflowError`. -/
def JsonNumber.IsBounded (number : JsonNumber) : Prop :=
  ∀ negative, number ≠ .float (.infinity negative)

mutual

/-- Every number within a value can be read. -/
def JsonAnyValue.Readable : JsonAnyValue → Prop
  | .intValue number => number.IsBounded
  | .doubleValue number => ∃ value, library.float number = .ok value
  | .arrayValue values => ReadableItems values
  | .kvlistValue values => ReadableEntries values
  | .empty | .stringValue _ | .boolValue _ | .bytesValue _ => True

def JsonAnyValue.ReadableItems : List JsonAnyValue → Prop
  | [] => True
  | item :: rest => item.Readable ∧ ReadableItems rest

def JsonAnyValue.ReadableEntries : List (String × JsonAnyValue) → Prop
  | [] => True
  | (_, value) :: rest => value.Readable ∧ ReadableEntries rest

end

/-- The attribute that `_get_attr_int` reads. -/
def JsonSpan.attribute (span : JsonSpan) (names : List String) : Option JsonAnyValue :=
  names.findSome? fun name => (Dict.ofEntries span.attributes).lookup name

/-- The attribute is no double that `float` makes infinite. -/
def JsonSpan.HasBoundedTokens (span : JsonSpan) (names : List String) : Prop :=
  ∀ number negative, span.attribute names = some (.doubleValue number) →
    library.float number ≠ .ok (.infinity negative)

/-- A span of which each number and each time can be read. -/
structure JsonSpan.Readable (span : JsonSpan) : Prop where
  attributes : JsonAnyValue.ReadableEntries library span.attributes
  statusCode : ∀ status ∈ span.status, ∀ number ∈ status.code, number.IsBounded
  times : ∃ start finish, library.int (orZero span.startTimeUnixNano.get) = .ok start ∧
    library.int (orZero span.endTimeUnixNano.get) = .ok finish ∧
    (library.millis? (finish - start)).isSome = true ∧ (library.isoformat? start).isSome = true
  inputTokens : span.HasBoundedTokens library genaiInputTokenAttributes
  outputTokens : span.HasBoundedTokens library genaiOutputTokenAttributes

/-! ### Numbers and values -/

theorem parseInt_value_isOk_iff (number : JsonNumber) :
    (∃ result, library.parseInt number.value = .ok result) ↔ number.IsBounded := by
  rw [parseInt_isOk_iff]
  cases number with
  | text content => exact ⟨fun _ _ => nofun, fun _ _ => nofun⟩
  | int value => exact ⟨fun _ _ => nofun, fun _ _ => nofun⟩
  | float value =>
      simp only [JsonNumber.IsBounded, JsonNumber.value, ne_eq, PyValue.float.injEq,
        JsonNumber.float.injEq]

mutual

theorem decode_isOk_iff : ∀ value : JsonAnyValue,
    (∃ decoded, value.decode library = .ok decoded) ↔ value.Readable library
  | .intValue number => by
      rw [JsonAnyValue.decode, JsonAnyValue.Readable, map_isOk_iff, parseInt_value_isOk_iff]
  | .doubleValue number => by
      rw [JsonAnyValue.decode, JsonAnyValue.Readable, map_isOk_iff]
  | .arrayValue values => by
      rw [JsonAnyValue.decode, JsonAnyValue.Readable, map_isOk_iff, decodeItems_isOk_iff values]
  | .kvlistValue values => by
      rw [JsonAnyValue.decode, JsonAnyValue.Readable, map_isOk_iff, decodeEntries_isOk_iff values]
  | .empty | .stringValue _ | .boolValue _ | .bytesValue _ => by
      rw [JsonAnyValue.decode, JsonAnyValue.Readable]
      exact ⟨fun _ => trivial, fun _ => ⟨_, rfl⟩⟩

theorem decodeItems_isOk_iff : ∀ items : List JsonAnyValue,
    (∃ decoded, JsonAnyValue.decodeItems library items = .ok decoded) ↔
      JsonAnyValue.ReadableItems library items
  | [] => by
      rw [JsonAnyValue.decodeItems, JsonAnyValue.ReadableItems]
      exact ⟨fun _ => trivial, fun _ => ⟨[], rfl⟩⟩
  | item :: rest => by
      rw [JsonAnyValue.decodeItems, JsonAnyValue.ReadableItems, ← decode_isOk_iff item,
        ← decodeItems_isOk_iff rest]
      exact pair_isOk_iff

theorem decodeEntries_isOk_iff : ∀ entries : List (String × JsonAnyValue),
    (∃ decoded, JsonAnyValue.decodeEntries library entries = .ok decoded) ↔
      JsonAnyValue.ReadableEntries library entries
  | [] => by
      rw [JsonAnyValue.decodeEntries, JsonAnyValue.ReadableEntries]
      exact ⟨fun _ => trivial, fun _ => ⟨[], rfl⟩⟩
  | (key, value) :: rest => by
      rw [JsonAnyValue.decodeEntries, JsonAnyValue.ReadableEntries, ← decode_isOk_iff value,
        ← decodeEntries_isOk_iff rest]
      exact pair_isOk_iff

end

/-! ### Token counts -/

/-- The value that `_decode_any_value` returns when it does. -/
def JsonAnyValue.decoded (value : JsonAnyValue) : PyValue :=
  (value.decode library).toOption.getD .none

theorem decodeEntries_eq_ok {entries : List (String × JsonAnyValue)}
    {decoded : List (String × PyValue)}
    (read : JsonAnyValue.decodeEntries library entries = .ok decoded) :
    decoded = Dict.mapValues (·.decoded library) entries := by
  induction entries generalizing decoded with
  | nil =>
      rw [JsonAnyValue.decodeEntries] at read
      exact (Except.ok.inj read).symm
  | cons entry rest inductionHypothesis =>
      obtain ⟨key, value⟩ := entry
      rw [JsonAnyValue.decodeEntries] at read
      obtain ⟨first, firstRead, others⟩ := bind_eq_ok.mp read
      obtain ⟨second, secondRead, built⟩ := bind_eq_ok.mp others
      have firstDecoded : value.decoded library = first := by
        rw [JsonAnyValue.decoded, firstRead]
        rfl
      rw [← Except.ok.inj built, inductionHypothesis secondRead, ← firstDecoded]
      rfl

theorem getD_map_ne {α : Type} {outcome : Except PyException α} {change : α → PyValue}
    {negative : Bool} (other : ∀ value, change value ≠ .float (.infinity negative)) :
    (outcome.map change).toOption.getD .none ≠ .float (.infinity negative) := by
  cases outcome with
  | error exception => exact nofun
  | ok value => exact other value

/-- Only a double is decoded to an infinite float. -/
theorem decoded_eq_infinity_iff {value : JsonAnyValue} {negative : Bool} :
    value.decoded library = .float (.infinity negative) ↔
      ∃ number, value = .doubleValue number ∧
        library.float number = .ok (.infinity negative) := by
  constructor
  · intro infinite
    rw [JsonAnyValue.decoded] at infinite
    cases value with
    | doubleValue number =>
        rw [JsonAnyValue.decode] at infinite
        cases read : library.float number with
        | error exception =>
            rw [read] at infinite
            cases infinite
        | ok value =>
            rw [read] at infinite
            exact ⟨number, rfl, read.trans (congrArg Except.ok (PyValue.float.inj infinite))⟩
    | intValue number =>
        rw [JsonAnyValue.decode] at infinite
        exact absurd infinite (getD_map_ne fun _ => nofun)
    | arrayValue values =>
        rw [JsonAnyValue.decode] at infinite
        exact absurd infinite (getD_map_ne fun _ => nofun)
    | kvlistValue values =>
        rw [JsonAnyValue.decode] at infinite
        exact absurd infinite (getD_map_ne fun _ => nofun)
    | empty | stringValue _ | boolValue _ | bytesValue _ =>
        rw [JsonAnyValue.decode] at infinite
        cases infinite
  · rintro ⟨number, rfl, read⟩
    rw [JsonAnyValue.decoded, JsonAnyValue.decode, read]
    rfl

theorem getAttrInt_decoded_isOk_iff (span : JsonSpan) (names : List String) :
    (∃ tokens, library.getAttrInt
        (Dict.ofEntries (Dict.mapValues (·.decoded library) span.attributes)) names =
          .ok tokens) ↔ span.HasBoundedTokens library names := by
  have found : (names.findSome? fun name =>
      (Dict.ofEntries (Dict.mapValues (·.decoded library) span.attributes)).lookup name) =
        (span.attribute names).map (·.decoded library) := by
    rw [Dict.ofEntries_mapValues, Dict.findSome?_lookup_mapValues]
    rfl
  rw [getAttrInt_isOk_iff, found, JsonSpan.HasBoundedTokens]
  simp only [ne_eq, Option.map_eq_some_iff, decoded_eq_infinity_iff]
  constructor
  · intro bounded number negative listed read
    exact bounded negative ⟨_, listed, number, rfl, read⟩
  · rintro bounded negative ⟨_, listed, number, rfl, read⟩
    exact bounded number negative listed read

/-! ### Spans -/

theorem getStatusError_isOk_iff (span : JsonSpan) :
    (∃ error, span.getStatusError library = .ok error) ↔
      ∀ status ∈ span.status, ∀ number ∈ status.code, number.IsBounded := by
  rw [JsonSpan.getStatusError]
  cases span.status with
  | none => exact ⟨fun _ _ => nofun, fun _ => ⟨none, rfl⟩⟩
  | some status =>
      have code : (∃ code, library.parseInt ((status.code.map JsonNumber.value).getD .none) =
          .ok code) ↔ ∀ number ∈ status.code, number.IsBounded := by
        cases status.code with
        | none => exact ⟨fun _ _ => nofun, fun _ => ⟨0, rfl⟩⟩
        | some number =>
            rw [Option.map_some, Option.getD_some, parseInt_value_isOk_iff]
            exact ⟨fun bounded _ same => Option.some.inj same ▸ bounded,
              fun bounded => bounded number rfl⟩
      constructor
      · rintro ⟨error, done⟩ _ present
        obtain rfl := Option.some.inj present
        obtain ⟨value, read, -⟩ := bind_eq_ok.mp done
        exact code.mp ⟨value, read⟩
      · intro bounded
        obtain ⟨value, read⟩ := code.mpr (bounded status rfl)
        dsimp only
        rw [read, ok_bind]
        exact ⟨_, rfl⟩

theorem orRaise_isOk_iff {α : Type} {exception : PyException} {value : Option α} :
    (∃ result, orRaise exception value = .ok result) ↔ value.isSome = true := by
  cases value with
  | none => exact ⟨nofun, nofun⟩
  | some value => exact ⟨fun _ => rfl, fun _ => ⟨value, rfl⟩⟩

/-- A span alone is converted exactly when it is readable. -/
theorem convert_isOk_iff_readable (span : JsonSpan) :
    (∃ converted, span.convert library = .ok converted) ↔ span.Readable library := by
  have attributes := decodeEntries_isOk_iff library span.attributes
  have statusCode := getStatusError_isOk_iff library span
  rw [JsonSpan.convert, JsonSpan.getAttrs]
  constructor
  · rintro ⟨converted, done⟩
    obtain ⟨_, attrsRead, afterAttrs⟩ := bind_eq_ok.mp done
    obtain ⟨decoded, decodedRead, rfl⟩ := map_eq_ok.mp attrsRead
    obtain ⟨error, errorRead, afterError⟩ := bind_eq_ok.mp afterAttrs
    obtain ⟨start, startRead, afterStart⟩ := bind_eq_ok.mp afterError
    obtain ⟨finish, finishRead, afterFinish⟩ := bind_eq_ok.mp afterStart
    obtain ⟨latencyMs, measured, afterLatency⟩ := bind_eq_ok.mp afterFinish
    obtain ⟨startedAt, formatted, built⟩ := bind_eq_ok.mp afterLatency
    have tokens := (convert_isOk_iff library _ _ _ _ _ _ _ _).mp ⟨converted, built⟩
    rw [decodeEntries_eq_ok library decodedRead, getAttrInt_decoded_isOk_iff,
      getAttrInt_decoded_isOk_iff] at tokens
    exact {
      attributes := attributes.mp ⟨decoded, decodedRead⟩
      statusCode := statusCode.mp ⟨error, errorRead⟩
      times := ⟨start, finish, startRead, finishRead, orRaise_isOk_iff.mp ⟨_, measured⟩,
        orRaise_isOk_iff.mp ⟨_, formatted⟩⟩
      inputTokens := tokens.1
      outputTokens := tokens.2 }
  · intro readable
    obtain ⟨decoded, decodedRead⟩ := attributes.mpr readable.attributes
    obtain ⟨error, errorRead⟩ := statusCode.mpr readable.statusCode
    obtain ⟨start, finish, startRead, finishRead, measurable, datable⟩ := readable.times
    obtain ⟨latencyMs, measured⟩ : ∃ latencyMs, library.latency start finish = .ok latencyMs :=
      orRaise_isOk_iff.mpr measurable
    obtain ⟨startedAt, formatted⟩ : ∃ startedAt, library.time start = .ok startedAt :=
      orRaise_isOk_iff.mpr datable
    have attrsRead : (JsonAnyValue.decodeEntries library span.attributes).map Dict.ofEntries =
        .ok (Dict.ofEntries (Dict.mapValues (·.decoded library) span.attributes)) :=
      map_eq_ok.mpr ⟨decoded, decodedRead,
        congrArg Dict.ofEntries (decodeEntries_eq_ok library decodedRead)⟩
    rw [attrsRead, ok_bind, errorRead, ok_bind, startRead, ok_bind, finishRead, ok_bind,
      measured, ok_bind, formatted, ok_bind, convert_isOk_iff, getAttrInt_decoded_isOk_iff,
      getAttrInt_decoded_isOk_iff]
    exact ⟨readable.inputTokens, readable.outputTokens⟩

end LlmObs.Backend
