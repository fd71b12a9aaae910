import LlmObs.Backend.Api.Otlp
import LlmObs.Backend.Schemas.SpanIdentifiers
import Mathlib.Data.Set.Insert

/-!
Owns the links among the spans of an export: which span has which parent, and which spans
share a trace. The spans that `receive_otlp` accepts are linked as their sources are.
-/

namespace LlmObs.Backend

open LlmObs.Foundation

/-! ### Links -/

/-- The identifiers of a span of an export. -/
structure SpanIds (Id : Type) where
  spanId : Id
  traceId : Id
  parent : Option Id

/-- The identifiers are among the values, as texts. -/
structure SpanIds.Within {Id : Type} (text : Id → String) (values : Set String)
    (ids : SpanIds Id) : Prop where
  spanId : text ids.spanId ∈ values
  traceId : text ids.traceId ∈ values
  parent : ∀ parent ∈ ids.parent, text parent ∈ values

/-- Empty bytes are no parent. -/
def ProtoSpan.ids (span : ProtoSpan) : SpanIds (List UInt8) where
  spanId := span.spanId
  traceId := span.traceId
  parent := if span.parentSpanId = [] then none else some span.parentSpanId

/-- An absent or empty text is no parent. -/
def JsonSpan.ids (span : JsonSpan) : SpanIds String where
  spanId := span.spanId.get.getD ""
  traceId := span.traceId.get.getD ""
  parent := orNone (span.parentSpanId.get.getD "")

/-- Two spans are linked after validation as they were before. -/
structure SameLinks {Id : Type} (same : Id → Id → Prop) (source target : SpanIds Id)
    (span other : SpanSchema) : Prop where
  parent : span.parentSpanId = some other.spanId ↔
    ∃ parent ∈ source.parent, same parent target.spanId
  root : span.parentSpanId = none ↔ source.parent = none
  trace : span.traceId = other.traceId ↔ same source.traceId target.traceId
  span : span.spanId = other.spanId ↔ same source.spanId target.spanId

/-- The validation under the text functions of an installation. -/
def OtlpValidation.withTexts (validation : OtlpValidation) (python : UnicodeText) :
    OtlpValidation :=
  { validation with toValidation := validation.toValidation.withTexts python }

theorem toValidation_withTexts (validation : OtlpValidation) (python : UnicodeText) :
    (validation.withTexts python).toValidation = validation.toValidation.withTexts python := rfl

/-- The loop of `_extract_spans` and `SpanSchema` make the accepted span of its source. -/
def OtlpValidation.Makes {Span : Type} (validation : OtlpValidation) (now : Int)
    (convert : Span → Except PyException ConvertedSpan) (source : Span)
    (accepted : AcceptedSpan) : Prop :=
  ∃ converted, convert source = .ok converted ∧
    validation.spanSchema now converted = some accepted

/-- The accepted spans are made of some spans of the export, in their order, and are linked
as these are. -/
def LinkedAsSources {Span Id : Type} (makes : Span → AcceptedSpan → Prop)
    (ids : Span → SpanIds Id) (same : Id → Id → Prop) (sources : List Span)
    (accepted : List AcceptedSpan) : Prop :=
  ∃ pairs : List (Span × AcceptedSpan), (pairs.map Prod.fst).Sublist sources ∧
    pairs.map Prod.snd = accepted ∧ (∀ pair ∈ pairs, makes pair.1 pair.2) ∧
      ∀ first ∈ pairs, ∀ second ∈ pairs,
        SameLinks same (ids first.1) (ids second.1) first.2.span second.2.span

/-! ### Spans that are accepted -/

/-- The identifiers of a span are those of its source, normalised. -/
structure NormalizedIds {Id : Type} (normalize : String → Option UUID) (text : Id → String)
    (ids : SpanIds Id) (span : SpanSchema) : Prop where
  spanId : normalize (text ids.spanId) = some span.spanId
  traceId : normalize (text ids.traceId) = some span.traceId
  parent : ids.parent.map (fun parent => normalize (text parent)) = span.parentSpanId.map some

/-- The converter shows identifiers as texts. -/
structure ShownIds {Id : Type} (text : Id → String) (ids : SpanIds Id)
    (converted : ConvertedSpan) : Prop where
  spanId : converted.spanId = text ids.spanId
  traceId : converted.traceId = text ids.traceId
  parent : converted.parentSpanId = ids.parent.map text

theorem constrained_bind_eq_some {α β : Type} {constraint : α → Bool} {parse : α → Option β}
    {value : α} {result : β} (done : (constrained constraint value >>= parse) = some result) :
    parse value = some result := by
  obtain ⟨kept, isKept, parsed⟩ := Option.bind_eq_some_iff.mp done
  rwa [(constrained_eq_some isKept).2]

theorem normalizedIds_of_spanSchema {Id : Type} {validation : OtlpValidation} {now : Int}
    {text : Id → String} {ids : SpanIds Id} {converted : ConvertedSpan} {accepted : AcceptedSpan}
    (shown : ShownIds text ids converted)
    (done : validation.spanSchema now converted = some accepted) :
    NormalizedIds validation.normalizeSpanIdentifier text ids accepted.span := by
  obtain ⟨schema, validated, rest⟩ := Option.bind_eq_some_iff.mp done
  obtain ⟨metadata, _, built⟩ := Option.bind_eq_some_iff.mp rest
  cases built
  obtain ⟨entries, values, bounds, isDict, identified, parsed, same, _⟩ := span_eq_some validated
  cases isDict
  obtain ⟨isTrace, isParent, -⟩ := spanValues_eq_some parsed
  have traceOf : schema.traceId = values.traceId := congrArg SpanSchema.traceId same
  have parentOf : schema.parentSpanId = values.parentSpanId :=
    congrArg SpanSchema.parentSpanId same
  refine ⟨?_, ?_, ?_⟩
  · rw [← shown.spanId]
    exact identified
  · rw [← shown.traceId, traceOf]
    change (constrained (fun text => 1 ≤ text.length && text.length ≤ 64) converted.traceId >>=
      validation.normalizeSpanIdentifier) = some values.traceId at isTrace
    exact constrained_bind_eq_some isTrace
  · rw [parentOf]
    change optionalField _ (some (orNull converted.parentSpanId)) = some values.parentSpanId
      at isParent
    rw [shown.parent] at isParent
    cases given : ids.parent with
    | none =>
        rw [given] at isParent
        have empty : none = values.parentSpanId := Option.some.inj isParent
        rw [← empty]
        rfl
    | some parent =>
        rw [given] at isParent
        obtain ⟨id, parsedParent, isSome⟩ := Option.map_eq_some_iff.mp isParent
        change (constrained (fun text => text.length ≤ 64) (text parent) >>=
          validation.normalizeSpanIdentifier) = some id at parsedParent
        rw [← isSome]
        exact congrArg some (constrained_bind_eq_some parsedParent)

/-! ### Lists of spans -/

/-- What holds of any two spans that are made of their sources holds of a request. -/
theorem linkedAsSources_filterMap {Span Id : Type} {validation : OtlpValidation} {now : Int}
    {convert : Span → Except PyException ConvertedSpan} {ids : Span → SpanIds Id}
    {same : Id → Id → Prop} {sources : List Span} {converted : List ConvertedSpan}
    (each : List.Forall₂ (fun source result => convert source = .ok result) sources converted)
    (linked : ∀ first ∈ sources, ∀ second ∈ sources, ∀ span other,
      validation.Makes now convert first span → validation.Makes now convert second other →
        SameLinks same (ids first) (ids second) span.span other.span) :
    LinkedAsSources (validation.Makes now convert) ids same sources
      (converted.filterMap (validation.spanSchema now)) := by
  have pairs : ∃ pairs : List (Span × AcceptedSpan), (pairs.map Prod.fst).Sublist sources ∧
      pairs.map Prod.snd = converted.filterMap (validation.spanSchema now) ∧
        ∀ pair ∈ pairs, validation.Makes now convert pair.1 pair.2 := by
    clear linked
    induction each with
    | nil => exact ⟨[], List.Sublist.refl _, rfl, List.forall_mem_nil _⟩
    | @cons source result _ _ read _ inductionHypothesis =>
        obtain ⟨pairs, sublist, accepted, makes⟩ := inductionHypothesis
        rw [filterMap_cons_eq_append]
        cases made : validation.spanSchema now result with
        | none => exact ⟨pairs, sublist.cons _, accepted, makes⟩
        | some span =>
            exact ⟨(source, span) :: pairs, sublist.cons_cons _, congrArg (span :: ·) accepted,
              List.forall_mem_cons.mpr ⟨⟨result, read, made⟩, makes⟩⟩
  obtain ⟨pairs, sublist, accepted, makes⟩ := pairs
  refine ⟨pairs, sublist, accepted, makes, fun first firstIn second secondIn => ?_⟩
  exact linked first.1 (sublist.subset (List.mem_map_of_mem firstIn)) second.1
    (sublist.subset (List.mem_map_of_mem secondIn)) _ _ (makes first firstIn)
    (makes second secondIn)

theorem linkedAsSources_receiveOtlp {Span Id : Type} {library : OtlpLibrary}
    {validation : OtlpValidation} {now : Int} {body : OtlpBody}
    {convert : Span → Except PyException ConvertedSpan} {ids : Span → SpanIds Id}
    {same : Id → Id → Prop} {resourceSpans : List (ResourceSpans Span)}
    (parsed : library.parse body = (extractSpans convert resourceSpans).toOption)
    (linked : ∀ first ∈ requestSpans resourceSpans, ∀ second ∈ requestSpans resourceSpans,
      ∀ span other, validation.Makes now convert first span →
        validation.Makes now convert second other →
          SameLinks same (ids first) (ids second) span.span other.span) :
    LinkedAsSources (validation.Makes now convert) ids same (requestSpans resourceSpans)
      (receiveOtlp library validation now body).accepted := by
  rw [receiveOtlp, parsed]
  cases outcome : extractSpans convert resourceSpans with
  | error exception =>
      exact ⟨[], List.nil_sublist _, rfl, List.forall_mem_nil _, List.forall_mem_nil _⟩
  | ok converted =>
      have accepted := acceptedSpans_tally validation now converted .initial
      show LinkedAsSources _ _ _ _
        (converted.foldl (validation.tally now) .initial).acceptedSpans
      rw [accepted]
      exact linkedAsSources_filterMap (mapM_eq_ok_iff.mp outcome) linked

/-- Identifiers that are told apart link the spans as their sources. -/
theorem sameLinks_of_normalizedIds {Id : Type} {normalize : String → Option UUID}
    {text : Id → String} {same : Id → Id → Prop} {values : Set String}
    (apart : ∀ left right first second, text left ∈ values → text right ∈ values →
      normalize (text left) = some first → normalize (text right) = some second →
        (first = second ↔ same left right))
    {source target : SpanIds Id} {span other : SpanSchema}
    (sourceIn : source.Within text values) (targetIn : target.Within text values)
    (made : NormalizedIds normalize text source span)
    (otherMade : NormalizedIds normalize text target other) :
    SameLinks same source target span other where
  parent := by
    have known := made.parent
    cases given : source.parent with
    | none =>
        rw [given] at known
        rw [Option.map_eq_none_iff.mp known.symm]
        simp
    | some parent =>
        rw [given] at known
        obtain ⟨id, isParent, parentDone⟩ := Option.map_eq_some_iff.mp known.symm
        have linked := apart parent target.spanId id other.spanId (sourceIn.parent parent given)
          targetIn.spanId parentDone.symm otherMade.spanId
        rw [isParent, Option.some_inj, linked]
        simp
  root := by
    have known := made.parent
    rw [← Option.map_eq_none_iff (f := some), ← known, Option.map_eq_none_iff]
  trace := apart _ _ _ _ sourceIn.traceId targetIn.traceId made.traceId otherMade.traceId
  span := apart _ _ _ _ sourceIn.spanId targetIn.spanId made.spanId otherMade.spanId

/-! ### Both encodings -/

theorem ids_of_convert {library : OtlpLibrary} {spanId traceId parentSpanId name : String}
    {attrs : PyAttributes} {error : Option String} {latencyMs : ℚ} {startedAt : String}
    {converted : ConvertedSpan}
    (done : library.convert spanId traceId parentSpanId name attrs error latencyMs startedAt =
      .ok converted) :
    converted.spanId = spanId ∧ converted.traceId = traceId ∧
      converted.parentSpanId = orNone parentSpanId := by
  rw [OtlpLibrary.convert] at done
  obtain ⟨inputTokens, -, rest⟩ := bind_eq_ok.mp done
  obtain ⟨outputTokens, -, built⟩ := bind_eq_ok.mp rest
  cases built
  exact ⟨rfl, rfl, rfl⟩

theorem hexText_eq_empty_iff {bytes : List UInt8} : hexText bytes = "" ↔ bytes = [] := by
  constructor
  · intro empty
    cases bytes with
    | nil => rfl
    | cons byte rest =>
        have chars := congrArg String.toList empty
        rw [hexText, String.toList_ofList] at chars
        cases chars
  · rintro rfl
    rfl

theorem hexText_injective : Function.Injective hexText := by
  intro left right same
  have chars := congrArg String.toList same
  simp only [hexText, String.toList_ofList] at chars
  clear same
  induction left generalizing right with
  | nil =>
      cases right with
      | nil => rfl
      | cons byte rest => cases chars
  | cons byte rest inductionHypothesis =>
      cases right with
      | nil => cases chars
      | cons other others =>
          obtain ⟨high, behind⟩ := List.cons.inj chars
          obtain ⟨low, restChars⟩ := List.cons.inj behind
          have highDigit := congrArg Fin.val (UUID.hexDigit_injective high)
          have lowDigit := congrArg Fin.val (UUID.hexDigit_injective low)
          simp only [Fin.val_ofNat] at highDigit lowDigit
          have bound := byte.toNat_lt
          have otherBound := other.toNat_lt
          have value : byte.toNat = other.toNat := by omega
          rw [UInt8.toNat_inj.mp value, inductionHypothesis restChars]

theorem forall_mem_hexText (bytes : List UInt8) {motive : Char → Prop}
    (digit : ∀ digit : Fin 16, motive (UUID.hexDigit digit)) :
    ∀ char ∈ (hexText bytes).toList, motive char := by
  intro char member
  rw [hexText, String.toList_ofList] at member
  obtain ⟨byte, -, shown⟩ := List.mem_flatMap.mp member
  rcases List.mem_cons.mp shown with rfl | shown
  · exact digit _
  · rw [List.mem_singleton.mp shown]
    exact digit _

/-- Bytes that are accepted are hashed: no UUID is read from their digits. -/
theorem isOtlpHex_hexText {validation : Validation} {python : UnicodeText} {bytes : List UInt8}
    {id : UUID}
    (done : (validation.withTexts python).normalizeSpanIdentifier (hexText bytes) = some id) :
    loweredId python (hexText bytes) = hexText bytes ∧ isOtlpHex (hexText bytes) = true := by
  have known : python.strip (hexText bytes) = hexText bytes ∧
      loweredId python (hexText bytes) = hexText bytes :=
    loweredId_of_isIdChar (forall_mem_hexText bytes isIdChar_hexDigit)
  obtain ⟨stripped, lowered⟩ := known
  refine ⟨lowered, ?_⟩
  rcases normalizeSpanIdentifier_eq_some.mp done with ⟨hashed, -⟩ | ⟨-, read⟩
  · rwa [lowered] at hashed
  · rw [stripped] at read
    have length := CharacterData.length_of_uuid? (forall_mem_hexText bytes (by decide)) read
    have digits : (hexText bytes).toList.all isLowerHex = true :=
      List.all_eq_true.mpr (forall_mem_hexText bytes (by decide))
    have dashless : (hexText bytes).toList.contains '-' = false := by
      rw [List.contains_eq_mem, decide_eq_false_iff_not]
      exact fun member => absurd rfl
        (forall_mem_hexText bytes (motive := (· ≠ '-')) UUID.hexDigit_ne_dash '-' member)
    rw [isOtlpHex, dashless, digits, length]
    rfl

/-- Accepted bytes are told apart by their identifiers. -/
theorem normalized_hexText_iff {validation : Validation} {python : UnicodeText}
    {values : Set String} (distinct : DistinctIds validation.uuid5 python values)
    (left right : List UInt8) (first second : UUID) (leftIn : hexText left ∈ values)
    (rightIn : hexText right ∈ values)
    (leftDone : (validation.withTexts python).normalizeSpanIdentifier (hexText left) = some first)
    (rightDone :
      (validation.withTexts python).normalizeSpanIdentifier (hexText right) = some second) :
    first = second ↔ left = right := by
  rw [normalized_eq_iff distinct leftIn rightIn leftDone rightDone]
  obtain ⟨leftLowered, leftHex⟩ := isOtlpHex_hexText leftDone
  obtain ⟨rightLowered, -⟩ := isOtlpHex_hexText rightDone
  constructor
  · intro same
    have lowered := same.lowered (Or.inl (by rw [leftLowered, leftHex]))
    rw [leftLowered, rightLowered] at lowered
    exact hexText_injective lowered
  · rintro rfl
    exact Or.inl rfl

theorem shownIds_protobuf {library : OtlpLibrary} {span : ProtoSpan} {converted : ConvertedSpan}
    (done : span.convert library = .ok converted) : ShownIds hexText span.ids converted := by
  rw [ProtoSpan.convert] at done
  obtain ⟨attrs, -, done⟩ := bind_eq_ok.mp done
  obtain ⟨latencyMs, -, done⟩ := bind_eq_ok.mp done
  obtain ⟨startedAt, -, done⟩ := bind_eq_ok.mp done
  obtain ⟨spanId, traceId, parent⟩ := ids_of_convert done
  refine ⟨spanId, traceId, ?_⟩
  rw [parent, orNone, ProtoSpan.ids]
  simp only [hexText_eq_empty_iff]
  split_ifs <;> rfl

theorem shownIds_json {library : OtlpLibrary} {span : JsonSpan} {converted : ConvertedSpan}
    (done : span.convert library = .ok converted) : ShownIds id span.ids converted := by
  rw [JsonSpan.convert] at done
  obtain ⟨attrs, -, done⟩ := bind_eq_ok.mp done
  obtain ⟨error, -, done⟩ := bind_eq_ok.mp done
  obtain ⟨start, -, done⟩ := bind_eq_ok.mp done
  obtain ⟨finish, -, done⟩ := bind_eq_ok.mp done
  obtain ⟨latencyMs, -, done⟩ := bind_eq_ok.mp done
  obtain ⟨startedAt, -, done⟩ := bind_eq_ok.mp done
  obtain ⟨spanId, traceId, parent⟩ := ids_of_convert done
  exact ⟨spanId, traceId, by rw [parent, Option.map_id, id, JsonSpan.ids]⟩

/-! ### What normalisation preserves -/

/-- Normalisation preserves links among the spans whose identifiers are these values. -/
structure PreservesLinks (library : OtlpLibrary) (validation : OtlpValidation)
    (python : UnicodeText) (values : Set String) : Prop where
  idempotent : ∀ value id,
    (validation.toValidation.withTexts python).normalizeSpanIdentifier value = some id →
      (validation.toValidation.withTexts python).normalizeSpanIdentifier id.str = some id
  caseBlind : ∀ value ∈ values, ∀ other, python.SameUpToCase value other →
    (validation.toValidation.withTexts python).normalizeSpanIdentifier other =
      (validation.toValidation.withTexts python).normalizeSpanIdentifier value
  separates : ∀ left ∈ values, ∀ right ∈ values, isOtlpHex (loweredId python left) = true →
    isOtlpHex (loweredId python right) = true →
      (validation.toValidation.withTexts python).normalizeSpanIdentifier left =
          (validation.toValidation.withTexts python).normalizeSpanIdentifier right →
        python.SameUpToCase left right
  protobufLinks : ∀ now resourceSpans,
    (∀ span ∈ requestSpans resourceSpans, span.ids.Within hexText values) →
      LinkedAsSources ((validation.withTexts python).Makes now (ProtoSpan.convert library))
        ProtoSpan.ids (· = ·) (requestSpans resourceSpans)
        (receiveOtlp library (validation.withTexts python) now (.protobuf resourceSpans)).accepted
  jsonLinks : ∀ now resourceSpans,
    (∀ span ∈ requestSpans resourceSpans, span.ids.Within id values) →
      LinkedAsSources ((validation.withTexts python).Makes now (JsonSpan.convert library))
        JsonSpan.ids (SameSpanId python) (requestSpans resourceSpans)
        (receiveOtlp library (validation.withTexts python) now (.json resourceSpans)).accepted

/-- Spans whose identifiers are told apart are linked as their sources, in either encoding. -/
theorem linkedAsSources_of_apart {Span Id : Type} {library : OtlpLibrary}
    {validation : OtlpValidation} {now : Int} {body : OtlpBody}
    {convert : Span → Except PyException ConvertedSpan} {ids : Span → SpanIds Id}
    {text : Id → String} {same : Id → Id → Prop} {values : Set String}
    {resourceSpans : List (ResourceSpans Span)}
    (parsed : library.parse body = (extractSpans convert resourceSpans).toOption)
    (shown : ∀ source converted, convert source = .ok converted →
      ShownIds text (ids source) converted)
    (apart : ∀ left right first second, text left ∈ values → text right ∈ values →
      validation.normalizeSpanIdentifier (text left) = some first →
        validation.normalizeSpanIdentifier (text right) = some second →
          (first = second ↔ same left right))
    (within : ∀ span ∈ requestSpans resourceSpans, (ids span).Within text values) :
    LinkedAsSources (validation.Makes now convert) ids same (requestSpans resourceSpans)
      (receiveOtlp library validation now body).accepted := by
  refine linkedAsSources_receiveOtlp parsed ?_
  rintro first firstIn second secondIn span other ⟨converted, read, made⟩
    ⟨otherConverted, otherRead, otherMade⟩
  exact sameLinks_of_normalizedIds apart (within first firstIn) (within second secondIn)
    (normalizedIds_of_spanSchema (shown first converted read) made)
    (normalizedIds_of_spanSchema (shown second otherConverted otherRead) otherMade)

/-- Links are preserved exactly when no identifier is spelled with `urn:` or `uuid:`, since
`uuid.UUID` is given the text in the case in which it came. -/
theorem preservesLinks_iff (library : OtlpLibrary) (validation : OtlpValidation)
    (python : UnicodeText) (values : Set String)
    (distinct : DistinctIds validation.uuid5 python values) :
    PreservesLinks library validation python values ↔
      ∀ value ∈ values, ¬python.UrnSpelled value := by
  constructor
  · intro preserves value member
    exact normalizeSpanIdentifier_caseBlind_iff.mp (preserves.caseBlind value member)
  · intro plain
    refine ⟨fun _ id _ => normalizeSpanIdentifier_str id, ?_, ?_, ?_, ?_⟩
    · intro value member
      exact normalizeSpanIdentifier_caseBlind_iff.mpr (plain value member)
    · intro left leftIn right rightIn leftHex rightHex same
      rw [normalizeSpanIdentifier_of_isOtlpHex leftHex,
        normalizeSpanIdentifier_of_isOtlpHex rightHex] at same
      exact distinct.injective left leftIn right rightIn leftHex rightHex (Option.some.inj same)
    · intro now resourceSpans
      refine linkedAsSources_of_apart rfl (fun _ _ => shownIds_protobuf) ?_
      rw [toValidation_withTexts]
      exact normalized_hexText_iff distinct
    · intro now resourceSpans
      refine linkedAsSources_of_apart rfl (fun _ _ => shownIds_json) ?_
      rw [toValidation_withTexts]
      exact fun _ _ _ _ => normalized_eq_iff distinct

/-- The identifiers of a trace, of a span and of a span that came as a UUID. -/
def linkedIds : List String :=
  ["4bf92f3577b34da6a3ce929d0e0e4736", "00f067aa0ba902b7",
    "550e8400-e29b-41d4-a716-446655440000"]

/-- Validation with `uuid5` as it is on the first two of these. -/
def linkedValidation : OtlpValidation :=
  { plainValidation with
    uuid5 := fun text =>
      if text = "4bf92f3577b34da6a3ce929d0e0e4736" then 0xfff276cbea365468807970870ce52a58
      else 0x293db1451d035d468d03831a9f06e5af }

theorem preservesLinks_linkedIds :
    PreservesLinks OtlpLibrary.plain linkedValidation .ascii {value | value ∈ linkedIds} := by
  have apart : ∀ left ∈ linkedIds, ∀ right ∈ linkedIds,
      isOtlpHex (loweredId .ascii left) = true → isOtlpHex (loweredId .ascii right) = true →
        linkedValidation.uuid5 (loweredId .ascii left) =
            linkedValidation.uuid5 (loweredId .ascii right) →
          loweredId .ascii left = loweredId .ascii right := by
    decide +kernel
  have fresh : ∀ left ∈ linkedIds, ∀ right ∈ linkedIds,
      UnicodeText.ascii.uuid? (UnicodeText.ascii.strip right) ≠
        some (linkedValidation.uuid5 (loweredId .ascii left)) := by
    decide +kernel
  have distinct : DistinctIds linkedValidation.uuid5 .ascii {value | value ∈ linkedIds} := by
    refine ⟨apart, ?_⟩
    rintro left leftIn right rightIn - id ⟨-, read⟩ rfl
    exact fresh left leftIn right rightIn read
  refine (preservesLinks_iff OtlpLibrary.plain linkedValidation .ascii _ distinct).mpr ?_
  show ∀ value ∈ linkedIds, ¬UnicodeText.ascii.UrnSpelled value
  decide +kernel

/-- One UUID in two cases: it is read in lower case and refused in upper case. -/
theorem not_preservesLinks_upperUrn :
    DistinctIds plainValidation.uuid5 .ascii {"urn:uuid:550e8400-e29b-41d4-a716-446655440000"} ∧
      (plainValidation.toValidation.withTexts .ascii).normalizeSpanIdentifier
          "urn:uuid:550e8400-e29b-41d4-a716-446655440000" =
        some 0x550e8400e29b41d4a716446655440000 ∧
      (plainValidation.toValidation.withTexts .ascii).normalizeSpanIdentifier
          "URN:UUID:550E8400-E29B-41D4-A716-446655440000" = none ∧
      UnicodeText.ascii.SameUpToCase "urn:uuid:550e8400-e29b-41d4-a716-446655440000"
        "URN:UUID:550E8400-E29B-41D4-A716-446655440000" ∧
      ¬PreservesLinks OtlpLibrary.plain plainValidation .ascii
        {"urn:uuid:550e8400-e29b-41d4-a716-446655440000"} := by
  have unhashed : isOtlpHex (loweredId .ascii "urn:uuid:550e8400-e29b-41d4-a716-446655440000") =
      false := by
    decide +kernel
  have taken : (plainValidation.toValidation.withTexts .ascii).normalizeSpanIdentifier
      "urn:uuid:550e8400-e29b-41d4-a716-446655440000" =
        some 0x550e8400e29b41d4a716446655440000 := by
    decide +kernel
  have refused : (plainValidation.toValidation.withTexts .ascii).normalizeSpanIdentifier
      "URN:UUID:550E8400-E29B-41D4-A716-446655440000" = none := by
    decide +kernel
  have same : UnicodeText.ascii.SameUpToCase "urn:uuid:550e8400-e29b-41d4-a716-446655440000"
      "URN:UUID:550E8400-E29B-41D4-A716-446655440000" := by
    unfold UnicodeText.SameUpToCase
    decide +kernel
  refine ⟨⟨?_, ?_⟩, taken, refused, same, fun preserves => ?_⟩
  · rintro left rfl right rfl hashed
    rw [unhashed] at hashed
    cases hashed
  · rintro left rfl right rfl hashed
    rw [unhashed] at hashed
    cases hashed
  · have blind := preserves.caseBlind _ (Set.mem_singleton _) _ same
    rw [taken, refused] at blind
    cases blind

end LlmObs.Backend
