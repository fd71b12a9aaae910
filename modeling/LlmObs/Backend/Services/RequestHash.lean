import LlmObs.Backend.Schemas.IngestRequest
import LlmObs.Backend.Services.Idempotency
import LlmObs.Foundation.JsonText
import LlmObs.Foundation.Sha256

/-!
Owns `ingest_request_hash` and what it makes of two requests with one body: the
hash is taken over the validated spans, so it sees every default that validation
draws. It does not own the record that keeps the hash.
-/

namespace LlmObs.Backend

open LlmObs.Foundation

/-! ### Hash of a request -/

/-- The texts of the values that are no JSON values themselves. -/
structure Serialization where
  /-- A `datetime` in `model_dump(mode="json")`. -/
  datetimeText : Datetime → String
  /-- `float.__repr__` -/
  floatRepr : ℚ → String

def optionalText : Option String → Json
  | none => .null
  | some text => .str text

/-- `model_dump(mode="json")` -/
def SpanSchema.modelDump (serialization : Serialization) (span : SpanSchema) :
    List (String × Json) :=
  [("span_id", .str span.spanId.str),
    ("trace_id", .str span.traceId.str),
    ("parent_span_id", optionalText (span.parentSpanId.map UUID.str)),
    ("name", .str span.name),
    ("provider", .str span.provider),
    ("model", .str span.model),
    ("input_messages", .arr span.inputMessages),
    ("output", optionalText span.output),
    ("error", optionalText span.error),
    ("input_tokens", .int span.inputTokens),
    ("output_tokens", .int span.outputTokens),
    ("latency_ms", .float span.latencyMs),
    ("started_at", .str (serialization.datetimeText span.startedAt)),
    ("metadata", .obj span.metadata)]

/-- `canonical` of `ingest_request_hash`. -/
def canonicalText (serialization : Serialization) (spans : List SpanSchema) : List Char :=
  Json.dumps serialization.floatRepr (.arr (spans.map fun span => .obj
    (span.modelDump serialization)))

def ingestRequestHash (serialization : Serialization) (spans : List SpanSchema) : RequestHash :=
  sha256 (encodeUtf8 (canonicalText serialization spans))

/-! ### Bodies -/

/-- The span has a `span_id` of its own. -/
def GivesSpanId (value : Json) : Prop :=
  ∀ entries, dict? value = some entries → (entries.lookup "span_id").isSome

/-- Every span of the body has. -/
def GivesSpanIds (body : Json) : Prop :=
  ∀ entries values, dict? body = some entries → entries.lookup "spans" >>= list? = some values →
    ∀ value ∈ values, GivesSpanId value

section

variable {validation : Validation} {now : Int} {uuid4 : UUID} {value : Json}
  {span : SpanSchema}

/-- A span with an identifier of its own is the same in every request. -/
theorem span_eq_of_givesSpanId {otherNow : Int} {otherUuid4 : UUID} {other : SpanSchema}
    (gives : GivesSpanId value) (validated : validation.span now uuid4 value = some span)
    (otherValidated : validation.span otherNow otherUuid4 value = some other) : other = span := by
  obtain ⟨entries, values, bounds, isDict, identified, parsed, built, -⟩ :=
    span_eq_some validated
  obtain ⟨entries', values', bounds', isDict', identified', parsed', built', -⟩ :=
    span_eq_some otherValidated
  rw [isDict, Option.some.injEq] at isDict'
  subst isDict'
  rw [parsed, Option.some.injEq] at parsed'
  subst parsed'
  obtain ⟨text, given⟩ := Option.isSome_iff_exists.mp (gives entries isDict)
  rw [given] at identified identified'
  have sameId : other.spanId = span.spanId :=
    Option.some.inj (identified'.symm.trans identified)
  rw [built', built, sameId]

/-- A span without one takes whatever `uuid4` returns. -/
theorem span_of_not_givesSpanId (omits : ¬ GivesSpanId value)
    (validated : validation.span now uuid4 value = some span) (other : UUID) :
    validation.span now other value = some { span with spanId := other } := by
  obtain ⟨entries, values, bounds, isDict, identified, parsed, built, notFuture⟩ :=
    span_eq_some validated
  have missing : entries.lookup "span_id" = none := by
    by_contra given
    refine omits fun others isDict' => ?_
    rw [isDict, Option.some.injEq] at isDict'
    subst isDict'
    exact Option.isSome_iff_ne_none.mpr given
  rw [built] at notFuture ⊢
  simp only [Validation.span, isDict, missing, Validation.spanId, fieldOr, parsed,
    Option.bind_eq_bind, Option.bind_some, dif_pos bounds]
  exact if_pos notFuture

end

/-! ### Lists of spans -/

section

variable {validation : Validation} {now otherNow : Int} {uuid4 otherUuid4 : Nat → UUID}

theorem spans_cons_eq_some {position : Nat} {value : Json} {rest : List Json}
    {spans : List SpanSchema} :
    validation.spans now uuid4 position (value :: rest) = some spans ↔
      ∃ span tail, validation.span now (uuid4 position) value = some span ∧
        validation.spans now uuid4 (position + 1) rest = some tail ∧ spans = span :: tail := by
  simp only [Validation.spans, Option.bind_eq_bind, Option.bind_eq_some_iff, Option.pure_def,
    Option.some.injEq]
  constructor
  · rintro ⟨span, validated, tail, validatedTail, rfl⟩
    exact ⟨span, tail, validated, validatedTail, rfl⟩
  · rintro ⟨span, tail, validated, validatedTail, rfl⟩
    exact ⟨span, validated, tail, validatedTail, rfl⟩

theorem spans_eq_of_givesSpanId {values : List Json}
    (gives : ∀ value ∈ values, GivesSpanId value) {position : Nat}
    {spans others : List SpanSchema}
    (validated : validation.spans now uuid4 position values = some spans)
    (otherValidated : validation.spans otherNow otherUuid4 position values = some others) :
    others = spans := by
  induction values generalizing position spans others with
  | nil =>
      cases validated
      cases otherValidated
      rfl
  | cons value rest inductionHypothesis =>
      obtain ⟨span, tail, first, validatedTail, rfl⟩ := spans_cons_eq_some.mp validated
      obtain ⟨other, otherTail, otherFirst, otherValidatedTail, rfl⟩ :=
        spans_cons_eq_some.mp otherValidated
      have sameSpan :=
        span_eq_of_givesSpanId (gives value (List.mem_cons_self ..)) first otherFirst
      have sameTail := inductionHypothesis
        (fun later member => gives later (List.mem_cons_of_mem _ member)) validatedTail
        otherValidatedTail
      rw [sameSpan, sameTail]

/-- Draws that agree from a position on validate the rest alike. -/
theorem spans_congr_draws {values : List Json} {position : Nat}
    (agree : ∀ later, position ≤ later → otherUuid4 later = uuid4 later) :
    validation.spans now otherUuid4 position values =
      validation.spans now uuid4 position values := by
  induction values generalizing position with
  | nil => rfl
  | cons value rest inductionHypothesis =>
      have tail : validation.spans now otherUuid4 (position + 1) rest =
          validation.spans now uuid4 (position + 1) rest :=
        inductionHypothesis fun later after => agree later (by omega)
      simp only [Validation.spans, agree position (le_refl _), tail]

/-- One span that takes its identifier from `uuid4` can take any other one, with
everything around it unchanged. -/
theorem spans_of_not_givesSpanId {values : List Json}
    (omits : ∃ value ∈ values, ¬ GivesSpanId value) {position : Nat}
    {spans : List SpanSchema}
    (validated : validation.spans now uuid4 position values = some spans) :
    ∃ before span after, spans = before ++ span :: after ∧ ∀ spanId, ∃ draws,
      validation.spans now draws position values =
        some (before ++ { span with spanId := spanId } :: after) := by
  induction values generalizing position spans with
  | nil => simp at omits
  | cons value rest inductionHypothesis =>
      obtain ⟨first, tail, validatedFirst, validatedTail, rfl⟩ := spans_cons_eq_some.mp validated
      by_cases gives : GivesSpanId value
      · have omitsLater : ∃ later ∈ rest, ¬ GivesSpanId later := by
          obtain ⟨later, member, omitsLater⟩ := omits
          rcases List.mem_cons.mp member with rfl | inRest
          · exact absurd gives omitsLater
          · exact ⟨later, inRest, omitsLater⟩
        obtain ⟨before, span, after, rfl, redraw⟩ := inductionHypothesis omitsLater validatedTail
        refine ⟨first :: before, span, after, rfl, fun spanId => ?_⟩
        obtain ⟨draws, redrawn⟩ := redraw spanId
        refine ⟨fun index => if index = position then uuid4 position else draws index, ?_⟩
        refine spans_cons_eq_some.mpr ⟨first, _, ?_, ?_, rfl⟩
        · rwa [if_pos rfl]
        · refine (spans_congr_draws fun later afterwards => ?_).trans redrawn
          exact if_neg (by omega)
      · refine ⟨[], first, tail, rfl, fun spanId => ?_⟩
        refine ⟨fun index => if index = position then spanId else uuid4 index, ?_⟩
        refine spans_cons_eq_some.mpr ⟨_, tail, ?_, ?_, rfl⟩
        · rw [if_pos rfl]
          exact span_of_not_givesSpanId gives validatedFirst spanId
        · refine (spans_congr_draws fun later afterwards => ?_).trans validatedTail
          exact if_neg (by omega)

end

/-! ### Text of a request -/

/-- The text of one part stands between texts that depend on the others only. -/
theorem commaSeparated_split (before after : List (List Char)) :
    ∃ left right, ∀ part,
      Json.commaSeparated (before ++ part :: after) = left ++ part ++ right := by
  induction before with
  | nil =>
      cases after with
      | nil => exact ⟨[], [], fun part => by simp [Json.commaSeparated, List.intercalate]⟩
      | cons next rest =>
          refine ⟨[], ',' :: Json.commaSeparated (next :: rest), fun part => ?_⟩
          simp [Json.commaSeparated, List.intercalate]
  | cons first rest inductionHypothesis =>
      obtain ⟨left, right, split⟩ := inductionHypothesis
      refine ⟨first ++ ',' :: left, right, fun part => ?_⟩
      have tail := split part
      cases rest with
      | nil => simp_all [Json.commaSeparated, List.intercalate]
      | cons second rest => simp_all [Json.commaSeparated, List.intercalate]

theorem escapeChar_hexDigit (digit : Fin 16) :
    Json.escapeChar (UUID.hexDigit digit) = [UUID.hexDigit digit] := by
  revert digit
  decide

/-- The text of a UUID is quoted as it stands. -/
theorem quote_str (id : UUID) : Json.quote id.str = '"' :: id.str.toList ++ ['"'] := by
  have plain : ∀ character ∈ id.str.toList, Json.escapeChar character = [character] := by
    intro character member
    simp only [UUID.str, String.toList_ofList, List.mem_ofFn] at member
    obtain ⟨position, rfl⟩ := member
    unfold UUID.charAt
    split
    · decide
    · exact escapeChar_hexDigit _
  have unchanged : id.str.toList.flatMap Json.escapeChar = id.str.toList := by
    rw [List.flatMap_congr plain]
    simp
  rw [Json.quote, unchanged]

theorem quote_str_injective {left right : UUID}
    (same : Json.quote left.str = Json.quote right.str) : left = right := by
  rw [quote_str, quote_str] at same
  have texts := List.append_cancel_right (List.cons.inj same).2
  exact UUID.str_injective (String.toList_injective texts)

/-- An entry is sorted by its key, whatever its value. -/
theorem sortEntries_cons_split (key : String) (rest : List Json.EntryText) :
    ∃ before after, ∀ text,
      Json.sortEntries ((key, text) :: rest) = before ++ (key, text) :: after := by
  refine ⟨(Json.sortEntries rest).takeWhile fun entry => ¬ key ≤ entry.1,
    (Json.sortEntries rest).dropWhile fun entry => ¬ key ≤ entry.1, fun text => ?_⟩
  exact List.orderedInsert_eq_take_drop _ (key, text) (Json.sortEntries rest)

/-- The text of a span shows its identifier between texts that do not depend on
it. -/
theorem spanText_split (serialization : Serialization) (span : SpanSchema) :
    ∃ left right, ∀ spanId : UUID,
      Json.dumps serialization.floatRepr
          (.obj (SpanSchema.modelDump serialization { span with spanId := spanId })) =
        left ++ Json.quote spanId.str ++ right := by
  obtain ⟨before, after, sorted⟩ := sortEntries_cons_split "span_id"
    (Json.dumpsEntries serialization.floatRepr (span.modelDump serialization).tail)
  obtain ⟨left, right, split⟩ := commaSeparated_split
    (before.map fun entry => Json.quote entry.1 ++ ':' :: entry.2)
    (after.map fun entry => Json.quote entry.1 ++ ':' :: entry.2)
  refine ⟨'\x7b' :: left ++ (Json.quote "span_id" ++ [':']), right ++ ['\x7d'],
    fun spanId => ?_⟩
  have text : Json.dumps serialization.floatRepr
      (.obj (SpanSchema.modelDump serialization { span with spanId := spanId })) =
        Json.objectText (Json.sortEntries (("span_id", Json.quote spanId.str) ::
          Json.dumpsEntries serialization.floatRepr (span.modelDump serialization).tail)) := by
    rw [Json.dumps]
    rfl
  rw [text, sorted, Json.objectText, List.map_append, List.map_cons, split]
  simp

/-- So does the text of a request. -/
theorem canonicalText_split (serialization : Serialization) (before : List SpanSchema)
    (span : SpanSchema) (after : List SpanSchema) :
    ∃ left right, ∀ spanId : UUID,
      canonicalText serialization (before ++ { span with spanId := spanId } :: after) =
        left ++ Json.quote spanId.str ++ right := by
  have items : ∀ spans : List SpanSchema,
      Json.dumpsItems serialization.floatRepr
          (spans.map fun span => .obj (span.modelDump serialization)) =
        spans.map fun span =>
          Json.dumps serialization.floatRepr (.obj (span.modelDump serialization)) := by
    intro spans
    induction spans with
    | nil => rfl
    | cons first rest inductionHypothesis =>
        rw [List.map_cons, Json.dumpsItems, inductionHypothesis, List.map_cons]
  obtain ⟨spanLeft, spanRight, spanText⟩ := spanText_split serialization span
  obtain ⟨left, right, split⟩ := commaSeparated_split
    (before.map fun span =>
      Json.dumps serialization.floatRepr (.obj (span.modelDump serialization)))
    (after.map fun span =>
      Json.dumps serialization.floatRepr (.obj (span.modelDump serialization)))
  refine ⟨'[' :: left ++ spanLeft, spanRight ++ right ++ [']'], fun spanId => ?_⟩
  rw [canonicalText, Json.dumps, items, List.map_append, List.map_cons, split, spanText]
  simp

/-! ### Two requests with one body -/

section

variable {validation : Validation} {now otherNow : Int} {uuid4 otherUuid4 : Nat → UUID}
  {body : Json} {request other : IngestRequest}

theorem ingestRequest_eq_some
    (accepted : validation.ingestRequest now uuid4 body = some request) :
    ∃ entries values idempotencyKey, dict? body = some entries ∧
      entries.lookup "spans" >>= list? = some values ∧
      validation.spans now uuid4 0 values = some request.spans ∧
      optionalField str? (entries.lookup "idempotency_key") = some idempotencyKey ∧
      ∀ key ∈ idempotencyKey, key.length ≤ 128 := by
  simp only [Validation.ingestRequest, Option.bind_eq_bind, Option.bind_eq_some_iff] at accepted
  obtain ⟨entries, isDict, values, ⟨listed, found, isList⟩, spans, validated, idempotencyKey,
    keyed, built⟩ := accepted
  split at built
  · rename_i bounds
    cases built
    refine ⟨entries, values, idempotencyKey, isDict, ?_, validated, keyed, bounds.2⟩
    rw [found]
    exact isList
  · cases built

theorem spans_eq_of_givesSpanIds (gives : GivesSpanIds body)
    (accepted : validation.ingestRequest now uuid4 body = some request)
    (otherAccepted : validation.ingestRequest otherNow otherUuid4 body = some other) :
    other.spans = request.spans := by
  obtain ⟨entries, values, -, isDict, listed, validated, -, -⟩ :=
    ingestRequest_eq_some accepted
  obtain ⟨entries', values', -, isDict', listed', validated', -, -⟩ :=
    ingestRequest_eq_some otherAccepted
  rw [isDict, Option.some.injEq] at isDict'
  subst isDict'
  rw [listed, Option.some.injEq] at listed'
  subst listed'
  exact spans_eq_of_givesSpanId (gives entries values isDict listed) validated validated'

/-- A body that leaves a `span_id` to its default makes requests that differ in
that identifier and in nothing else. -/
theorem redraw_of_not_givesSpanIds (omits : ¬ GivesSpanIds body)
    (accepted : validation.ingestRequest now uuid4 body = some request) :
    ∃ before, ∃ span : SpanSchema, ∃ after, ∀ spanId : UUID, ∃ draws other,
      validation.ingestRequest now draws body = some other ∧
        other.spans = before ++ { span with spanId := spanId } :: after := by
  obtain ⟨entries, values, idempotencyKey, isDict, listed, validated, keyed, short⟩ :=
    ingestRequest_eq_some accepted
  have omitsOne : ∃ value ∈ values, ¬ GivesSpanId value := by
    by_contra none
    push Not at none
    refine omits fun entries' values' isDict' listed' value member => none value ?_
    rw [isDict, Option.some.injEq] at isDict'
    subst isDict'
    rw [listed, Option.some.injEq] at listed'
    exact listed' ▸ member
  obtain ⟨before, span, after, spans, redraw⟩ := spans_of_not_givesSpanId omitsOne validated
  refine ⟨before, span, after, fun spanId => ?_⟩
  obtain ⟨draws, redrawn⟩ := redraw spanId
  have sameLength : (before ++ { span with spanId := spanId } :: after).length =
      request.spans.length := by
    rw [spans]
    simp
  have bounds : (1 ≤ (before ++ { span with spanId := spanId } :: after).length ∧
      (before ++ { span with spanId := spanId } :: after).length ≤ maxSpans) ∧
        ∀ key ∈ idempotencyKey, key.length ≤ 128 := by
    rw [sameLength]
    exact ⟨⟨request.spans_pos, request.spans_le⟩, short⟩
  refine ⟨draws, ⟨_, idempotencyKey, bounds.1.1, bounds.1.2, bounds.2⟩, ?_, rfl⟩
  simp only [Validation.ingestRequest, Option.bind_eq_bind, isDict, Option.bind_some,
    Option.bind_eq_some_iff]
  obtain ⟨listedValue, found, isList⟩ := Option.bind_eq_some_iff.mp listed
  exact ⟨values, ⟨listedValue, found, isList⟩, _, redrawn, idempotencyKey, keyed,
    dif_pos bounds⟩

/-- Every two requests with an accepted body hash the same text exactly when each
of its spans has a `span_id`. Then they have the same hash, and the second is not
refused for a different request body. -/
theorem replay_recognised_iff (serialization : Serialization)
    (accepted : validation.ingestRequest now uuid4 body = some request) :
    ((∀ firstNow firstDraws first secondNow secondDraws second,
        validation.ingestRequest firstNow firstDraws body = some first →
        validation.ingestRequest secondNow secondDraws body = some second →
        canonicalText serialization first.spans = canonicalText serialization second.spans) ↔
      GivesSpanIds body) ∧
    (GivesSpanIds body → ∀ firstNow firstDraws first secondNow secondDraws second,
      validation.ingestRequest firstNow firstDraws body = some first →
      validation.ingestRequest secondNow secondDraws body = some second →
      ingestRequestHash serialization first.spans =
          ingestRequestHash serialization second.spans ∧
        ∀ row : IdempotencyRecord,
          row.requestHash = ingestRequestHash serialization first.spans →
          row.reservation (ingestRequestHash serialization second.spans) ≠ .conflict) := by
  refine ⟨⟨fun same => ?_, fun gives firstNow firstDraws first secondNow secondDraws second
    firstAccepted secondAccepted => ?_⟩, fun gives firstNow firstDraws first secondNow
    secondDraws second firstAccepted secondAccepted => ?_⟩
  · by_contra omits
    obtain ⟨before, span, after, redraw⟩ := redraw_of_not_givesSpanIds omits accepted
    obtain ⟨firstDraws, first, firstAccepted, firstSpans⟩ := redraw 0
    obtain ⟨secondDraws, second, secondAccepted, secondSpans⟩ := redraw 1
    obtain ⟨left, right, split⟩ := canonicalText_split serialization before span after
    have texts := same now firstDraws first now secondDraws second firstAccepted secondAccepted
    rw [firstSpans, secondSpans, split, split] at texts
    have quoted := List.append_cancel_left (List.append_cancel_right texts)
    exact absurd (quote_str_injective quoted) (by decide)
  · rw [spans_eq_of_givesSpanIds gives secondAccepted firstAccepted]
  · have sameSpans := spans_eq_of_givesSpanIds gives firstAccepted secondAccepted
    rw [sameSpans]
    refine ⟨rfl, fun row hashed conflict => ?_⟩
    rw [IdempotencyRecord.reservation, if_neg (not_not.mpr hashed)] at conflict
    cases status : row.status with
    | pending => simp [status] at conflict
    | failed => simp [status] at conflict
    | committed => simp [status] at conflict

end

/-! ### A body without a `span_id` -/

/-- The installation, on the texts of the bodies below. -/
def sampleValidation : Validation where
  runtime := {
    lower := id
    strip := id
    dumpsUtf8 := fun _ => none
    localInstant := id
    sessionInstant := id }
  uuid? := fun text => [2, 3].find? fun id => id.str = text
  uuid5 := fun _ => 0
  int? := fun
    | .int value => some value
    | _ => none
  float? := fun
    | .int value => some value
    | .float value => some value
    | _ => none
  datetime? := fun
    | .str "1970-01-01T00:00:00Z" => some (.utc 0)
    | _ => none
  strLength := fun _ => 2

def sampleSerialization : Serialization where
  datetimeText := fun _ => "1970-01-01T00:00:00Z"
  floatRepr := fun _ => "0.0"

/-- A request with one span of these optional fields. -/
def sampleBody (optionalFields : List (String × Json)) : Json :=
  .obj [("spans", .arr [.obj (optionalFields ++ [("trace_id", .str (3 : UUID).str),
    ("provider", .str "openai"), ("model", .str "gpt-4o"), ("latency_ms", .int 0),
    ("started_at", .str "1970-01-01T00:00:00Z")])]), ("idempotency_key", .str "key")]

theorem replay_recognised_iff_sample :
    ∃ request, sampleValidation.ingestRequest 0 (fun _ => 1)
        (sampleBody [("span_id", .str (2 : UUID).str)]) = some request ∧
      ((∀ firstNow firstDraws first secondNow secondDraws second,
          sampleValidation.ingestRequest firstNow firstDraws
            (sampleBody [("span_id", .str (2 : UUID).str)]) = some first →
          sampleValidation.ingestRequest secondNow secondDraws
            (sampleBody [("span_id", .str (2 : UUID).str)]) = some second →
          canonicalText sampleSerialization first.spans =
            canonicalText sampleSerialization second.spans) ↔
        GivesSpanIds (sampleBody [("span_id", .str (2 : UUID).str)])) := by
  obtain ⟨request, accepted⟩ : ∃ request, sampleValidation.ingestRequest 0 (fun _ => 1)
      (sampleBody [("span_id", .str (2 : UUID).str)]) = some request := by
    rw [← Option.isSome_iff_exists]
    decide +kernel
  exact ⟨request, accepted, (replay_recognised_iff sampleSerialization accepted).1⟩

/-- The hash of the first and of the second request with the body without a
`span_id`. -/
def sampleHash (draw : UUID) : Option RequestHash :=
  (sampleValidation.ingestRequest 0 (fun _ => draw) (sampleBody [])).map fun request =>
    ingestRequestHash sampleSerialization request.spans

/-- Two requests with one body and one key: `uuid4` draws different identifiers,
and the second request is refused for a different request body. -/
theorem omittedSpanId_conflicts :
    ∃ first second, sampleValidation.ingestRequest 0 (fun _ => 1) (sampleBody []) = some first ∧
      sampleValidation.ingestRequest 0 (fun _ => 2) (sampleBody []) = some second ∧
      ingestRequestHash sampleSerialization first.spans ≠
        ingestRequestHash sampleSerialization second.spans ∧
      (IdempotencyRecord.mk (ingestRequestHash sampleSerialization first.spans) .committed
        none).reservation (ingestRequestHash sampleSerialization second.spans) = .conflict := by
  obtain ⟨first, firstAccepted⟩ : ∃ first, sampleValidation.ingestRequest 0 (fun _ => 1)
      (sampleBody []) = some first := by
    rw [← Option.isSome_iff_exists]
    decide +kernel
  obtain ⟨second, secondAccepted⟩ : ∃ second, sampleValidation.ingestRequest 0 (fun _ => 2)
      (sampleBody []) = some second := by
    rw [← Option.isSome_iff_exists]
    decide +kernel
  have differ : sampleHash 1 ≠ sampleHash 2 := by decide +kernel
  rw [sampleHash, sampleHash, firstAccepted, secondAccepted, Option.map_some, Option.map_some,
    ne_eq, Option.some.injEq] at differ
  exact ⟨first, second, firstAccepted, secondAccepted, differ, if_pos differ⟩

end LlmObs.Backend
