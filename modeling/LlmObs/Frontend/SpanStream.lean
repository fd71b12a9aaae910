import LlmObs.Backend.Workers.ProcessSpan
import LlmObs.Foundation.JsonParse
import LlmObs.Foundation.TextStream
import Mathlib.Tactic.NormNum

/-!
Owns the live stream of spans from the outbox to the page: the payloads that are published,
the frames that `stream_spans` sends, and the read loop of `useSpanStream`, which keeps an
incomplete line from one read to the next. The handler gets every payload once and in order,
however the bytes of the stream were cut.
-/

namespace LlmObs.Frontend

open LlmObs.Foundation LlmObs.Backend

/-! ### The server -/

/-- A payload of `span.inserted` as `claim_pending` returns it. The column is JSONB, which
keeps the entries of an object in an order of its own. -/
structure OutboxPayload where
  span : PreparedSpan
  entries : List (String × Json)
  ofSpan : ∃ enqueued, spanInsertedPayload span = .obj enqueued ∧ entries.Perm enqueued

def OutboxPayload.document (payload : OutboxPayload) : Json := .obj payload.entries

/-- `json.dumps(event.payload)` -/
def OutboxPayload.dumps (floatRepr : ℚ → String) (payload : OutboxPayload) : List Char :=
  payload.document.dumpsDefault floatRepr

/-- What `generate` yields for an item of the queue, or for the `TimeoutError` of a wait. -/
def streamFrame : Option (List Char) → List Char
  | some data => "data: ".toList ++ data ++ "\n\n".toList
  | none => ": keepalive\n\n".toList

/-- The body of the response, where `none` is a keepalive. -/
def streamBody (floatRepr : ℚ → String) (events : List (Option OutboxPayload)) : List Char :=
  events.flatMap fun event => streamFrame (event.map (·.dumps floatRepr))

def streamBytes (floatRepr : ℚ → String) (events : List (Option OutboxPayload)) : List UInt8 :=
  (streamBody floatRepr events).flatMap String.utf8EncodeChar

/-! ### The read loop -/

structure SpanStream where
  decoder : TextDecoder
  buffer : List Char
  /-- What the handler was called with. -/
  handled : List JsValue

def SpanStream.start : SpanStream := ⟨.new, [], []⟩

/-- What a line calls the handler with. A `SyntaxError` is caught, and the line skipped. -/
def handleLine (round : ℚ → ℚ) (line : List Char) : Option JsValue :=
  if "data: ".toList <+: line then JsonParse.parse round (line.drop 6) else none

/-- One round of the loop, for the bytes that `reader.read()` gave. -/
def readChunk (round : ℚ → ℚ) (stream : SpanStream) (chunk : List UInt8) : SpanStream :=
  let decoded := stream.decoder.decode chunk
  let buffer := stream.buffer ++ decoded.2
  { decoder := decoded.1
    buffer := openPart '\n' buffer
    handled := stream.handled ++ (completeParts '\n' buffer).filterMap (handleLine round) }

def readStream (round : ℚ → ℚ) (chunks : List (List UInt8)) : SpanStream :=
  chunks.foldl (readChunk round) .start

/-! ### Chunks -/

/-- Two reads are as good as one of all their bytes. -/
theorem readChunk_append (round : ℚ → ℚ) (stream : SpanStream) (front rest : List UInt8) :
    readChunk round (readChunk round stream front) rest =
      readChunk round stream (front ++ rest) := by
  simp only [readChunk, TextDecoder.decode_append]
  rw [← List.append_assoc stream.buffer]
  generalize stream.buffer ++ (stream.decoder.decode front).2 = seen
  rw [completeParts_append '\n' seen, openPart_append '\n' seen, List.filterMap_append,
    List.append_assoc]

/-- Induction on the chunks from the last: all of them are as good as one. -/
theorem readStream_eq (round : ℚ → ℚ) (chunks : List (List UInt8)) :
    readStream round chunks = readChunk round .start chunks.flatten := by
  induction chunks using List.reverseRecOn with
  | nil => rfl
  | append_singleton chunks chunk inductionHypothesis =>
      rw [readStream, List.foldl_concat, ← readStream, inductionHypothesis, readChunk_append,
        List.flatten_concat]

/-! ### Frames -/

section Frames

variable {round : ℚ → ℚ} {floatRepr : ℚ → String}

/-- The latency of a payload, as it is written, is read as that number. -/
def OutboxPayload.ReadsBack (round : ℚ → ℚ) (floatRepr : ℚ → String) (payload : OutboxPayload) :
    Prop :=
  JsonParse.number round (floatRepr payload.span.latencyMs).toList =
    some (payload.span.latencyMs, [])

theorem OutboxPayload.perm (payload : OutboxPayload) :
    payload.entries.Perm [("span_id", .str payload.span.id.str), ("name", .str payload.span.name),
      ("latency_ms", .float payload.span.latencyMs), ("status", payload.span.status.json)] := by
  obtain ⟨enqueued, equal, permuted⟩ := payload.ofSpan
  exact Json.obj.inj equal ▸ permuted

theorem legibleEntries_iff {entries : List (String × Json)} :
    JsonParse.LegibleEntries round floatRepr entries ↔
      ∀ entry ∈ entries, JsonParse.Legible round floatRepr entry.2 := by
  induction entries with
  | nil => simp [JsonParse.LegibleEntries]
  | cons entry rest inductionHypothesis =>
      rw [JsonParse.LegibleEntries, inductionHypothesis, List.forall_mem_cons]

theorem entriesUniqueKeys_iff {entries : List (String × Json)} :
    Json.EntriesUniqueKeys entries ↔ ∀ entry ∈ entries, entry.2.UniqueKeys := by
  induction entries with
  | nil => simp [Json.EntriesUniqueKeys]
  | cons entry rest inductionHypothesis =>
      rw [Json.EntriesUniqueKeys, inductionHypothesis, List.forall_mem_cons]

theorem OutboxPayload.legible {payload : OutboxPayload}
    (readsBack : payload.ReadsBack round floatRepr) :
    JsonParse.Legible round floatRepr payload.document := by
  apply legibleEntries_iff.mpr
  intro entry member
  have enqueued := payload.perm.mem_iff.mp member
  simp only [List.mem_cons, List.not_mem_nil, or_false] at enqueued
  rcases enqueued with rfl | rfl | rfl | rfl
  · trivial
  · trivial
  · exact readsBack
  · trivial

theorem OutboxPayload.uniqueKeys (payload : OutboxPayload) : payload.document.UniqueKeys := by
  refine ⟨?_, entriesUniqueKeys_iff.mpr fun entry member => ?_⟩
  · rw [(payload.perm.map Prod.fst).nodup_iff]
    simp
  · have enqueued := payload.perm.mem_iff.mp member
    simp only [List.mem_cons, List.not_mem_nil, or_false] at enqueued
    rcases enqueued with rfl | rfl | rfl | rfl <;> trivial

theorem printable_dumps {payload : OutboxPayload}
    (readsBack : payload.ReadsBack round floatRepr) :
    ∀ character ∈ payload.dumps floatRepr, JsonParse.Printable character :=
  JsonParse.printable_dumps payload.document (OutboxPayload.legible readsBack)

/-- A line that is sent, followed by the empty one that ends its frame. -/
theorem completeParts_frame (line : List Char) (plain : '\n' ∉ line) (rest : List Char) :
    completeParts '\n' (line ++ "\n\n".toList ++ rest) = line :: [] :: completeParts '\n' rest := by
  have second := completeParts_cons '\n' [] List.not_mem_nil rest
  rw [List.nil_append] at second
  rw [List.append_assoc]
  show completeParts '\n' (line ++ '\n' :: '\n' :: rest) = _
  rw [completeParts_cons '\n' line plain, second]

theorem handleLine_empty : handleLine round [] = none := rfl

theorem handleLine_keepalive : handleLine round ": keepalive".toList = none := rfl

theorem handleLine_data (data : List Char) :
    handleLine round ("data: ".toList ++ data) = JsonParse.parse round data := by
  rw [handleLine, if_pos (List.prefix_append _ _)]
  rfl

/-- What the lines of a frame call the handler with. -/
def frameCall (event : Option OutboxPayload) : Option JsValue :=
  event.map fun payload => JsonParse.ofJson payload.document

/-- Induction on the events: each frame is two lines, of which a payload's first is handled. -/
theorem handled_streamBody {events : List (Option OutboxPayload)}
    (readsBack : ∀ payload, some payload ∈ events → payload.ReadsBack round floatRepr) :
    (completeParts '\n' (streamBody floatRepr events)).filterMap (handleLine round) =
      events.filterMap frameCall := by
  induction events with
  | nil => rfl
  | cons event rest inductionHypothesis =>
      have later := inductionHypothesis fun payload member =>
        readsBack payload (List.mem_cons_of_mem _ member)
      have body : streamBody floatRepr (event :: rest) =
          streamFrame (event.map (·.dumps floatRepr)) ++ streamBody floatRepr rest :=
        List.flatMap_cons
      rw [body]
      cases event with
      | none =>
          have lines := completeParts_frame ": keepalive".toList (by decide)
            (streamBody floatRepr rest)
          show (completeParts '\n' (": keepalive".toList ++ "\n\n".toList ++ _)).filterMap _ = _
          rw [lines, List.filterMap_cons_none handleLine_keepalive,
            List.filterMap_cons_none handleLine_empty, later]
          rfl
      | some payload =>
          have reads := readsBack payload (List.mem_cons_self ..)
          have plain : '\n' ∉ "data: ".toList ++ payload.dumps floatRepr := by
            intro member
            rcases List.mem_append.mp member with fixed | written
            · exact absurd fixed (by decide)
            · exact absurd (printable_dumps reads _ written) (by decide)
          have parsed : handleLine round ("data: ".toList ++ payload.dumps floatRepr) =
              some (JsonParse.ofJson payload.document) :=
            (handleLine_data _).trans (JsonParse.parse_dumps payload.document
              (OutboxPayload.legible reads) payload.uniqueKeys)
          have lines := completeParts_frame _ plain (streamBody floatRepr rest)
          show (completeParts '\n' ("data: ".toList ++ payload.dumps floatRepr ++
            "\n\n".toList ++ _)).filterMap _ = _
          rw [lines, List.filterMap_cons_some parsed, List.filterMap_cons_none handleLine_empty,
            later]
          rfl

theorem ascii_streamBody {events : List (Option OutboxPayload)}
    (readsBack : ∀ payload, some payload ∈ events → payload.ReadsBack round floatRepr) :
    ∀ character ∈ streamBody floatRepr events, character.toNat ≤ 127 := by
  have fixed : ("data: ".toList ++ "\n\n".toList ++ ": keepalive\n\n".toList).all
      (fun character => decide (character.toNat ≤ 127)) = true := by decide
  have fixed : ∀ character ∈ "data: ".toList ++ "\n\n".toList ++ ": keepalive\n\n".toList,
      character.toNat ≤ 127 := fun character member =>
    of_decide_eq_true (List.all_eq_true.mp fixed character member)
  intro character member
  obtain ⟨event, sent, inside⟩ := List.mem_flatMap.mp member
  cases event with
  | none => exact fixed character (List.mem_append_right _ inside)
  | some payload =>
      have frame : character ∈ "data: ".toList ++ payload.dumps floatRepr ++ "\n\n".toList := inside
      rcases List.mem_append.mp frame with front | ended
      · rcases List.mem_append.mp front with start | written
        · exact fixed character (List.mem_append_left _ (List.mem_append_left _ start))
        · have bounds := printable_dumps (readsBack payload sent) character written
          exact Nat.le_trans bounds.2 (by decide)
      · exact fixed character (List.mem_append_left _ (List.mem_append_right _ ended))

end Frames

/-- The handler is called with the payloads, once each and in order, wherever the bytes of the
stream are cut and wherever keepalives stand. -/
theorem readStream_handled (round : ℚ → ℚ) (floatRepr : ℚ → String)
    (events : List (Option OutboxPayload))
    (readsBack : ∀ payload, some payload ∈ events → payload.ReadsBack round floatRepr)
    (chunks : List (List UInt8)) (split : chunks.flatten = streamBytes floatRepr events) :
    (readStream round chunks).handled =
      (events.filterMap id).map fun payload => JsonParse.ofJson payload.document := by
  have decoded : (TextDecoder.new.decode chunks.flatten).2 = streamBody floatRepr events :=
    split ▸ TextDecoder.decode_ascii (ascii_streamBody readsBack) rfl
  rw [readStream_eq, readChunk]
  show [] ++ (completeParts '\n' ([] ++ (TextDecoder.new.decode chunks.flatten).2)).filterMap _ = _
  rw [List.nil_append, List.nil_append, decoded, handled_streamBody readsBack,
    List.map_filterMap]
  rfl

/-- The order in which JSONB keeps the keys of an event. -/
theorem jsonbOrder_perm {Entry : Type} (spanId name latency status : Entry) :
    [name, status, spanId, latency].Perm [spanId, name, latency, status] := by
  have first : ([name, status] ++ spanId :: [latency]).Perm
      (spanId :: ([name, status] ++ [latency])) := List.perm_middle
  exact first.trans (((List.Perm.swap latency status []).cons name).cons spanId)

/-- A payload of twelve and a half milliseconds. -/
def slowPayload : OutboxPayload where
  span :=
    { id := 2
      traceId := 3
      projectId := 1
      parentSpanId := none
      name := "caf\u00e9"
      provider := "openai"
      model := "gpt-4o"
      inputTokens := 1
      outputTokens := 1
      costUsd := 0
      latencyMs := 25 / 2
      status := .ok
      error := none
      startedAt := .utc 0
      payloadS3Key := none
      payloadStatus := .omitted
      payloadDropReason := none
      metadata := [] }
  entries := [("name", .str "caf\u00e9"), ("status", .str "ok"),
    ("span_id", .str (UUID.str 2)), ("latency_ms", .float (25 / 2))]
  ofSpan := ⟨_, rfl, jsonbOrder_perm _ _ _ _⟩

theorem slowPayload_readsBack : slowPayload.ReadsBack id fun _ => "12.5" := by
  have digits : JsonParse.numeral ['1', '2', '5'] = 125 := rfl
  have value : JsonParse.decimalValue "12.5".toList =
      (JsonParse.numeral ['1', '2', '5'] : ℚ) * 10 ^ (-1 : Int) := rfl
  have half : JsonParse.decimalValue "12.5".toList = 25 / 2 := by
    rw [value, digits]
    norm_num
  show some (JsonParse.decimalValue "12.5".toList, []) = some (25 / 2, [])
  rw [half]

/-- The stream of a keepalive and a payload, cut inside the prefix of the frame. -/
theorem readStream_handled_slowPayload :
    (readStream id [(streamBytes (fun _ => "12.5") [none, some slowPayload]).take 16,
      (streamBytes (fun _ => "12.5") [none, some slowPayload]).drop 16]).handled =
        [JsonParse.ofJson slowPayload.document] :=
  readStream_handled id (fun _ => "12.5") [none, some slowPayload]
    (fun payload member => by
      have same : payload = slowPayload := by simpa using member
      exact same ▸ slowPayload_readsBack)
    _ (by simp)

end LlmObs.Frontend
