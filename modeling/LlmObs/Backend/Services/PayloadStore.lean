import LlmObs.Backend.Services.Redaction
import LlmObs.Backend.Workers.PayloadObjects

/-!
Owns `StorageService` with the whole signature of its source: `store_payload` under any
texts, limits and key sets, the compressed object it uploads, and `get_payload`, which
reads it back. It does not own the bucket.
-/

namespace LlmObs.Backend

open LlmObs.Foundation

/-! ### The service -/

/-- What the service takes from `gzip` and `json`: both are lossless. -/
structure PayloadCodec (runtime : Runtime) where
  /-- `gzip.compress` -/
  compress : List UInt8 → List UInt8
  /-- `gzip.decompress`; `none` is an exception. -/
  decompress : List UInt8 → Option (List UInt8)
  /-- `json.loads`; `none` is an exception. -/
  loads : List UInt8 → Option Json
  decompress_compress : ∀ bytes, decompress (compress bytes) = some bytes
  loads_dumps : ∀ value bytes, value.UniqueKeys → runtime.dumpsUtf8 value = some bytes →
    loads bytes = some value

/-- How `put_object` and the session around it end. -/
inductive UploadAnswer where
  | uploaded
  | raised (tookEffect : Bool)
deriving DecidableEq, Repr

/-- `f"payloads/{project_id}/{span_id[:2]}/{span_id}.json.gz"` -/
def storageKey (projectId spanId : String) : String :=
  "payloads/" ++ projectId ++ "/" ++ String.ofList (spanId.toList.take 2) ++ "/" ++ spanId ++
    ".json.gz"

namespace StorageService

variable {runtime : Runtime}

/-- `store_payload`: the result, and the objects afterwards. -/
def storePayload (codec : PayloadCodec runtime) (projectId spanId : String)
    (messages : List Json) (output : Option String) (maxBytes : Option Int)
    (redactKeys : Option (List String)) (answer : UploadAnswer) (objects : ObjectStore) :
    Except PyException (PayloadStorageResult × ObjectStore) :=
  let redactKeys := redactKeys.getD []
  match runtime.dumpsUtf8 (redactedPayload runtime redactKeys messages output) with
  | none => .error unicodeEncodeError
  | some payloadBytes =>
      if maxBytes.any fun limit => limit < (payloadBytes.length : Int) then
        .ok (⟨none, .tooLarge, some .maxBytesExceeded⟩, objects)
      else
        let key := storageKey projectId spanId
        let stored := objects.put key (codec.compress payloadBytes)
        match answer with
        | .uploaded =>
            .ok (⟨some key, if redactKeys.isEmpty then .stored else .storedRedacted, none⟩, stored)
        | .raised tookEffect =>
            .ok (⟨none, .storageFailed, some .s3Error⟩, if tookEffect then stored else objects)

/-- `get_payload`, where `available` is whether `get_object` answers. -/
def getPayload (codec : PayloadCodec runtime) (s3Key : String) (available : Bool)
    (objects : ObjectStore) : Option Json :=
  if available then objects s3Key >>= codec.decompress >>= codec.loads else none

/-- The worker's call, up to the compression of the object. -/
theorem storePayload_of_worker (codec : PayloadCodec runtime) (projectId spanId : UUID)
    (messages : List Json) (output : Option String) (maxBytes : Nat) (redactKeys : List String)
    (uploaded : Bool) (objects : ObjectStore) :
    (storePayload codec projectId.str spanId.str messages output (some maxBytes)
        (some redactKeys) (if uploaded then .uploaded else .raised false) objects).map Prod.fst =
      (Backend.storePayload runtime projectId spanId messages output maxBytes redactKeys uploaded
        objects).map Prod.fst := by
  rw [storePayload_eq, storePayload, Option.getD_some]
  cases runtime.dumpsUtf8 (redactedPayload runtime redactKeys messages output) with
  | none => rfl
  | some payloadBytes =>
      simp only [Option.any_some, decide_eq_true_eq, Int.ofNat_lt]
      split
      · rfl
      · cases uploaded <;> rfl

/-! ### Outcomes -/

section

variable {codec : PayloadCodec runtime} {projectId spanId : String} {messages : List Json}
  {output : Option String} {maxBytes : Option Int} {redactKeys : Option (List String)}
  {answer : UploadAnswer} {objects after : ObjectStore} {result : PayloadStorageResult}

/-- What a call leaves: a key with its object, or neither. -/
inductive StoreOutcome (codec : PayloadCodec runtime) (projectId spanId : String) (data : Json)
    (maxBytes : Option Int) (redacted : Bool) (after : ObjectStore) :
    PayloadStorageResult → Prop
  | stored (bytes : List UInt8) (encoded : runtime.dumpsUtf8 data = some bytes)
      (fits : ∀ limit ∈ maxBytes, (bytes.length : Int) ≤ limit)
      (object : after (storageKey projectId spanId) = some (codec.compress bytes)) :
      StoreOutcome codec projectId spanId data maxBytes redacted after
        ⟨some (storageKey projectId spanId), if redacted then .storedRedacted else .stored, none⟩
  | tooLarge : StoreOutcome codec projectId spanId data maxBytes redacted after
      ⟨none, .tooLarge, some .maxBytesExceeded⟩
  | failed : StoreOutcome codec projectId spanId data maxBytes redacted after
      ⟨none, .storageFailed, some .s3Error⟩

theorem storeOutcome (done : storePayload codec projectId spanId messages output maxBytes
      redactKeys answer objects = .ok (result, after)) :
    StoreOutcome codec projectId spanId
      (redactedPayload runtime (redactKeys.getD []) messages output) maxBytes
      (!(redactKeys.getD []).isEmpty) after result := by
  simp only [storePayload] at done
  split at done
  · cases done
  · rename_i bytes encoded
    split at done
    · cases done
      exact .tooLarge
    · rename_i within
      split at done
      · cases done
        have fits : ∀ limit ∈ maxBytes, (bytes.length : Int) ≤ limit := by
          intro limit given
          rw [Option.mem_def] at given
          subst given
          simpa using within
        have object := ObjectStore.put_same objects (storageKey projectId spanId)
          (codec.compress bytes)
        cases empty : (redactKeys.getD []).isEmpty
        · exact .stored bytes encoded fits object
        · exact .stored bytes encoded fits object
      · cases done
        exact .failed

/-- The object of a returned key is the encoded document, compressed. -/
theorem object_of_key (done : storePayload codec projectId spanId messages output maxBytes
      redactKeys answer objects = .ok (result, after))
    {key : String} (returned : result.s3Key = some key) :
    ∃ bytes, runtime.dumpsUtf8
        (redactedPayload runtime (redactKeys.getD []) messages output) = some bytes ∧
      (∀ limit ∈ maxBytes, (bytes.length : Int) ≤ limit) ∧
      key = storageKey projectId spanId ∧ after key = some (codec.compress bytes) := by
  cases storeOutcome done with
  | stored bytes encoded fits object =>
      cases returned
      exact ⟨bytes, encoded, fits, rfl, object⟩
  | tooLarge => cases returned
  | failed => cases returned

theorem s3Key_isSome_iff (done : storePayload codec projectId spanId messages output maxBytes
      redactKeys answer objects = .ok (result, after)) :
    result.s3Key.isSome ↔ result.status = .stored ∨ result.status = .storedRedacted := by
  cases storeOutcome done with
  | stored bytes encoded fits object =>
      cases (redactKeys.getD []).isEmpty <;> simp
  | tooLarge => simp
  | failed => simp

/-- Reading an object that holds a compressed document. -/
theorem getPayload_of_object {key : String} {data : Json} {bytes : List UInt8}
    (unique : data.UniqueKeys) (encoded : runtime.dumpsUtf8 data = some bytes)
    (object : objects key = some (codec.compress bytes)) :
    getPayload codec key true objects = some data := by
  rw [getPayload, if_pos rfl, object]
  simp only [Option.bind_eq_bind, Option.bind_some, codec.decompress_compress,
    codec.loads_dumps data bytes unique encoded]

end

end StorageService

/-! ### The stored document -/

/-- `{"messages": messages, "output": output}` -/
def payloadDocument (messages : List Json) (output : Option String) : Json :=
  .obj [("messages", .arr messages),
    ("output", match output with
      | some text => .str text
      | none => .null)]

theorem redactedPayload_eq (runtime : Runtime) (redactKeys : List String)
    (messages : List Json) (output : Option String) :
    redactedPayload runtime redactKeys messages output =
      if redactKeys.isEmpty then payloadDocument messages output
      else redactPayload runtime redactKeys (payloadDocument messages output) := rfl

theorem redactedPayload_uniqueKeys (runtime : Runtime) (redactKeys : List String)
    {messages : List Json} (output : Option String) (unique : Json.ItemsUniqueKeys messages) :
    (redactedPayload runtime redactKeys messages output).UniqueKeys := by
  have document : (payloadDocument messages output).UniqueKeys := by
    cases output <;>
      simp [payloadDocument, Json.UniqueKeys, Json.EntriesUniqueKeys, unique]
  rw [redactedPayload_eq]
  split
  · exact document
  · exact redactPayload_uniqueKeys _ document

/-- Without a redacted field of its own, the document is redacted field by field. -/
theorem redactPayload_payloadDocument {runtime : Runtime} {redactKeys : List String}
    (messagesKept : runtime.lower "messages" ∉ redactKeys)
    (outputKept : runtime.lower "output" ∉ redactKeys)
    (messages : List Json) (output : Option String) :
    redactPayload runtime redactKeys (payloadDocument messages output) =
      payloadDocument (messages.map (redactPayload runtime redactKeys)) output := by
  cases output <;>
    simp only [payloadDocument, redactPayload, redactEntries, redactItems_eq_map,
      if_neg messagesKept, if_neg outputKept]

theorem storageKey_startsWith (projectId spanId : String) :
    ("payloads/" ++ projectId ++ "/").toList <+: (storageKey projectId spanId).toList :=
  toList_prefix_append _ _ _ _ _

/-! ### A message with a token -/

namespace TokenMessage

def messages : List Json := [.obj [("Token", .str "x")]]

def redactedText : String := "\x7b\"messages\": [\x7b\"Token\": \"[redacted]\"\x7d], \"output\": null\x7d"

/-- An encoder for the redacted document. -/
def dumpsUtf8 : Json → Option (List UInt8)
  | .obj [("messages", .arr [.obj [("Token", .str "[redacted]")]]), ("output", .null)] =>
      some (encodeUtf8 redactedText.toList |>.map UInt8.ofBitVec)
  | _ => none

def runtime : Runtime :=
  { Runtime.inUtc with
    lower := fun text => if text = "Token" then "token" else text
    dumpsUtf8 := dumpsUtf8 }

def document : Json :=
  .obj [("messages", .arr [.obj [("Token", .str "[redacted]")]]), ("output", .null)]

def sent : Json := payloadDocument messages none

theorem dumpsUtf8_eq_some {value : Json} {bytes : List UInt8}
    (encoded : dumpsUtf8 value = some bytes) :
    value = document ∧ bytes = (encodeUtf8 redactedText.toList |>.map UInt8.ofBitVec) := by
  unfold dumpsUtf8 at encoded
  split at encoded
  · cases encoded
    exact ⟨rfl, rfl⟩
  · cases encoded

def codec : PayloadCodec runtime where
  compress bytes := 0x1f :: 0x8b :: bytes
  decompress
    | 0x1f :: 0x8b :: bytes => some bytes
    | _ => none
  loads bytes :=
    if bytes = (encodeUtf8 redactedText.toList |>.map UInt8.ofBitVec) then some document else none
  decompress_compress _ := rfl
  loads_dumps value bytes _ encoded := by
    obtain ⟨rfl, rfl⟩ := dumpsUtf8_eq_some encoded
    rw [if_pos rfl]

/-- The bucket after the upload. -/
def objects : ObjectStore :=
  ObjectStore.put (fun _ => none) (storageKey "p" "ab")
    (codec.compress (encodeUtf8 redactedText.toList |>.map UInt8.ofBitVec))

theorem stored :
    StorageService.storePayload codec "p" "ab" messages none (some 100) (some ["token"])
        .uploaded (fun _ => none) =
      .ok (⟨some (storageKey "p" "ab"), .storedRedacted, none⟩, objects) := by
  rfl

end TokenMessage

/-! ### Redaction and round trip -/

/-- A returned key belongs to the project, and reading it returns the redacted document. -/
theorem getPayload_storePayload {runtime : Runtime} (codec : PayloadCodec runtime)
    {projectId spanId : String} {messages : List Json} {output : Option String}
    {maxBytes : Option Int} {redactKeys : Option (List String)} {answer : UploadAnswer}
    {objects after : ObjectStore} {result : PayloadStorageResult}
    (unique : Json.ItemsUniqueKeys messages)
    (done : StorageService.storePayload codec projectId spanId messages output maxBytes
      redactKeys answer objects = .ok (result, after)) :
    (result.s3Key.isSome ↔ result.status = .stored ∨ result.status = .storedRedacted) ∧
      ∀ key, result.s3Key = some key →
        ("payloads/" ++ projectId ++ "/").toList <+: key.toList ∧
        (∃ bytes, runtime.dumpsUtf8
            (redactedPayload runtime (redactKeys.getD []) messages output) = some bytes ∧
          ∀ limit ∈ maxBytes, (bytes.length : Int) ≤ limit) ∧
        StorageService.getPayload codec key true after =
          some (redactedPayload runtime (redactKeys.getD []) messages output) := by
  refine ⟨StorageService.s3Key_isSome_iff done, fun key returned => ?_⟩
  obtain ⟨bytes, encoded, fits, rfl, object⟩ := StorageService.object_of_key done returned
  exact ⟨storageKey_startsWith projectId spanId, ⟨bytes, encoded, fits⟩,
    StorageService.getPayload_of_object
      (redactedPayload_uniqueKeys runtime _ output unique) encoded object⟩

theorem tokenMessage_getPayload :
    StorageService.getPayload TokenMessage.codec (storageKey "p" "ab") true
      TokenMessage.objects = some TokenMessage.document :=
  ((getPayload_storePayload TokenMessage.codec
    (by simp [TokenMessage.messages, Json.ItemsUniqueKeys, Json.UniqueKeys,
      Json.EntriesUniqueKeys]) TokenMessage.stored).2 _ rfl).2.2

end LlmObs.Backend
