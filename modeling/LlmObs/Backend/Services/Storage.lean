import LlmObs.Backend.Models
import LlmObs.Backend.Runtime

/-!
Owns payload privacy and payload storage: the redaction of JSON documents, the
decision to store a payload, and the outcome of storing it. It does not own the
object store, which answers each upload with success or an exception.
-/

namespace LlmObs.Backend

open LlmObs.Foundation

def defaultPayloadMaxBytes : Nat := 256 * 1024
def defaultRedactKeys : String := "api_key,password,secret,token,authorization"
def redactedValue : String := "[redacted]"

structure PayloadStorageResult where
  s3Key : Option String
  status : PayloadStorageStatus
  dropReason : Option PayloadDropReason
deriving DecidableEq, Repr

/-- Stored objects by key. -/
abbrev ObjectStore := String → Option (List UInt8)

/-- `parse_redact_keys` -/
def parseRedactKeys (runtime : Runtime) (value : String) : List String :=
  let value := if value = "" then defaultRedactKeys else value
  ((value.splitOn ",").filter fun item => runtime.strip item ≠ "").map fun item =>
    runtime.lower (runtime.strip item)

mutual

/-- `redact_payload` -/
def redactPayload (runtime : Runtime) (redactKeys : List String) : Json → Json
  | .arr items => .arr (redactItems runtime redactKeys items)
  | .obj entries => .obj (redactEntries runtime redactKeys entries)
  | value => value

def redactItems (runtime : Runtime) (redactKeys : List String) : List Json → List Json
  | [] => []
  | item :: rest =>
      redactPayload runtime redactKeys item :: redactItems runtime redactKeys rest

def redactEntries (runtime : Runtime) (redactKeys : List String) :
    List (String × Json) → List (String × Json)
  | [] => []
  | (key, item) :: rest =>
      (key, if runtime.lower key ∈ redactKeys then .str redactedValue
        else redactPayload runtime redactKeys item) :: redactEntries runtime redactKeys rest

end

/-- `should_store_payload` -/
def shouldStorePayload (mode : PayloadStorageMode) (hasError : Bool) : Bool :=
  match mode with
  | .none => false
  | .errors => hasError
  | .all => true

/-- `f"payloads/{project_id}/{span_id[:2]}/{span_id}.json.gz"` -/
def payloadKey (projectId spanId : UUID) : String :=
  "payloads/" ++ projectId.str ++ "/" ++ String.ofList (spanId.str.toList.take 2) ++ "/" ++
    spanId.str ++ ".json.gz"

/-- A key begins with its directory. -/
theorem toList_prefix_append (directory first second third fourth : String) :
    directory.toList <+: (directory ++ first ++ second ++ third ++ fourth).toList := by
  refine ⟨(first ++ second ++ third ++ fourth).toList, ?_⟩
  simp only [String.toList_append, List.append_assoc]

def unicodeEncodeError : PyException :=
  ⟨.valueError, "'utf-8' codec can't encode character: surrogates not allowed"⟩

/-- `store_payload`, where `uploaded` is whether `put_object` succeeds: the
result, and the objects afterwards. -/
def storePayload (runtime : Runtime) (projectId spanId : UUID) (messages : List Json)
    (output : Option String) (maxBytes : Nat) (redactKeys : List String) (uploaded : Bool)
    (objects : ObjectStore) : Except PyException (PayloadStorageResult × ObjectStore) :=
  let payloadData : Json := .obj [("messages", .arr messages),
    ("output", match output with
      | some text => .str text
      | none => .null)]
  let payloadData :=
    if redactKeys.isEmpty then payloadData else redactPayload runtime redactKeys payloadData
  match runtime.dumpsUtf8 payloadData with
  | none => .error unicodeEncodeError
  | some payloadBytes =>
      if maxBytes < payloadBytes.length then
        .ok (⟨none, .tooLarge, some .maxBytesExceeded⟩, objects)
      else if uploaded then
        let key := payloadKey projectId spanId
        .ok (⟨some key, if redactKeys.isEmpty then .stored else .storedRedacted, none⟩,
          fun other => if other = key then some payloadBytes else objects other)
      else .ok (⟨none, .storageFailed, some .s3Error⟩, objects)

end LlmObs.Backend
