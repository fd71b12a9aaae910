import LlmObs.Foundation.Json
import Mathlib.Data.List.Infix

/-!
Owns what a worker process takes from its Python installation: text operations,
the JSON encoder and the local time zone, and the exceptions that its calls
raise.
-/

namespace LlmObs.Backend

open LlmObs.Foundation

/-- The standard library of one worker process. -/
structure Runtime where
  /-- `str.lower` -/
  lower : String → String
  /-- `str.strip` -/
  strip : String → String
  /-- `json.dumps(value, ensure_ascii=False).encode("utf-8")`; `none` is its
  `UnicodeEncodeError`. -/
  dumpsUtf8 : Json → Option (List UInt8)
  /-- The instant of a naive wall clock in the local time zone. -/
  localInstant : Int → Int
  /-- The instant of a naive timestamp text in the time zone of the database
  session. -/
  sessionInstant : Int → Int

/-- A process in UTC whose texts are lower case without blanks. -/
def Runtime.inUtc : Runtime where
  lower := id
  strip := id
  dumpsUtf8 := fun _ => some []
  localInstant := id
  sessionInstant := id

/-- `str.encode()` of the characters of a text. -/
def encodeUtf8 (text : List Char) : List (BitVec 8) :=
  (text.flatMap String.utf8EncodeChar).map UInt8.toBitVec

/-- `part in text` -/
def containsText (part text : String) : Bool := part.toList <:+: text.toList

/-- `text.endswith(suffix)` -/
def endsWithText (suffix text : String) : Bool := suffix.toList <:+ text.toList

inductive ExceptionType where
  | sqlAlchemyError
  | redisError
  | botoCoreError
  | clientError
  | timeoutError
  | connectionError
  | parserError
  | keyError
  | invalidOperation
  | typeError
  | valueError
  | other
deriving DecidableEq, Repr

/-- A raised `Exception`: its most specific listed type, and its text. -/
structure PyException where
  type : ExceptionType
  message : String
deriving DecidableEq, Repr

/-- How a call that does not return ends: an `Exception` that handlers see, or
the end of the process or task (a crash, a cancellation) that they do not. -/
inductive Halt where
  | raised (exception : PyException)
  | killed
deriving DecidableEq, Repr

def mixedDatetimeError : PyException :=
  ⟨.typeError, "can't compare offset-naive and offset-aware datetimes"⟩

/-- A comparison of datetimes; mixed operands raise. -/
def orTypeError {α : Type} : Option α → Except PyException α
  | some value => .ok value
  | none => .error mixedDatetimeError

end LlmObs.Backend
