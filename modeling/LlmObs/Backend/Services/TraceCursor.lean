import LlmObs.Backend.Runtime
import LlmObs.Backend.Services.OtlpEncodings
import LlmObs.Foundation.Base64
import LlmObs.Foundation.Datetime
import LlmObs.Foundation.JsonScanner
import LlmObs.Foundation.Outcome

/-!
Owns the cursor of a page of traces: the JSON form that is written, the older form that
is still read, and what reading makes of any other text. Only a text that nests more
JSON containers than the interpreter has room for leaves it by another exception than
`ValueError`.
-/

namespace LlmObs.Backend

open LlmObs.Foundation

/-! ### The Python library -/

/-- What a process takes from its Python library for cursors. -/
structure CursorLibrary where
  /-- `datetime.isoformat` -/
  isoformat : Datetime → String
  /-- `datetime.fromisoformat`; `none` is its `ValueError`. -/
  fromisoformat : PyStr → Option Datetime
  /-- `str` of a JSON value that is not a text. -/
  reprStr : JsonScanner.Value → PyStr
  /-- How many containers `json.loads` may have open below the caller's frames. -/
  recursionLimit : Nat
  recursionLimit_pos : 1 ≤ recursionLimit
  /-- Reading is the inverse of writing. -/
  fromisoformat_isoformat : ∀ value : Datetime, value.Aware →
    fromisoformat (.ofString (isoformat value)) = some value
  /-- Every form of ISO 8601 that is read begins with the digits of a year. -/
  fromisoformat_digit : ∀ (text : PyStr) (value : Datetime), fromisoformat text = some value →
    ∃ digit rest, text = digit :: rest ∧ 48 ≤ digit ∧ digit ≤ 57

/-- The character of a code point; `none` for a surrogate. -/
def char? (codePoint : Nat) : Option Char :=
  if valid : codePoint.isValidChar then some (Char.ofNatAux codePoint valid) else none

/-- `text.encode()`; `none` is its `UnicodeEncodeError`. -/
def encodeText? (text : PyStr) : Option (List UInt8) :=
  (text.mapM char?).map fun characters => characters.flatMap String.utf8EncodeChar

/-- `bytes.decode()`; `none` is its `UnicodeDecodeError`. -/
def decodeUtf8? (bytes : List UInt8) : Option (List Char) :=
  bytes.toByteArray.utf8Decode?.map Array.toList

/-- `base64.b64encode(raw.encode()).decode()` -/
def b64encode (raw : List Char) : List Char :=
  base64Chars (raw.flatMap String.utf8EncodeChar)

/-- `bytes.translate` of `base64.urlsafe_b64encode`. -/
def toUrlsafe (character : Char) : Char :=
  if character = '+' then '-' else if character = '/' then '_' else character

/-- `base64.urlsafe_b64encode(raw.encode()).decode()` -/
def urlsafeB64encode (raw : List Char) : List Char := (b64encode raw).map toUrlsafe

/-- `raw.rsplit(":", 1)` where it gives two parts. -/
def rsplitColon? : List Char → Option (List Char × List Char)
  | [] => none
  | character :: rest =>
      match rsplitColon? rest with
      | some (before, after) => some (character :: before, after)
      | none => if character = ':' then some ([], rest) else none

def invalidCursorError : PyException := ⟨.valueError, "Invalid pagination cursor"⟩

/-- The `UnicodeEncodeError`, a `ValueError`, of the first run of surrogates. -/
def surrogatesError (text : PyStr) : PyException :=
  let position := (text.takeWhile fun codePoint => (char? codePoint).isSome).length
  let run := (text.drop position).takeWhile fun codePoint => (char? codePoint).isNone
  let place :=
    match run with
    | [unit] =>
        "character '" ++ String.ofList (Json.escapeUnit unit) ++ "' in position " ++
          toString position
    | _ =>
        "characters in position " ++ toString position ++ "-" ++
          toString (position + run.length - 1)
  ⟨.valueError, "'utf-8' codec can't encode " ++ place ++ ": surrogates not allowed"⟩

/-- The `RecursionError` of a bracket. -/
def recursionError (bracket : Char) : PyException :=
  ⟨.other, "maximum recursion depth exceeded while decoding a JSON " ++
    (if bracket = '[' then "array" else "object") ++ " from a unicode string"⟩

/-! ### Reading back the encodings -/

theorem char?_toNat (character : Char) : char? character.toNat = some character := by
  have valid : character.toNat.isValidChar := character.valid
  rw [char?, dif_pos valid]
  rfl

theorem mapM_char?_codePoints (text : List Char) : (codePoints text).mapM char? = some text := by
  induction text with
  | nil => rfl
  | cons character rest inductionHypothesis =>
      rw [codePoints, List.map_cons, List.mapM_cons, char?_toNat, ← codePoints,
        inductionHypothesis]
      rfl

theorem encodeText?_codePoints (text : List Char) :
    encodeText? (codePoints text) = some (text.flatMap String.utf8EncodeChar) := by
  rw [encodeText?, mapM_char?_codePoints, Option.map_some]

theorem decodeUtf8?_encode (text : List Char) :
    decodeUtf8? (text.flatMap String.utf8EncodeChar) = some text := by
  have read := @List.utf8Decode?_utf8Encode text
  rw [List.utf8Encode] at read
  rw [decodeUtf8?, read, Option.map_some]

/-- The byte of an ASCII character. -/
def byteOf (character : Char) : UInt8 := UInt8.ofNat character.toNat

theorem utf8EncodeChar_ascii {character : Char} (ascii : character.toNat ≤ 127) :
    String.utf8EncodeChar character = [byteOf character] := by
  rw [String.utf8EncodeChar]
  exact if_pos ascii

/-- The characters of base64: the alphabet, and the padding. -/
theorem mem_base64Chars : ∀ bytes : List UInt8, ∀ character ∈ base64Chars bytes,
    character = '=' ∨ ∃ digit < 64, character = base64Char digit
  | [], character, member => absurd member List.not_mem_nil
  | [first], character, member => by
      have lower := first.toNat_lt
      simp only [base64Chars, List.mem_cons, List.not_mem_nil, or_false] at member
      rcases member with high | low | padding | padding
      · exact .inr ⟨_, by omega, high⟩
      · exact .inr ⟨_, by omega, low⟩
      · exact .inl padding
      · exact .inl padding
  | [first, second], character, member => by
      have firstLower := first.toNat_lt
      have secondLower := second.toNat_lt
      simp only [base64Chars, List.mem_cons, List.not_mem_nil, or_false] at member
      rcases member with high | middle | low | padding
      · exact .inr ⟨_, by omega, high⟩
      · exact .inr ⟨_, by omega, middle⟩
      · exact .inr ⟨_, by omega, low⟩
      · exact .inl padding
  | first :: second :: third :: rest, character, member => by
      have firstLower := first.toNat_lt
      have secondLower := second.toNat_lt
      have thirdLower := third.toNat_lt
      rw [base64Chars] at member
      simp only [List.mem_cons] at member
      rcases member with digit | digit | digit | digit | later
      · exact .inr ⟨_, by omega, digit⟩
      · exact .inr ⟨_, by omega, digit⟩
      · exact .inr ⟨_, by omega, digit⟩
      · exact .inr ⟨_, by omega, digit⟩
      · exact mem_base64Chars rest character later

theorem digit?_base64Char : ∀ digit < 64,
    Base64.digit? (byteOf (base64Char digit)) = some digit := by
  decide +kernel

theorem ofNat_eq {number : Nat} (byte : UInt8) (same : number = byte.toNat) :
    UInt8.ofNat number = byte := by
  rw [same, UInt8.ofNat_toNat]

/-- Induction on the bytes, three at a time as they are written. -/
theorem a2b_base64Chars : ∀ bytes : List UInt8,
    Base64.a2b ((base64Chars bytes).map byteOf) = some bytes
  | [] => rfl
  | [first] => by
      have lower := first.toNat_lt
      have padding : byteOf '=' = 61 := rfl
      rw [Base64.a2b, base64Chars]
      simp only [List.map_cons, List.map_nil, padding]
      rw [Base64.read_two (digit?_base64Char _ (by omega)) (digit?_base64Char _ (by omega)),
        ofNat_eq first (by omega)]
  | [first, second] => by
      have firstLower := first.toNat_lt
      have secondLower := second.toNat_lt
      have padding : byteOf '=' = 61 := rfl
      rw [Base64.a2b, base64Chars]
      simp only [List.map_cons, List.map_nil, padding]
      rw [Base64.read_three (digit?_base64Char _ (by omega)) (digit?_base64Char _ (by omega))
        (digit?_base64Char _ (by omega)), ofNat_eq first (by omega),
        ofNat_eq second (by omega)]
  | first :: second :: third :: rest => by
      have firstLower := first.toNat_lt
      have secondLower := second.toNat_lt
      have thirdLower := third.toNat_lt
      have further := a2b_base64Chars rest
      rw [Base64.a2b] at further
      rw [Base64.a2b, base64Chars]
      simp only [List.map_cons]
      rw [Base64.read_four (digit?_base64Char _ (by omega)) (digit?_base64Char _ (by omega))
        (digit?_base64Char _ (by omega)) (digit?_base64Char _ (by omega)), further,
        Option.map_some, ofNat_eq first (by omega), ofNat_eq second (by omega),
        ofNat_eq third (by omega)]

/-- Both alphabets are read as the bytes of the standard one. -/
theorem fromUrlsafe_byteOf {bytes : List UInt8} {character : Char}
    (member : character ∈ base64Chars bytes) :
    Base64.fromUrlsafe (byteOf character) = byteOf character ∧
      Base64.fromUrlsafe (byteOf (toUrlsafe character)) = byteOf character ∧
      character.toNat ≤ 127 ∧ (toUrlsafe character).toNat ≤ 127 := by
  have digits : ∀ digit < 64,
      Base64.fromUrlsafe (byteOf (base64Char digit)) = byteOf (base64Char digit) ∧
        Base64.fromUrlsafe (byteOf (toUrlsafe (base64Char digit))) = byteOf (base64Char digit) ∧
        (base64Char digit).toNat ≤ 127 ∧ (toUrlsafe (base64Char digit)).toNat ≤ 127 := by
    decide +kernel
  rcases mem_base64Chars bytes character member with padding | ⟨digit, below, known⟩
  · rw [padding]
    decide
  · rw [known]
    exact digits digit below

namespace CursorLibrary

variable (library : CursorLibrary)

/-! ### Writing and reading -/

/-- `json.dumps(payload, separators=(",", ":"))` -/
def payloadText (startedAt : Datetime) (traceId : String) : List Char :=
  Json.objectText (JsonScanner.memberTexts
    [("started_at", library.isoformat startedAt), ("id", traceId)])

def encodeTraceCursor (startedAt : Datetime) (traceId : String) : String :=
  String.ofList (urlsafeB64encode (library.payloadText startedAt traceId))

/-- The text that a cursor encodes. -/
def cursorRaw (cursor : PyStr) : Except PyException (List Char) :=
  match encodeText? cursor with
  | none => .error (surrogatesError cursor)
  | some bytes =>
      match (Base64.urlsafeB64decode bytes).bind decodeUtf8? with
      | none => .error invalidCursorError
      | some raw => .ok raw

/-- `str(value)` -/
def str : JsonScanner.Value → PyStr
  | .str text => text
  | value => library.reprStr value

/-- What reading a payload raises; `decode_trace_cursor` handles all of them. -/
inductive PayloadError where
  | keyError
  | typeError
  | valueError
deriving DecidableEq, Repr

/-- `payload[key]`; a later member of an object replaces an earlier one. -/
def subscript (payload : JsonScanner.Value) (key : String) :
    Except PayloadError JsonScanner.Value :=
  match payload with
  | .obj entries =>
      match entries.reverse.find? fun entry => entry.1 = .ofString key with
      | some entry => .ok entry.2
      | none => .error .keyError
  | _ => .error .typeError

/-- `datetime.fromisoformat(value)` -/
def datetimeOf (value : JsonScanner.Value) : Except PayloadError Datetime :=
  match value with
  | .str text =>
      match library.fromisoformat text with
      | some startedAt => .ok startedAt
      | none => .error .valueError
  | _ => .error .typeError

def readPayload (payload : JsonScanner.Value) : Except PayloadError (Datetime × PyStr) := do
  let startedAt ← subscript payload "started_at"
  let cursorDt ← library.datetimeOf startedAt
  let id ← subscript payload "id"
  return (cursorDt, library.str id)

def decodeLegacyTraceCursor (raw : List Char) : Except PyException (Datetime × PyStr) :=
  match rsplitColon? raw with
  | none => .error invalidCursorError
  | some (dtStr, cursorId) =>
      match library.fromisoformat (codePoints dtStr) with
      | none => .error invalidCursorError
      | some startedAt => .ok (startedAt, codePoints cursorId)

/-- The pair of a text, read as JSON or in the older form. -/
def decodeRaw (raw : List Char) : Except PyException (Datetime × PyStr) :=
  match JsonScanner.loads library.recursionLimit raw with
  | .error (.recursionError bracket) => .error (recursionError bracket)
  | .error .valueError => library.decodeLegacyTraceCursor raw
  | .ok payload =>
      match library.readPayload payload with
      | .ok pair => .ok pair
      | .error _ => library.decodeLegacyTraceCursor raw

def decodeTraceCursor (cursor : PyStr) : Except PyException (Datetime × PyStr) := do
  let raw ← cursorRaw cursor
  let pair ← library.decodeRaw raw
  if pair.2 = [] then .error invalidCursorError
  else .ok pair

/-! ### The text of a cursor -/

variable {library}

/-- A cursor in any alphabet that is read as the standard one. -/
theorem cursorRaw_of_alphabet {write : Char → Char} (raw : List Char)
    (ascii : ∀ character ∈ b64encode raw, (write character).toNat ≤ 127)
    (readBack : ∀ character ∈ b64encode raw,
      Base64.fromUrlsafe (byteOf (write character)) = byteOf character) :
    cursorRaw (codePoints ((b64encode raw).map write)) = .ok raw := by
  have bytes : ((b64encode raw).map write).flatMap String.utf8EncodeChar =
      (b64encode raw).map fun character => byteOf (write character) := by
    rw [List.flatMap_map, List.map_eq_flatMap]
    apply List.flatMap_congr
    intro character member
    exact utf8EncodeChar_ascii (ascii character member)
  have standard : ((b64encode raw).map fun character => byteOf (write character)).map
      Base64.fromUrlsafe = (b64encode raw).map byteOf := by
    rw [List.map_map]
    exact List.map_congr_left readBack
  have read : Base64.urlsafeB64decode ((b64encode raw).map fun character =>
      byteOf (write character)) = some (raw.flatMap String.utf8EncodeChar) := by
    rw [Base64.urlsafeB64decode, standard, b64encode, a2b_base64Chars]
  simp only [cursorRaw, encodeText?_codePoints, bytes, read, Option.bind_some, decodeUtf8?_encode]

theorem cursorRaw_b64encode (raw : List Char) :
    cursorRaw (codePoints (b64encode raw)) = .ok raw := by
  have same : (b64encode raw).map id = b64encode raw := List.map_id _
  rw [← same]
  exact cursorRaw_of_alphabet raw (fun _ member => (fromUrlsafe_byteOf member).2.2.1)
    fun _ member => (fromUrlsafe_byteOf member).1

theorem cursorRaw_urlsafeB64encode (raw : List Char) :
    cursorRaw (codePoints (urlsafeB64encode raw)) = .ok raw :=
  cursorRaw_of_alphabet raw (fun _ member => (fromUrlsafe_byteOf member).2.2.2)
    fun _ member => (fromUrlsafe_byteOf member).2.1

/-- Whatever is read of a cursor has an id. -/
theorem decodeTraceCursor_of_raw {cursor : PyStr} {raw : List Char} {pair : Datetime × PyStr}
    (known : cursorRaw cursor = .ok raw) (decoded : library.decodeRaw raw = .ok pair)
    (nonempty : pair.2 ≠ []) : library.decodeTraceCursor cursor = .ok pair := by
  rw [decodeTraceCursor, known, ok_bind, decoded, ok_bind, if_neg nonempty]

theorem ofString_ne_nil {text : String} (nonempty : text ≠ "") : PyStr.ofString text ≠ [] := by
  intro empty
  apply nonempty
  rw [← String.toList_inj]
  exact List.map_eq_nil_iff.mp empty

/-! ### The JSON form -/

theorem readPayload_memberValues {startedAt : Datetime} (aware : startedAt.Aware)
    (traceId : String) :
    library.readPayload (.obj (JsonScanner.memberValues
      [("started_at", library.isoformat startedAt), ("id", traceId)])) =
      .ok (startedAt, .ofString traceId) := by
  have keys : PyStr.ofString "id" ≠ PyStr.ofString "started_at" := by decide
  have dated := library.fromisoformat_isoformat startedAt aware
  have first : subscript (.obj (JsonScanner.memberValues
      [("started_at", library.isoformat startedAt), ("id", traceId)])) "started_at" =
      .ok (.str (.ofString (library.isoformat startedAt))) := by
    simp [subscript, JsonScanner.memberValues, keys]
  have second : subscript (.obj (JsonScanner.memberValues
      [("started_at", library.isoformat startedAt), ("id", traceId)])) "id" =
      .ok (.str (.ofString traceId)) := by
    simp [subscript, JsonScanner.memberValues]
  rw [readPayload, first, ok_bind, datetimeOf]
  simp only [dated]
  rw [ok_bind, second]
  rfl

theorem decodeRaw_payloadText {startedAt : Datetime} (aware : startedAt.Aware)
    (traceId : String) :
    library.decodeRaw (library.payloadText startedAt traceId) =
      .ok (startedAt, .ofString traceId) := by
  have read := JsonScanner.loads_objectText library.recursionLimit_pos
    ("started_at", library.isoformat startedAt) [("id", traceId)]
  rw [decodeRaw, payloadText, read]
  simp only [readPayload_memberValues aware traceId]

theorem decode_encode {startedAt : Datetime} {traceId : String} (aware : startedAt.Aware)
    (nonempty : traceId ≠ "") :
    library.decodeTraceCursor (.ofString (library.encodeTraceCursor startedAt traceId)) =
      .ok (startedAt, .ofString traceId) := by
  have known : cursorRaw (.ofString (library.encodeTraceCursor startedAt traceId)) =
      .ok (library.payloadText startedAt traceId) := by
    rw [PyStr.ofString, encodeTraceCursor, String.toList_ofList]
    exact cursorRaw_urlsafeB64encode _
  exact decodeTraceCursor_of_raw known (decodeRaw_payloadText aware traceId)
    (ofString_ne_nil nonempty)

/-! ### The older form -/

theorem rsplitColon?_eq_none {text : List Char} (absent : ':' ∉ text) :
    rsplitColon? text = none := by
  induction text with
  | nil => rfl
  | cons character rest inductionHypothesis =>
      rw [List.mem_cons, not_or] at absent
      rw [rsplitColon?, inductionHypothesis absent.2]
      exact if_neg fun same => absent.1 same.symm

theorem rsplitColon?_eq {before after : List Char} (last : ':' ∉ after) :
    rsplitColon? (before ++ ':' :: after) = some (before, after) := by
  induction before with
  | nil => simp [rsplitColon?, rsplitColon?_eq_none last]
  | cons character rest inductionHypothesis =>
      rw [List.cons_append, rsplitColon?, inductionHypothesis]

/-- A text that begins as a date is never read as a payload. -/
theorem decodeRaw_of_digit {digit : Char} (isOne : JsonScanner.isDigit digit = true)
    (rest : List Char) :
    library.decodeRaw (digit :: rest) = library.decodeLegacyTraceCursor (digit :: rest) := by
  rw [decodeRaw]
  rcases JsonScanner.loads_of_digit library.recursionLimit isOne rest with refused | ⟨literal, read⟩
  · rw [refused]
  · rw [read]
    rfl

theorem decodeRaw_legacy {iso id : String} {startedAt : Datetime}
    (dated : library.fromisoformat (.ofString iso) = some startedAt) (noColon : ':' ∉ id.toList) :
    library.decodeRaw (iso.toList ++ ':' :: id.toList) = .ok (startedAt, .ofString id) := by
  obtain ⟨digit, rest, begins, low, high⟩ := library.fromisoformat_digit _ _ dated
  have split : library.decodeLegacyTraceCursor (iso.toList ++ ':' :: id.toList) =
      .ok (startedAt, .ofString id) := by
    rw [PyStr.ofString] at dated
    simp only [decodeLegacyTraceCursor, rsplitColon?_eq noColon, dated]
    rfl
  rw [PyStr.ofString] at begins
  cases characters : iso.toList with
  | nil =>
      rw [characters] at begins
      cases begins
  | cons first others =>
      rw [characters, codePoints, List.map_cons, List.cons.injEq] at begins
      rw [characters] at split
      have isOne : JsonScanner.isDigit first = true := by
        simp [JsonScanner.isDigit, begins.1, low, high]
      rw [List.cons_append, decodeRaw_of_digit isOne, ← List.cons_append, split]

/-! ### Every other text -/

theorem decodeLegacy_valueError {raw : List Char} {exception : PyException}
    (raised : library.decodeLegacyTraceCursor raw = .error exception) :
    exception.type = .valueError := by
  rw [decodeLegacyTraceCursor] at raised
  split at raised
  · rw [← Except.error.inj raised]
    rfl
  · split at raised
    · rw [← Except.error.inj raised]
      rfl
    · cases raised

/-- Only a bracket beyond the limit raises something else than `ValueError`. -/
theorem decodeRaw_valueError_iff (raw : List Char) :
    (∀ exception, library.decodeRaw raw = .error exception → exception.type = .valueError) ↔
      JsonScanner.nesting raw ≤ library.recursionLimit := by
  rw [← Nat.not_lt, ← JsonScanner.loads_recursionError_iff, decodeRaw]
  split
  · rename_i bracket deep
    simp [deep, recursionError]
  · rename_i refused
    simp only [refused, Except.error.injEq, reduceCtorEq, exists_false, not_false_eq_true,
      iff_true]
    exact fun exception raised => decodeLegacy_valueError raised
  · rename_i payload read
    simp only [read, reduceCtorEq, exists_false, not_false_eq_true, iff_true]
    intro exception raised
    split at raised
    · cases raised
    · exact decodeLegacy_valueError raised

theorem cursorRaw_valueError {cursor : PyStr} {exception : PyException}
    (raised : cursorRaw cursor = .error exception) : exception.type = .valueError := by
  rw [cursorRaw] at raised
  split at raised
  · rw [← Except.error.inj raised]
    rfl
  · split at raised
    · rw [← Except.error.inj raised]
      rfl
    · cases raised

/-! ### Soundness of the codec -/

variable (library) in
/-- What reading a cursor owes: the pair that was written in it, the pair of the older
form, and of any other text a pair with an id or a `ValueError`. -/
structure CursorSound (cursor : PyStr) : Prop where
  written : ∀ (startedAt : Datetime) (traceId : String), startedAt.Aware → traceId ≠ "" →
    cursor = .ofString (library.encodeTraceCursor startedAt traceId) →
    library.decodeTraceCursor cursor = .ok (startedAt, .ofString traceId)
  legacy : ∀ (iso id : String) (startedAt : Datetime),
    library.fromisoformat (.ofString iso) = some startedAt → id ≠ "" → ':' ∉ id.toList →
    cursor = codePoints (b64encode (iso.toList ++ ':' :: id.toList)) ∨
      cursor = codePoints (urlsafeB64encode (iso.toList ++ ':' :: id.toList)) →
    library.decodeTraceCursor cursor = .ok (startedAt, .ofString id)
  otherwise : (∃ startedAt id, library.decodeTraceCursor cursor = .ok (startedAt, id) ∧ id ≠ []) ∨
    ∃ exception, library.decodeTraceCursor cursor = .error exception ∧
      exception.type = .valueError

theorem decode_legacy {iso id : String} {startedAt : Datetime} {cursor : PyStr}
    (dated : library.fromisoformat (.ofString iso) = some startedAt) (nonempty : id ≠ "")
    (noColon : ':' ∉ id.toList)
    (encoded : cursor = codePoints (b64encode (iso.toList ++ ':' :: id.toList)) ∨
      cursor = codePoints (urlsafeB64encode (iso.toList ++ ':' :: id.toList))) :
    library.decodeTraceCursor cursor = .ok (startedAt, .ofString id) := by
  have known : cursorRaw cursor = .ok (iso.toList ++ ':' :: id.toList) := by
    rcases encoded with standard | urlsafe
    · rw [standard, cursorRaw_b64encode]
    · rw [urlsafe, cursorRaw_urlsafeB64encode]
  exact decodeTraceCursor_of_raw known (decodeRaw_legacy dated noColon) (ofString_ne_nil nonempty)

/-- A pair with an id or a `ValueError`, where the text does not nest too deep. -/
theorem decode_otherwise {cursor : PyStr}
    (shallow : ∀ raw, cursorRaw cursor = .ok raw →
      JsonScanner.nesting raw ≤ library.recursionLimit) :
    (∃ startedAt id, library.decodeTraceCursor cursor = .ok (startedAt, id) ∧ id ≠ []) ∨
      ∃ exception, library.decodeTraceCursor cursor = .error exception ∧
        exception.type = .valueError := by
  rw [decodeTraceCursor]
  cases known : cursorRaw cursor with
  | error exception => exact .inr ⟨exception, rfl, cursorRaw_valueError known⟩
  | ok raw =>
      rw [ok_bind]
      cases decoded : library.decodeRaw raw with
      | error exception =>
          have handled := (decodeRaw_valueError_iff raw).mpr (shallow raw known)
          exact .inr ⟨exception, rfl, handled exception decoded⟩
      | ok pair =>
          rw [ok_bind]
          by_cases empty : pair.2 = []
          · exact .inr ⟨invalidCursorError, if_pos empty, rfl⟩
          · exact .inl ⟨pair.1, pair.2, if_neg empty, empty⟩

/-- A date as a number of zeros. -/
def zerosOf (value : Datetime) : String :=
  String.ofList (List.replicate (Encodable.encode (value.wall, value.tzinfo) + 1) '0')

/-- The date that a number of zeros stands for. -/
def dateOfZeros (text : PyStr) : Option Datetime :=
  if text ≠ [] ∧ ∀ unit ∈ text, unit = 48 then
    (Encodable.decode (text.length - 1) : Option (Int × Option Int)).map fun fields =>
      ⟨fields.1, fields.2⟩
  else none

theorem dateOfZeros_zerosOf (value : Datetime) (_aware : value.Aware) :
    dateOfZeros (.ofString (zerosOf value)) = some value := by
  have read := Encodable.encodek (value.wall, value.tzinfo)
  have zeros : PyStr.ofString (zerosOf value) =
      List.replicate (Encodable.encode (value.wall, value.tzinfo) + 1) 48 := by
    rw [zerosOf, PyStr.ofString, String.toList_ofList, codePoints, List.map_replicate]
    rfl
  have allZeros : ∀ unit ∈ List.replicate (Encodable.encode (value.wall, value.tzinfo) + 1) 48,
      unit = 48 :=
    fun unit member => List.eq_of_mem_replicate member
  rw [dateOfZeros, zeros, if_pos ⟨by simp, allZeros⟩, List.length_replicate,
    Nat.add_sub_cancel, read]
  rfl

theorem dateOfZeros_digit (text : PyStr) (value : Datetime)
    (dated : dateOfZeros text = some value) :
    ∃ digit rest, text = digit :: rest ∧ 48 ≤ digit ∧ digit ≤ 57 := by
  unfold dateOfZeros at dated
  split at dated
  · rename_i zeros
    cases text with
    | nil => exact absurd rfl zeros.1
    | cons digit rest =>
        have isZero := zeros.2 digit List.mem_cons_self
        exact ⟨digit, rest, rfl, by omega, by omega⟩
  · cases dated

theorem defaultRecursionLimit_pos : 1 ≤ 1000 := by
  decide

/-- A process whose dates are written in zeros, with the default recursion limit. -/
def inZeros : CursorLibrary where
  isoformat := zerosOf
  fromisoformat := dateOfZeros
  reprStr := fun _ => .ofString "None"
  recursionLimit := 1000
  recursionLimit_pos := defaultRecursionLimit_pos
  fromisoformat_isoformat := dateOfZeros_zerosOf
  fromisoformat_digit := dateOfZeros_digit

theorem nestingFrom_brackets (count : Nat) (mode : JsonScanner.Mode)
    (stack : List JsonScanner.Container) (awaits : mode = .value ∨ mode = .firstItem) :
    JsonScanner.nestingFrom ⟨mode, stack⟩ (List.replicate count '[') = stack.length + count := by
  induction count generalizing mode stack with
  | zero => rfl
  | succ count inductionHypothesis =>
      have opened : JsonScanner.step ⟨mode, stack⟩ '[' = some ⟨.firstItem, .list [] :: stack⟩ := by
        rcases awaits with rfl | rfl
        · rfl
        · rfl
      rw [List.replicate_succ, JsonScanner.nestingFrom, opened]
      simp only [inductionHypothesis .firstItem (.list [] :: stack) (.inr rfl), List.length_cons]
      omega

end CursorLibrary

end LlmObs.Backend
