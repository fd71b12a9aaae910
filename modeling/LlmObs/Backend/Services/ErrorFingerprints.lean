import LlmObs.Backend.Services.MetricsService
import LlmObs.Foundation.PatternReplace
import LlmObs.Foundation.RankedGroups
import Mathlib

/-!
Owns the errors of a project as `get_analytics` groups them: the masking of identifiers and
keys in an error message, its fingerprint, and the query `error_fingerprints` with its ranks of
providers and models. It says what the table tells of the messages: neither which identifiers
and keys were in them, nor anything that looks like one.
-/

namespace LlmObs.Backend

open LlmObs.Foundation

/-! ### Masking -/

/-- What the locale of the database decides. -/
structure Locale where
  lower : List Char → List Char
  isAlnum : Char → Bool
  isSpace : Char → Bool
  /-- The collation, which tells all texts apart. -/
  textLe : String → String → Bool
  textLe_trans : ∀ first second third, textLe first second = true → textLe second third = true →
    textLe first third = true
  textLe_total : ∀ first second, (textLe first second || textLe second first) = true
  textLe_antisymm : ∀ first second, textLe first second = true → textLe second first = true →
    first = second

/-- The locale `C`. -/
def Locale.posix : Locale where
  lower := List.map Char.toLower
  isAlnum := Char.isAlphanum
  isSpace letter := " \t\n\r".toList.contains letter || letter = '\x0b' || letter = '\x0c'
  textLe first second := first ≤ second
  textLe_trans first second third one two := by
    rw [decide_eq_true_eq] at one two ⊢
    exact one.trans two
  textLe_total first second := by
    rw [Bool.or_eq_true, decide_eq_true_eq, decide_eq_true_eq]
    exact le_total first second
  textLe_antisymm first second one two := by
    rw [decide_eq_true_eq] at one two
    exact le_antisymm one two

/-- `[0-9a-f]` up to case. -/
def isHexLetter (letter : Char) : Bool :=
  letter.isDigit || ('a' ≤ letter && letter ≤ 'f') || ('A' ≤ letter && letter ≤ 'F')

/-- `[0-9a-f]{8}-[0-9a-f]{4}-[0-9a-f]{4}-[0-9a-f]{4}-[0-9a-f]{12}` -/
def uuidClasses : List (Char → Bool) :=
  let hex (count : Nat) := List.replicate count isHexLetter
  let dash : List (Char → Bool) := [fun letter => letter = '-']
  hex 8 ++ dash ++ hex 4 ++ dash ++ hex 4 ++ dash ++ hex 4 ++ dash ++ hex 12

def uuidPattern : Pattern Char := .fixed uuidClasses

/-- `[A-Za-z0-9_-]` -/
def isSecretLetter (letter : Char) : Bool :=
  letter.isAlphanum || letter = '_' || letter = '-'

def secretTags : List (List Char) := ["sk-".toList, "llmobs_".toList]

theorem toLower_eq_of_not_isUpper {letter : Char} (lower : letter.isUpper = false) :
    letter.toLower = letter := by
  rw [Char.toLower, dif_neg]
  simpa [Char.isUpper] using lower

/-- The letters of a tag are letters of a key. -/
theorem secretTags_inBody (letter : Char) (outside : isSecretLetter letter = false) :
    ∀ tag ∈ secretTags, letter.toLower ∉ tag := by
  intro tag member within
  have lower : letter.isUpper = false := by
    by_contra upper
    simp [isSecretLetter, Char.isAlphanum, Char.isAlpha, Bool.not_eq_false _ ▸ upper] at outside
  rw [toLower_eq_of_not_isUpper lower] at within
  have known : (secretTags.all fun tag => tag.all isSecretLetter) = true := by decide +kernel
  rw [List.all_eq_true.mp (List.all_eq_true.mp known tag member) letter within] at outside
  cases outside

/-- `(sk-[A-Za-z0-9_-]+|llmobs_[A-Za-z0-9_-]+)` up to case. -/
def secretPattern : Pattern Char :=
  .tagged Char.toLower secretTags isSecretLetter secretTags_inBody

def maskUuids (message : List Char) : List Char := uuidPattern.replaceAll "<uuid>".toList message

def maskSecrets (message : List Char) : List Char :=
  secretPattern.replaceAll "<secret>".toList message

/-- `regexp_replace(text, '\m[0-9]+\M', '<num>', 'g')`: the words that are digits alone. -/
def maskNumbers (locale : Locale) (text : List Char) : List Char :=
  let isWord (letter : Char) : Bool := locale.isAlnum letter || letter = '_'
  (text.splitBy fun left right => isWord left == isWord right).flatMap fun run =>
    if run.all fun letter => isWord letter && letter.isDigit then "<num>".toList else run

/-- `regexp_replace(text, '\s+', ' ', 'g')` -/
def collapseSpaces (locale : Locale) (text : List Char) : List Char :=
  (Pattern.tagged id [[]] locale.isSpace (by simp)).replaceAll [' '] text

/-- `LEFT(text, count)` -/
def leftText (count : Nat) (text : List Char) : String := String.ofList (text.take count)

def sampleMessage (message : List Char) : String := leftText 240 (maskSecrets (maskUuids message))

def fingerprint (locale : Locale) (message : List Char) : String :=
  leftText 160 (collapseSpaces locale (maskNumbers locale (maskUuids
    (locale.lower (maskSecrets (maskUuids message))))))

/-! ### What the masks tell -/

theorem mem_upperLetters {letter : Char} (upper : letter.isUpper = true) :
    letter ∈ "ABCDEFGHIJKLMNOPQRSTUVWXYZ".toList := by
  have bounds : 65 ≤ letter.toNat ∧ letter.toNat ≤ 90 := by
    simpa [Char.isUpper, UInt32.le_iff_toNat_le] using upper
  obtain ⟨least, most⟩ := bounds
  have itself : letter = Char.ofNat letter.toNat := (Char.ofNat_toNat letter).symm
  rw [itself]
  generalize letter.toNat = code at least most
  interval_cases code <;> decide

theorem isHexLetter_toLower (letter : Char) :
    isHexLetter letter.toLower = isHexLetter letter := by
  by_cases upper : letter.isUpper = true
  · have known : ("ABCDEFGHIJKLMNOPQRSTUVWXYZ".toList.all fun letter =>
        isHexLetter letter.toLower == isHexLetter letter) = true := by decide +kernel
    exact eq_of_beq (List.all_eq_true.mp known letter (mem_upperLetters upper))
  · rw [toLower_eq_of_not_isUpper (Bool.eq_false_iff.mpr upper)]

theorem uuidPattern_alphabet (letter : Char) :
    uuidPattern.alphabet letter = (isHexLetter letter || letter = '-') := by
  show (uuidClasses.any fun accepts => accepts letter) = _
  cases hex : isHexLetter letter <;> simp [uuidClasses, hex]

/-- A letter of an identifier is a letter of a key. -/
theorem uuidPattern_alphabet_of_outside {letter : Char} (outside : isSecretLetter letter = false) :
    uuidPattern.alphabet letter = false := by
  rw [uuidPattern_alphabet]
  by_contra inside
  rw [Bool.not_eq_false, Bool.or_eq_true, decide_eq_true_eq] at inside
  rcases inside with hex | rfl
  · have alphanumeric : letter.isAlphanum = true := by
      simp only [isHexLetter, Char.isDigit, Bool.or_eq_true, Bool.and_eq_true, decide_eq_true_eq,
        Char.le_def, UInt32.le_iff_toNat_le, ge_iff_le] at hex
      simp only [Char.isAlphanum, Char.isAlpha, Char.isUpper, Char.isLower, Char.isDigit,
        Bool.or_eq_true, Bool.and_eq_true, decide_eq_true_eq, UInt32.le_iff_toNat_le, ge_iff_le]
      have bounds : 'f'.val.toNat = 102 ∧ 'z'.val.toNat = 122 ∧ 'F'.val.toNat = 70 ∧
          'Z'.val.toNat = 90 := ⟨rfl, rfl, rfl, rfl⟩
      omega
    simp [isSecretLetter, alphanumeric] at outside
  · cases outside

/-- No identifier has one of its first letters outside of the hexadecimal ones. -/
theorem startsWith_hex {last : Char} (outside : isHexLetter last = false)
    (classes : List (Char → Bool)) (rest : List Char) {start : List Char} {count : Nat}
    (short : start.length < count) :
    Pattern.startsWith (List.replicate count isHexLetter ++ classes) (start ++ last :: rest) =
      false := by
  induction start generalizing count with
  | nil =>
      obtain ⟨fewer, rfl⟩ := Nat.exists_eq_succ_of_ne_zero (Nat.ne_of_gt short)
      rw [List.replicate_succ, List.cons_append, List.nil_append, Pattern.startsWith, outside,
        Bool.false_and]
  | cons letter start inductionHypothesis =>
      obtain ⟨fewer, rfl⟩ := Nat.exists_eq_succ_of_ne_zero (Nat.ne_of_gt (Nat.zero_lt_of_lt short))
      rw [List.replicate_succ, List.cons_append, List.cons_append, Pattern.startsWith,
        inductionHypothesis (Nat.lt_of_succ_lt_succ short), Bool.and_false]

theorem free_before {last : Char} (outside : isHexLetter last = false) {start key : List Char}
    (short : start.length < 8) (free : uuidPattern.Free key) :
    uuidPattern.Free (start ++ last :: key) := by
  have nowhere (start : List Char) (short : start.length < 8) :
      uuidPattern.matchLength (start ++ last :: key) = 0 := by
    refine if_neg (Bool.eq_false_iff.mp ?_)
    have never := startsWith_hex outside (uuidClasses.drop 8) key short
    exact never
  induction start with
  | nil => exact Pattern.free_cons (nowhere [] short) free
  | cons letter start inductionHypothesis =>
      have fewer := Nat.lt_of_succ_lt short
      exact Pattern.free_cons (nowhere (letter :: start) short) (inductionHypothesis fewer)

/-- A tag begins with a letter that is in no identifier, and has no identifier reach over its
end. -/
theorem exists_tag {tag : List Char} (isTag : tag.map Char.toLower ∈ secretTags) :
    (∃ first rest, tag = first :: rest ∧ uuidPattern.alphabet first = false) ∧
      ∃ start last, tag = start ++ [last] ∧ start.length < 8 ∧ isHexLetter last = false := by
  have opens : ∀ folded ∈ secretTags, folded.head?.any (fun letter =>
      !isHexLetter letter && letter != '-') = true := by decide +kernel
  have closes : ∀ folded ∈ secretTags, folded.length ≤ 8 ∧
      folded.getLast?.any (fun letter => !isHexLetter letter) = true := by decide +kernel
  have opened := opens _ isTag
  obtain ⟨short, closed⟩ := closes _ isTag
  rw [List.length_map] at short
  constructor
  · cases tag with
    | nil => cases opened
    | cons first rest =>
        refine ⟨first, rest, rfl, ?_⟩
        rw [List.map_cons, List.head?_cons, Option.any_some, isHexLetter_toLower, Bool.and_eq_true,
          Bool.not_eq_true', bne_iff_ne] at opened
        rw [uuidPattern_alphabet, opened.1, Bool.false_or, decide_eq_false_iff_not]
        rintro rfl
        exact opened.2 rfl
  · rcases List.eq_nil_or_concat' tag with rfl | ⟨start, last, rfl⟩
    · cases closed
    · refine ⟨start, last, rfl, ?_, ?_⟩
      · rw [List.length_append, List.length_singleton] at short
        omega
      · rw [List.getLast?_map, List.getLast?_append, List.getLast?_singleton, Option.some_or,
          Option.map_some, Option.any_some, isHexLetter_toLower, Bool.not_eq_true'] at closed
        exact closed

theorem secretTags_apart : Pattern.Apart secretTags := by decide +kernel

/-- One key or one identifier of a message is another one. -/
inductive Renamed : List Char → List Char → Prop
  | secret (before after : List Char) {tag key other : List Char}
      (isTag : tag.map Char.toLower ∈ secretTags) (positive : key ≠ [] ∧ other ≠ [])
      (letters : ∀ letter ∈ key ++ other, isSecretLetter letter = true)
      (noUuid : uuidPattern.Free key ∧ uuidPattern.Free other)
      (ends : ∀ letter ∈ after.head?, isSecretLetter letter = false) :
      Renamed (before ++ (tag ++ key) ++ after) (before ++ (tag ++ other) ++ after)
  | uuid (before after : List Char) {id other : List Char}
      (length : id.length = 36 ∧ other.length = 36)
      (isUuid : Pattern.startsWith uuidClasses id = true ∧
        Pattern.startsWith uuidClasses other = true)
      (starts : ∀ letter ∈ before.getLast?, uuidPattern.alphabet letter = false) :
      Renamed (before ++ id ++ after) (before ++ other ++ after)

/-- What is masked does not tell which keys and identifiers the message had. -/
theorem Renamed.masked_eq {left right : List Char} (renamed : Renamed left right) :
    maskSecrets (maskUuids left) = maskSecrets (maskUuids right) := by
  cases renamed with
  | secret before after isTag positive letters noUuid ends =>
      rename_i tag key other
      obtain ⟨⟨first, rest, opened, outside⟩, start, last, closed, short, notHex⟩ := exists_tag isTag
      have keeps (run : List Char) (free : uuidPattern.Free run) :
          maskUuids (before ++ (tag ++ run) ++ after) =
            maskUuids before ++ (tag ++ run) ++ maskUuids after := by
        have freeTagged : uuidPattern.Free (tag ++ run) := by
          rw [closed, List.append_assoc, List.singleton_append]
          exact free_before notHex short free
        rw [opened, List.cons_append] at freeTagged ⊢
        exact Pattern.replaceAll_keeps outside freeTagged _ before after fun letter head =>
          uuidPattern_alphabet_of_outside (ends letter head)
      have inTag : ∀ letter ∈ tag, isSecretLetter letter = true := by
        intro letter member
        by_contra outside
        exact secretTags_inBody letter (Bool.eq_false_iff.mpr outside) _ isTag
          (List.mem_map_of_mem member)
      have run (letters : List Char) (all : ∀ letter ∈ letters, isSecretLetter letter = true) :
          ∀ letter ∈ tag ++ letters, isSecretLetter letter = true := fun letter member =>
        (List.mem_append.mp member).elim (inTag letter) (all letter)
      have endsMasked : ∀ letter ∈ (maskUuids after).head?, isSecretLetter letter = false := by
        cases after with
        | nil => exact ends
        | cons letter after =>
            have outside := ends letter rfl
            have kept : maskUuids (letter :: after) = letter :: maskUuids after :=
              Pattern.replaceAll_cut (uuidPattern_alphabet_of_outside outside) [] after
            rw [kept]
            exact ends
      rw [keeps key noUuid.1, keeps other noUuid.2]
      exact Pattern.replaceAll_tagged secretTags_apart isTag positive
        (run key fun letter member => letters letter (List.mem_append_left _ member))
        (run other fun letter member => letters letter (List.mem_append_right _ member))
        (maskUuids before) (maskUuids after) endsMasked
  | uuid before after length isUuid starts =>
      rename_i id other
      have masked (token : List Char) (whole : token.length = 36)
          (isUuid : Pattern.startsWith uuidClasses token = true) :
          maskUuids (before ++ token ++ after) =
            maskUuids before ++ ("<uuid>".toList ++ maskUuids after) := by
        have some' : token ≠ [] := by
          rintro rfl
          cases whole
        have replaced : maskUuids (token ++ after) = "<uuid>".toList ++ maskUuids after :=
          Pattern.replaceFrom_fixed some' isUuid whole after
        rcases List.eq_nil_or_concat' before with rfl | ⟨start, last, rfl⟩
        · exact replaced
        · have outside := starts last (by rw [List.getLast?_append]; rfl)
          have cut (rest : List Char) : maskUuids (start ++ last :: rest) =
              maskUuids start ++ last :: maskUuids rest := Pattern.replaceAll_cut outside start rest
          rw [List.append_assoc, List.append_assoc, List.singleton_append, cut, cut, replaced,
            List.append_assoc]
          rfl
      rw [masked id length.1 isUuid.1, masked other length.2 isUuid.2]

/-- Neither an identifier nor a key is left in a masked message. -/
theorem free_masked (message : List Char) :
    uuidPattern.Free (maskSecrets (maskUuids message)) ∧
      secretPattern.Free (maskSecrets (maskUuids message)) := by
  have noUuid : uuidPattern.Free
      (uuidPattern.replaceFrom ('<' :: "uuid".toList ++ ['>']) 0 message) :=
    Pattern.free_replaceFrom (by decide +kernel) (by decide +kernel) (by decide +kernel)
      fun _ _ _ nowhere => nowhere
  have secret (pattern : Pattern Char) (outside : pattern.alphabet '<' = false ∧
      pattern.alphabet '>' = false) (unmarked : pattern.Free ('<' :: "secret".toList))
      (only : ∀ before after, maskUuids message = before ++ after →
        secretPattern.matchLength after = 0 → pattern.matchLength after = 0) :
      pattern.Free (secretPattern.replaceFrom ('<' :: "secret".toList ++ ['>']) 0
        (maskUuids message)) :=
    Pattern.free_replaceFrom outside.1 outside.2 unmarked only
  exact ⟨secret uuidPattern (by decide +kernel) (by decide +kernel)
    fun before after split _ => noUuid before after split,
    secret secretPattern (by decide +kernel) (by decide +kernel) fun _ _ _ nowhere => nowhere⟩

/-! ### The query -/

/-- `COALESCE(NULLIF(error, ''), 'unknown error')` -/
def SpanRow.errorMessage (span : SpanRow) : String :=
  match span.error with
  | none => "unknown error"
  | some text => if text = "" then "unknown error" else text

structure ErrorRow where
  traceId : UUID
  provider : String
  model : String
  startedAt : Int
  sampleMessage : String
  fingerprint : String
deriving DecidableEq, Repr

/-- The common table `error_rows` of the spans of a window. -/
def errorRows (locale : Locale) (spans : List SpanRow) : List ErrorRow :=
  (spans.filter fun span => span.status = .error).map fun span =>
    { traceId := span.traceId, provider := span.provider, model := span.model,
      startedAt := span.startedAt, sampleMessage := sampleMessage span.errorMessage.toList,
      fingerprint := fingerprint locale span.errorMessage.toList }

/-- A row of the common table `grouped`. -/
structure FingerprintGroup where
  fingerprint : String
  errorCount : Nat
  affectedTraceCount : Nat
  lastSeenAt : Option Int
  sampleMessage : String
deriving DecidableEq, Repr

/-- Its aggregates over the errors with a fingerprint: the sample is that of an error which no
other one started after. -/
structure IsFingerprintGroup (fingerprint : String) (rows : List ErrorRow)
    (group : FingerprintGroup) : Prop where
  fingerprint : group.fingerprint = fingerprint
  errorCount : group.errorCount = rows.length
  affectedTraceCount : group.affectedTraceCount = (rows.map (·.traceId)).dedup.length
  lastSeenAt : group.lastSeenAt = (rows.map (·.startedAt)).max?
  sampleMessage : ∃ row ∈ rows, group.sampleMessage = row.sampleMessage ∧
    ∀ other ∈ rows, other.startedAt ≤ row.startedAt

/-- What `provider_rank` and `model_rank` number: how often a fingerprint has a value. -/
structure RankedValue where
  fingerprint : String
  value : String
  count : Nat
deriving DecidableEq, Repr

def rankedValues (column : ErrorRow → String) (rows : List ErrorRow) : List RankedValue :=
  groupBy (fun row => (row.fingerprint, column row))
    (fun key members => ⟨key.1, key.2, members.length⟩) rows

/-- `ORDER BY COUNT(*) DESC, value ASC` -/
def RankedValue.le (locale : Locale) (first later : RankedValue) : Bool :=
  later.count < first.count ||
    (first.count = later.count && locale.textLe first.value later.value)

/-- The rows of `provider_rank` or `model_rank` with `rank = 1`. -/
def topRanks (locale : Locale) (column : ErrorRow → String) (rows : List ErrorRow) :
    List (RankedValue × Nat) :=
  (rowNumbers RankedValue.fingerprint (RankedValue.le locale) (rankedValues column rows)).filter
    fun ranked => ranked.2 = 1

structure ErrorFingerprint where
  fingerprint : String
  sampleMessage : String
  errorCount : Nat
  affectedTraceCount : Nat
  topProvider : Option String
  topModel : Option String
  lastSeenAt : Option Int
deriving DecidableEq, Repr

/-- `grouped LEFT JOIN provider_rank .. LEFT JOIN model_rank ..` for a row of `grouped`. -/
def joinRanks (locale : Locale) (rows : List ErrorRow) (group : FingerprintGroup) :
    List ErrorFingerprint :=
  let ranks (column : ErrorRow → String) := leftJoin
    (fun ranked : RankedValue × Nat => ranked.1.fingerprint) [group.fingerprint]
    (topRanks locale column rows)
  (ranks ErrorRow.provider).flatMap fun provider =>
    (ranks ErrorRow.model).map fun model =>
      { fingerprint := group.fingerprint, sampleMessage := group.sampleMessage,
        errorCount := group.errorCount, affectedTraceCount := group.affectedTraceCount,
        topProvider := provider.2.map fun ranked => ranked.1.value,
        topModel := model.2.map fun ranked => ranked.1.value, lastSeenAt := group.lastSeenAt }

/-- `ORDER BY g.error_count DESC, g.last_seen_at DESC` -/
def ErrorFingerprint.order : Comparison ErrorFingerprint :=
  (Comparison.nat.lex Comparison.int.nullsFirst).on fun row => (row.errorCount, row.lastSeenAt)

/-- `LIMIT 10` -/
def analyticsLimit : Nat := 10

/-- An answer of the query `error_fingerprints` over the spans of a window. -/
def IsErrorFingerprints (locale : Locale) (spans : List SpanRow) (answer : List ErrorFingerprint) :
    Prop :=
  let rows := errorRows locale spans
  ∃ groups : List FingerprintGroup, IsGrouped ErrorRow.fingerprint IsFingerprintGroup rows groups ∧
    IsTop ErrorFingerprint.order.Desc analyticsLimit (groups.flatMap (joinRanks locale rows)) answer

/-- One row of `grouped` that the query may have: the sample is of the first latest error. -/
def fingerprintGroup (fingerprint : String) (rows : List ErrorRow) : FingerprintGroup where
  fingerprint := fingerprint
  errorCount := rows.length
  affectedTraceCount := (rows.map (·.traceId)).dedup.length
  lastSeenAt := (rows.map (·.startedAt)).max?
  sampleMessage := (((Comparison.int.on ErrorRow.startedAt).top 1 rows).map (·.sampleMessage)).headD ""

/-- One answer of the query. -/
def errorFingerprints (locale : Locale) (spans : List SpanRow) : List ErrorFingerprint :=
  let rows := errorRows locale spans
  let groups := groupBy ErrorRow.fingerprint fingerprintGroup rows
  ErrorFingerprint.order.top analyticsLimit (groups.flatMap (joinRanks locale rows))

theorem filter_key_ne_nil {Row Key : Type} [DecidableEq Key] {key : Row → Key} {rows : List Row}
    {value : Key} (known : value ∈ rows.map key) :
    rows.filter (fun row => key row = value) ≠ [] := by
  obtain ⟨row, member, same⟩ := List.mem_map.mp known
  exact List.ne_nil_of_mem (List.mem_filter.mpr ⟨member, decide_eq_true same⟩)

theorem isErrorFingerprints_errorFingerprints (locale : Locale) (spans : List SpanRow) :
    IsErrorFingerprints locale spans (errorFingerprints locale spans) := by
  refine ⟨_, isGrouped_of_aggregates fun value known => ?_, Comparison.isTop_top _ _ _⟩
  obtain ⟨latest, member, only, before⟩ :=
    (Comparison.int.on ErrorRow.startedAt).exists_top_one (filter_key_ne_nil known)
  exact
    { fingerprint := rfl
      errorCount := rfl
      affectedTraceCount := rfl
      lastSeenAt := rfl
      sampleMessage := ⟨latest, member, by rw [fingerprintGroup, only]; rfl,
        fun other found => of_decide_eq_true (before other found)⟩ }

/-! ### What the table says -/

/-- No other one of the values is more frequent, nor as frequent and first in the collation. -/
def IsMostFrequent (locale : Locale) (values : List String) (value : String) : Prop :=
  value ∈ values ∧ ∀ other ∈ values, values.count other < values.count value ∨
    (values.count other = values.count value ∧ locale.textLe value other = true)

theorem RankedValue.le_trans (locale : Locale) (first second third : RankedValue)
    (one : first.le locale second = true) (two : second.le locale third = true) :
    first.le locale third = true := by
  simp only [RankedValue.le, Bool.or_eq_true, Bool.and_eq_true, decide_eq_true_eq] at one two ⊢
  rcases one with more | ⟨same, before⟩
  · left
    rcases two with moreStill | ⟨sameStill, -⟩
    · omega
    · omega
  · rcases two with moreStill | ⟨sameStill, beforeStill⟩
    · left
      omega
    · exact Or.inr ⟨same.trans sameStill, locale.textLe_trans _ _ _ before beforeStill⟩

theorem RankedValue.le_total (locale : Locale) (first second : RankedValue) :
    (first.le locale second || second.le locale first) = true := by
  have order := locale.textLe_total first.value second.value
  simp only [RankedValue.le, Bool.or_eq_true, Bool.and_eq_true, decide_eq_true_eq] at order ⊢
  rcases Nat.lt_trichotomy first.count second.count with fewer | same | more
  · exact Or.inr (Or.inl fewer)
  · exact order.imp (fun before => Or.inr ⟨same, before⟩) fun after => Or.inr ⟨same.symm, after⟩
  · exact Or.inl (Or.inl more)

/-- How often a value is counted with a fingerprint. -/
theorem mem_rankedValues {column : ErrorRow → String} {rows : List ErrorRow}
    {ranked : RankedValue} : ranked ∈ rankedValues column rows ↔
      ranked.value ∈ (rows.filter fun row => row.fingerprint = ranked.fingerprint).map column ∧
        ranked.count = ((rows.filter fun row => row.fingerprint = ranked.fingerprint).map
          column).count ranked.value := by
  have counted (fingerprint value : String) : (rows.filter fun row =>
      (row.fingerprint, column row) = (fingerprint, value)).length =
        ((rows.filter fun row => row.fingerprint = fingerprint).map column).count value := by
    rw [List.count_eq_length_filter, List.filter_map, List.length_map, List.filter_filter]
    refine congrArg List.length (List.filter_congr fun row _ => ?_)
    rw [Bool.eq_iff_iff]
    simp [and_comm]
  have known (fingerprint value : String) : (fingerprint, value) ∈
      (rows.map fun row => (row.fingerprint, column row)) ↔
        value ∈ (rows.filter fun row => row.fingerprint = fingerprint).map column := by
    simp only [List.mem_map, List.mem_filter, decide_eq_true_eq, Prod.mk.injEq, and_assoc]
  rw [rankedValues, groupBy, List.mem_map]
  constructor
  · rintro ⟨⟨fingerprint, value⟩, member, rfl⟩
    exact ⟨(known _ _).mp (List.mem_dedup.mp member), counted _ _⟩
  · rintro ⟨member, count⟩
    refine ⟨(ranked.fingerprint, ranked.value), List.mem_dedup.mpr ((known _ _).mpr member), ?_⟩
    rw [counted, ← count]

/-- The join of a fingerprint with its ranks has one row, with a most frequent value. -/
theorem leftJoin_topRanks (locale : Locale) (column : ErrorRow → String) {rows : List ErrorRow}
    {fingerprint : String} (known : fingerprint ∈ rows.map ErrorRow.fingerprint) :
    ∃ first : RankedValue, leftJoin (fun ranked : RankedValue × Nat => ranked.1.fingerprint)
        [fingerprint] (topRanks locale column rows) = [(fingerprint, some (first, 1))] ∧
      IsMostFrequent locale ((rows.filter fun row => row.fingerprint = fingerprint).map column)
        first.value := by
  have ranked : fingerprint ∈ (rankedValues column rows).map RankedValue.fingerprint := by
    obtain ⟨row, member, same⟩ := List.mem_map.mp known
    let count := ((rows.filter fun row => row.fingerprint = fingerprint).map column).count
      (column row)
    have counted : (⟨fingerprint, column row, count⟩ : RankedValue) ∈ rankedValues column rows :=
      mem_rankedValues.mpr
        ⟨List.mem_map_of_mem (List.mem_filter.mpr ⟨member, decide_eq_true same⟩), rfl⟩
    exact List.mem_map.mpr ⟨_, counted, rfl⟩
  obtain ⟨first, member, own, best, joined⟩ := filter_rowNumbers_one
    (RankedValue.le_trans locale) (RankedValue.le_total locale) ranked
  refine ⟨first, ?_, ?_⟩
  · rw [leftJoin, List.flatMap_singleton, topRanks, joined]
    rfl
  · obtain ⟨inRows, count⟩ := mem_rankedValues.mp member
    rw [own] at inRows count
    refine ⟨inRows, fun other found => ?_⟩
    let otherCount := ((rows.filter fun row => row.fingerprint = fingerprint).map column).count
      other
    have counted : (⟨fingerprint, other, otherCount⟩ : RankedValue) ∈ rankedValues column rows :=
      mem_rankedValues.mpr ⟨found, rfl⟩
    have least := best _ counted rfl
    simp only [RankedValue.le, Bool.or_eq_true, Bool.and_eq_true, decide_eq_true_eq, count]
      at least
    exact least.imp id fun tie => ⟨tie.1.symm, tie.2⟩

/-- What a row of the table says of the errors with its fingerprint. -/
structure IsErrorFingerprint (locale : Locale) (fingerprint : String) (rows : List ErrorRow)
    (row : ErrorFingerprint) : Prop where
  fingerprint : row.fingerprint = fingerprint
  errorCount : row.errorCount = rows.length
  affectedTraceCount : row.affectedTraceCount = (rows.map (·.traceId)).dedup.length
  lastSeenAt : row.lastSeenAt = (rows.map (·.startedAt)).max?
  sampleMessage : ∃ error ∈ rows, row.sampleMessage = error.sampleMessage ∧
    ∀ other ∈ rows, other.startedAt ≤ error.startedAt
  topProvider : ∃ provider, row.topProvider = some provider ∧
    IsMostFrequent locale (rows.map ErrorRow.provider) provider
  topModel : ∃ model, row.topModel = some model ∧
    IsMostFrequent locale (rows.map ErrorRow.model) model

/-- The joins keep the groups apart and whole. -/
theorem isGrouped_joinRanks {locale : Locale} {rows : List ErrorRow}
    {groups : List FingerprintGroup}
    (grouped : IsGrouped ErrorRow.fingerprint IsFingerprintGroup rows groups) :
    IsGrouped ErrorRow.fingerprint (IsErrorFingerprint locale) rows
      (groups.flatMap (joinRanks locale rows)) := by
  refine grouped.flatMap fun value known group aggregated => ?_
  obtain ⟨provider, joinedProvider, bestProvider⟩ :=
    leftJoin_topRanks locale ErrorRow.provider known
  obtain ⟨model, joinedModel, bestModel⟩ := leftJoin_topRanks locale ErrorRow.model known
  let row : ErrorFingerprint :=
    { fingerprint := value, sampleMessage := group.sampleMessage, errorCount := group.errorCount,
      affectedTraceCount := group.affectedTraceCount, topProvider := some provider.value,
      topModel := some model.value, lastSeenAt := group.lastSeenAt }
  refine ⟨row, ?_, ?_⟩
  · simp only [joinRanks, aggregated.fingerprint, joinedProvider, joinedModel]
    rfl
  · exact
      { fingerprint := rfl
        errorCount := aggregated.errorCount
        affectedTraceCount := aggregated.affectedTraceCount
        lastSeenAt := aggregated.lastSeenAt
        sampleMessage := aggregated.sampleMessage
        topProvider := ⟨_, rfl, bestProvider⟩
        topModel := ⟨_, rfl, bestModel⟩ }

theorem IsErrorFingerprints.isRanked {locale : Locale} {spans : List SpanRow}
    {answer : List ErrorFingerprint} (answered : IsErrorFingerprints locale spans answer) :
    IsRanked ErrorRow.fingerprint (IsErrorFingerprint locale) ErrorFingerprint.order.Desc analyticsLimit
      (errorRows locale spans) answer := by
  obtain ⟨groups, grouped, top⟩ := answered
  exact ⟨_, isGrouped_joinRanks grouped, top⟩

theorem length_errorRows (locale : Locale) (spans : List SpanRow) :
    (errorRows locale spans).length = countErrors spans := by
  rw [errorRows, List.length_map, countErrors, List.countP_eq_length_filter]

/-- The errors with a fingerprint. -/
def errorsWith (locale : Locale) (fingerprint : String) (spans : List SpanRow) : List ErrorRow :=
  (errorRows locale spans).filter fun row => row.fingerprint = fingerprint

/-- What a table says of the errors among the spans of a window. -/
structure ErrorsReported (locale : Locale) (spans : List SpanRow)
    (answer : List ErrorFingerprint) : Prop where
  /-- A row describes the errors with its fingerprint, of which there are some. -/
  rows : ∀ row ∈ answer, errorsWith locale row.fingerprint spans ≠ [] ∧
    IsErrorFingerprint locale row.fingerprint (errorsWith locale row.fingerprint spans) row
  distinct : (answer.map ErrorFingerprint.fingerprint).Nodup
  ordered : answer.Pairwise ErrorFingerprint.order.Desc
  /-- A fingerprint is left out of ten that have at least as many errors. -/
  leftOut : ∀ fingerprint, errorsWith locale fingerprint spans ≠ [] →
    fingerprint ∉ answer.map ErrorFingerprint.fingerprint → answer.length = analyticsLimit ∧
      ∀ shown ∈ answer, (errorsWith locale fingerprint spans).length ≤ shown.errorCount
  counted : (answer.map ErrorFingerprint.errorCount).sum ≤ countErrors spans
  /-- No error is missing where there are ten fingerprints at most. -/
  complete : ((errorRows locale spans).map ErrorRow.fingerprint).dedup.length ≤ analyticsLimit →
    (answer.map ErrorFingerprint.errorCount).sum = countErrors spans

theorem errorsWith_ne_nil_iff {locale : Locale} {fingerprint : String} {spans : List SpanRow} :
    errorsWith locale fingerprint spans ≠ [] ↔
      fingerprint ∈ (errorRows locale spans).map ErrorRow.fingerprint := by
  rw [Ne, errorsWith, List.filter_eq_nil_iff, List.mem_map]
  push Not
  simp only [decide_eq_true_eq]

/-- The table of error fingerprints of a project's window. -/
theorem errorFingerprints_reported (locale : Locale) (projectId : UUID) (cutoff : Int)
    (table : SpanTable) {answer : List ErrorFingerprint}
    (answered : IsErrorFingerprints locale (SpanTable.since projectId cutoff table) answer) :
    ErrorsReported locale (SpanTable.since projectId cutoff table) answer := by
  have ranked := answered.isRanked
  have keeps : ∀ value members (row : ErrorFingerprint),
      IsErrorFingerprint locale value members row → row.fingerprint = value :=
    fun _ _ _ describes => describes.fingerprint
  have counts : ∀ value (members : List ErrorRow) (row : ErrorFingerprint),
      IsErrorFingerprint locale value members row →
        row.errorCount = (members.map fun _ => 1).sum := by
    intro value members row describes
    rw [describes.errorCount, List.map_const', List.sum_replicate, smul_eq_mul, mul_one]
  have total : ((errorRows locale (SpanTable.since projectId cutoff table)).map fun _ => 1).sum =
      countErrors (SpanTable.since projectId cutoff table) := by
    rw [List.map_const', List.sum_replicate, smul_eq_mul, mul_one, length_errorRows]
  exact
    { rows := by
        intro row member
        obtain ⟨value, known, describes⟩ := ranked.exists_of_mem member
        obtain rfl := describes.fingerprint
        exact ⟨errorsWith_ne_nil_iff.mpr known, describes⟩
      distinct := ranked.nodup_key keeps
      ordered := by
        obtain ⟨_, _, top⟩ := ranked
        exact top.pairwise
      leftOut := by
        intro fingerprint some' absent
        obtain ⟨full, group, describes, before⟩ :=
          ranked.le_of_leftOut keeps (errorsWith_ne_nil_iff.mp some') absent
        refine ⟨full, fun shown member => ?_⟩
        rw [errorsWith, ← describes.errorCount]
        exact of_decide_eq_true (Comparison.lex_fst (before shown member))
      counted := (ranked.sum_le counts fun _ _ => Nat.zero_le _).trans_eq total
      complete := fun room => (ranked.sum_eq counts room).trans total }

/-- A failed span whose error names a key. -/
def deniedSpan (key : String) : SpanRow where
  id := 1
  traceId := 1
  projectId := 1
  parentSpanId := none
  name := "llm_call"
  provider := "openai"
  model := "gpt-4o"
  inputTokens := 0
  outputTokens := 0
  costUsd := 0
  latencyMs := 1
  status := .error
  error := some ("Key sk-" ++ key ++ ": denied")
  startedAt := 0
  payloadS3Key := none
  payloadStatus := .omitted
  payloadDropReason := none
  metadata := []

def deniedTable (key : String) : SpanTable := ⟨[deniedSpan key], List.pairwise_singleton _ _⟩

/-- The table of its errors. -/
def deniedFingerprints : List ErrorFingerprint :=
  [⟨"key <secret>: denied", "Key <secret>: denied", 1, 1, some "openai", some "gpt-4o", some 0⟩]

theorem deniedFingerprints_answered :
    IsErrorFingerprints .posix (SpanTable.since 1 0 (deniedTable "one")) deniedFingerprints := by
  have rows : errorRows .posix (SpanTable.since 1 0 (deniedTable "one")) =
      [⟨1, "openai", "gpt-4o", 0, "Key <secret>: denied", "key <secret>: denied"⟩] := by
    decide +kernel
  rw [IsErrorFingerprints, rows]
  let group : FingerprintGroup := ⟨"key <secret>: denied", 1, 1, some 0, "Key <secret>: denied"⟩
  refine ⟨[group], .cons ?_ .nil, deniedFingerprints, ?_, List.pairwise_singleton _ _, rfl⟩
  · exact ⟨rfl, rfl, rfl, rfl, _, List.mem_singleton.mpr rfl, rfl, by decide⟩
  · have joined : [group].flatMap (joinRanks .posix
        [⟨1, "openai", "gpt-4o", 0, "Key <secret>: denied", "key <secret>: denied"⟩]) =
          deniedFingerprints := by decide +kernel
    rw [joined]

theorem errorFingerprints_reported_denied :
    ErrorsReported .posix (SpanTable.since 1 0 (deniedTable "one")) deniedFingerprints :=
  errorFingerprints_reported .posix 1 0 (deniedTable "one") deniedFingerprints_answered

/-! ### What the table does not say -/

theorem toList_sampleMessage (message : List Char) :
    (sampleMessage message).toList = (maskSecrets (maskUuids message)).take 240 :=
  String.toList_ofList

/-- No message of the table has an identifier or a key in it. -/
theorem errorFingerprints_masked (locale : Locale) (projectId : UUID) (cutoff : Int)
    (table : SpanTable) {answer : List ErrorFingerprint}
    (answered : IsErrorFingerprints locale (SpanTable.since projectId cutoff table) answer) :
    ∀ row ∈ answer, uuidPattern.Free row.sampleMessage.toList ∧
      secretPattern.Free row.sampleMessage.toList := by
  intro row member
  obtain ⟨value, -, describes⟩ := answered.isRanked.exists_of_mem member
  obtain ⟨error, found, sample, -⟩ := describes.sampleMessage
  obtain ⟨span, -, rfl⟩ := List.mem_map.mp (List.mem_filter.mp found).1
  obtain ⟨noUuid, noSecret⟩ := free_masked span.errorMessage.toList
  rw [sample, toList_sampleMessage]
  exact ⟨noUuid.take 240, noSecret.take 240⟩

theorem errorFingerprints_masked_denied : ∀ row ∈ deniedFingerprints,
    uuidPattern.Free row.sampleMessage.toList ∧ secretPattern.Free row.sampleMessage.toList :=
  errorFingerprints_masked .posix 1 0 (deniedTable "one") deniedFingerprints_answered

theorem masked_eq {left right : List Char} (renamed : Relation.ReflTransGen Renamed left right) :
    maskSecrets (maskUuids left) = maskSecrets (maskUuids right) := by
  induction renamed with
  | refl => rfl
  | tail _ step inductionHypothesis => exact inductionHypothesis.trans step.masked_eq

/-- A span whose error differs in keys and identifiers alone. -/
def SameButNames (left right : SpanRow) : Prop :=
  right = { left with error := right.error } ∧
    Relation.ReflTransGen Renamed left.errorMessage.toList right.errorMessage.toList

theorem errorRows_eq (locale : Locale) {left right : List SpanRow}
    (same : List.Forall₂ SameButNames left right) :
    errorRows locale left = errorRows locale right := by
  have errors := List.rel_filter (p := fun span : SpanRow => span.status = .error)
    (q := fun span : SpanRow => span.status = .error) (fun {left right} same => by
      rw [same.1]) same
  have rows : List.Forall₂ (· = ·) (errorRows locale left) (errorRows locale right) := by
    rw [errorRows, errorRows, List.forall₂_map_left_iff, List.forall₂_map_right_iff]
    refine errors.imp fun left right same => ?_
    have masked := masked_eq same.2
    rw [sampleMessage, sampleMessage, fingerprint, fingerprint, masked, same.1]
  rwa [List.forall₂_eq_eq_eq] at rows

/-- Of keys and identifiers in the errors the table tells nothing: two tables of spans that
differ in them alone have the same answers. -/
theorem errorFingerprints_hide_names (locale : Locale) (projectId : UUID) (cutoff : Int)
    {left right : SpanTable} (same : List.Forall₂ SameButNames left.rows right.rows)
    (answer : List ErrorFingerprint) :
    IsErrorFingerprints locale (SpanTable.since projectId cutoff left) answer ↔
      IsErrorFingerprints locale (SpanTable.since projectId cutoff right) answer := by
  have window : List.Forall₂ SameButNames (SpanTable.since projectId cutoff left)
      (SpanTable.since projectId cutoff right) :=
    List.rel_filter (fun {left right} same => by rw [same.1]) same
  rw [IsErrorFingerprints, IsErrorFingerprints, errorRows_eq locale window]

theorem errorFingerprints_hide_names_denied :
    IsErrorFingerprints .posix (SpanTable.since 1 0 (deniedTable "one")) deniedFingerprints ↔
      IsErrorFingerprints .posix (SpanTable.since 1 0 (deniedTable "two")) deniedFingerprints := by
  refine errorFingerprints_hide_names .posix 1 0 (.cons ⟨rfl, .single ?_⟩ .nil) _
  have letters : (("one".toList ++ "two".toList).all isSecretLetter) = true := by decide +kernel
  have renamed : Renamed ("Key ".toList ++ ("sk-".toList ++ "one".toList) ++ ": denied".toList)
      ("Key ".toList ++ ("sk-".toList ++ "two".toList) ++ ": denied".toList) := by
    refine .secret _ _ (by decide +kernel) (by decide +kernel) (List.all_eq_true.mp letters)
      (by decide +kernel) fun letter head => ?_
    cases head
    decide
  exact renamed

end LlmObs.Backend
