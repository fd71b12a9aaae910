import LlmObs.Backend.Schemas.IngestRequest
import LlmObs.Foundation.UuidSpelling
import Mathlib.Data.Set.Basic

/-!
Owns what `normalize_span_identifier` makes of the spellings of one identifier, where the
text functions and `uuid.UUID` are those of a Python installation.
-/

namespace LlmObs.Backend

open LlmObs.Foundation

/-- The validation under the text functions of an installation. -/
def Validation.withTexts (validation : Validation) (python : UnicodeText) : Validation :=
  { validation with
    runtime := { validation.runtime with lower := python.lower, strip := python.strip }
    uuid? := python.uuid? }

/-- The condition under which `normalize_span_identifier` hashes a text in lower case. -/
def isOtlpHex (lowered : String) : Bool :=
  !lowered.toList.contains '-' && (lowered.length = 16 || lowered.length = 32) &&
    lowered.toList.all isLowerHex

section

variable (python : UnicodeText)

/-- The text that `uuid5` is drawn from. -/
def loweredId (value : String) : String := python.lower (python.strip value)

/-- The value is read as this UUID. -/
def Supplies (value : String) (id : UUID) : Prop :=
  isOtlpHex (loweredId python value) = false ∧ python.uuid? (python.strip value) = some id

/-- One OTLP id in two cases, or two spellings of one UUID. -/
def SameSpanId (left right : String) : Prop :=
  python.SameUpToCase left right ∨ ∃ id, Supplies python left id ∧ Supplies python right id

end

section

variable {validation : Validation} {python : UnicodeText}

theorem normalizeSpanIdentifier_eq (value : String) :
    (validation.withTexts python).normalizeSpanIdentifier value =
      if python.strip value = "" then none
      else if isOtlpHex (loweredId python value) then
        some (validation.uuid5 (loweredId python value))
      else python.uuid? (python.strip value) := by
  unfold Validation.normalizeSpanIdentifier isOtlpHex loweredId
  dsimp only [Validation.withTexts]

theorem loweredId_eq_empty_iff {value : String} :
    loweredId python value = "" ↔ python.strip value = "" :=
  UnicodeText.lower_eq_empty_iff

/-- An OTLP id is hashed, and another text is read as a UUID. -/
theorem normalizeSpanIdentifier_eq_some {value : String} {id : UUID} :
    (validation.withTexts python).normalizeSpanIdentifier value = some id ↔
      (isOtlpHex (loweredId python value) = true ∧ validation.uuid5 (loweredId python value) = id) ∨
        Supplies python value id := by
  rw [normalizeSpanIdentifier_eq, Supplies]
  by_cases empty : python.strip value = ""
  · have lowered : loweredId python value = "" := loweredId_eq_empty_iff.mpr empty
    rw [if_pos empty, lowered, empty]
    have unread : python.uuid? "" = none := by
      rw [CharacterData.uuid?]
      exact if_neg (by decide)
    simp [isOtlpHex, unread]
  · rw [if_neg empty]
    cases isOtlpHex (loweredId python value) <;> simp

theorem normalizeSpanIdentifier_of_isOtlpHex {value : String}
    (hashed : isOtlpHex (loweredId python value) = true) :
    (validation.withTexts python).normalizeSpanIdentifier value =
      some (validation.uuid5 (loweredId python value)) :=
  normalizeSpanIdentifier_eq_some.mpr (Or.inl ⟨hashed, rfl⟩)

/-! ### One spelling -/

/-- A character of ASCII that neither `lower` nor `strip` changes. -/
def isIdChar (char : Char) : Bool :=
  isAscii char && char.toLower = char && char ≠ 'k' && !isAsciiSpace char

theorem isIdChar_hexDigit : ∀ digit : Fin 16, isIdChar (UUID.hexDigit digit) = true := by
  decide

/-- An identifier of dashes and digits is left as it is. -/
theorem loweredId_of_isIdChar {value : String}
    (solid : ∀ char ∈ value.toList, isIdChar char = true) :
    python.strip value = value ∧ loweredId python value = value := by
  simp only [isIdChar, Bool.and_eq_true, decide_eq_true_iff, Bool.not_eq_true'] at solid
  have stripped : python.strip value = value := by
    have spaceless : ∀ char ∈ value.toList, python.isSpace char = false := fun char member => by
      rw [CharacterData.isSpace, if_pos (solid char member).1.1.1, (solid char member).2]
    rw [CharacterData.strip, trim_eq_self spaceless, String.ofList_toList]
  refine ⟨stripped, ?_⟩
  have plain : ∀ char ∈ value.toList, python.isPlain char = true := fun char member =>
    python.isPlain_of_isAscii (solid char member).1.1.1
      ((solid char member).1.1.2.symm ▸ (solid char member).1.2)
  have letters : value.toList.map Char.toLower = value.toList :=
    (List.map_congr_left fun char member => (solid char member).1.1.2).trans (List.map_id _)
  rw [loweredId, stripped, UnicodeText.lower_of_isPlain plain, letters, String.ofList_toList]

/-- A result is its own normal form. -/
theorem normalizeSpanIdentifier_str (id : UUID) :
    (validation.withTexts python).normalizeSpanIdentifier id.str = some id := by
  have known : python.strip id.str = id.str ∧ loweredId python id.str = id.str :=
    loweredId_of_isIdChar (id.forall_mem_str (by decide) isIdChar_hexDigit)
  obtain ⟨stripped, lowered⟩ := known
  refine normalizeSpanIdentifier_eq_some.mpr (Or.inr ⟨?_, by rw [stripped, python.uuid?_str]⟩)
  simp [lowered, isOtlpHex, UUID.length_str]

/-! ### Two spellings -/

theorem isOtlpHex_of_colon {lowered : String} (colon : ':' ∈ lowered.toList) :
    isOtlpHex lowered = false := by
  have some : lowered.toList.all isLowerHex = false :=
    List.all_eq_false.mpr ⟨':', colon, by decide⟩
  rw [isOtlpHex, some, Bool.and_false]

theorem normalizeSpanIdentifier_congr {left right : String}
    (same : python.SameUpToCase left right) (plain : ¬python.UrnSpelled left) :
    (validation.withTexts python).normalizeSpanIdentifier right =
      (validation.withTexts python).normalizeSpanIdentifier left := by
  have lowered : loweredId python left = loweredId python right := same
  have empty : python.strip left = "" ↔ python.strip right = "" := by
    rw [← loweredId_eq_empty_iff, ← loweredId_eq_empty_iff, lowered]
  simp only [normalizeSpanIdentifier_eq, lowered, empty, UnicodeText.uuid?_congr same plain]

/-- The case of a value does not matter, unless `urn:` or `uuid:` stands in it. -/
theorem normalizeSpanIdentifier_caseBlind_iff {value : String} :
    (∀ other, python.SameUpToCase value other →
        (validation.withTexts python).normalizeSpanIdentifier other =
          (validation.withTexts python).normalizeSpanIdentifier value) ↔
      ¬python.UrnSpelled value := by
  refine ⟨fun blind spelled => ?_, fun plain other same =>
    normalizeSpanIdentifier_congr same plain⟩
  have unhashed := isOtlpHex_of_colon spelled.colon
  obtain ⟨lower, upper, id, sameLower, sameUpper, read, unread⟩ := spelled.exists
  have taken : (validation.withTexts python).normalizeSpanIdentifier lower = some id :=
    normalizeSpanIdentifier_eq_some.mpr (Or.inr ⟨by rw [loweredId, ← sameLower, unhashed], read⟩)
  rw [blind lower sameLower, ← blind upper sameUpper] at taken
  rcases normalizeSpanIdentifier_eq_some.mp taken with ⟨hashed, -⟩ | ⟨-, upperRead⟩
  · rw [loweredId, ← sameUpper, unhashed] at hashed
    cases hashed
  · rw [unread] at upperRead
    cases upperRead

/-- Among the values, `uuid5` tells the OTLP ids apart, and gives no UUID that a value
supplies. -/
structure DistinctIds (uuid5 : String → UUID) (python : UnicodeText) (values : Set String) :
    Prop where
  injective : ∀ left ∈ values, ∀ right ∈ values, isOtlpHex (loweredId python left) = true →
    isOtlpHex (loweredId python right) = true →
      uuid5 (loweredId python left) = uuid5 (loweredId python right) →
        loweredId python left = loweredId python right
  fresh : ∀ left ∈ values, ∀ right ∈ values, isOtlpHex (loweredId python left) = true →
    ∀ id, Supplies python right id → uuid5 (loweredId python left) ≠ id

theorem Supplies.unique {left right : String} {first second : UUID}
    (leftRead : Supplies python left first) (rightRead : Supplies python right second)
    (same : SameSpanId python left right) : first = second := by
  rcases same with sameCase | ⟨id, leftId, rightId⟩
  · have lowered := UnicodeText.uuid?_lower leftRead.2
    rw [sameCase, UnicodeText.uuid?_lower rightRead.2] at lowered
    exact (Option.some.inj lowered).symm
  · exact (Option.some.inj (leftRead.2.symm.trans leftId.2)).trans
      (Option.some.inj (rightRead.2.symm.trans rightId.2)).symm

/-- An OTLP id is the same as another value in another case only. -/
theorem SameSpanId.lowered {left right : String} (same : SameSpanId python left right)
    (hashed : isOtlpHex (loweredId python left) = true ∨
      isOtlpHex (loweredId python right) = true) :
    loweredId python left = loweredId python right := by
  rcases same with sameCase | ⟨id, leftId, rightId⟩
  · exact sameCase
  · rcases hashed with left | right
    · exact absurd left (by rw [leftId.1]; decide)
    · exact absurd right (by rw [rightId.1]; decide)

/-- Two values get one identifier exactly when they are the same. -/
theorem normalized_eq_iff {values : Set String} {left right : String} {first second : UUID}
    (distinct : DistinctIds validation.uuid5 python values) (leftIn : left ∈ values)
    (rightIn : right ∈ values)
    (leftDone : (validation.withTexts python).normalizeSpanIdentifier left = some first)
    (rightDone : (validation.withTexts python).normalizeSpanIdentifier right = some second) :
    first = second ↔ SameSpanId python left right := by
  rcases normalizeSpanIdentifier_eq_some.mp leftDone with ⟨leftHex, rfl⟩ | leftRead
  · rcases normalizeSpanIdentifier_eq_some.mp rightDone with ⟨rightHex, rfl⟩ | rightRead
    · constructor
      · exact fun equal =>
          Or.inl (distinct.injective left leftIn right rightIn leftHex rightHex equal)
      · exact fun same => congrArg validation.uuid5 (same.lowered (Or.inl leftHex))
    · refine ⟨fun equal => absurd equal ?_, fun same => ?_⟩
      · exact distinct.fresh left leftIn right rightIn leftHex second rightRead
      · rw [same.lowered (Or.inl leftHex), rightRead.1] at leftHex
        cases leftHex
  · rcases normalizeSpanIdentifier_eq_some.mp rightDone with ⟨rightHex, rfl⟩ | rightRead
    · refine ⟨fun equal => absurd equal.symm ?_, fun same => ?_⟩
      · exact distinct.fresh right rightIn left leftIn rightHex first leftRead
      · rw [← same.lowered (Or.inr rightHex), leftRead.1] at rightHex
        cases rightHex
    · constructor
      · rintro rfl
        exact Or.inr ⟨first, leftRead, rightRead⟩
      · exact leftRead.unique rightRead

end

end LlmObs.Backend
