import LlmObs.Foundation.UnicodeText

/-!
Owns the spellings that `uuid.UUID(text)` reads: digits with dashes anywhere, in braces,
and behind `urn:` and `uuid:`. The case of a text matters only to these two parts, so that
only a text with a colon can be read in one case and not in another.
-/

namespace LlmObs.Foundation

/-- `text.replace("urn:", "").replace("uuid:", "")` -/
def withoutUrn (text : List Char) : List Char :=
  removeAll (['u', 'u', 'i', 'd'] ++ [':']) (removeAll (['u', 'r', 'n'] ++ [':']) text)

def isBrace (char : Char) : Bool := char = '{' || char = '}'

/-- The digits of a text without `urn:` and `uuid:`. -/
def withoutBraces (text : List Char) : List Char :=
  (trim isBrace text).filter (· ≠ '-')

/-- `uuid.UUID(text)`; `none` is its `ValueError`. -/
def CharacterData.uuid? (data : CharacterData) (text : String) : Option UUID :=
  let hex := withoutBraces (withoutUrn text.toList)
  if hex.length = 32 then
    (data.int16? hex).bind fun number =>
      if 0 ≤ number ∧ number < 2 ^ 128 then some (BitVec.ofInt 128 number) else none
  else none

/-! ### What is removed -/

theorem withoutUrn_of_clear {text : List Char} (clear : ':' ∉ text) : withoutUrn text = text := by
  have first : removeAll (['u', 'r', 'n'] ++ [':']) text = text :=
    removeAll_eq_self (by decide) clear
  rw [withoutUrn, first]
  exact removeAll_eq_self (by decide) clear

theorem withoutUrn_of_not_mem {text : List Char} (absent : 'u' ∉ text) :
    withoutUrn text = text := by
  have first : removeAll (['u', 'r', 'n'] ++ [':']) text = text :=
    removeAll_eq_self (by decide) absent
  rw [withoutUrn, first]
  exact removeAll_eq_self (by decide) absent

theorem mem_withoutBraces {text : List Char} {char : Char} :
    char ∈ withoutBraces text ↔ char ∈ trim isBrace text ∧ char ≠ '-' := by
  rw [withoutBraces, List.mem_filter, decide_eq_true_iff]

theorem mem_withoutUrn_or_mem {text : List Char} {char : Char} (member : char ∈ text) :
    char ∈ withoutUrn text ∨ char ∈ ['u', 'r', 'n', 'i', 'd', ':'] := by
  have inUrn : ∀ char ∈ ['u', 'r', 'n'] ++ [':'], char ∈ ['u', 'r', 'n', 'i', 'd', ':'] := by
    simp
  have inUuid : ∀ char ∈ ['u', 'u', 'i', 'd'] ++ [':'],
      char ∈ ['u', 'r', 'n', 'i', 'd', ':'] := by
    simp
  have first : char ∈ removeAll (['u', 'r', 'n'] ++ [':']) text ∨ char ∈ ['u', 'r', 'n'] ++ [':'] :=
    mem_removeAll_or_mem (by decide) member
  rcases first with left | removed
  · exact (mem_removeAll_or_mem (by decide) left).imp_right (inUuid char)
  · exact Or.inr (inUrn char removed)

theorem withoutBraces_toLower (text : List Char) :
    withoutBraces (text.map Char.toLower) = (withoutBraces text).map Char.toLower := by
  have braces : ∀ char : Char, isBrace char.toLower = isBrace char := toLower_congr (by decide)
  have dashes : (fun char : Char => decide (char ≠ '-')) ∘ Char.toLower =
      fun char => decide (char ≠ '-') :=
    funext (toLower_congr (f := fun char : Char => decide (char ≠ '-')) (by decide))
  rw [withoutBraces, ← map_trim braces, List.filter_map, dashes, withoutBraces]

/-- A text of which no colon is left is lowered before or after the removal. -/
theorem withoutUrn_toLower {text : List Char} (clear : ':' ∉ withoutUrn text) :
    withoutUrn (text.map Char.toLower) = (withoutUrn text).map Char.toLower := by
  have colon : ∀ char : Char, char.toLower = ':' ↔ char = ':' := toLower_eq_iff (by decide)
  exact removeAll_removeAll_map (by decide) (by decide) (by decide) (by decide) colon (by decide)
    (by decide) text [] List.not_mem_nil clear

/-! ### Texts that are read -/

namespace CharacterData

variable {data : CharacterData}

theorem int16?_of_uuid? {text : String} {id : UUID} (read : data.uuid? text = some id) :
    ∃ number, data.int16? (withoutBraces (withoutUrn text.toList)) = some number := by
  rw [uuid?] at read
  split_ifs at read with length
  obtain ⟨number, known, -⟩ := Option.bind_eq_some_iff.mp read
  exact ⟨number, known⟩

/-- Of a text without marks all characters are digits. -/
theorem length_of_uuid? {text : String} {id : UUID}
    (solid : ∀ char ∈ text.toList, char ≠ ':' ∧ isBrace char = false ∧ char ≠ '-')
    (read : data.uuid? text = some id) : text.length = 32 := by
  have clear : ':' ∉ text.toList := fun member => (solid _ member).1 rfl
  have digits : withoutBraces (withoutUrn text.toList) = text.toList := by
    rw [withoutUrn_of_clear clear, withoutBraces,
      trim_eq_self fun char member => (solid char member).2.1]
    exact List.filter_eq_self.mpr fun char member => decide_eq_true (solid char member).2.2
  rw [uuid?, digits] at read
  split_ifs at read with length
  exact length

/-- No colon is left in a text that is read. -/
theorem colon_of_uuid? {text : String} {id : UUID} (read : data.uuid? text = some id) :
    ':' ∉ withoutUrn text.toList := by
  obtain ⟨number, known⟩ := int16?_of_uuid? read
  intro member
  have left : ':' ∈ withoutBraces (withoutUrn text.toList) :=
    mem_withoutBraces.mpr ⟨(mem_trim (by decide)).mpr member, by decide⟩
  exact (isPlain_of_int16? known _ left).2 rfl

/-- The characters of a text that is read are plain. -/
theorem isPlain_of_uuid? {text : String} {id : UUID} (read : data.uuid? text = some id) :
    ∀ char ∈ text.toList, data.isPlain char = true := by
  have marks : ∀ char ∈ ['u', 'r', 'n', 'i', 'd', ':', '{', '}', '-'],
      data.isPlain char = true := by
    have ascii : ['u', 'r', 'n', 'i', 'd', ':', '{', '}', '-'].all
        (fun char => isAscii char && char.toLower ≠ 'k') = true := by decide
    intro char member
    have both := List.all_eq_true.mp ascii char member
    rw [Bool.and_eq_true, decide_eq_true_iff] at both
    exact data.isPlain_of_isAscii both.1 both.2
  obtain ⟨number, known⟩ := int16?_of_uuid? read
  intro char member
  rcases mem_withoutUrn_or_mem member with left | removed
  · cases brace : isBrace char with
    | true =>
        refine marks char ?_
        rw [isBrace, Bool.or_eq_true, decide_eq_true_iff, decide_eq_true_iff] at brace
        rcases brace with rfl | rfl <;> decide
    | false =>
        by_cases dash : char = '-'
        · exact marks char (by rw [dash]; decide)
        · exact (isPlain_of_int16? known char
            (mem_withoutBraces.mpr ⟨(mem_trim brace).mpr left, dash⟩)).1
  · exact marks char (List.mem_append_left ['{', '}', '-'] removed)

theorem uuid?_toLower {text : String} (clear : ':' ∉ withoutUrn text.toList) :
    data.uuid? (String.ofList (text.toList.map Char.toLower)) = data.uuid? text := by
  rw [uuid?, uuid?, String.toList_ofList, withoutUrn_toLower clear, withoutBraces_toLower,
    List.length_map, int16?_toLower]

/-- A text with a colon is not read in upper case. -/
theorem uuid?_eq_none {text : String} (colon : ':' ∈ text.toList) (absent : 'u' ∉ text.toList) :
    data.uuid? text = none := by
  refine Option.eq_none_iff_forall_ne_some.mpr fun id read => ?_
  have clear := colon_of_uuid? read
  rw [withoutUrn_of_not_mem absent] at clear
  exact clear colon

end CharacterData

/-! ### Case -/

namespace UnicodeText

variable (python : UnicodeText)

/-- The text has a colon and is read in lower case: `urn:` or `uuid:` stands in it. -/
def UrnSpelled (text : String) : Prop :=
  ':' ∈ (python.strip text).toList ∧
    (python.uuid? (python.lower (python.strip text))).isSome = true

instance (text : String) : Decidable (python.UrnSpelled text) :=
  inferInstanceAs (Decidable (_ ∧ _))

variable {python}

theorem uuid?_lower {text : String} {id : UUID} (read : python.uuid? text = some id) :
    python.uuid? (python.lower text) = some id := by
  rw [lower_of_isPlain (CharacterData.isPlain_of_uuid? read),
    CharacterData.uuid?_toLower (CharacterData.colon_of_uuid? read), read]

/-- A text without a colon that is read in lower case is read as it is. -/
theorem uuid?_of_lower {text : String} {id : UUID} (clear : ':' ∉ text.toList)
    (read : python.uuid? (python.lower text) = some id) : python.uuid? text = some id := by
  rw [lower_of_plain (CharacterData.isPlain_of_uuid? read)] at read
  rwa [CharacterData.uuid?_toLower (by rwa [withoutUrn_of_clear clear])] at read

theorem colon_of_lower_eq {left right : String} (same : python.lower left = python.lower right)
    (plain : ∀ char ∈ (python.lower right).toList, python.isPlain char = true)
    (colon : ':' ∈ right.toList) : ':' ∈ left.toList := by
  have leftLower := lower_of_plain (same ▸ plain)
  have rightLower := lower_of_plain plain
  have lowered : ':' ∈ left.toList.map Char.toLower := by
    rw [← String.toList_ofList (l := left.toList.map Char.toLower), ← leftLower, same, rightLower,
      String.toList_ofList]
    exact List.mem_map_of_mem (f := Char.toLower) colon
  obtain ⟨char, member, letter⟩ := List.mem_map.mp lowered
  have unchanged : ∀ char : Char, char.toLower = ':' ↔ char = ':' := toLower_eq_iff (by decide)
  exact (unchanged char).mp letter ▸ member

/-- Of two texts that differ in case, either both are read or neither, unless one of them
is spelled with `urn:` or `uuid:`. -/
theorem uuid?_congr {left right : String} (same : python.SameUpToCase left right)
    (plain : ¬python.UrnSpelled left) :
    python.uuid? (python.strip left) = python.uuid? (python.strip right) := by
  have lowered : python.lower (python.strip left) = python.lower (python.strip right) := same
  cases read : python.uuid? (python.lower (python.strip left)) with
  | none =>
      have unread : ∀ text, python.uuid? (python.lower text) = none →
          python.uuid? text = none := by
        intro text unread
        refine Option.eq_none_iff_forall_ne_some.mpr fun id read => ?_
        rw [uuid?_lower read] at unread
        cases unread
      rw [unread _ read, unread _ (lowered ▸ read)]
  | some id =>
      have clear : ':' ∉ (python.strip left).toList := fun colon => plain ⟨colon, by rw [read]; rfl⟩
      have rightRead := lowered ▸ read
      have clearRight : ':' ∉ (python.strip right).toList := fun colon =>
        clear (colon_of_lower_eq lowered (CharacterData.isPlain_of_uuid? rightRead) colon)
      rw [uuid?_of_lower clear read, uuid?_of_lower clearRight rightRead]

theorem UrnSpelled.colon {text : String} (spelled : python.UrnSpelled text) :
    ':' ∈ (python.lower (python.strip text)).toList := by
  obtain ⟨colon, isRead⟩ := spelled
  obtain ⟨id, read⟩ := Option.isSome_iff_exists.mp isRead
  rw [lower_of_plain (CharacterData.isPlain_of_uuid? read), String.toList_ofList]
  exact List.mem_map_of_mem (f := Char.toLower) colon

theorem strip_lower {text : String}
    (plain : ∀ char ∈ (python.lower (python.strip text)).toList, python.isPlain char = true) :
    python.strip (python.lower (python.strip text)) = python.lower (python.strip text) := by
  rw [lower_of_plain plain, python.strip_map python.isSpace_toLower,
    CharacterData.strip_strip]

theorem lower_lower {text : String}
    (plain : ∀ char ∈ (python.lower text).toList, python.isPlain char = true) :
    python.lower (python.lower text) = python.lower text := by
  have twice : Char.toLower ∘ Char.toLower = Char.toLower := funext toLower_toLower
  rw [lower_of_isPlain plain, lower_of_plain plain, String.toList_ofList, List.map_map, twice]

theorem lower_upper {text : String}
    (plain : ∀ char ∈ (python.lower text).toList, python.isPlain char = true) :
    python.lower (String.ofList (text.toList.map Char.toUpper)) = python.lower text := by
  have known := lower_of_plain plain
  have upperPlain : ∀ char ∈ (String.ofList (text.toList.map Char.toUpper)).toList,
      python.isPlain char = true := by
    rw [String.toList_ofList]
    refine List.forall_mem_map.mpr fun char member => ?_
    rw [toUpper_congr python.isPlain_toLower, ← python.isPlain_toLower]
    refine plain _ ?_
    rw [known, String.toList_ofList]
    exact List.mem_map_of_mem member
  have letters : Char.toLower ∘ Char.toUpper = Char.toLower := funext toLower_toUpper
  rw [lower_of_isPlain upperPlain, String.toList_ofList, List.map_map, letters, known]

/-- A text that is spelled with `urn:` or `uuid:` is read in lower case and not in upper
case. -/
theorem UrnSpelled.exists {text : String} (spelled : python.UrnSpelled text) :
    ∃ lower upper id, python.SameUpToCase text lower ∧ python.SameUpToCase text upper ∧
      python.uuid? (python.strip lower) = some id ∧ python.uuid? (python.strip upper) = none := by
  obtain ⟨colon, isRead⟩ := spelled
  obtain ⟨id, read⟩ := Option.isSome_iff_exists.mp isRead
  have plain := CharacterData.isPlain_of_uuid? read
  have stripUpper : python.strip (String.ofList ((python.strip text).toList.map Char.toUpper)) =
      String.ofList ((python.strip text).toList.map Char.toUpper) := by
    rw [python.strip_map (toUpper_congr python.isSpace_toLower), CharacterData.strip_strip]
  refine ⟨python.lower (python.strip text),
    String.ofList ((python.strip text).toList.map Char.toUpper), id, ?_, ?_, ?_, ?_⟩
  · rw [SameUpToCase, strip_lower plain, lower_lower plain]
  · rw [SameUpToCase, stripUpper, lower_upper plain]
  · rw [strip_lower plain, read]
  · rw [stripUpper]
    refine CharacterData.uuid?_eq_none ?_ ?_
    · rw [String.toList_ofList]
      exact List.mem_map_of_mem (f := Char.toUpper) colon
    · rw [String.toList_ofList, List.mem_map]
      rintro ⟨char, -, letter⟩
      exact toUpper_ne_u char letter

end UnicodeText

/-! ### The canonical text -/

/-- The characters of a canonical text are dashes and digits. -/
theorem UUID.forall_mem_str (id : UUID) {motive : Char → Prop} (dash : motive '-')
    (digit : ∀ digit : Fin 16, motive (hexDigit digit)) : ∀ char ∈ id.str.toList, motive char := by
  intro char member
  rw [str, String.toList_ofList] at member
  obtain ⟨position, rfl⟩ := List.mem_ofFn.mp member
  rw [charAt]
  split_ifs
  · exact dash
  · exact digit _

theorem CharacterData.uuid?_str (data : CharacterData) (id : UUID) :
    data.uuid? id.str = some id := by
  have colonless : ':' ∉ id.str.toList := fun member =>
    absurd (id.forall_mem_str (motive := (· ≠ ':')) (by decide) (by decide) _ member) (by decide)
  have braceless : ∀ char ∈ id.str.toList, isBrace char = false :=
    id.forall_mem_str (by decide) (by decide)
  have digits : withoutBraces (withoutUrn id.str.toList) =
      ((List.range 32).map id.nibble).map UUID.hexDigit := by
    rw [withoutUrn_of_clear colonless, withoutBraces, trim_eq_self braceless, UUID.str_digits,
      List.map_map]
    rfl
  have number : UUID.readDigits 0 (((List.range 32).map id.nibble).map Fin.val) = id.toNat := by
    have read := UUID.readDigits_range 0 id.toNat 32
    have width : (16 : Nat) ^ 32 = 2 ^ 128 := by decide
    rw [Nat.zero_mul, Nat.zero_add, width, Nat.mod_eq_of_lt id.isLt] at read
    rw [List.map_map]
    exact read
  have bounds : 0 ≤ Int.ofNat id.toNat ∧ Int.ofNat id.toNat < 2 ^ 128 := by
    have below := id.isLt
    simp only [Int.ofNat_eq_natCast]
    omega
  rw [uuid?, digits, if_pos (by simp), int16?_hexDigit (by simp), number, Option.bind_some,
    if_pos bounds]
  simp

end LlmObs.Foundation
