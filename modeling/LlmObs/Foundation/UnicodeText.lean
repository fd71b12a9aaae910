import LlmObs.Foundation.TextParts
import LlmObs.Foundation.Uuid

/-!
Owns what Python's texts take from the Unicode character database: blanks, decimal digits
and lower case, known on ASCII and left to the database beyond it. `int(text, 16)` is read
over them, and does not see the case of its text.
-/

namespace LlmObs.Foundation

/-! ### Characters -/

def isAscii (char : Char) : Bool := char.toNat < 128

/-- What holds of the characters of ASCII holds of each of them. -/
theorem ascii_induction {motive : Char → Prop} (each : ∀ code : Fin 128, motive (Char.ofNat code))
    (char : Char) (ascii : isAscii char = true) : motive char := by
  have found := each ⟨char.toNat, of_decide_eq_true ascii⟩
  rwa [Char.ofNat_toNat] at found

theorem toLower_of_not_isAscii {char : Char} (wide : isAscii char = false) :
    char.toLower = char := by
  have beyond : 128 ≤ char.toNat := not_lt.mp (of_decide_eq_false wide)
  refine dif_neg fun upper => ?_
  have bound : char.toNat ≤ 90 := upper.2
  omega

theorem toUpper_of_not_isAscii {char : Char} (wide : isAscii char = false) :
    char.toUpper = char := by
  have beyond : 128 ≤ char.toNat := not_lt.mp (of_decide_eq_false wide)
  refine dif_neg fun lower => ?_
  have bound : char.toNat ≤ 122 := lower.2
  omega

theorem isAscii_toLower (char : Char) : isAscii char.toLower = isAscii char := by
  cases ascii : isAscii char with
  | true =>
      exact ascii_induction (motive := fun char => isAscii char.toLower = true) (by decide) char
        ascii
  | false => rw [toLower_of_not_isAscii ascii, ascii]

/-- A property of the characters of ASCII that upper case letters share with lower case ones. -/
theorem toLower_congr {β : Type} {f : Char → β}
    (each : ∀ code : Fin 128, f (Char.ofNat code).toLower = f (Char.ofNat code)) (char : Char) :
    f char.toLower = f char := by
  cases ascii : isAscii char with
  | true => exact ascii_induction (motive := fun char => f char.toLower = f char) each char ascii
  | false => rw [toLower_of_not_isAscii ascii]

theorem toLower_toLower (char : Char) : char.toLower.toLower = char.toLower := by
  refine toLower_congr (f := Char.toLower) ?_ char
  decide

theorem toLower_toUpper (char : Char) : char.toUpper.toLower = char.toLower := by
  cases ascii : isAscii char with
  | true =>
      exact ascii_induction (motive := fun char => char.toUpper.toLower = char.toLower) (by decide)
        char ascii
  | false => rw [toUpper_of_not_isAscii ascii]

/-- What upper case letters share with lower case ones, the upper case of a letter shares
with it. -/
theorem toUpper_congr {β : Type} {f : Char → β} (same : ∀ char : Char, f char.toLower = f char)
    (char : Char) : f char.toUpper = f char := by
  rw [← same char.toUpper, toLower_toUpper, same]

theorem toUpper_ne_u (char : Char) : char.toUpper ≠ 'u' := by
  cases ascii : isAscii char with
  | true =>
      exact ascii_induction (motive := fun char => char.toUpper ≠ 'u') (by decide) char ascii
  | false =>
      rw [toUpper_of_not_isAscii ascii]
      rintro rfl
      cases ascii

theorem toLower_eq_iff {mark : Char}
    (each : ∀ code : Fin 128, decide ((Char.ofNat code).toLower = mark) =
      decide (Char.ofNat code = mark)) (char : Char) : char.toLower = mark ↔ char = mark := by
  have same := toLower_congr (f := fun char => decide (char = mark)) each char
  simpa using same

/-- `char.isspace()` of a character of ASCII. -/
def isAsciiSpace (char : Char) : Bool :=
  (9 ≤ char.toNat && char.toNat ≤ 13) || (28 ≤ char.toNat && char.toNat ≤ 32)

/-- The tables of the Unicode character database beyond ASCII. -/
structure CharacterData where
  /-- `char.isspace()` -/
  wideSpace : Char → Bool
  /-- `unicodedata.decimal(char)` -/
  wideDecimal? : Char → Option (Fin 10)

namespace CharacterData

variable (data : CharacterData)

/-- `char.isspace()` -/
def isSpace (char : Char) : Bool :=
  if isAscii char then isAsciiSpace char else data.wideSpace char

/-- A character that numbers are read from, if it is none of ASCII. -/
def isSimple (char : Char) : Bool :=
  isAscii char || data.wideSpace char || (data.wideDecimal? char).isSome

/-- A simple character that is no `k` of either case. -/
def isPlain (char : Char) : Bool := data.isSimple char && char.toLower ≠ 'k'

/-- How a character takes part in a number. -/
def numeral (char : Char) : Char :=
  if isAscii char then char
  else if data.wideSpace char then ' '
  else
    match data.wideDecimal? char with
    | some digit => Char.ofNat (48 + digit)
    | none => '?'

/-- `text.strip()` -/
def strip (text : String) : String := String.ofList (trim data.isSpace text.toList)

theorem isSpace_toLower (char : Char) : data.isSpace char.toLower = data.isSpace char := by
  have blanks : ∀ char : Char, isAsciiSpace char.toLower = isAsciiSpace char :=
    toLower_congr (by decide)
  cases ascii : isAscii char with
  | true => rw [isSpace, isSpace, isAscii_toLower, ascii, blanks, if_pos rfl, if_pos rfl]
  | false => rw [toLower_of_not_isAscii ascii]

theorem strip_strip (text : String) : data.strip (data.strip text) = data.strip text := by
  rw [strip, strip, String.toList_ofList, trim_trim]

theorem isPlain_of_isAscii {char : Char} (ascii : isAscii char = true)
    (letter : char.toLower ≠ 'k') : data.isPlain char = true := by
  simp [isPlain, isSimple, ascii, letter]

theorem isPlain_toLower (char : Char) : data.isPlain char.toLower = data.isPlain char := by
  cases ascii : isAscii char with
  | true => simp only [isPlain, isSimple, isAscii_toLower, ascii, toLower_toLower, Bool.true_or]
  | false => rw [toLower_of_not_isAscii ascii]

/-- Blanks are trimmed before or after a change of case. -/
theorem strip_map {f : Char → Char} (same : ∀ char, data.isSpace (f char) = data.isSpace char)
    (text : String) : data.strip (String.ofList (text.toList.map f)) =
      String.ofList ((data.strip text).toList.map f) := by
  rw [strip, strip, String.toList_ofList, String.toList_ofList, map_trim same]

theorem numeral_toLower (char : Char) :
    data.numeral char.toLower = (data.numeral char).toLower := by
  cases ascii : isAscii char with
  | true => rw [numeral, numeral, isAscii_toLower, ascii, if_pos rfl, if_pos rfl]
  | false =>
      have digits : ∀ digit : Fin 10,
          (Char.ofNat (48 + digit)).toLower = Char.ofNat (48 + digit) := by
        decide
      rw [toLower_of_not_isAscii ascii, numeral, ascii, if_neg (by decide)]
      split
      · decide
      · split
        · exact (digits _).symm
        · decide

end CharacterData

/-! ### Lower case -/

/-- The texts of a Python installation. `str.lower` moves the letters of ASCII, and leaves
blanks and digits as they are; beyond them only the Kelvin sign becomes a letter of
ASCII. -/
structure UnicodeText extends CharacterData where
  /-- `text.lower()` -/
  lower : String → String
  toList_lower : ∀ text, (∀ char ∈ text.toList, toCharacterData.isSimple char = true) →
    (lower text).toList = text.toList.map Char.toLower
  simple_of_lower : ∀ text,
    (∀ char ∈ (lower text).toList, toCharacterData.isSimple char = true ∧ char ≠ 'k') →
      ∀ char ∈ text.toList, toCharacterData.isSimple char = true

namespace UnicodeText

/-- An installation that knows the characters of ASCII only. -/
def ascii : UnicodeText where
  wideSpace := fun _ => false
  wideDecimal? := fun _ => none
  lower := fun text => String.ofList (text.toList.map Char.toLower)
  toList_lower := fun _ _ => String.toList_ofList
  simple_of_lower := by
    intro text simple char member
    have lowered := (simple char.toLower (by
      rw [String.toList_ofList]
      exact List.mem_map_of_mem member)).1
    rwa [CharacterData.isSimple, isAscii_toLower] at lowered

variable (python : UnicodeText)

/-- The texts differ in letter case and in outer blanks only. -/
def SameUpToCase (left right : String) : Prop :=
  python.lower (python.strip left) = python.lower (python.strip right)

variable {python}

/-- Lower case is known where what it gives is. -/
theorem lower_of_plain {text : String}
    (plain : ∀ char ∈ (python.lower text).toList, python.isPlain char = true) :
    python.lower text = String.ofList (text.toList.map Char.toLower) := by
  rw [← String.toList_inj, String.toList_ofList]
  refine python.toList_lower text (python.simple_of_lower text fun char member => ?_)
  have both := plain char member
  rw [CharacterData.isPlain, Bool.and_eq_true, decide_eq_true_iff] at both
  refine ⟨both.1, ?_⟩
  rintro rfl
  exact both.2 (by decide)

theorem lower_of_isPlain {text : String}
    (plain : ∀ char ∈ text.toList, python.isPlain char = true) :
    python.lower text = String.ofList (text.toList.map Char.toLower) := by
  rw [← String.toList_inj, String.toList_ofList]
  exact python.toList_lower text fun char member => (Bool.and_eq_true _ _ ▸ plain char member).1

theorem lower_eq_empty_iff {text : String} : python.lower text = "" ↔ text = "" := by
  constructor
  · intro empty
    have known : python.lower text = String.ofList (text.toList.map Char.toLower) :=
      lower_of_plain (by simp [empty])
    have chars : text.toList.map Char.toLower = [] := by
      rw [← String.toList_ofList (l := text.toList.map Char.toLower), ← known, empty]
      rfl
    exact String.toList_eq_nil_iff.mp (List.map_eq_nil_iff.mp chars)
  · rintro rfl
    rw [lower_of_isPlain (by simp)]
    rfl

end UnicodeText

/-! ### Numbers -/

/-- The hexadecimal digits of a text in front of `value`, with single underscores between
them. `digit` tells that a digit comes right before. -/
def scanHex? (digit : Bool) (value : Nat) : List Char → Option Nat
  | [] => if digit then some value else none
  | char :: rest =>
      if char = '_' then (if digit then scanHex? false value rest else none)
      else (UUID.hexValue? char).bind fun next => scanHex? true (value * 16 + next) rest

/-- The digits behind `0x`, which one underscore may follow. -/
def withoutMark (text : List Char) : List Char :=
  if (text.take 2).map Char.toLower = ['0', 'x'] then
    if (text.drop 2).head? = some '_' then text.drop 3 else text.drop 2
  else text

/-- A blank of C. -/
def isBlank (char : Char) : Bool := (9 ≤ char.toNat && char.toNat ≤ 13) || char.toNat = 32

/-- A number without a sign. -/
def readHex? (text : List Char) : Option Nat := scanHex? false 0 (withoutMark text)

/-- `int(text, 16)`; `none` is its `ValueError`. -/
def CharacterData.int16? (data : CharacterData) (text : List Char) : Option Int :=
  let text := trim isBlank (text.map data.numeral)
  if text.head? = some '-' then (readHex? text.tail).map fun value => -Int.ofNat value
  else if text.head? = some '+' then (readHex? text.tail).map Int.ofNat
  else (readHex? text).map Int.ofNat

theorem hexValue?_toLower (char : Char) : UUID.hexValue? char.toLower = UUID.hexValue? char := by
  refine toLower_congr (f := UUID.hexValue?) ?_ char
  decide

theorem scanHex?_toLower (digit : Bool) (value : Nat) (text : List Char) :
    scanHex? digit value (text.map Char.toLower) = scanHex? digit value text := by
  induction text generalizing digit value with
  | nil => rfl
  | cons char rest inductionHypothesis =>
      have underscore : char.toLower = '_' ↔ char = '_' := toLower_eq_iff (by decide) char
      simp only [List.map_cons, scanHex?, underscore, hexValue?_toLower, inductionHypothesis]

theorem head?_toLower {mark : Char} (letterless : ∀ char : Char, char.toLower = mark ↔ char = mark)
    (text : List Char) : (text.map Char.toLower).head? = some mark ↔ text.head? = some mark := by
  cases text with
  | nil => simp
  | cons char rest => simp [letterless]

theorem withoutMark_toLower (text : List Char) :
    withoutMark (text.map Char.toLower) = (withoutMark text).map Char.toLower := by
  have underscore : ∀ char : Char, char.toLower = '_' ↔ char = '_' := toLower_eq_iff (by decide)
  have twice : Char.toLower ∘ Char.toLower = Char.toLower := funext toLower_toLower
  simp only [withoutMark, ← List.map_take, ← List.map_drop, head?_toLower underscore,
    List.map_map, twice]
  split_ifs <;> rfl

theorem readHex?_toLower (text : List Char) :
    readHex? (text.map Char.toLower) = readHex? text := by
  rw [readHex?, withoutMark_toLower, scanHex?_toLower, readHex?]

/-- The case of a number does not matter. -/
theorem CharacterData.int16?_toLower (data : CharacterData) (text : List Char) :
    data.int16? (text.map Char.toLower) = data.int16? text := by
  have blanks : ∀ char : Char, isBlank char.toLower = isBlank char := toLower_congr (by decide)
  have minus : ∀ char : Char, char.toLower = '-' ↔ char = '-' := toLower_eq_iff (by decide)
  have plus : ∀ char : Char, char.toLower = '+' ↔ char = '+' := toLower_eq_iff (by decide)
  have numerals : (text.map Char.toLower).map data.numeral =
      (text.map data.numeral).map Char.toLower := by
    rw [List.map_map, List.map_map]
    exact List.map_congr_left fun char _ => data.numeral_toLower char
  simp only [int16?, numerals, ← map_trim blanks, head?_toLower minus, head?_toLower plus,
    ← List.map_tail, readHex?_toLower]

/-- A character that stands in some number. -/
def isNumeral (char : Char) : Bool :=
  (UUID.hexValue? char).isSome || isBlank char || ['_', 'x', 'X', '+', '-'].contains char

theorem isNumeral_of_scanHex? {digit : Bool} {value number : Nat} {text : List Char}
    (read : scanHex? digit value text = some number) : ∀ char ∈ text, isNumeral char = true := by
  induction text generalizing digit value with
  | nil => exact nofun
  | cons first rest inductionHypothesis =>
      rw [scanHex?] at read
      refine List.forall_mem_cons.mpr ?_
      split_ifs at read with underscore behind
      · exact ⟨by rw [underscore]; decide, inductionHypothesis read⟩
      · obtain ⟨next, known, others⟩ := Option.bind_eq_some_iff.mp read
        exact ⟨by rw [isNumeral, known]; rfl, inductionHypothesis others⟩

theorem isNumeral_of_readHex? {text : List Char} {number : Nat}
    (read : readHex? text = some number) : ∀ char ∈ text, isNumeral char = true := by
  have letter : ∀ char : Char, isNumeral char.toLower = isNumeral char := toLower_congr (by decide)
  have marks : ['0', 'x'].all isNumeral = true := by decide
  have each := isNumeral_of_scanHex? read
  by_cases marked : (text.take 2).map Char.toLower = ['0', 'x']
  · rw [withoutMark, if_pos marked] at each
    intro char member
    rw [← text.take_append_drop 2] at member
    rcases List.mem_append.mp member with front | behind
    · rw [← letter]
      exact List.all_eq_true.mp marks _ (marked ▸ List.mem_map_of_mem front)
    · split_ifs at each with underscore
      · obtain ⟨rest, split⟩ := List.head?_eq_some_iff.mp underscore
        have dropped : text.drop 3 = rest := by rw [← List.tail_drop, split, List.tail_cons]
        rw [split] at behind
        rcases List.mem_cons.mp behind with rfl | later
        · decide
        · exact each char (dropped ▸ later)
      · exact each char behind
  · rw [withoutMark, if_neg marked] at each
    exact each

theorem isNumeral_of_head? {sign : Char} {text : List Char} {number : Nat}
    (first : text.head? = some sign) (known : isNumeral sign = true)
    (read : readHex? text.tail = some number) : ∀ char ∈ text, isNumeral char = true := by
  obtain ⟨rest, rfl⟩ := List.head?_eq_some_iff.mp first
  exact List.forall_mem_cons.mpr ⟨known, isNumeral_of_readHex? read⟩

namespace CharacterData

variable {data : CharacterData}

theorem isPlain_of_isNumeral {char : Char} (known : isNumeral (data.numeral char) = true) :
    data.isPlain char = true ∧ char ≠ ':' := by
  cases ascii : isAscii char with
  | true =>
      rw [numeral, if_pos ascii] at known
      have other := ascii_induction (motive := fun char =>
        isNumeral char = true → char.toLower ≠ 'k' ∧ char ≠ ':') (by decide) char ascii known
      exact ⟨data.isPlain_of_isAscii ascii other.1, other.2⟩
  | false =>
      have simple : data.isSimple char = true := by
        rw [numeral, if_neg (by simp [ascii])] at known
        split_ifs at known with space
        · simp [isSimple, space]
        · split at known
          · rename_i digit found
            simp [isSimple, found]
          · exact absurd known (by decide)
      have wide : ∀ mark : Char, isAscii mark = true → char ≠ mark := by
        rintro mark narrow rfl
        rw [ascii] at narrow
        cases narrow
      refine ⟨?_, wide ':' (by decide)⟩
      simp [isPlain, simple, toLower_of_not_isAscii ascii, wide 'k' (by decide)]

/-- The characters of a number are plain, and no colon is among them. -/
theorem isPlain_of_int16? {text : List Char} {value : Int} (read : data.int16? text = some value) :
    ∀ char ∈ text, data.isPlain char = true ∧ char ≠ ':' := by
  have numerals : ∀ char ∈ trim isBlank (text.map data.numeral), isNumeral char = true := by
    rw [int16?] at read
    split_ifs at read with minus plus
    · obtain ⟨number, unsigned, -⟩ := Option.map_eq_some_iff.mp read
      exact isNumeral_of_head? minus (by decide) unsigned
    · obtain ⟨number, unsigned, -⟩ := Option.map_eq_some_iff.mp read
      exact isNumeral_of_head? plus (by decide) unsigned
    · obtain ⟨number, unsigned, -⟩ := Option.map_eq_some_iff.mp read
      exact isNumeral_of_readHex? unsigned
  intro char member
  refine isPlain_of_isNumeral ?_
  cases blank : isBlank (data.numeral char) with
  | true => simp [isNumeral, blank]
  | false => exact numerals _ ((mem_trim blank).mpr (List.mem_map_of_mem member))

theorem scanHex?_hexDigit (value : Nat) (digits : List (Fin 16)) :
    scanHex? true value (digits.map UUID.hexDigit) =
      some (UUID.readDigits value (digits.map Fin.val)) := by
  have letters : ∀ digit : Fin 16, UUID.hexDigit digit ≠ '_' := by decide
  induction digits generalizing value with
  | nil => rfl
  | cons digit digits inductionHypothesis =>
      rw [List.map_cons, scanHex?, if_neg (letters digit), UUID.hexValue?_hexDigit,
        Option.bind_some, inductionHypothesis]
      rfl

/-- The digits of a number are read back. -/
theorem int16?_hexDigit {digits : List (Fin 16)} (nonempty : digits ≠ []) :
    data.int16? (digits.map UUID.hexDigit) =
      some (Int.ofNat (UUID.readDigits 0 (digits.map Fin.val))) := by
  obtain ⟨first, rest, rfl⟩ := List.exists_cons_of_ne_nil nonempty
  have narrow : ∀ digit : Fin 16, isAscii (UUID.hexDigit digit) = true := by decide
  have solid : ∀ digit : Fin 16, isBlank (UUID.hexDigit digit) = false := by decide
  have signless : ∀ digit : Fin 16, UUID.hexDigit digit ≠ '-' ∧ UUID.hexDigit digit ≠ '+' := by
    decide
  have markless : ∀ digit : Fin 16, (UUID.hexDigit digit).toLower ≠ 'x' := by decide
  have underscoreless : ∀ digit : Fin 16, UUID.hexDigit digit ≠ '_' := by decide
  have numerals : ((first :: rest).map UUID.hexDigit).map data.numeral =
      (first :: rest).map UUID.hexDigit := by
    rw [List.map_map]
    exact List.map_congr_left fun digit _ => if_pos (narrow digit)
  have trimmed : trim isBlank ((first :: rest).map UUID.hexDigit) =
      (first :: rest).map UUID.hexDigit :=
    trim_eq_self (List.forall_mem_map.mpr fun digit _ => solid digit)
  have unmarked : withoutMark ((first :: rest).map UUID.hexDigit) =
      (first :: rest).map UUID.hexDigit := by
    refine if_neg fun marked => ?_
    have mark : 'x' ∈ (((first :: rest).map UUID.hexDigit).take 2).map Char.toLower := by
      rw [marked]
      decide
    obtain ⟨char, member, letter⟩ := List.mem_map.mp mark
    obtain ⟨digit, -, rfl⟩ := List.mem_map.mp (List.mem_of_mem_take member)
    exact markless digit letter
  rw [int16?, numerals, trimmed, List.map_cons, List.head?_cons,
    if_neg (fun same => (signless first).1 (Option.some.inj same)),
    if_neg (fun same => (signless first).2 (Option.some.inj same)), ← List.map_cons, readHex?,
    unmarked, List.map_cons, scanHex?, if_neg (underscoreless first), UUID.hexValue?_hexDigit,
    Option.bind_some, scanHex?_hexDigit]
  rfl

end CharacterData

end LlmObs.Foundation
