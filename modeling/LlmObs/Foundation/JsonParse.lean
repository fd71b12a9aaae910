import LlmObs.Foundation.Dict
import LlmObs.Foundation.JsonPath
import LlmObs.Foundation.JsonScanner
import Mathlib.Algebra.Field.Rat

/-!
Owns the reading of JSON texts as `JSON.parse` does it, by recursive descent. Texts are code
units, numbers are what the nearest double of their decimal value is, and the last entry of a
key counts. What `json.dumps` writes is read as the document it was written for.
-/

namespace LlmObs.Foundation

/-- A value of `JSON.parse`. -/
inductive JsValue where
  | null
  | bool (value : Bool)
  | number (value : ℚ)
  | string (units : List Nat)
  | array (items : List JsValue)
  | object (properties : List (List Nat × JsValue))

namespace JsonParse

open JsonScanner

/-! ### Strings -/

/-- The rest of a string after its first quotation mark: its units, and the text behind it. -/
def stringRest : List Char → Option (List Nat × List Char)
  | [] => none
  | '"' :: rest => some ([], rest)
  | '\\' :: 'u' :: first :: second :: third :: fourth :: rest => do
      let high ← hexValue? first
      let upper ← hexValue? second
      let lower ← hexValue? third
      let low ← hexValue? fourth
      let read ← stringRest rest
      return ((((high * 16 + upper) * 16 + lower) * 16 + low) :: read.1, read.2)
  | '\\' :: letter :: rest => do
      let unit ← simpleEscape? letter
      let read ← stringRest rest
      return (unit :: read.1, read.2)
  | character :: rest =>
      if character.toNat < 32 then none
      else (stringRest rest).map fun read => (unitsOf character ++ read.1, read.2)

/-! ### Numbers -/

/-- A number may end after these. -/
def isFinal : NumberStage → Bool
  | .zero | .integer | .fraction | .power => true
  | _ => false

/-- The rest of a number, as far as its grammar goes, and the text behind it. -/
def numberRest : NumberStage → List Char → Option (List Char × List Char)
  | stage, [] => if isFinal stage then some ([], []) else none
  | stage, character :: rest =>
      match stage.next? character with
      | some next =>
          (numberRest next rest).map fun read => (character :: read.1, read.2)
      | none => if isFinal stage then some ([], character :: rest) else none

/-- The stage after the first character of a number. -/
def firstStage? (character : Char) : Option NumberStage :=
  if character = '-' then some .minus
  else if character = '0' then some .zero
  else if isDigit character then some .integer
  else none

def numeral (digits : List Char) : Nat :=
  digits.foldl (fun value digit => value * 10 + (digit.toNat - 48)) 0

/-- The decimal value of a number's literal. -/
def decimalValue (literal : List Char) : ℚ :=
  let isMark (character : Char) : Bool := character = 'e' ∨ character = 'E'
  let unsigned := literal.dropWhile (· = '-')
  let mantissa := unsigned.takeWhile (!isMark ·)
  let power := (unsigned.dropWhile (!isMark ·)).drop 1
  let whole := mantissa.takeWhile (· ≠ '.')
  let fraction := (mantissa.dropWhile (· ≠ '.')).drop 1
  let magnitude : Int := numeral (power.filter isDigit)
  let exponent := (if '-' ∈ power then -magnitude else magnitude) - fraction.length
  let absolute : ℚ := numeral (whole ++ fraction) * (10 : ℚ) ^ exponent
  if literal.head? = some '-' then -absolute else absolute

/-- A number at the start of a text. `round` gives the nearest double. -/
def number (round : ℚ → ℚ) : List Char → Option (ℚ × List Char)
  | [] => none
  | character :: rest => do
      let stage ← firstStage? character
      let read ← numberRest stage rest
      return (round (decimalValue (character :: read.1)), read.2)

/-! ### Values -/

/-- The rest of a word, and the text behind it. -/
def word (expected : List Char) (meaning : JsValue) (text : List Char) :
    Option (JsValue × List Char) :=
  if expected <+: text then some (meaning, text.drop expected.length) else none

mutual

/-- A value after blanks. -/
def value (round : ℚ → ℚ) : Nat → List Char → Option (JsValue × List Char)
  | 0, _ => none
  | fuel + 1, text =>
      match text.dropWhile isBlank with
      | [] => none
      | '"' :: rest => (stringRest rest).map fun read => (.string read.1, read.2)
      | '[' :: rest =>
          match rest.dropWhile isBlank with
          | ']' :: after => some (.array [], after)
          | _ => (elements round fuel rest).map fun read => (.array read.1, read.2)
      | '\x7b' :: rest =>
          match rest.dropWhile isBlank with
          | '\x7d' :: after => some (.object [], after)
          | _ => (members round fuel rest).map fun read =>
              (.object (Dict.ofEntries read.1), read.2)
      | 'n' :: rest => word "ull".toList .null rest
      | 't' :: rest => word "rue".toList (.bool true) rest
      | 'f' :: rest => word "alse".toList (.bool false) rest
      | other => (number round other).map fun read => (.number read.1, read.2)

/-- The items of an array up to its end. -/
def elements (round : ℚ → ℚ) : Nat → List Char → Option (List JsValue × List Char)
  | 0, _ => none
  | fuel + 1, text => do
      let first ← value round fuel text
      match first.2.dropWhile isBlank with
      | ']' :: after => return ([first.1], after)
      | ',' :: rest =>
          let others ← elements round fuel rest
          return (first.1 :: others.1, others.2)
      | _ => none

/-- The members of an object up to its end. -/
def members (round : ℚ → ℚ) : Nat → List Char → Option (List (List Nat × JsValue) × List Char)
  | 0, _ => none
  | fuel + 1, text =>
      match text.dropWhile isBlank with
      | '"' :: named => do
          let key ← stringRest named
          match key.2.dropWhile isBlank with
          | ':' :: rest =>
              let first ← value round fuel rest
              match first.2.dropWhile isBlank with
              | '\x7d' :: after => return ([(key.1, first.1)], after)
              | ',' :: rest =>
                  let others ← members round fuel rest
                  return ((key.1, first.1) :: others.1, others.2)
              | _ => none
          | _ => none
      | _ => none

end

/-- `JSON.parse(text)`; `none` is a `SyntaxError`. Every second call reads a character. -/
def parse (round : ℚ → ℚ) (text : List Char) : Option JsValue :=
  (value round (2 * text.length + 2) text).bind fun read =>
    if read.2.dropWhile isBlank = [] then some read.1 else none

/-! ### Strings as they are written -/

/-- What a string reads once some units are read. -/
def afterUnits (units : List Nat) (read : List Nat × List Char) : List Nat × List Char :=
  (units ++ read.1, read.2)

theorem stringRest_escapeUnit {unit : Nat} (below : unit < 65536) (rest : List Char) :
    stringRest (Json.escapeUnit unit ++ rest) = (stringRest rest).map (afterUnits [unit]) := by
  have digit : ∀ number : Nat, hexValue? (Json.hexChar (number % 16)) = some (number % 16) :=
    fun number => hexValue_hexChar _ (Nat.mod_lt _ (by decide))
  have whole : ((unit / 4096 % 16 * 16 + unit / 256 % 16) * 16 + unit / 16 % 16) * 16 +
      unit % 16 = unit := by
    omega
  rw [Json.escapeUnit]
  simp only [List.cons_append, List.nil_append, stringRest, digit, Option.pure_def,
    Option.bind_eq_bind, Option.bind_some, whole]
  cases stringRest rest <;> rfl

theorem stringRest_simpleEscape {letter : Char} {unit : Nat}
    (known : simpleEscape? letter = some unit) (notUnicode : letter ≠ 'u') (rest : List Char) :
    stringRest ('\\' :: letter :: rest) = (stringRest rest).map (afterUnits [unit]) := by
  have read : stringRest ('\\' :: letter :: rest) =
      (simpleEscape? letter).bind fun unit => (stringRest rest).bind fun read =>
        some (unit :: read.1, read.2) := by
    rw [stringRest]
    · rfl
    · intro first second third fourth others isUnicode _
      exact notUnicode isUnicode
  rw [read, known, Option.bind_some]
  cases stringRest rest <;> rfl

theorem stringRest_plain {character : Char} (notQuotation : character ≠ '"')
    (notBackslash : character ≠ '\\') (notControl : ¬ character.toNat < 32) (rest : List Char) :
    stringRest (character :: rest) = (stringRest rest).map (afterUnits (unitsOf character)) := by
  rw [stringRest]
  · rw [if_neg notControl]
    rfl
  · exact notQuotation
  · intro _ _ _ _ _ equal
    exact absurd equal notBackslash
  · intro _ _ equal
    exact absurd equal notBackslash

theorem stringRest_escapeChar (character : Char) (rest : List Char) :
    stringRest (Json.escapeChar character ++ rest) =
      (stringRest rest).map (afterUnits (unitsOf character)) := by
  have range := scalar character
  have simple : ∀ letter : Char, ∀ unit : Nat, simpleEscape? letter = some unit → letter ≠ 'u' →
      character.toNat = unit →
      stringRest (['\\', letter] ++ rest) =
        (stringRest rest).map (afterUnits (unitsOf character)) := by
    intro letter unit known notUnicode same
    rw [unitsOf, same, if_pos (simpleEscape_lt known)]
    exact stringRest_simpleEscape known notUnicode rest
  rw [Json.escapeChar]
  split_ifs with quotation backslash newline ret tab feed back printable basic
  · exact simple '"' 34 rfl (by decide) (by rw [quotation]; rfl)
  · exact simple '\\' 92 rfl (by decide) (by rw [backslash]; rfl)
  · exact simple 'n' 10 rfl (by decide) (by rw [newline]; rfl)
  · exact simple 'r' 13 rfl (by decide) (by rw [ret]; rfl)
  · exact simple 't' 9 rfl (by decide) (by rw [tab]; rfl)
  · exact simple 'f' 12 rfl (by decide) feed
  · exact simple 'b' 8 rfl (by decide) back
  · exact stringRest_plain quotation backslash (by omega) rest
  · rw [unitsOf, if_pos basic]
    exact stringRest_escapeUnit basic rest
  · rw [unitsOf, if_neg basic, List.append_assoc, stringRest_escapeUnit (by omega),
      stringRest_escapeUnit (by omega), Option.map_map]
    rfl

/-- Induction on the text, one character at a time. -/
theorem stringRest_escaped (text rest : List Char) :
    stringRest (text.flatMap Json.escapeChar ++ '"' :: rest) =
      some (text.flatMap unitsOf, rest) := by
  induction text with
  | nil => rfl
  | cons character others inductionHypothesis =>
      rw [List.flatMap_cons, List.append_assoc, stringRest_escapeChar, inductionHypothesis]
      rfl

/-- The units that JavaScript holds a text as. -/
def unitsOfText (text : String) : List Nat := text.toList.flatMap unitsOf

theorem unitsOfText_injective {left right : String} (same : unitsOfText left = unitsOfText right) :
    left = right := by
  have points := congrArg joinSurrogates same
  rw [unitsOfText, unitsOfText, joinSurrogates_unitsOf, joinSurrogates_unitsOf] at points
  have characters : left.toList = right.toList :=
    List.map_injective_iff.mpr (fun _ _ equal => Char.toNat_inj.mp equal) points
  exact String.toList_inj.mp characters

/-- A quoted text is its quotation mark and what `stringRest` reads. -/
theorem quote_append (text : String) (rest : List Char) :
    Json.quote text ++ rest = '"' :: (text.toList.flatMap Json.escapeChar ++ '"' :: rest) := by
  rw [Json.quote, List.cons_append, List.cons_append, List.append_assoc, List.singleton_append]

/-! ### Numbers as they are written -/

/-- What may stand behind a value: no character that a number goes on with. -/
def Delimited (rest : List Char) : Prop :=
  ∀ character ∈ rest.head?, character = ',' ∨ character = ']' ∨ character = '\x7d'

theorem next?_of_delimiter {stage : NumberStage} {character : Char}
    (delimiter : character = ',' ∨ character = ']' ∨ character = '\x7d') :
    stage.next? character = none := by
  rcases delimiter with rfl | rfl | rfl <;> cases stage <;> rfl

theorem numberRest_delimited {stage : NumberStage} (final : isFinal stage = true)
    {rest : List Char} (delimited : Delimited rest) : numberRest stage rest = some ([], rest) := by
  cases rest with
  | nil => rw [numberRest, if_pos final]
  | cons character others =>
      rw [numberRest, next?_of_delimiter (delimited character rfl), if_pos final]

/-- A number that was read to the end of its text is read up to a delimiter too. -/
theorem numberRest_append {stage : NumberStage} {literal read : List Char}
    (whole : numberRest stage literal = some (read, [])) {rest : List Char}
    (delimited : Delimited rest) : numberRest stage (literal ++ rest) = some (read, rest) := by
  induction literal generalizing stage read with
  | nil =>
      rw [numberRest] at whole
      split at whole
      · rename_i final
        rw [List.nil_append, numberRest_delimited final delimited,
          (Prod.mk.inj (Option.some.inj whole)).1]
      · cases whole
  | cons character others inductionHypothesis =>
      rw [numberRest] at whole
      rw [List.cons_append, numberRest]
      split at whole
      · rename_i next goes
        obtain ⟨later, reading, equal⟩ := Option.map_eq_some_iff.mp whole
        obtain ⟨tail, after⟩ := later
        obtain ⟨rfl, rfl⟩ := Prod.mk.inj equal
        show (numberRest next (others ++ rest)).map _ = _
        rw [inductionHypothesis reading]
        rfl
      · split at whole
        · cases whole
        · cases whole

theorem number_append {round : ℚ → ℚ} {literal : List Char} {result : ℚ}
    (whole : number round literal = some (result, [])) {rest : List Char}
    (delimited : Delimited rest) : number round (literal ++ rest) = some (result, rest) := by
  cases literal with
  | nil => cases whole
  | cons character others =>
      rw [number, Option.bind_eq_bind, Option.bind_eq_some_iff] at whole
      obtain ⟨stage, first, reading⟩ := whole
      rw [Option.bind_eq_bind, Option.bind_eq_some_iff] at reading
      obtain ⟨⟨read, behind⟩, later, equal⟩ := reading
      obtain ⟨rfl, rfl⟩ := Prod.mk.inj (Option.some.inj equal)
      rw [List.cons_append, number, first]
      show (numberRest stage (others ++ rest)).bind _ = _
      rw [numberRest_append later delimited]
      rfl

/-! ### Documents as they are written -/

mutual

/-- The value that JavaScript holds a document as. -/
def ofJson : Json → JsValue
  | .null => .null
  | .bool value => .bool value
  | .int value => .number value
  | .float value => .number value
  | .str text => .string (unitsOfText text)
  | .arr items => .array (ofJsonItems items)
  | .obj entries => .object (ofJsonEntries entries)

def ofJsonItems : List Json → List JsValue
  | [] => []
  | item :: rest => ofJson item :: ofJsonItems rest

def ofJsonEntries : List (String × Json) → List (List Nat × JsValue)
  | [] => []
  | (key, value) :: rest => (unitsOfText key, ofJson value) :: ofJsonEntries rest

end

theorem keys_ofJsonEntries (entries : List (String × Json)) :
    (ofJsonEntries entries).map Prod.fst = entries.map fun entry => unitsOfText entry.1 := by
  induction entries with
  | nil => rfl
  | cons entry rest inductionHypothesis =>
      rw [ofJsonEntries, List.map_cons, List.map_cons, inductionHypothesis]

/-- Keys that differ as texts differ as units, so no member is lost. -/
theorem ofEntries_ofJsonEntries {entries : List (String × Json)}
    (unique : (entries.map Prod.fst).Nodup) :
    Dict.ofEntries (ofJsonEntries entries) = ofJsonEntries entries := by
  apply Dict.ofEntries_of_nodup
  have units := List.Nodup.map (fun _ _ => unitsOfText_injective) unique
  rw [keys_ofJsonEntries]
  rwa [List.map_map] at units

section Documents

variable (round : ℚ → ℚ) (floatRepr : ℚ → String)

mutual

/-- Every number of the document, as it is written, is read as that number. -/
def Legible : Json → Prop
  | .int value => number round (toString value).toList = some ((value : ℚ), [])
  | .float value => number round (floatRepr value).toList = some (value, [])
  | .arr items => LegibleItems items
  | .obj entries => LegibleEntries entries
  | _ => True

def LegibleItems : List Json → Prop
  | [] => True
  | item :: rest => Legible item ∧ LegibleItems rest

def LegibleEntries : List (String × Json) → Prop
  | [] => True
  | (_, value) :: rest => Legible value ∧ LegibleEntries rest

end

variable {round floatRepr}

/-- A text that begins a value, and neither blank nor the end of a container. -/
def Opens (text : List Char) : Prop :=
  ∃ character tail, text = character :: tail ∧ isBlank character = false ∧ character ≠ ']' ∧
    character ≠ '\x7d'

theorem Opens.append {text : List Char} (opens : Opens text) (rest : List Char) :
    Opens (text ++ rest) := by
  obtain ⟨character, tail, rfl, facts⟩ := opens
  exact ⟨character, tail ++ rest, rfl, facts⟩

theorem Opens.dropWhile {text : List Char} (opens : Opens text) :
    text.dropWhile isBlank = text := by
  obtain ⟨character, tail, rfl, notBlank, _⟩ := opens
  rw [List.dropWhile_cons_of_neg (by simp [notBlank])]

theorem opens_of_firstStage {character : Char} {stage : NumberStage}
    (first : firstStage? character = some stage) :
    isBlank character = false ∧ character ≠ ']' ∧ character ≠ '\x7d' ∧ character ≠ '"' ∧
      character ≠ '[' ∧ character ≠ '\x7b' ∧ character ≠ 'n' ∧ character ≠ 't' ∧
      character ≠ 'f' := by
  have sign : character = '-' ∨ 48 ≤ character.toNat ∧ character.toNat ≤ 57 := by
    rw [firstStage?] at first
    split at first
    · rename_i minus
      exact Or.inl minus
    · split at first
      · rename_i zero
        exact Or.inr (by rw [zero]; decide)
      · split at first
        · rename_i digit
          exact Or.inr (by simpa [isDigit] using digit)
        · cases first
  rcases sign with rfl | range
  · decide
  · have other (character' : Char) (outside : ¬ (48 ≤ character'.toNat ∧ character'.toNat ≤ 57)) :
        character ≠ character' := fun same => outside (same ▸ range)
    refine ⟨?_, other _ (by decide), other _ (by decide), other _ (by decide), other _ (by decide),
      other _ (by decide), other _ (by decide), other _ (by decide), other _ (by decide)⟩
    simp only [isBlank, decide_eq_false_iff_not, not_or]
    exact ⟨other _ (by decide), other _ (by decide), other _ (by decide), other _ (by decide)⟩

theorem opens_of_number {literal : List Char} {result : ℚ}
    (whole : number round literal = some (result, [])) :
    ∃ character tail stage, literal = character :: tail ∧ firstStage? character = some stage := by
  cases literal with
  | nil => cases whole
  | cons character tail =>
      rw [number, Option.bind_eq_bind, Option.bind_eq_some_iff] at whole
      obtain ⟨stage, first, _⟩ := whole
      exact ⟨character, tail, stage, rfl, first⟩

theorem opens_dumps {document : Json} (legible : Legible round floatRepr document) :
    Opens (document.dumpsDefault floatRepr) := by
  have ofNumber {literal : List Char} {result : ℚ}
      (whole : number round literal = some (result, [])) : Opens literal := by
    obtain ⟨character, tail, stage, rfl, first⟩ := opens_of_number whole
    have facts := opens_of_firstStage first
    exact ⟨character, tail, rfl, facts.1, facts.2.1, facts.2.2.1⟩
  cases document with
  | null => exact ⟨'n', _, rfl, by decide⟩
  | bool value => cases value <;> exact ⟨_, _, rfl, by decide⟩
  | int value => exact ofNumber legible
  | float value => exact ofNumber legible
  | str text => exact ⟨'"', _, rfl, by decide⟩
  | arr items => exact ⟨'[', _, rfl, by decide⟩
  | obj entries => exact ⟨'\x7b', _, rfl, by decide⟩

/-- A number where a value is read. -/
theorem value_number {literal : List Char} {result : ℚ}
    (whole : number round literal = some (result, [])) {rest : List Char}
    (delimited : Delimited rest) (fuel : Nat) :
    value round (fuel + 1) (literal ++ rest) = some (.number result, rest) := by
  obtain ⟨character, tail, stage, rfl, first⟩ := opens_of_number whole
  obtain ⟨notBlank, _, _, other⟩ := opens_of_firstStage first
  have kept : (character :: tail ++ rest).dropWhile isBlank = character :: (tail ++ rest) :=
    List.dropWhile_cons_of_neg (by simp [notBlank])
  have reading := number_append whole delimited
  rw [List.cons_append] at reading
  rw [value, kept]
  split
  all_goals simp_all

theorem value_blank (fuel : Nat) (text : List Char) :
    value round fuel (' ' :: text) = value round fuel text := by
  cases fuel with
  | zero => rfl
  | succ fuel => rw [value, value]; rfl

theorem elements_blank (fuel : Nat) (text : List Char) :
    elements round fuel (' ' :: text) = elements round fuel text := by
  cases fuel with
  | zero => rfl
  | succ fuel => rw [elements, elements, value_blank]

theorem members_blank (fuel : Nat) (text : List Char) :
    members round fuel (' ' :: text) = members round fuel text := by
  cases fuel with
  | zero => rfl
  | succ fuel => rw [members, members]; rfl

/-- A word where a value is read. -/
theorem word_append (expected : List Char) (meaning : JsValue) (rest : List Char) :
    word expected meaning (expected ++ rest) = some (meaning, rest) := by
  rw [word, if_pos (List.prefix_append expected rest), List.drop_left]

theorem delimited_comma (rest : List Char) : Delimited (',' :: rest) := by
  intro character first
  exact Or.inl (Option.some.inj first).symm

theorem delimited_bracket (rest : List Char) : Delimited (']' :: rest) := by
  intro character first
  exact Or.inr (Or.inl (Option.some.inj first).symm)

theorem delimited_brace (rest : List Char) : Delimited ('\x7d' :: rest) := by
  intro character first
  exact Or.inr (Or.inr (Option.some.inj first).symm)

theorem value_quote (fuel : Nat) (text : String) (rest : List Char) :
    value round (fuel + 1) (Json.quote text ++ rest) =
      some (.string (unitsOfText text), rest) := by
  rw [quote_append, value]
  show (stringRest _).map _ = _
  rw [stringRest_escaped]
  rfl

theorem Opens.commaBlankSeparated {part : List Char} (opens : Opens part)
    (parts : List (List Char)) : Opens (Json.commaBlankSeparated (part :: parts)) := by
  cases parts with
  | nil => rwa [Json.commaBlankSeparated_single]
  | cons next others =>
      rw [Json.commaBlankSeparated_cons]
      exact opens.append _

theorem value_list {text : List Char} (opens : Opens text) (fuel : Nat) :
    value round (fuel + 1) ('[' :: text) =
      (elements round fuel text).map fun read => (.array read.1, read.2) := by
  have kept := opens.dropWhile
  obtain ⟨character, tail, rfl, _, notEnd, _⟩ := opens
  have bracket : ('[' :: character :: tail).dropWhile isBlank = '[' :: character :: tail := rfl
  rw [value, bracket]
  simp only [kept]
  split
  · rename_i same
    exact absurd (List.cons.inj same).1 notEnd
  · rfl

theorem value_object {text : List Char} (opens : Opens text) (fuel : Nat) :
    value round (fuel + 1) ('\x7b' :: text) =
      (members round fuel text).map fun read => (.object (Dict.ofEntries read.1), read.2) := by
  have kept := opens.dropWhile
  obtain ⟨character, tail, rfl, _, _, notEnd⟩ := opens
  have brace : ('\x7b' :: character :: tail).dropWhile isBlank = '\x7b' :: character :: tail := rfl
  rw [value, brace]
  simp only [kept]
  split
  · rename_i same
    exact absurd (List.cons.inj same).1 notEnd
  · rfl

theorem opens_member (key : String) (rest : List Char) : Opens (Json.quote key ++ rest) :=
  ⟨'"', _, quote_append key rest, by decide⟩

/-- The last member of an object. -/
theorem members_last {fuel : Nat} (key : String) {text : List Char} {last : JsValue}
    {after : List Char} (reads : value round fuel text = some (last, '\x7d' :: after)) :
    members round (fuel + 1) (Json.quote key ++ ':' :: ' ' :: text) =
      some ([(unitsOfText key, last)], after) := by
  have kept : (Json.quote key ++ ':' :: ' ' :: text).dropWhile isBlank =
      Json.quote key ++ ':' :: ' ' :: text := (opens_member key _).dropWhile
  rw [members, kept, quote_append]
  show (stringRest _).bind _ = _
  rw [stringRest_escaped, Option.bind_some]
  show (value round fuel (' ' :: text)).bind _ = _
  rw [value_blank, reads]
  rfl

/-- A member with another one behind it. -/
theorem members_more {fuel : Nat} (key : String) {text : List Char} {first : JsValue}
    {rest : List Char} (reads : value round fuel text = some (first, ',' :: rest)) :
    members round (fuel + 1) (Json.quote key ++ ':' :: ' ' :: text) =
      (members round fuel rest).map fun others =>
        ((unitsOfText key, first) :: others.1, others.2) := by
  have kept : (Json.quote key ++ ':' :: ' ' :: text).dropWhile isBlank =
      Json.quote key ++ ':' :: ' ' :: text := (opens_member key _).dropWhile
  rw [members, kept, quote_append]
  show (stringRest _).bind _ = _
  rw [stringRest_escaped, Option.bind_some]
  show (value round fuel (' ' :: text)).bind _ = _
  rw [value_blank, reads]
  show (members round fuel rest).bind _ = _
  cases members round fuel rest <;> rfl

mutual

/-- A document that was written is read, up to what stands behind it. -/
theorem value_dumps (document : Json) (legible : Legible round floatRepr document)
    (unique : document.UniqueKeys) (fuel : Nat)
    (enough : 2 * (document.dumpsDefault floatRepr).length ≤ fuel) {rest : List Char}
    (delimited : Delimited rest) :
    value round fuel (document.dumpsDefault floatRepr ++ rest) = some (ofJson document, rest) := by
  have positive : 0 < (document.dumpsDefault floatRepr).length := by
    obtain ⟨character, tail, equal, _⟩ := opens_dumps legible
    rw [equal]
    exact Nat.succ_pos _
  obtain ⟨less, rfl⟩ : ∃ less, fuel = less + 1 := ⟨fuel - 1, by omega⟩
  match document, legible, unique, enough with
  | .null, _, _, _ => exact word_append "ull".toList .null rest
  | .bool true, _, _, _ => exact word_append "rue".toList (.bool true) rest
  | .bool false, _, _, _ => exact word_append "alse".toList (.bool false) rest
  | .int _, legible, _, _ => exact value_number legible delimited less
  | .float _, legible, _, _ => exact value_number legible delimited less
  | .str text, _, _, _ => exact value_quote less text rest
  | .arr [], _, _, _ => rfl
  | .arr (item :: items), legible, unique, enough =>
      simp only [Json.dumpsDefault, List.length_append, List.length_cons,
        List.length_nil] at enough
      have opens : Opens (Json.commaBlankSeparated
          (Json.dumpsDefaultItems floatRepr (item :: items))) :=
        (opens_dumps legible.1).commaBlankSeparated _
      rw [Json.dumpsDefault, List.cons_append, List.cons_append, List.append_assoc,
        List.singleton_append, value_list (opens.append _),
        elements_dumps (item :: items) (List.cons_ne_nil _ _) legible unique less (by omega)]
      rfl
  | .obj [], _, _, _ => rfl
  | .obj (entry :: entries), legible, unique, enough =>
      simp only [Json.dumpsDefault, List.length_append, List.length_cons,
        List.length_nil] at enough
      have opens : Opens (Json.commaBlankSeparated
          (Json.dumpsDefaultEntries floatRepr (entry :: entries))) :=
        (opens_member entry.1 _).commaBlankSeparated _
      rw [Json.dumpsDefault, List.cons_append, List.cons_append, List.append_assoc,
        List.singleton_append, value_object (opens.append _),
        members_dumps (entry :: entries) (List.cons_ne_nil _ _) legible unique.2 less (by omega),
        Option.map_some, ofEntries_ofJsonEntries unique.1]
      rfl

/-- The items of a list that was written are read up to its end. -/
theorem elements_dumps (items : List Json) (some' : items ≠ [])
    (legible : LegibleItems round floatRepr items) (unique : Json.ItemsUniqueKeys items)
    (fuel : Nat) (enough : 2 * (Json.commaBlankSeparated
      (Json.dumpsDefaultItems floatRepr items)).length + 1 ≤ fuel) (rest : List Char) :
    elements round fuel (Json.commaBlankSeparated (Json.dumpsDefaultItems floatRepr items) ++
      ']' :: rest) = some (ofJsonItems items, rest) := by
  obtain ⟨less, rfl⟩ : ∃ less, fuel = less + 1 := ⟨fuel - 1, by omega⟩
  match items, some', legible, unique, enough with
  | [item], _, legible, unique, enough =>
      simp only [Json.dumpsDefaultItems, Json.commaBlankSeparated_single] at enough ⊢
      rw [elements, value_dumps item legible.1 unique.1 less (by omega) (delimited_bracket rest)]
      rfl
  | item :: next :: others, _, legible, unique, enough =>
      simp only [Json.dumpsDefaultItems, Json.commaBlankSeparated_cons, List.length_append,
        List.length_cons] at enough
      have later := elements_dumps (next :: others) (List.cons_ne_nil _ _) legible.2 unique.2
        less (by rw [Json.dumpsDefaultItems]; omega) rest
      simp only [Json.dumpsDefaultItems, Json.commaBlankSeparated_cons, List.append_assoc,
        List.cons_append] at later ⊢
      rw [elements, value_dumps item legible.1 unique.1 less (by omega) (delimited_comma _)]
      show (elements round less (' ' :: _)).bind _ = _
      rw [elements_blank, later]
      rfl

/-- The entries of an object that was written are read up to its end. -/
theorem members_dumps (entries : List (String × Json)) (some' : entries ≠ [])
    (legible : LegibleEntries round floatRepr entries)
    (unique : Json.EntriesUniqueKeys entries) (fuel : Nat)
    (enough : 2 * (Json.commaBlankSeparated
      (Json.dumpsDefaultEntries floatRepr entries)).length + 1 ≤ fuel)
    (rest : List Char) :
    members round fuel (Json.commaBlankSeparated (Json.dumpsDefaultEntries floatRepr entries) ++
      '\x7d' :: rest) = some (ofJsonEntries entries, rest) := by
  obtain ⟨less, rfl⟩ : ∃ less, fuel = less + 1 := ⟨fuel - 1, by omega⟩
  match entries, some', legible, unique, enough with
  | [(key, document)], _, legible, unique, enough =>
      simp only [Json.dumpsDefaultEntries, Json.commaBlankSeparated_single,
        List.length_append, List.length_cons] at enough
      have reads := value_dumps document legible.1 unique.1 less (by omega)
        (delimited_brace rest)
      simp only [Json.dumpsDefaultEntries, Json.commaBlankSeparated_single,
        List.append_assoc, List.cons_append]
      rw [members_last key reads]
      rfl
  | (key, document) :: next :: others, _, legible, unique, enough =>
      simp only [Json.dumpsDefaultEntries, Json.commaBlankSeparated_cons,
        List.length_append, List.length_cons] at enough
      have later := members_dumps (next :: others) (List.cons_ne_nil _ _) legible.2 unique.2
        less (by rw [Json.dumpsDefaultEntries]; omega) rest
      simp only [Json.dumpsDefaultEntries, Json.commaBlankSeparated_cons, List.append_assoc,
        List.cons_append] at later ⊢
      rw [members_more key (value_dumps document legible.1 unique.1 less (by omega)
        (delimited_comma _)), members_blank, later]
      rfl

end

/-- `JSON.parse(json.dumps(document))` is the document. -/
theorem parse_dumps (document : Json) (legible : Legible round floatRepr document)
    (unique : document.UniqueKeys) :
    parse round (document.dumpsDefault floatRepr) = some (ofJson document) := by
  have nothing : Delimited [] := fun character first => by cases first
  have reads := value_dumps document legible unique
    (2 * (document.dumpsDefault floatRepr).length + 2) (by omega) nothing
  rw [List.append_nil] at reads
  rw [parse, reads]
  rfl

/-! ### The characters of a text -/

/-- A character between the blank and the tilde. -/
def Printable (character : Char) : Prop := 32 ≤ character.toNat ∧ character.toNat ≤ 126

instance (character : Char) : Decidable (Printable character) :=
  inferInstanceAs (Decidable (32 ≤ character.toNat ∧ character.toNat ≤ 126))

/-- A text is printable when a look at each character says so. -/
theorem printable_of_all {text : List Char}
    (all : text.all (fun character => decide (Printable character)) = true) :
    ∀ character ∈ text, Printable character :=
  fun character member => of_decide_eq_true (List.all_eq_true.mp all character member)

theorem printable_hexChar (digit : Nat) : Printable (Json.hexChar (digit % 16)) := by
  have small : ∀ value < 16, Printable (Json.hexChar value) := by decide
  exact small _ (Nat.mod_lt _ (by decide))

theorem printable_escapeUnit (unit : Nat) :
    ∀ character ∈ Json.escapeUnit unit, Printable character := by
  intro character member
  simp only [Json.escapeUnit, List.mem_cons, List.not_mem_nil, or_false] at member
  rcases member with rfl | rfl | rfl | rfl | rfl | rfl
  · exact by decide
  · exact by decide
  all_goals exact printable_hexChar _

theorem printable_escapeChar (character : Char) :
    ∀ written ∈ Json.escapeChar character, Printable written := by
  have both (first second : Char) (left : Printable first) (right : Printable second) :
      ∀ written ∈ [first, second], Printable written := by
    intro written member
    rcases List.mem_cons.mp member with rfl | last
    · exact left
    · exact List.mem_singleton.mp last ▸ right
  rw [Json.escapeChar]
  split_ifs with quotation backslash newline ret tab feed back printable basic
  all_goals first
    | exact both _ _ (by decide) (by decide)
    | skip
  · exact fun written member => List.mem_singleton.mp member ▸ printable
  · exact printable_escapeUnit _
  · exact fun written member => (List.mem_append.mp member).elim
      (printable_escapeUnit _ written) (printable_escapeUnit _ written)

theorem printable_quote (text : String) : ∀ written ∈ Json.quote text, Printable written := by
  intro written member
  rw [Json.quote, List.cons_append, List.mem_cons, List.mem_append, List.mem_flatMap,
    List.mem_singleton] at member
  rcases member with rfl | ⟨character, _, inside⟩ | rfl
  · exact by decide
  · exact printable_escapeChar character written inside
  · exact by decide

theorem printable_of_isDigit {character : Char} (isOne : isDigit character = true) :
    Printable character := by
  simp only [isDigit, decide_eq_true_eq] at isOne
  exact ⟨by omega, by omega⟩

theorem printable_of_next? {stage next : NumberStage} {character : Char}
    (goes : stage.next? character = some next) : Printable character := by
  have named : character = '0' ∨ character = '.' ∨ character = 'e' ∨ character = 'E' ∨
      character = '+' ∨ character = '-' → Printable character := by
    rintro (rfl | rfl | rfl | rfl | rfl | rfl) <;> exact by decide
  by_cases isOne : isDigit character = true
  · exact printable_of_isDigit isOne
  · apply named
    cases stage <;> simp only [NumberStage.next?, isOne] at goes <;> grind

theorem printable_numberRest {stage : NumberStage} {literal read : List Char}
    (whole : numberRest stage literal = some (read, [])) :
    ∀ character ∈ literal, Printable character := by
  induction literal generalizing stage read with
  | nil => exact fun character member => absurd member List.not_mem_nil
  | cons head others inductionHypothesis =>
      rw [numberRest] at whole
      split at whole
      · rename_i next goes
        obtain ⟨⟨later, behind⟩, reading, equal⟩ := Option.map_eq_some_iff.mp whole
        obtain ⟨rfl, rfl⟩ := Prod.mk.inj equal
        exact List.forall_mem_cons.mpr ⟨printable_of_next? goes, inductionHypothesis reading⟩
      · split at whole <;> cases whole

theorem printable_number {literal : List Char} {result : ℚ}
    (whole : number round literal = some (result, [])) :
    ∀ character ∈ literal, Printable character := by
  cases literal with
  | nil => cases whole
  | cons character others =>
      rw [number, Option.bind_eq_bind, Option.bind_eq_some_iff] at whole
      obtain ⟨stage, first, reading⟩ := whole
      rw [Option.bind_eq_bind, Option.bind_eq_some_iff] at reading
      obtain ⟨⟨read, behind⟩, later, equal⟩ := reading
      obtain ⟨_, rfl⟩ := Prod.mk.inj (Option.some.inj equal)
      refine List.forall_mem_cons.mpr ⟨?_, printable_numberRest later⟩
      rw [firstStage?] at first
      split at first
      · rename_i minus
        exact minus ▸ (by decide : Printable '-')
      · split at first
        · rename_i zero
          exact zero ▸ (by decide : Printable '0')
        · split at first
          · rename_i isOne
            exact printable_of_isDigit isOne
          · cases first

/-- Parts without another character, separated by commas and blanks. -/
theorem printable_commaBlankSeparated {parts : List (List Char)}
    (each : ∀ part ∈ parts, ∀ character ∈ part, Printable character) :
    ∀ character ∈ Json.commaBlankSeparated parts, Printable character := by
  induction parts with
  | nil => exact fun character member => absurd member (by simp [Json.commaBlankSeparated])
  | cons part others inductionHypothesis =>
      have head := each part (List.mem_cons_self ..)
      have tail := inductionHypothesis fun other member =>
        each other (List.mem_cons_of_mem _ member)
      cases others with
      | nil => rwa [Json.commaBlankSeparated_single]
      | cons next rest =>
          rw [Json.commaBlankSeparated_cons]
          simp only [List.forall_mem_append, List.forall_mem_cons]
          exact ⟨head, by decide, by decide, tail⟩

mutual

/-- A document is written in printable ASCII. -/
theorem printable_dumps (document : Json) (legible : Legible round floatRepr document) :
    ∀ character ∈ document.dumpsDefault floatRepr, Printable character := by
  match document, legible with
  | .null, _ =>
      have all : ['n', 'u', 'l', 'l'].all
          (fun character => decide (Printable character)) = true := by decide
      exact printable_of_all all
  | .bool true, _ =>
      have all : ['t', 'r', 'u', 'e'].all
          (fun character => decide (Printable character)) = true := by decide
      exact printable_of_all all
  | .bool false, _ =>
      have all : ['f', 'a', 'l', 's', 'e'].all
          (fun character => decide (Printable character)) = true := by decide
      exact printable_of_all all
  | .int _, legible => exact printable_number legible
  | .float _, legible => exact printable_number legible
  | .str text, _ => exact printable_quote text
  | .arr items, legible =>
      have inside := printable_commaBlankSeparated (printable_items items legible)
      rw [Json.dumpsDefault]
      simp only [List.cons_append, List.forall_mem_cons, List.forall_mem_append]
      exact ⟨by decide, inside, by decide, by simp⟩
  | .obj entries, legible =>
      have inside := printable_commaBlankSeparated (printable_entries entries legible)
      rw [Json.dumpsDefault]
      simp only [List.cons_append, List.forall_mem_cons, List.forall_mem_append]
      exact ⟨by decide, inside, by decide, by simp⟩

theorem printable_items (items : List Json) (legible : LegibleItems round floatRepr items) :
    ∀ part ∈ Json.dumpsDefaultItems floatRepr items, ∀ character ∈ part, Printable character := by
  match items, legible with
  | [], _ => exact fun part member => absurd member List.not_mem_nil
  | item :: rest, legible =>
      rw [Json.dumpsDefaultItems]
      exact List.forall_mem_cons.mpr
        ⟨printable_dumps item legible.1, printable_items rest legible.2⟩

theorem printable_entries (entries : List (String × Json))
    (legible : LegibleEntries round floatRepr entries) :
    ∀ part ∈ Json.dumpsDefaultEntries floatRepr entries,
      ∀ character ∈ part, Printable character := by
  match entries, legible with
  | [], _ => exact fun part member => absurd member List.not_mem_nil
  | (key, document) :: rest, legible =>
      have written := printable_dumps document legible.1
      rw [Json.dumpsDefaultEntries]
      refine List.forall_mem_cons.mpr ⟨?_, printable_entries rest legible.2⟩
      simp only [List.forall_mem_append, List.forall_mem_cons]
      exact ⟨printable_quote key, by decide, by decide, written⟩

end

end Documents

end JsonParse

end LlmObs.Foundation
