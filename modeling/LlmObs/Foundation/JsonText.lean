import LlmObs.Foundation.Json
import Mathlib.Data.List.Sort
import Mathlib.Data.String.Basic

/-!
Owns the JSON texts of a document: the compact one with sorted keys, as
`json.dumps(value, sort_keys=True, separators=(",", ":"))` writes it, the one of
`json.dumps(value, ensure_ascii=False)`, and the one of `json.dumps(value)`. The text of a
float is a parameter.
-/

namespace LlmObs.Foundation

namespace Json

/-! ### Strings -/

/-- Lower-case hexadecimal digit. -/
def hexChar (digit : Nat) : Char :=
  "0123456789abcdef".toList.getD digit '0'

/-- `\uXXXX` of a code unit. -/
def escapeUnit (unit : Nat) : List Char :=
  ['\\', 'u', hexChar (unit / 4096 % 16), hexChar (unit / 256 % 16), hexChar (unit / 16 % 16),
    hexChar (unit % 16)]

/-- A character with `ensure_ascii`: surrogate pairs above the basic plane. -/
def escapeChar (character : Char) : List Char :=
  if character = '"' then ['\\', '"']
  else if character = '\\' then ['\\', '\\']
  else if character = '\n' then ['\\', 'n']
  else if character = '\r' then ['\\', 'r']
  else if character = '\t' then ['\\', 't']
  else if character.toNat = 12 then ['\\', 'f']
  else if character.toNat = 8 then ['\\', 'b']
  else if 32 ≤ character.toNat ∧ character.toNat ≤ 126 then [character]
  else if character.toNat < 65536 then escapeUnit character.toNat
  else
    escapeUnit (55296 + (character.toNat - 65536) / 1024) ++
      escapeUnit (56320 + (character.toNat - 65536) % 1024)

def quote (text : String) : List Char :=
  '"' :: text.toList.flatMap escapeChar ++ ['"']

/-! ### Documents -/

/-- An entry of an object as its key and the text of its value. -/
abbrev EntryText := String × List Char

def sortEntries (entries : List EntryText) : List EntryText :=
  entries.insertionSort fun left right => left.1 ≤ right.1

/-- Parts separated by commas. -/
def commaSeparated (parts : List (List Char)) : List Char :=
  [','].intercalate parts

def objectText (entries : List EntryText) : List Char :=
  '\x7b' :: commaSeparated (entries.map fun entry => quote entry.1 ++ ':' :: entry.2) ++
    ['\x7d']

mutual

def dumps (floatRepr : ℚ → String) : Json → List Char
  | .null => "null".toList
  | .bool true => "true".toList
  | .bool false => "false".toList
  | .int value => (toString value).toList
  | .float value => (floatRepr value).toList
  | .str text => quote text
  | .arr items => '[' :: commaSeparated (dumpsItems floatRepr items) ++ [']']
  | .obj entries => objectText (sortEntries (dumpsEntries floatRepr entries))

def dumpsItems (floatRepr : ℚ → String) : List Json → List (List Char)
  | [] => []
  | item :: rest => dumps floatRepr item :: dumpsItems floatRepr rest

def dumpsEntries (floatRepr : ℚ → String) : List (String × Json) → List EntryText
  | [] => []
  | (key, value) :: rest => (key, dumps floatRepr value) :: dumpsEntries floatRepr rest

end

/-! ### Texts beyond ASCII -/

/-- A character without `ensure_ascii`. -/
def escapeUnicode (character : Char) : List Char :=
  if 127 ≤ character.toNat then [character] else escapeChar character

def quoteUnicode (text : String) : List Char :=
  '"' :: text.toList.flatMap escapeUnicode ++ ['"']

/-- Parts separated by a comma and a blank. -/
def commaBlankSeparated (parts : List (List Char)) : List Char :=
  [',', ' '].intercalate parts

mutual

def dumpsUnicode (floatRepr : ℚ → String) : Json → List Char
  | .null => "null".toList
  | .bool true => "true".toList
  | .bool false => "false".toList
  | .int value => (toString value).toList
  | .float value => (floatRepr value).toList
  | .str text => quoteUnicode text
  | .arr items => '[' :: commaBlankSeparated (dumpsUnicodeItems floatRepr items) ++ [']']
  | .obj entries =>
      '\x7b' :: commaBlankSeparated (dumpsUnicodeEntries floatRepr entries) ++ ['\x7d']

def dumpsUnicodeItems (floatRepr : ℚ → String) : List Json → List (List Char)
  | [] => []
  | item :: rest => dumpsUnicode floatRepr item :: dumpsUnicodeItems floatRepr rest

def dumpsUnicodeEntries (floatRepr : ℚ → String) : List (String × Json) → List (List Char)
  | [] => []
  | (key, value) :: rest =>
      (quoteUnicode key ++ ':' :: ' ' :: dumpsUnicode floatRepr value) ::
        dumpsUnicodeEntries floatRepr rest

end

/-! ### Texts without options -/

mutual

/-- `json.dumps(value)` -/
def dumpsDefault (floatRepr : ℚ → String) : Json → List Char
  | .null => "null".toList
  | .bool true => "true".toList
  | .bool false => "false".toList
  | .int value => (toString value).toList
  | .float value => (floatRepr value).toList
  | .str text => quote text
  | .arr items => '[' :: commaBlankSeparated (dumpsDefaultItems floatRepr items) ++ [']']
  | .obj entries =>
      '\x7b' :: commaBlankSeparated (dumpsDefaultEntries floatRepr entries) ++ ['\x7d']

def dumpsDefaultItems (floatRepr : ℚ → String) : List Json → List (List Char)
  | [] => []
  | item :: rest => dumpsDefault floatRepr item :: dumpsDefaultItems floatRepr rest

def dumpsDefaultEntries (floatRepr : ℚ → String) : List (String × Json) → List (List Char)
  | [] => []
  | (key, value) :: rest =>
      (quote key ++ ':' :: ' ' :: dumpsDefault floatRepr value) ::
        dumpsDefaultEntries floatRepr rest

end

theorem commaBlankSeparated_cons (part next : List Char) (parts : List (List Char)) :
    commaBlankSeparated (part :: next :: parts) =
      part ++ ',' :: ' ' :: commaBlankSeparated (next :: parts) := by
  simp [commaBlankSeparated, List.intercalate]

@[simp] theorem commaBlankSeparated_single (part : List Char) :
    commaBlankSeparated [part] = part := by
  simp [commaBlankSeparated, List.intercalate]

end Json

end LlmObs.Foundation
