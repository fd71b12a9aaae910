import Mathlib.Data.List.FinRange
import Mathlib.Data.List.OfFn
import Mathlib.Tactic.IntervalCases
import Mathlib.Tactic.Ring

/-!
Owns 128-bit identifiers, their canonical 8-4-4-4-12 text, which determines the
identifier, and the reading of texts that a database driver accepts for one.
-/

namespace LlmObs.Foundation

/-- The value of a `uuid.UUID`. -/
abbrev UUID := BitVec 128

namespace UUID

/-- Lower-case hexadecimal digit. -/
def hexDigit (digit : Fin 16) : Char :=
  ['0', '1', '2', '3', '4', '5', '6', '7', '8', '9', 'a', 'b', 'c', 'd', 'e', 'f'].get digit

theorem hexDigit_injective : Function.Injective hexDigit := by
  have distinct : ∀ left right : Fin 16, hexDigit left = hexDigit right → left = right := by
    decide
  exact fun left right => distinct left right

/-- Hexadecimal digit number `index`, counted from the most significant one. -/
def nibble (id : UUID) (index : Nat) : Fin 16 :=
  ⟨id.toNat / 16 ^ (31 - index) % 16, Nat.mod_lt _ (by decide)⟩

/-- Digit shown at a text position that is not a dash. -/
def digitIndex (position : Nat) : Nat :=
  if position < 8 then position
  else if position < 13 then position - 1
  else if position < 18 then position - 2
  else if position < 23 then position - 3
  else position - 4

/-- Text position of a digit. -/
def digitPosition (index : Nat) : Nat :=
  if index < 8 then index
  else if index < 12 then index + 1
  else if index < 16 then index + 2
  else if index < 20 then index + 3
  else index + 4

def charAt (id : UUID) (position : Nat) : Char :=
  if position = 8 ∨ position = 13 ∨ position = 18 ∨ position = 23 then '-'
  else hexDigit (id.nibble (digitIndex position))

/-- The text that Python's `str` gives for a UUID. -/
def str (id : UUID) : String :=
  String.ofList (List.ofFn fun position : Fin 36 => id.charAt position)

theorem charAt_digitPosition (id : UUID) {index : Nat} (below : index < 32) :
    id.charAt (digitPosition index) = hexDigit (id.nibble index) := by
  interval_cases index <;> rfl

/-- The low base-`base` digits of two numbers determine their remainders. -/
theorem mod_pow_eq_of_digits {left right base count : Nat}
    (digits : ∀ index < count,
      left / base ^ index % base = right / base ^ index % base) :
    left % base ^ count = right % base ^ count := by
  induction count with
  | zero => simp [Nat.mod_one]
  | succ count inductionHypothesis =>
      have lower := inductionHypothesis fun index below => digits index (by omega)
      rw [pow_succ, Nat.mod_mul, Nat.mod_mul, lower, digits count (by omega)]

theorem ext_nibble {left right : UUID}
    (same : ∀ index < 32, left.nibble index = right.nibble index) : left = right := by
  apply BitVec.eq_of_toNat_eq
  have remainders : left.toNat % 16 ^ 32 = right.toNat % 16 ^ 32 := by
    apply mod_pow_eq_of_digits
    intro index below
    have digit := congrArg Fin.val (same (31 - index) (by omega))
    simp only [nibble] at digit
    rwa [show 31 - (31 - index) = index by omega] at digit
  have width : (16 : Nat) ^ 32 = 2 ^ 128 := by decide
  rwa [width, Nat.mod_eq_of_lt left.isLt, Nat.mod_eq_of_lt right.isLt] at remainders

theorem str_injective : Function.Injective str := by
  intro left right same
  have chars : (fun position : Fin 36 => left.charAt position) =
      fun position : Fin 36 => right.charAt position :=
    List.ofFn_injective (String.ofList_injective same)
  apply ext_nibble
  intro index below
  have position : digitPosition index < 36 := by
    unfold digitPosition
    split_ifs <;> omega
  have shown := congrFun chars ⟨digitPosition index, position⟩
  simp only [charAt_digitPosition _ below] at shown
  exact hexDigit_injective shown

@[simp] theorem str_inj {left right : UUID} : left.str = right.str ↔ left = right :=
  str_injective.eq_iff

theorem length_str (id : UUID) : id.str.length = 36 := by
  rw [str, String.length_ofList, List.length_ofFn]

/-! ### Reading a text -/

/-- The value of a hexadecimal digit of either case. -/
def hexValue? (char : Char) : Option Nat :=
  if '0' ≤ char ∧ char ≤ '9' then some (char.toNat - '0'.toNat)
  else if 'a' ≤ char ∧ char ≤ 'f' then some (char.toNat - 'a'.toNat + 10)
  else if 'A' ≤ char ∧ char ≤ 'F' then some (char.toNat - 'A'.toNat + 10)
  else none

/-- The number with these hexadecimal digits behind those of `value`. -/
def readDigits (value : Nat) (digits : List Nat) : Nat :=
  digits.foldl (fun value digit => value * 16 + digit) value

/-- How a driver encodes a text for a `uuid` parameter: 32 hexadecimal digits of
either case with up to four dashes anywhere. -/
def ofText? (text : String) : Option UUID :=
  if 32 ≤ text.length ∧ text.length ≤ 36 then
    ((text.toList.filter (· ≠ '-')).mapM hexValue?).bind fun digits =>
      if digits.length = 32 then some (BitVec.ofNat 128 (readDigits 0 digits)) else none
  else none

theorem hexValue?_hexDigit : ∀ digit : Fin 16, hexValue? (hexDigit digit) = some digit.val := by
  decide

theorem hexDigit_ne_dash : ∀ digit : Fin 16, hexDigit digit ≠ '-' := by
  decide

/-- The digits of a number, the most significant one first, are read back. -/
theorem readDigits_range (value number count : Nat) :
    readDigits value ((List.range count).map fun index =>
        number / 16 ^ (count - 1 - index) % 16) =
      value * 16 ^ count + number % 16 ^ count := by
  induction count generalizing value with
  | zero => simp [readDigits, Nat.mod_one]
  | succ count inductionHypothesis =>
      have shifted : ((List.range count).map fun index =>
            number / 16 ^ (count + 1 - 1 - (index + 1)) % 16) =
          (List.range count).map fun index => number / 16 ^ (count - 1 - index) % 16 := by
        refine List.map_congr_left fun index _ => ?_
        rw [show count + 1 - 1 - (index + 1) = count - 1 - index by omega]
      have rest := inductionHypothesis (value * 16 + number / 16 ^ count % 16)
      rw [List.range_succ_eq_map, List.map_cons, List.map_map, Function.comp_def, shifted,
        readDigits, List.foldl_cons, ← readDigits, show count + 1 - 1 - 0 = count by omega,
        rest, pow_succ, Nat.mod_mul]
      ring

/-- The characters of a canonical text, without its dashes. -/
theorem str_digits (id : UUID) : id.str.toList.filter (· ≠ '-') =
    (List.range 32).map fun index => hexDigit (id.nibble index) := by
  have shown : ∀ position : Fin 36, decide (id.charAt position ≠ '-') =
      decide (position.val ∉ [8, 13, 18, 23]) := by
    intro position
    by_cases dash : position.val = 8 ∨ position.val = 13 ∨ position.val = 18 ∨ position.val = 23
    · simp [charAt, dash]
    · simp [charAt, dash, hexDigit_ne_dash]
  have positions : (List.finRange 36).filter
        (fun position => decide (position.val ∉ [8, 13, 18, 23])) =
      (List.finRange 32).map fun index : Fin 32 =>
        Fin.ofNat 36 (digitPosition index.val) := by
    decide
  have digit : ∀ index : Fin 32, id.charAt (Fin.ofNat 36 (digitPosition index.val)).val =
      hexDigit (id.nibble index.val) := by
    intro index
    have below : digitPosition index.val < 36 := by
      unfold digitPosition
      split_ifs <;> omega
    rw [Fin.val_ofNat, Nat.mod_eq_of_lt below, charAt_digitPosition id index.isLt]
  rw [str, String.toList_ofList, List.ofFn_eq_map, List.filter_map, Function.comp_def]
  simp only [shown]
  rw [positions, List.map_map, Function.comp_def]
  simp only [digit]
  rw [← List.map_coe_finRange_eq_range, List.map_map]
  rfl

@[simp] theorem ofText?_str (id : UUID) : ofText? id.str = some id := by
  have length := length_str id
  have digits : ((List.range 32).map fun index => hexDigit (id.nibble index)).mapM hexValue? =
      some ((List.range 32).map fun index => (id.nibble index).val) := by
    have readDigit : (fun index => hexValue? (hexDigit (id.nibble index))) =
        fun index => pure (id.nibble index).val := by
      funext index
      exact hexValue?_hexDigit _
    rw [List.mapM_map, Function.comp_def, readDigit]
    exact List.mapM_pure
  have number : readDigits 0 ((List.range 32).map fun index => (id.nibble index).val) =
      id.toNat := by
    have read := readDigits_range 0 id.toNat 32
    have width : (16 : Nat) ^ 32 = 2 ^ 128 := by decide
    rw [Nat.zero_mul, Nat.zero_add, width, Nat.mod_eq_of_lt id.isLt] at read
    exact read
  rw [ofText?, if_pos (by omega), str_digits, digits, Option.bind_some, if_pos (by simp),
    number, BitVec.ofNat_toNat, BitVec.setWidth_eq]

end UUID

end LlmObs.Foundation
