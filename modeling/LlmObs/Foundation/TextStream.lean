import Mathlib.Data.List.Basic
import Mathlib.Data.String.Basic

/-!
Owns texts that arrive in pieces: the UTF-8 decoder that keeps an unfinished character from
one piece to the next, and lines of which the last is kept until it is complete. Neither
depends on where the pieces were cut.
-/

namespace LlmObs.Foundation

/-! ### Bytes -/

/-- The state of a `TextDecoder`. -/
structure TextDecoder where
  codePoint : Nat
  bytesSeen : Nat
  bytesNeeded : Nat
  lowerBoundary : Nat
  upperBoundary : Nat
  bomSeen : Bool
deriving DecidableEq, Repr

namespace TextDecoder

/-- `new TextDecoder()` -/
def new : TextDecoder := ⟨0, 0, 0, 0x80, 0xBF, false⟩

/-- The decoder between two characters. -/
def reset (decoder : TextDecoder) : TextDecoder := { new with bomSeen := decoder.bomSeen }

/-- A character of the result, unless it is the byte order mark at the very start. -/
def emit (decoder : TextDecoder) (character : Char) : TextDecoder × List Char :=
  ({ decoder with bomSeen := true },
    if !decoder.bomSeen && decide (character.toNat = 0xFEFF) then [] else [character])

def replacement : Char := Char.ofNat 0xFFFD

/-- The first byte of a character. -/
def leadByte (decoder : TextDecoder) (byte : Nat) : TextDecoder × List Char :=
  if byte ≤ 0x7F then decoder.emit (Char.ofNat byte)
  else if 0xC2 ≤ byte ∧ byte ≤ 0xDF then
    ({ decoder with bytesNeeded := 1, codePoint := byte % 32 }, [])
  else if 0xE0 ≤ byte ∧ byte ≤ 0xEF then
    ({ decoder with
        bytesNeeded := 2
        codePoint := byte % 16
        lowerBoundary := if byte = 0xE0 then 0xA0 else decoder.lowerBoundary
        upperBoundary := if byte = 0xED then 0x9F else decoder.upperBoundary }, [])
  else if 0xF0 ≤ byte ∧ byte ≤ 0xF4 then
    ({ decoder with
        bytesNeeded := 3
        codePoint := byte % 8
        lowerBoundary := if byte = 0xF0 then 0x90 else decoder.lowerBoundary
        upperBoundary := if byte = 0xF4 then 0x8F else decoder.upperBoundary }, [])
  else decoder.emit replacement

/-- One byte. A byte that cannot go on ends the character and is read anew. -/
def decodeByte (decoder : TextDecoder) (byte : Nat) : TextDecoder × List Char :=
  if decoder.bytesNeeded = 0 then decoder.leadByte byte
  else if byte < decoder.lowerBoundary ∨ decoder.upperBoundary < byte then
    let broken := decoder.reset.emit replacement
    let again := broken.1.leadByte byte
    (again.1, broken.2 ++ again.2)
  else
    let codePoint := decoder.codePoint * 64 + byte % 64
    if decoder.bytesSeen + 1 = decoder.bytesNeeded then
      decoder.reset.emit (Char.ofNat codePoint)
    else
      ({ decoder with
          codePoint := codePoint
          bytesSeen := decoder.bytesSeen + 1
          lowerBoundary := 0x80
          upperBoundary := 0xBF }, [])

/-- `decoder.decode(chunk, { stream: true })` -/
def decode (decoder : TextDecoder) : List UInt8 → TextDecoder × List Char
  | [] => (decoder, [])
  | byte :: rest =>
      let first := decoder.decodeByte byte.toNat
      let others := first.1.decode rest
      (others.1, first.2 ++ others.2)

theorem decode_append (decoder : TextDecoder) (front rest : List UInt8) :
    decoder.decode (front ++ rest) =
      (((decoder.decode front).1.decode rest).1,
        (decoder.decode front).2 ++ ((decoder.decode front).1.decode rest).2) := by
  induction front generalizing decoder with
  | nil => rfl
  | cons byte others inductionHypothesis =>
      simp only [List.cons_append, decode, inductionHypothesis, List.append_assoc]

/-- Bytes below 128 between characters are characters of their own. -/
theorem decode_ascii {text : List Char} (ascii : ∀ character ∈ text, character.toNat ≤ 127)
    {decoder : TextDecoder} (between : decoder.bytesNeeded = 0) :
    (decoder.decode (text.flatMap String.utf8EncodeChar)).2 = text := by
  induction text generalizing decoder with
  | nil => rfl
  | cons character rest inductionHypothesis =>
      have small : character.toNat ≤ 127 := ascii character (List.mem_cons_self ..)
      have bytes : String.utf8EncodeChar character = [UInt8.ofNat character.toNat] := by
        rw [String.utf8EncodeChar]
        exact if_pos small
      have byte : (UInt8.ofNat character.toNat).toNat = character.toNat := by
        rw [UInt8.toNat_ofNat']
        omega
      have notMark : character.toNat ≠ 0xFEFF := by omega
      have read : decoder.decodeByte character.toNat =
          ({ decoder with bomSeen := true }, [character]) := by
        rw [decodeByte, if_pos between, leadByte, if_pos small, Char.ofNat_toNat, emit]
        simp [notMark]
      rw [List.flatMap_cons, bytes, List.singleton_append, decode, byte, read]
      show character :: (decode _ _).2 = _
      rw [inductionHypothesis (fun other member => ascii other (List.mem_cons_of_mem _ member))]
      exact between

end TextDecoder

/-! ### Lines -/

section Lines

variable {Item : Type} [BEq Item] (mark : Item)

/-- The parts before the last separator. -/
def completeParts (text : List Item) : List (List Item) := (text.splitOn mark).dropLast

/-- The part after the last separator. -/
def openPart (text : List Item) : List Item := (text.splitOn mark).getLastD []

theorem splitOn_append (front rest : List Item) :
    (front ++ rest).splitOn mark =
      completeParts mark front ++ (openPart mark front ++ rest).splitOn mark := by
  induction front with
  | nil => simp [completeParts, openPart]
  | cons item others inductionHypothesis =>
      rw [completeParts, openPart] at inductionHypothesis ⊢
      rw [List.cons_append, List.splitOn_cons_eq_if_modifyHead, inductionHypothesis,
        List.splitOn_cons_eq_if_modifyHead]
      have parts := List.splitOn_ne_nil mark others
      cases split : others.splitOn mark with
      | nil => exact absurd split parts
      | cons first more =>
          by_cases same : (item == mark) = true
          · simp [same]
          · rw [if_neg same, if_neg same]
            cases more with
            | nil =>
                simp [List.splitOn_cons_eq_if_modifyHead, same]
            | cons second rest => simp

theorem completeParts_append (front rest : List Item) :
    completeParts mark (front ++ rest) =
      completeParts mark front ++ completeParts mark (openPart mark front ++ rest) := by
  rw [completeParts, splitOn_append, List.dropLast_append_of_ne_nil (List.splitOn_ne_nil _ _)]
  rfl

theorem openPart_append (front rest : List Item) :
    openPart mark (front ++ rest) = openPart mark (openPart mark front ++ rest) := by
  have parts := List.splitOn_ne_nil mark (openPart mark front ++ rest)
  rw [openPart, splitOn_append, List.getLastD_eq_getLast?, List.getLast?_append_of_ne_nil _ parts,
    ← List.getLastD_eq_getLast?]
  rfl

variable [LawfulBEq Item]

/-- A part without the separator is complete where the separator follows. -/
theorem completeParts_cons (part : List Item) (plain : mark ∉ part) (rest : List Item) :
    completeParts mark (part ++ mark :: rest) = part :: completeParts mark rest := by
  have parts := List.splitOn_ne_nil mark rest
  rw [completeParts, List.splitOn_append_cons_self_of_not_mem plain,
    List.dropLast_cons_of_ne_nil parts]
  rfl

end Lines

end LlmObs.Foundation
