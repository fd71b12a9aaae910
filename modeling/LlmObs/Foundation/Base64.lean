import Mathlib.Data.List.Basic
import Mathlib.Data.UInt

/-!
Owns the reading of base64 as `binascii.a2b_base64` does it without its strict mode:
bytes outside the alphabet are passed over, and a full padding ends the input.
-/

namespace LlmObs.Foundation

namespace Base64

/-- Six bits of a byte of the alphabet. -/
def digit? (byte : UInt8) : Option Nat :=
  if 65 ≤ byte.toNat ∧ byte.toNat ≤ 90 then some (byte.toNat - 65)
  else if 97 ≤ byte.toNat ∧ byte.toNat ≤ 122 then some (byte.toNat - 71)
  else if 48 ≤ byte.toNat ∧ byte.toNat ≤ 57 then some (byte.toNat + 4)
  else if byte.toNat = 43 then some 62
  else if byte.toNat = 47 then some 63
  else none

/-- The group of four that is being read: how many of its digits were read, the bits of
the last one that no byte has yet, and the padding after it. -/
structure Group where
  position : Nat
  leftover : Nat
  pads : Nat
deriving DecidableEq, Repr

def Group.start : Group := ⟨0, 0, 0⟩

/-- The padding of a group, or `none` where the group ends with it. -/
def Group.pad? (group : Group) : Option Group :=
  if group.position < 2 then some group
  else if 4 ≤ group.position + (group.pads + 1) then none
  else some { group with pads := group.pads + 1 }

/-- The bytes that a digit completes, and the group after it. -/
def Group.take (group : Group) (digit : Nat) : List UInt8 × Group :=
  match group.position with
  | 0 => ([], ⟨1, digit, 0⟩)
  | 1 => ([UInt8.ofNat (group.leftover * 4 + digit / 16)], ⟨2, digit % 16, 0⟩)
  | 2 => ([UInt8.ofNat (group.leftover * 16 + digit / 4)], ⟨3, digit % 4, 0⟩)
  | _ => ([UInt8.ofNat (group.leftover * 64 + digit)], .start)

/-- The bytes of the input from a group on; `none` is `binascii.Error`. -/
def read (group : Group) : List UInt8 → Option (List UInt8)
  | [] => if group.position = 0 then some [] else none
  | byte :: rest =>
      if byte = 61 then
        match group.pad? with
        | none => some []
        | some padded => read padded rest
      else
        match digit? byte with
        | none => read group rest
        | some digit => (read (group.take digit).2 rest).map ((group.take digit).1 ++ ·)

/-- `binascii.a2b_base64(bytes)` -/
def a2b (bytes : List UInt8) : Option (List UInt8) := read .start bytes

/-! ### One digit, one padding -/

theorem read_digit {group : Group} {byte : UInt8} {digit : Nat} (known : digit? byte = some digit)
    (rest : List UInt8) :
    read group (byte :: rest) =
      (read (group.take digit).2 rest).map ((group.take digit).1 ++ ·) := by
  have notPadding : byte ≠ 61 := by
    intro padding
    have outside : digit? 61 = none := by decide
    rw [padding, outside] at known
    exact absurd known (by simp)
  rw [read, if_neg notPadding, known]

theorem read_padding {group : Group} (rest : List UInt8) :
    read group (61 :: rest) =
      match group.pad? with
      | none => some []
      | some padded => read padded rest := by
  rw [read, if_pos rfl]

section Groups

variable {byte₀ byte₁ byte₂ byte₃ : UInt8} {digit₀ digit₁ digit₂ digit₃ : Nat}

/-- Four digits are three bytes. -/
theorem read_four (known₀ : digit? byte₀ = some digit₀) (known₁ : digit? byte₁ = some digit₁)
    (known₂ : digit? byte₂ = some digit₂) (known₃ : digit? byte₃ = some digit₃)
    (rest : List UInt8) :
    read .start (byte₀ :: byte₁ :: byte₂ :: byte₃ :: rest) =
      (read .start rest).map fun bytes =>
        UInt8.ofNat (digit₀ * 4 + digit₁ / 16) ::
          UInt8.ofNat (digit₁ % 16 * 16 + digit₂ / 4) ::
          UInt8.ofNat (digit₂ % 4 * 64 + digit₃) :: bytes := by
  rw [read_digit known₀, read_digit known₁, read_digit known₂, read_digit known₃]
  simp [Group.start, Group.take, Function.comp_def]

/-- Three digits and a padding are two bytes. -/
theorem read_three (known₀ : digit? byte₀ = some digit₀) (known₁ : digit? byte₁ = some digit₁)
    (known₂ : digit? byte₂ = some digit₂) (rest : List UInt8) :
    read .start (byte₀ :: byte₁ :: byte₂ :: 61 :: rest) =
      some [UInt8.ofNat (digit₀ * 4 + digit₁ / 16),
        UInt8.ofNat (digit₁ % 16 * 16 + digit₂ / 4)] := by
  rw [read_digit known₀, read_digit known₁, read_digit known₂, read_padding]
  simp [Group.start, Group.take, Group.pad?]

/-- Two digits and two paddings are one byte. -/
theorem read_two (known₀ : digit? byte₀ = some digit₀) (known₁ : digit? byte₁ = some digit₁)
    (rest : List UInt8) :
    read .start (byte₀ :: byte₁ :: 61 :: 61 :: rest) =
      some [UInt8.ofNat (digit₀ * 4 + digit₁ / 16)] := by
  rw [read_digit known₀, read_digit known₁, read_padding]
  simp [Group.start, Group.take, Group.pad?, read_padding]

end Groups

/-! ### The alphabet of URLs -/

/-- `bytes.translate` of `base64.urlsafe_b64decode`. -/
def fromUrlsafe (byte : UInt8) : UInt8 :=
  if byte = 45 then 43 else if byte = 95 then 47 else byte

/-- `base64.urlsafe_b64decode(bytes)` -/
def urlsafeB64decode (bytes : List UInt8) : Option (List UInt8) :=
  a2b (bytes.map fromUrlsafe)

end Base64

end LlmObs.Foundation
