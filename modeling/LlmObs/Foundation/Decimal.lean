import Mathlib.Data.Int.Log
import Mathlib.Algebra.Order.Archimedean.Real.Basic
import Mathlib.Data.Rat.Floor

/-!
Owns decimal arithmetic on exact rationals: the 28-digit context that rounds
half to even, `quantize`, and the half-away rounding of a `NUMERIC` column.
-/

namespace LlmObs.Foundation

namespace Decimal

/-- Nearest integer, ties to the even one. -/
def roundHalfEven (value : ℚ) : ℤ :=
  let lower := ⌊value⌋
  let rest := value - lower
  if rest < 1 / 2 then lower
  else if 1 / 2 < rest then lower + 1
  else if lower % 2 = 0 then lower
  else lower + 1

/-- Nearest integer, ties away from zero. -/
def roundHalfAway (value : ℚ) : ℤ :=
  if 0 ≤ value then ⌊value + 1 / 2⌋ else ⌈value - 1 / 2⌉

/-- `value.quantize(Decimal("0." + "0" * (places - 1) + "1"))`. -/
def quantize (places : ℕ) (value : ℚ) : ℚ :=
  roundHalfEven (value * 10 ^ places) / 10 ^ places

/-- Significant digits of the default context. -/
def contextPrecision : ℕ := 28

/-- `quantize`, or `none` for the `InvalidOperation` of a coefficient that does
not fit the context. -/
def quantize? (places : ℕ) (value : ℚ) : Option ℚ :=
  let rounded := quantize places value
  if |rounded| * 10 ^ places < 10 ^ contextPrecision then some rounded else none

/-- What a `NUMERIC(p, scale)` column stores. -/
def toNumeric (scale : ℕ) (value : ℚ) : ℚ :=
  roundHalfAway (value * 10 ^ scale) / 10 ^ scale

/-- Round a result to the significant digits of the default context. -/
def inContext (value : ℚ) : ℚ :=
  if value = 0 then 0
  else
    let exponent : ℤ := Int.log 10 |value| - (contextPrecision - 1)
    roundHalfEven (value / 10 ^ exponent) * 10 ^ exponent

def add (left right : ℚ) : ℚ := inContext (left + right)
def mul (left right : ℚ) : ℚ := inContext (left * right)
def div (left right : ℚ) : ℚ := inContext (left / right)

/-! ### Exact values -/

@[simp] theorem roundHalfEven_intCast (number : ℤ) : roundHalfEven (number : ℚ) = number := by
  simp [roundHalfEven]

@[simp] theorem roundHalfAway_intCast (number : ℤ) : roundHalfAway (number : ℚ) = number := by
  unfold roundHalfAway
  split
  · rw [Int.floor_eq_iff]
    constructor <;> linarith
  · rw [Int.ceil_eq_iff]
    constructor <;> linarith

/-- A decimal with at most `places` digits behind the point. -/
def Scaled (places : ℕ) (value : ℚ) : Prop := ∃ number : ℤ, value = number / 10 ^ places

theorem scaled_zero (places : ℕ) : Scaled places 0 := ⟨0, by simp⟩

/-- Below an even number, a tie rounds up to it. -/
theorem roundHalfEven_lt_iff {value : ℚ} {number : ℤ} (even : number % 2 = 0) :
    roundHalfEven value < number ↔ value < number - 1 / 2 := by
  have above := Int.floor_le value
  have below := Int.lt_floor_add_one value
  rw [roundHalfEven]
  generalize ⌊value⌋ = lower at above below
  rcases lt_trichotomy (lower + 1) number with less | equal | greater
  · -- The value is not above the number that is one smaller.
    have cast : (lower : ℚ) + 1 ≤ number - 1 := by
      exact_mod_cast (by omega : lower + 1 ≤ number - 1)
    refine iff_of_true ?_ (by linarith)
    split
    · omega
    · split
      · omega
      · split <;> omega
  · have cast : (lower : ℚ) = number - 1 := by
      exact_mod_cast (by omega : lower = number - 1)
    rw [cast]
    split
    · exact iff_of_true (by omega) (by linarith)
    · split
      · exact iff_of_false (by omega) (by linarith)
      · rw [if_neg (by omega)]
        exact iff_of_false (by omega) (by linarith)
  · have cast : (number : ℚ) ≤ lower := by
      exact_mod_cast (by omega : number ≤ lower)
    refine iff_of_false ?_ (by linarith)
    split
    · omega
    · split
      · omega
      · split <;> omega

theorem roundHalfEven_nonneg {value : ℚ} (nonneg : 0 ≤ value) : 0 ≤ roundHalfEven value := by
  have lower : 0 ≤ ⌊value⌋ := Int.floor_nonneg.mpr nonneg
  rw [roundHalfEven]
  split
  · exact lower
  · split
    · omega
    · split <;> omega

theorem quantize_nonneg {places : ℕ} {value : ℚ} (nonneg : 0 ≤ value) :
    0 ≤ quantize places value := by
  have rounded : 0 ≤ roundHalfEven (value * 10 ^ places) :=
    roundHalfEven_nonneg (by positivity)
  rw [quantize]
  exact div_nonneg (by exact_mod_cast rounded) (by positivity)

/-- A rounded value is below a limit of whole steps if the value is half a step below it. -/
theorem quantize_lt_iff {places : ℕ} {value : ℚ} {steps : ℤ} (even : steps % 2 = 0) :
    quantize places value < steps / 10 ^ places ↔ value * 10 ^ places < steps - 1 / 2 := by
  rw [quantize, div_lt_div_iff_of_pos_right (by positivity), Int.cast_lt,
    roundHalfEven_lt_iff even]

theorem scaled_quantize (places : ℕ) (value : ℚ) : Scaled places (quantize places value) :=
  ⟨_, rfl⟩

theorem Scaled.add {places : ℕ} {left right : ℚ} (leftScaled : Scaled places left)
    (rightScaled : Scaled places right) : Scaled places (left + right) := by
  obtain ⟨first, rfl⟩ := leftScaled
  obtain ⟨second, rfl⟩ := rightScaled
  exact ⟨first + second, by rw [Int.cast_add, add_div]⟩

theorem Scaled.mul_natCast {places : ℕ} {value : ℚ} (scaled : Scaled places value)
    (count : ℕ) : Scaled places (value * count) := by
  obtain ⟨number, rfl⟩ := scaled
  exact ⟨number * count, by push_cast; ring⟩

theorem Scaled.div_pow {places : ℕ} {value : ℚ} (scaled : Scaled places value) (more : ℕ) :
    Scaled (places + more) (value / 10 ^ more) := by
  obtain ⟨number, rfl⟩ := scaled
  exact ⟨number, by rw [pow_add, div_div]⟩

theorem scaled_sum {places : ℕ} {values : List ℚ}
    (scaled : ∀ value ∈ values, Scaled places value) : Scaled places values.sum := by
  induction values with
  | nil => exact scaled_zero places
  | cons value rest inductionHypothesis =>
      rw [List.forall_mem_cons] at scaled
      rw [List.sum_cons]
      exact scaled.1.add (inductionHypothesis scaled.2)

theorem scaled_of_quantize? {places : ℕ} {value rounded : ℚ}
    (quantized : quantize? places value = some rounded) : Scaled places rounded := by
  unfold quantize? at quantized
  dsimp only at quantized
  split at quantized
  · cases quantized
    exact ⟨_, rfl⟩
  · cases quantized

/-- A column of the same scale stores the value itself. -/
theorem Scaled.toNumeric {places : ℕ} {value : ℚ} (scaled : Scaled places value) :
    toNumeric places value = value := by
  obtain ⟨number, rfl⟩ := scaled
  have power : (10 : ℚ) ^ places ≠ 0 := by positivity
  rw [Decimal.toNumeric, div_mul_cancel₀ _ power, roundHalfAway_intCast]

/-- The context rounds nothing off a value that fits its digits. -/
theorem Scaled.inContext {places : ℕ} {value : ℚ} (scaled : Scaled places value)
    (fits : |value| * 10 ^ places < 10 ^ contextPrecision) : inContext value = value := by
  unfold Decimal.inContext
  split
  · rename_i zero
    exact zero.symm
  · rename_i nonzero
    obtain ⟨number, rfl⟩ := scaled
    have positive : 0 < |(number : ℚ) / 10 ^ places| := abs_pos.mpr nonzero
    -- The exponent of the last kept digit is not above that of the value.
    have small : Int.log 10 |(number : ℚ) / 10 ^ places| < contextPrecision - places := by
      rw [← Int.lt_zpow_iff_log_lt (by norm_num) positive, Nat.cast_ofNat,
        zpow_sub₀ (by norm_num), lt_div_iff₀ (zpow_pos (by norm_num) _)]
      exact_mod_cast fits
    have digits : ∃ spare : ℕ,
        Int.log 10 |(number : ℚ) / 10 ^ places| - (contextPrecision - 1) = -places - spare := by
      obtain ⟨spare, same⟩ := Int.eq_ofNat_of_zero_le
        (show 0 ≤ -(places : ℤ) - (Int.log 10 |(number : ℚ) / 10 ^ places| -
          (contextPrecision - 1)) by omega)
      exact ⟨spare, by omega⟩
    obtain ⟨spare, exponent⟩ := digits
    have shifted : (number : ℚ) / 10 ^ places / 10 ^ (-(places : ℤ) - spare) =
        ((number * 10 ^ spare : ℤ) : ℚ) := by
      rw [zpow_sub₀ (by norm_num), zpow_neg, zpow_natCast, zpow_natCast]
      push_cast
      field_simp
    dsimp only
    rw [exponent, shifted, roundHalfEven_intCast, ← shifted]
    field_simp

theorem Scaled.add_eq {places : ℕ} {left right : ℚ} (leftScaled : Scaled places left)
    (rightScaled : Scaled places right)
    (fits : |left + right| * 10 ^ places < 10 ^ contextPrecision) :
    Decimal.add left right = left + right :=
  (leftScaled.add rightScaled).inContext fits

end Decimal

end LlmObs.Foundation
