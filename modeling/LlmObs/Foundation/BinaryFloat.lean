import LlmObs.Foundation.Decimal
import Mathlib.Order.WithBot

/-!
Owns the conversion of exact numbers to binary floats of 53 digits: to the nearest one, ties
to the even one, with the smallest exponent kept and infinity beyond the largest. It keeps the
order of numbers that are not negative.
-/

namespace LlmObs.Foundation

open Decimal

/-- A float that is not `nan`. -/
abbrev BinaryFloat := WithBot (WithTop ℚ)

/-- The exponent of the last digit that a float keeps. -/
def lastExponent (value : ℚ) : ℤ := max (Int.log 2 value - 52) (-1074)

/-- The nearest multiple of the last digit, ties to the even one. -/
def roundBinary (value : ℚ) : ℚ :=
  roundHalfEven (value / 2 ^ lastExponent value) * 2 ^ lastExponent value

/-- `float(value)` -/
def toFloat (value : ℚ) : BinaryFloat :=
  let rounded := if 0 ≤ value then roundBinary value else -roundBinary (-value)
  if 2 ^ 1024 ≤ rounded then ⊤
  else if rounded ≤ -2 ^ 1024 then ⊥
  else ((rounded : WithTop ℚ) : BinaryFloat)

theorem roundHalfEven_mono {left right : ℚ} (ordered : left ≤ right) :
    roundHalfEven left ≤ roundHalfEven right := by
  have floors : ⌊left⌋ ≤ ⌊right⌋ := Int.floor_mono ordered
  have bounds (value : ℚ) :
      ⌊value⌋ ≤ roundHalfEven value ∧ roundHalfEven value ≤ ⌊value⌋ + 1 := by
    rw [roundHalfEven]
    split
    · omega
    · split
      · omega
      · split <;> omega
  rcases floors.lt_or_eq with below | same
  · have leftBound := (bounds left).2
    have rightBound := (bounds right).1
    omega
  · -- Between the same two integers the larger rest rounds up first.
    have rests : left - ⌊right⌋ ≤ right - ⌊right⌋ := sub_le_sub_right ordered _
    have rightBound := (bounds right).1
    rw [roundHalfEven, roundHalfEven, same] at *
    generalize left - (⌊right⌋ : ℚ) = leftRest at *
    generalize right - (⌊right⌋ : ℚ) = rightRest at *
    by_cases leftLow : leftRest < 1 / 2
    · simpa only [if_pos leftLow] using rightBound
    · have rightHigh : ¬ rightRest < 1 / 2 := fun low => leftLow (rests.trans_lt low)
      simp only [if_neg leftLow, if_neg rightHigh]
      by_cases leftHigh : 1 / 2 < leftRest
      · rw [if_pos leftHigh, if_pos (leftHigh.trans_le rests)]
      · rw [if_neg leftHigh]
        split
        · split <;> omega
        · rw [ite_self]

theorem two_zpow_pos (exponent : ℤ) : (0 : ℚ) < 2 ^ exponent := zpow_pos (by norm_num) exponent

theorem roundHalfEven_le {value : ℚ} {number : ℤ} (below : value ≤ number) :
    roundHalfEven value ≤ number :=
  (roundHalfEven_mono below).trans_eq (roundHalfEven_intCast number)

theorem le_roundHalfEven {value : ℚ} {number : ℤ} (above : (number : ℚ) ≤ value) :
    number ≤ roundHalfEven value :=
  (roundHalfEven_intCast number).symm.trans_le (roundHalfEven_mono above)

theorem roundBinary_nonneg {value : ℚ} (nonneg : 0 ≤ value) : 0 ≤ roundBinary value := by
  have rounded : 0 ≤ roundHalfEven (value / 2 ^ lastExponent value) :=
    roundHalfEven_nonneg (div_nonneg nonneg (two_zpow_pos _).le)
  rw [roundBinary]
  exact mul_nonneg (by exact_mod_cast rounded) (two_zpow_pos _).le

theorem lastExponent_mono {left right : ℚ} (positive : 0 < left) (ordered : left ≤ right) :
    lastExponent left ≤ lastExponent right :=
  max_le_max_right _ (sub_le_sub_right (Int.log_mono_right positive ordered) _)

/-- Rounding keeps the order: of two numbers with different last digits, a power of two lies
between, and both roundings stop at it. -/
theorem roundBinary_mono {left right : ℚ} (nonneg : 0 ≤ left) (ordered : left ≤ right) :
    roundBinary left ≤ roundBinary right := by
  rcases nonneg.eq_or_lt with rfl | positive
  · have zero : roundBinary 0 = 0 := by
      rw [roundBinary, zero_div]
      have none' : roundHalfEven 0 = 0 := by exact_mod_cast roundHalfEven_intCast 0
      rw [none', Int.cast_zero, zero_mul]
    exact zero.trans_le (roundBinary_nonneg ordered)
  · rcases (lastExponent_mono positive ordered).lt_or_eq with less | same
    · have normal : lastExponent right = Int.log 2 right - 52 := by
        rw [lastExponent, max_eq_left]
        by_contra small
        have floor : lastExponent right = -1074 := max_eq_right (not_le.mp small).le
        have leftFloor : -1074 ≤ lastExponent left := le_max_right _ _
        omega
      have logs : Int.log 2 left + 1 ≤ lastExponent right + 52 := by
        have leftDigits : Int.log 2 left - 52 ≤ lastExponent left := le_max_left _ _
        omega
      -- The power of two, in digits of the left and of the right number.
      obtain ⟨digits, digits_eq⟩ : ∃ digits : ℕ,
          lastExponent right + 52 = lastExponent left + digits :=
        ⟨(lastExponent right + 52 - lastExponent left).toNat, by omega⟩
      have leftBelow : left ≤ 2 ^ (lastExponent right + 52) := by
        have bound := Int.lt_zpow_succ_log_self (by norm_num : 1 < 2) left
        exact bound.le.trans (zpow_le_zpow_right₀ (by norm_num) logs)
      have rightAbove : 2 ^ (lastExponent right + 52) ≤ right := by
        rw [normal, sub_add_cancel]
        exact Int.zpow_log_le_self (by norm_num) (positive.trans_le ordered)
      have leftRounded : roundBinary left ≤ 2 ^ (lastExponent right + 52) := by
        have scaled : left / 2 ^ lastExponent left ≤ ((2 ^ digits : ℤ) : ℚ) := by
          rw [div_le_iff₀ (two_zpow_pos _)]
          refine leftBelow.trans_eq ?_
          rw [digits_eq, zpow_add₀ (by norm_num), zpow_natCast, mul_comm]
          push_cast
          rfl
        have rounded : ((roundHalfEven (left / 2 ^ lastExponent left) : ℤ) : ℚ) ≤
            ((2 ^ digits : ℤ) : ℚ) := by exact_mod_cast roundHalfEven_le scaled
        rw [roundBinary, digits_eq, zpow_add₀ (by norm_num), zpow_natCast, mul_comm]
        refine mul_le_mul_of_nonneg_left (rounded.trans_eq (by push_cast; rfl))
          (two_zpow_pos _).le
      have rightRounded : 2 ^ (lastExponent right + 52) ≤ roundBinary right := by
        have scaled : ((2 ^ 52 : ℤ) : ℚ) ≤ right / 2 ^ lastExponent right := by
          rw [le_div_iff₀ (two_zpow_pos _)]
          refine (Eq.trans_le ?_ rightAbove)
          rw [zpow_add₀ (by norm_num), mul_comm]
          norm_num
        have rounded : ((2 ^ 52 : ℤ) : ℚ) ≤
            ((roundHalfEven (right / 2 ^ lastExponent right) : ℤ) : ℚ) := by
          exact_mod_cast le_roundHalfEven scaled
        rw [roundBinary, zpow_add₀ (by norm_num), mul_comm]
        refine mul_le_mul_of_nonneg_right (Eq.trans_le (by norm_num) rounded) (two_zpow_pos _).le
      exact leftRounded.trans rightRounded
    · rw [roundBinary, roundBinary, same]
      have power := two_zpow_pos (lastExponent right)
      refine mul_le_mul_of_nonneg_right ?_ power.le
      exact_mod_cast roundHalfEven_mono (div_le_div_of_nonneg_right ordered power.le)

theorem toFloat_of_nonneg {value : ℚ} (nonneg : 0 ≤ value) :
    toFloat value = if 2 ^ 1024 ≤ roundBinary value then ⊤
      else ((roundBinary value : WithTop ℚ) : BinaryFloat) := by
  have least : ¬ roundBinary value ≤ -2 ^ 1024 := by
    have rounded := roundBinary_nonneg nonneg
    have power : (0 : ℚ) < 2 ^ 1024 := by norm_num
    exact not_le.mpr ((neg_neg_of_pos power).trans_le rounded)
  simp only [toFloat, if_pos nonneg, if_neg least]

/-- The conversion keeps the order. -/
theorem toFloat_mono {left right : ℚ} (nonneg : 0 ≤ left) (ordered : left ≤ right) :
    toFloat left ≤ toFloat right := by
  have rounded := roundBinary_mono nonneg ordered
  rw [toFloat_of_nonneg nonneg, toFloat_of_nonneg (nonneg.trans ordered)]
  split
  · rw [if_pos (le_trans ‹_› rounded)]
  · split
    · exact le_top
    · exact WithBot.coe_le_coe.mpr (WithTop.coe_le_coe.mpr rounded)

@[simp] theorem toFloat_zero : toFloat 0 = 0 := by
  have none' : roundHalfEven 0 = 0 := by exact_mod_cast roundHalfEven_intCast 0
  rw [toFloat_of_nonneg (le_refl 0), roundBinary, zero_div, none', Int.cast_zero, zero_mul,
    if_neg (by norm_num)]
  rfl

theorem toFloat_nonneg {value : ℚ} (nonneg : 0 ≤ value) : 0 ≤ toFloat value :=
  toFloat_zero.symm.trans_le (toFloat_mono (le_refl 0) nonneg)

end LlmObs.Foundation
