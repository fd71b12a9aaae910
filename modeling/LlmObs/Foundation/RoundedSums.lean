import LlmObs.Foundation.Decimal
import Mathlib.Algebra.BigOperators.Group.List.Lemmas
import Mathlib.Algebra.Order.BigOperators.Group.List
import Mathlib.Data.List.Perm.Subperm

/-!
Owns sums that are rounded to a number of decimals: rounding values one by one gives what
rounding any sum of them gives, exactly when what rounding takes off, and what it adds, stay
below half a unit in total.
-/

namespace LlmObs.Foundation.Decimal

/-! ### Remainders -/

/-- What rounding takes off a value, in units of its last decimal. -/
def remainder (scale : ℕ) (value : ℚ) : ℚ :=
  value * 10 ^ scale - roundHalfAway (value * 10 ^ scale)

/-- A value that is not negative rounds to the integers less than half a unit below it, and up
to half a unit above. -/
theorem roundHalfAway_eq_iff {value : ℚ} (nonneg : 0 ≤ value) (number : ℤ) :
    roundHalfAway value = number ↔ -(1 / 2) ≤ value - number ∧ value - number < 1 / 2 := by
  rw [roundHalfAway, if_pos nonneg, Int.floor_eq_iff]
  constructor
  · rintro ⟨lower, upper⟩
    constructor <;> linarith
  · rintro ⟨lower, upper⟩
    constructor <;> linarith

theorem sum_remainder (scale : ℕ) (values : List ℚ) :
    (values.map (remainder scale)).sum =
      values.sum * 10 ^ scale -
        (values.map fun value => roundHalfAway (value * 10 ^ scale)).sum := by
  induction values with
  | nil => simp
  | cons value rest inductionHypothesis =>
      simp only [List.map_cons, List.sum_cons, inductionHypothesis, Int.cast_add, add_mul,
        remainder]
      ring

theorem sum_toNumeric (scale : ℕ) (values : List ℚ) :
    (values.map (toNumeric scale)).sum =
      (values.map fun value => roundHalfAway (value * 10 ^ scale)).sum / 10 ^ scale := by
  induction values with
  | nil => simp
  | cons value rest inductionHypothesis =>
      simp only [List.map_cons, List.sum_cons, inductionHypothesis, Int.cast_add, add_div,
        toNumeric]

/-- The sum rounds to the sum of the rounded values when the remainders nearly cancel. -/
theorem toNumeric_sum_eq_iff {scale : ℕ} {values : List ℚ}
    (nonneg : ∀ value ∈ values, 0 ≤ value) :
    toNumeric scale values.sum = (values.map (toNumeric scale)).sum ↔
      -(1 / 2) ≤ (values.map (remainder scale)).sum ∧
        (values.map (remainder scale)).sum < 1 / 2 := by
  have power : (0 : ℚ) < 10 ^ scale := by positivity
  have total : 0 ≤ values.sum * 10 ^ scale :=
    mul_nonneg (List.sum_nonneg nonneg) power.le
  rw [sum_toNumeric, toNumeric, div_left_inj' power.ne', Int.cast_inj,
    roundHalfAway_eq_iff total, sum_remainder]

/-! ### Every choice of values -/

section Choices

variable {Row : Type*} (error : Row → ℚ)

/-- No choice of rows exceeds all rows that count. -/
theorem sum_le_sum_positive {chosen rows : List Row} (subperm : chosen.Subperm rows) :
    (chosen.map error).sum ≤ ((rows.filter fun row => 0 < error row).map error).sum := by
  obtain ⟨selected, permuted, sublist⟩ := subperm
  rw [← (permuted.map error).sum_eq]
  clear permuted
  induction sublist with
  | slnil => exact le_refl _
  | cons row sublist inductionHypothesis =>
      by_cases positive : 0 < error row
      · rw [List.filter_cons_of_pos (by simpa using positive), List.map_cons, List.sum_cons]
        linarith
      · rwa [List.filter_cons_of_neg (by simpa using positive)]
  | cons_cons row sublist inductionHypothesis =>
      rw [List.map_cons, List.sum_cons]
      by_cases positive : 0 < error row
      · rw [List.filter_cons_of_pos (by simpa using positive), List.map_cons, List.sum_cons]
        linarith
      · rw [List.filter_cons_of_neg (by simpa using positive)]
        linarith

/-- The same bound from below. -/
theorem sum_negative_le_sum {chosen rows : List Row} (subperm : chosen.Subperm rows) :
    ((rows.filter fun row => error row < 0).map error).sum ≤ (chosen.map error).sum := by
  have negated (rows : List Row) :
      (rows.map fun row => -error row).sum = -(rows.map error).sum := by
    induction rows with
    | nil => simp
    | cons row rest inductionHypothesis =>
        rw [List.map_cons, List.sum_cons, inductionHypothesis, List.map_cons, List.sum_cons]
        ring
  have bound := sum_le_sum_positive (fun row => -error row) subperm
  simp only [Left.neg_pos_iff] at bound
  rw [negated, negated] at bound
  linarith

/-- Every choice of rows rounds to what they round to one by one, exactly when neither the rows
rounded down nor the rows rounded up lose half a unit together. -/
theorem toNumeric_sums_iff {scale : ℕ} {column : Row → ℚ} {rows : List Row}
    (nonneg : ∀ row ∈ rows, 0 ≤ column row) :
    (∀ chosen : List Row, chosen.Subperm rows →
        toNumeric scale (chosen.map column).sum =
          (chosen.map fun row => toNumeric scale (column row)).sum) ↔
      -(1 / 2) ≤ ((rows.filter fun row => remainder scale (column row) < 0).map fun row =>
          remainder scale (column row)).sum ∧
        ((rows.filter fun row => 0 < remainder scale (column row)).map fun row =>
          remainder scale (column row)).sum < 1 / 2 := by
  have each {chosen : List Row} (subperm : chosen.Subperm rows) :
      toNumeric scale (chosen.map column).sum =
          (chosen.map fun row => toNumeric scale (column row)).sum ↔
        -(1 / 2) ≤ (chosen.map fun row => remainder scale (column row)).sum ∧
          (chosen.map fun row => remainder scale (column row)).sum < 1 / 2 := by
    have chosenNonneg : ∀ value ∈ chosen.map column, 0 ≤ value := by
      intro value member
      obtain ⟨row, known, rfl⟩ := List.mem_map.mp member
      exact nonneg row (subperm.subset known)
    have sums : toNumeric scale (chosen.map column).sum =
          ((chosen.map column).map (toNumeric scale)).sum ↔
        -(1 / 2) ≤ ((chosen.map column).map (remainder scale)).sum ∧
          ((chosen.map column).map (remainder scale)).sum < 1 / 2 :=
      toNumeric_sum_eq_iff chosenNonneg
    rw [List.map_map, List.map_map] at sums
    exact sums
  constructor
  · intro all
    have down := (each List.filter_sublist.subperm).mp
      (all (rows.filter fun row => remainder scale (column row) < 0) List.filter_sublist.subperm)
    have up := (each List.filter_sublist.subperm).mp
      (all (rows.filter fun row => 0 < remainder scale (column row)) List.filter_sublist.subperm)
    exact ⟨down.1, up.2⟩
  · rintro ⟨down, up⟩ chosen subperm
    rw [each subperm]
    exact ⟨down.trans (sum_negative_le_sum _ subperm),
      (sum_le_sum_positive _ subperm).trans_lt up⟩

end Choices

end LlmObs.Foundation.Decimal
