import Mathlib.Data.List.GetD
import Mathlib.Data.List.Sort
import Mathlib.Data.Rat.Floor

/-!
Owns `percentile_cont`: the value at a fraction of a sorted list, between its two neighbours,
in exact arithmetic.
-/

namespace LlmObs.Foundation

/-- `percentile_cont(fraction) WITHIN GROUP (ORDER BY value)`; `none` is the `NULL` of no
values. -/
def percentileCont (fraction : ℚ) (values : List ℚ) : Option ℚ :=
  match values.insertionSort (· ≤ ·) with
  | [] => none
  | sorted@(_ :: rest) =>
      let position := fraction * rest.length
      let below := sorted.getD ⌊position⌋.toNat 0
      let above := sorted.getD ⌈position⌉.toNat 0
      some (below + (position - ⌊position⌋) * (above - below))

@[simp] theorem percentileCont_nil (fraction : ℚ) : percentileCont fraction [] = none := rfl

@[simp] theorem percentileCont_singleton (fraction value : ℚ) :
    percentileCont fraction [value] = some value := by
  simp [percentileCont]

/-- A percentile lies between the bounds of the values. -/
theorem percentileCont_bounds {fraction : ℚ} (nonneg : 0 ≤ fraction) (most : fraction ≤ 1)
    {values : List ℚ} {lower upper result : ℚ}
    (bounded : ∀ value ∈ values, lower ≤ value ∧ value ≤ upper)
    (computed : percentileCont fraction values = some result) :
    lower ≤ result ∧ result ≤ upper := by
  have sortedBounded : ∀ value ∈ values.insertionSort (· ≤ ·), lower ≤ value ∧ value ≤ upper :=
    fun value member => bounded value ((List.perm_insertionSort _ values).subset member)
  unfold percentileCont at computed
  split at computed
  · cases computed
  · rename_i first rest sorted
    rw [sorted] at sortedBounded
    have position_nonneg : 0 ≤ fraction * rest.length := by positivity
    have position_le : fraction * rest.length ≤ rest.length :=
      mul_le_of_le_one_left (by positivity) most
    have floorInside : ⌊fraction * rest.length⌋.toNat < (first :: rest).length := by
      have floor_le : ⌊fraction * rest.length⌋ ≤ (rest.length : ℤ) :=
        Int.floor_le_iff.mpr (by exact_mod_cast position_le.trans_lt (lt_add_one _))
      rw [List.length_cons]
      omega
    have ceilInside : ⌈fraction * rest.length⌉.toNat < (first :: rest).length := by
      have ceil_le : ⌈fraction * rest.length⌉ ≤ (rest.length : ℤ) :=
        Int.ceil_le.mpr (by exact_mod_cast position_le)
      rw [List.length_cons]
      omega
    have below := sortedBounded _ (List.getElem_mem floorInside)
    have above := sortedBounded _ (List.getElem_mem ceilInside)
    rw [Option.some.injEq] at computed
    simp only [List.getD_eq_getElem _ _ floorInside, List.getD_eq_getElem _ _ ceilInside]
      at computed
    have proportion_nonneg := Int.fract_nonneg (fraction * rest.length)
    have proportion_lt := Int.fract_lt_one (fraction * rest.length)
    rw [Int.fract] at proportion_nonneg proportion_lt
    rw [← computed]
    constructor
    · nlinarith
    · nlinarith

end LlmObs.Foundation
