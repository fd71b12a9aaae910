import Mathlib.Algebra.Order.Ring.Int
import Mathlib.Data.List.Nodup
import Mathlib.Data.List.Range
import Mathlib.Tactic.Ring

/-!
Owns instants truncated to steps of a fixed size, on a clock with a fixed offset, and the
series of the truncated instants between two of them.
-/

namespace LlmObs.Foundation

/-- `date_trunc` to steps of one size, on a clock with the offset. -/
def dateTrunc (size offset instant : Int) : Int := instant - (instant + offset) % size

/-- `generate_series(first, last, step)` -/
def generateSeries (first last step : Int) : List Int :=
  (List.range ((last - first) / step + 1).toNat).map fun index : Nat => first + index * step

section

variable {size : Int} (positive : 0 < size) (offset : Int)

include positive

theorem dateTrunc_le (instant : Int) : dateTrunc size offset instant ≤ instant := by
  have rest := Int.emod_nonneg (instant + offset) positive.ne'
  rw [dateTrunc]
  omega

theorem lt_dateTrunc_add (instant : Int) : instant < dateTrunc size offset instant + size := by
  have rest := Int.emod_lt_of_pos (instant + offset) positive
  rw [dateTrunc]
  omega

omit positive in
/-- A truncated instant is a whole number of steps, shifted by the offset. -/
theorem dateTrunc_eq (instant : Int) :
    dateTrunc size offset instant = size * ((instant + offset) / size) - offset := by
  have parts := Int.emod_add_mul_ediv (instant + offset) size
  rw [dateTrunc]
  omega

/-- Two truncated instants are ordered as the end of the later step says. -/
theorem dateTrunc_le_iff (instant last : Int) :
    dateTrunc size offset instant ≤ dateTrunc size offset last ↔
      instant < dateTrunc size offset last + size := by
  constructor
  · intro ordered
    have inside := lt_dateTrunc_add positive offset instant
    omega
  · intro before
    have start := dateTrunc_le positive offset instant
    rw [dateTrunc_eq, dateTrunc_eq] at *
    have steps : size * ((instant + offset) / size) < size * ((last + offset) / size + 1) := by
      rw [mul_add, mul_one]
      omega
    have ordered := Int.lt_add_one_iff.mp (lt_of_mul_lt_mul_left steps positive.le)
    have scaled := mul_le_mul_of_nonneg_left ordered positive.le
    omega

theorem dateTrunc_mono {first last : Int} (ordered : first ≤ last) :
    dateTrunc size offset first ≤ dateTrunc size offset last :=
  (dateTrunc_le_iff positive offset first last).mpr
    (ordered.trans_lt (lt_dateTrunc_add positive offset last))

/-- The series has every step between its ends. -/
theorem mem_generateSeries {first last value : Int} :
    value ∈ generateSeries first last size ↔
      first ≤ value ∧ value ≤ last ∧ size ∣ value - first := by
  rw [generateSeries, List.mem_map]
  constructor
  · rintro ⟨index, member, rfl⟩
    have bound := List.mem_range.mp member
    have index_le : (index : Int) ≤ (last - first) / size := by omega
    have step := (Int.le_ediv_iff_mul_le positive).mp index_le
    have nonneg : 0 ≤ (index : Int) * size := mul_nonneg (Int.natCast_nonneg _) positive.le
    exact ⟨by omega, by omega, ⟨index, by ring⟩⟩
  · rintro ⟨above, below, steps, count⟩
    have nonneg : 0 ≤ steps := by
      by_contra negative
      have less := mul_neg_of_pos_of_neg positive (not_le.mp negative)
      omega
    have within : steps ≤ (last - first) / size := by
      rw [Int.le_ediv_iff_mul_le positive, mul_comm]
      omega
    refine ⟨steps.toNat, List.mem_range.mpr (by omega), ?_⟩
    rw [Int.toNat_of_nonneg nonneg, mul_comm]
    omega

theorem nodup_generateSeries (first last : Int) : (generateSeries first last size).Nodup := by
  refine List.Nodup.map (fun left right same => ?_) List.nodup_range
  have scaled : (left : Int) * size = right * size := by
    omega
  exact_mod_cast mul_right_cancel₀ positive.ne' scaled

/-- The series of truncated instants has the step of an instant from its first step on,
exactly when the instant is before the end of the last step. -/
theorem dateTrunc_mem_generateSeries {first last instant : Int} (from' : first ≤ instant) :
    dateTrunc size offset instant ∈ generateSeries (dateTrunc size offset first)
        (dateTrunc size offset last) size ↔
      instant < dateTrunc size offset last + size := by
  rw [mem_generateSeries positive, dateTrunc_le_iff positive offset instant last]
  have steps : size ∣ dateTrunc size offset instant - dateTrunc size offset first :=
    ⟨(instant + offset) / size - (first + offset) / size, by
      rw [dateTrunc_eq, dateTrunc_eq]
      ring⟩
  exact ⟨fun inside => inside.2.1, fun before =>
    ⟨dateTrunc_mono positive offset from', before, steps⟩⟩

end

end LlmObs.Foundation
