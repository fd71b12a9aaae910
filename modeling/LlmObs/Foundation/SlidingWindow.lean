import Mathlib.Algebra.Order.Group.Basic
import Mathlib.Algebra.Order.Group.Defs
import Mathlib.Data.List.Basic

/-!
Owns limits over a sliding window: a log of decisions, newest first, in which every
admission found few decisions in the window that ends with it admits no more than
that in any window of the same width.
-/

namespace LlmObs.Foundation

universe u v

namespace SlidingWindow

variable {Decision : Type u} {Time : Type v} [AddCommGroup Time] [LinearOrder Time]

/-- What a log says about the window of `width` that ends at `now`. -/
def recent (time : Decision → Time) (width now : Time) (log : List Decision) : List Decision :=
  log.filter fun decision => now - width < time decision

/-- Every admission is within the limit of its own window, itself included. -/
def WithinLimit (time : Decision → Time) (admitted : Decision → Bool) (width : Time)
    (limit : Nat) : List Decision → Prop
  | [] => True
  | decision :: earlier =>
      (admitted decision →
        (recent time width (time decision) (decision :: earlier)).length ≤ limit) ∧
      WithinLimit time admitted width limit earlier

/-- Times of which no two are `width` apart. -/
def Narrow (width : Time) (inside : Time → Bool) : Prop :=
  ∀ left right, inside left → inside right → left - width < right

/-- `[start, start + width)` -/
def fromStart (width start : Time) (time : Time) : Bool :=
  start ≤ time ∧ time < start + width

/-- `(start, start + width]` -/
def afterStart (width start : Time) (time : Time) : Bool :=
  start < time ∧ time ≤ start + width

section Ordered

variable [IsOrderedAddMonoid Time]

theorem narrow_fromStart (width start : Time) : Narrow width (fromStart width start) := by
  intro left right leftInside rightInside
  simp only [fromStart, decide_eq_true_eq] at leftInside rightInside
  calc left - width < start := sub_lt_iff_lt_add.mpr leftInside.2
    _ ≤ right := rightInside.1

theorem narrow_afterStart (width start : Time) : Narrow width (afterStart width start) := by
  intro left right leftInside rightInside
  simp only [afterStart, decide_eq_true_eq] at leftInside rightInside
  calc left - width ≤ start := sub_le_iff_le_add.mpr leftInside.2
    _ < right := rightInside.1

end Ordered

variable {time : Decision → Time} {admitted : Decision → Bool} {width : Time} {limit : Nat}
  {log : List Decision}

/-- By induction on the log: the newest admission in the window has all the others in
the window that ends with it. -/
theorem WithinLimit.length_admitted_le (within : WithinLimit time admitted width limit log)
    {inside : Time → Bool} (narrow : Narrow width inside) :
    (log.filter fun decision => admitted decision && inside (time decision)).length ≤ limit := by
  induction log with
  | nil => exact Nat.zero_le _
  | cons decision earlier inductionHypothesis =>
      obtain ⟨newest, before⟩ := within
      rw [List.filter_cons]
      split
      · rename_i counted
        rw [Bool.and_eq_true] at counted
        have sublist : (decision :: earlier.filter fun other =>
            admitted other && inside (time other)).length ≤
              (recent time width (time decision) (decision :: earlier)).length := by
          have self : time decision - width < time decision := narrow _ _ counted.2 counted.2
          rw [recent, List.filter_cons_of_pos (by simpa using self)]
          apply Nat.succ_le_succ
          apply List.Sublist.length_le
          apply List.monotone_filter_right
          intro other chosen
          rw [Bool.and_eq_true] at chosen
          rw [decide_eq_true_eq]
          exact narrow _ _ counted.2 chosen.2
        exact sublist.trans (newest counted.1)
      · exact inductionHypothesis before

/-- A later window sees fewer of the decisions. -/
theorem recent_sublist [IsOrderedAddMonoid Time] {now later : Time} (ordered : now ≤ later) :
    (recent time width later log).Sublist (recent time width now log) := by
  apply List.monotone_filter_right
  intro decision chosen
  rw [decide_eq_true_eq] at chosen ⊢
  exact (sub_le_sub_right ordered width).trans_lt chosen

theorem mem_recent {now : Time} {decision : Decision} :
    decision ∈ recent time width now log ↔ decision ∈ log ∧ now - width < time decision := by
  simp [recent]

/-- From the newest decision on, a window holds that decision and what the window that
ended with it held. -/
theorem recent_cons_sublist [IsOrderedAddMonoid Time] {newest : Decision} {now : Time}
    (later : time newest ≤ now) :
    (recent time width now (newest :: log)).Sublist
      (newest :: recent time width (time newest) log) := by
  rw [recent, List.filter_cons]
  split
  · exact (recent_sublist later).cons_cons newest
  · exact (recent_sublist later).cons newest

end SlidingWindow

end LlmObs.Foundation
