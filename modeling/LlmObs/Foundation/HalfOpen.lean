import Mathlib.Order.Lattice

/-!
Owns half-open ranges `[start, stop)` over a linear order, with or without an
end: which points they cover, when two of them are apart, and what closing a
range at a point leaves of it.

A range that ends where it starts, or earlier, covers nothing and is apart from
every other.
-/

namespace LlmObs.Foundation

universe u

/-- `[start, stop)`; without a `stop` the range does not end. -/
structure HalfOpen (Point : Type u) where
  start : Point
  stop : Option Point
deriving DecidableEq, Repr

namespace HalfOpen

variable {Point : Type u} [LinearOrder Point]

def Covers (range : HalfOpen Point) (point : Point) : Prop :=
  range.start ≤ point ∧ ∀ stop ∈ range.stop, point < stop

instance (range : HalfOpen Point) (point : Point) : Decidable (range.Covers point) :=
  inferInstanceAs (Decidable (_ ∧ _))

/-- The end is not before the start. -/
def Ordered (range : HalfOpen Point) : Prop := ∀ stop ∈ range.stop, range.start ≤ stop

instance (range : HalfOpen Point) : Decidable range.Ordered :=
  inferInstanceAs (Decidable (∀ _ ∈ _, _))

/-- No point is covered by both. -/
def Apart (left right : HalfOpen Point) : Prop :=
  ∀ point, ¬ (left.Covers point ∧ right.Covers point)

/-- The part of a range before a point. -/
def closedAt (range : HalfOpen Point) (point : Point) : HalfOpen Point :=
  { range with stop := some point }

variable {left right range : HalfOpen Point} {point start : Point}

theorem Apart.symm (apart : left.Apart right) : right.Apart left :=
  fun point both => apart point ⟨both.2, both.1⟩

/-- A range that covers some point covers every point from its start up to it. -/
theorem Covers.of_le (covers : range.Covers point) {earlier : Point}
    (started : range.start ≤ earlier) (before : earlier ≤ point) : range.Covers earlier :=
  ⟨started, fun stop ends => lt_of_le_of_lt before (covers.2 stop ends)⟩

/-- Two ranges meet if and only if both cover the later one of their starts. -/
theorem apart_iff : left.Apart right ↔
    ¬ (left.Covers (max left.start right.start) ∧
      right.Covers (max left.start right.start)) := by
  constructor
  · intro apart
    exact apart _
  · intro missed point both
    apply missed
    have before : max left.start right.start ≤ point := max_le both.1.1 both.2.1
    exact ⟨both.1.of_le (le_max_left ..) before, both.2.of_le (le_max_right ..) before⟩

instance (left right : HalfOpen Point) : Decidable (left.Apart right) :=
  decidable_of_iff _ apart_iff.symm

theorem apart_iff_of_le (ordered : left.start ≤ right.start) :
    left.Apart right ↔ ¬ (left.Covers right.start ∧ right.Covers right.start) := by
  rw [apart_iff, max_eq_right ordered]

/-- A range without an end meets every later range that is not empty. -/
theorem apart_unending_iff (ordered : start ≤ range.start) :
    range.Apart ⟨start, none⟩ ↔ ¬ range.Covers range.start := by
  have started : (⟨start, none⟩ : HalfOpen Point).Covers range.start :=
    ⟨ordered, by simp⟩
  constructor
  · intro apart covers
    exact apart range.start ⟨covers, started⟩
  · intro empty point both
    exact empty (both.1.of_le le_rfl both.1.1)

/-- A range closed at a point covers nothing from that point on. -/
theorem not_covers_closedAt (late : start ≤ point) : ¬ (range.closedAt start).Covers point := by
  intro covers
  exact absurd (covers.2 start rfl) (not_lt.mpr late)

/-- Closing a range before its end takes points from it and adds none. -/
theorem Covers.of_closedAt (before : ∀ stop ∈ range.stop, start < stop)
    (covers : (range.closedAt start).Covers point) : range.Covers point :=
  ⟨covers.1, fun stop ends => lt_trans (covers.2 start rfl) (before stop ends)⟩

theorem ordered_closedAt (started : range.start ≤ start) : (range.closedAt start).Ordered := by
  intro stop ends
  cases ends
  exact started

end HalfOpen

end LlmObs.Foundation
