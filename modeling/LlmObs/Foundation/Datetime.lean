import Mathlib.Order.Lattice
import Mathlib.Algebra.Order.Ring.Int
import Mathlib.Tactic.Ring

/-!
Owns `datetime` values: a wall clock in microseconds with an optional UTC
offset in whole minutes. A value without an offset is naive: it denotes no
instant, equals no value that has one, and ordering it against such a value
raises.
-/

namespace LlmObs.Foundation

/-- Microseconds of a minute. -/
def microsecondsPerMinute : Int := 60000000

/-- A `datetime`: its own clock, and the offset of that clock from UTC. -/
structure Datetime where
  wall : Int
  tzinfo : Option Int
deriving DecidableEq, Repr

namespace Datetime

/-- The instant of an aware value. -/
def instant? (value : Datetime) : Option Int :=
  value.tzinfo.map fun offset => value.wall - offset * microsecondsPerMinute

def Aware (value : Datetime) : Prop := value.tzinfo.isSome = true

instance (value : Datetime) : Decidable value.Aware :=
  inferInstanceAs (Decidable (_ = _))

/-- The aware value in UTC of an instant: how a driver returns `timestamptz`. -/
def utc (instant : Int) : Datetime := ⟨instant, some 0⟩

/-- What `==` and `hash` see: the instant of an aware value, the clock of a
naive one, never equal to each other. -/
inductive Key where
  | naive (wall : Int)
  | aware (instant : Int)
deriving DecidableEq, Repr

def key (value : Datetime) : Key :=
  match value.instant? with
  | some instant => .aware instant
  | none => .naive value.wall

/-- The instant at which a database session stores the value: the local time
zone of the process decides for a naive one. -/
def toTimestamptz (localInstant : Int → Int) (value : Datetime) : Int :=
  match value.instant? with
  | some instant => instant
  | none => localInstant value.wall

/-- `left <= right`, or `none` for the `TypeError` of mixed operands. -/
def le? (left right : Datetime) : Option Bool :=
  match left.key, right.key with
  | .aware first, .aware second => some (decide (first ≤ second))
  | .naive first, .naive second => some (decide (first ≤ second))
  | _, _ => none

/-- `left < right`, or `none` for the `TypeError` of mixed operands. -/
def lt? (left right : Datetime) : Option Bool :=
  match left.key, right.key with
  | .aware first, .aware second => some (decide (first < second))
  | .naive first, .naive second => some (decide (first < second))
  | _, _ => none

/-- `value.replace(second=0, microsecond=0)`. -/
def floorToMinute (value : Datetime) : Datetime :=
  { value with wall := value.wall - value.wall % microsecondsPerMinute }

/-! ### Aware values are their instants -/

@[simp] theorem instant?_utc (instant : Int) : (utc instant).instant? = some instant := by
  simp [utc, instant?]

@[simp] theorem key_utc (instant : Int) : (utc instant).key = .aware instant := by
  simp [key]

@[simp] theorem aware_utc (instant : Int) : (utc instant).Aware := rfl

theorem Aware.exists_instant {value : Datetime} (aware : value.Aware) :
    ∃ instant, value.instant? = some instant := by
  obtain ⟨offset, known⟩ := Option.isSome_iff_exists.mp aware
  exact ⟨value.wall - offset * microsecondsPerMinute, by simp [instant?, known]⟩

theorem key_of_instant {value : Datetime} {instant : Int}
    (known : value.instant? = some instant) : value.key = .aware instant := by
  simp [key, known]

theorem key_of_not_aware {value : Datetime} (naive : ¬ value.Aware) :
    value.key = .naive value.wall := by
  cases offset : value.tzinfo with
  | none => simp [key, instant?, offset]
  | some offset => simp [Aware, offset] at naive

theorem toTimestamptz_of_instant {localInstant : Int → Int} {value : Datetime} {instant : Int}
    (known : value.instant? = some instant) :
    value.toTimestamptz localInstant = instant := by
  simp [toTimestamptz, known]

theorem Aware.key_eq (localInstant : Int → Int) {value : Datetime} (aware : value.Aware) :
    value.key = .aware (value.toTimestamptz localInstant) := by
  obtain ⟨instant, known⟩ := aware.exists_instant
  rw [key_of_instant known, toTimestamptz_of_instant known]

@[simp] theorem toTimestamptz_utc (localInstant : Int → Int) (instant : Int) :
    (utc instant).toTimestamptz localInstant = instant :=
  toTimestamptz_of_instant (instant?_utc instant)

theorem Aware.le?_eq (localInstant : Int → Int) {left right : Datetime}
    (leftAware : left.Aware) (rightAware : right.Aware) :
    left.le? right =
      some (decide (left.toTimestamptz localInstant ≤ right.toTimestamptz localInstant)) := by
  simp only [le?, leftAware.key_eq localInstant, rightAware.key_eq localInstant]

theorem Aware.lt?_eq (localInstant : Int → Int) {left right : Datetime}
    (leftAware : left.Aware) (rightAware : right.Aware) :
    left.lt? right =
      some (decide (left.toTimestamptz localInstant < right.toTimestamptz localInstant)) := by
  simp only [lt?, leftAware.key_eq localInstant, rightAware.key_eq localInstant]

/-- The start of the minute of an instant. -/
def minuteOf (instant : Int) : Int := instant - instant % microsecondsPerMinute

/-- Offsets are whole minutes, so flooring the clock floors the instant. -/
theorem floorToMinute_instant? (value : Datetime) :
    value.floorToMinute.instant? =
      value.instant?.map minuteOf := by
  cases offset : value.tzinfo with
  | none => simp [floorToMinute, instant?, offset]
  | some minutes =>
      have shift : (value.wall - minutes * microsecondsPerMinute) % microsecondsPerMinute =
          value.wall % microsecondsPerMinute := Int.sub_mul_emod_self_right _ _ _
      simp only [floorToMinute, instant?, offset, Option.map_some, Option.some.injEq, minuteOf,
        shift]
      ring

theorem Aware.floorToMinute {value : Datetime} (aware : value.Aware) :
    value.floorToMinute.Aware := aware

theorem Aware.floorToMinute_toTimestamptz {value : Datetime} (aware : value.Aware)
    (localInstant sessionInstant : Int → Int) :
    value.floorToMinute.toTimestamptz sessionInstant =
      minuteOf (value.toTimestamptz localInstant) := by
  obtain ⟨instant, known⟩ := aware.exists_instant
  have floored : value.floorToMinute.instant? = some (minuteOf instant) := by
    rw [floorToMinute_instant?, known, Option.map_some]
  rw [toTimestamptz_of_instant known, toTimestamptz_of_instant floored]

end Datetime

end LlmObs.Foundation
