import Mathlib.Order.Monotone.Basic
import LlmObs.Foundation.Datetime
import LlmObs.Foundation.HalfOpen

/-!
Owns the proleptic Gregorian calendar: the days of months and years, the ordinals of
dates, the fields of a `datetime`, and the months as consecutive ranges of days.
-/

namespace LlmObs.Foundation.Calendar

/-! ### Days -/

def isLeap (year : Nat) : Bool := year % 4 = 0 && (year % 100 ≠ 0 || year % 400 = 0)

def daysInMonth (year : Nat) : Nat → Nat
  | 2 => if isLeap year then 29 else 28
  | 4 | 6 | 9 | 11 => 30
  | _ => 31

/-- Days before January 1st of the year, counted from January 1st of year 1. -/
def daysBeforeYear (year : Nat) : Nat :=
  (year - 1) * 365 + (year - 1) / 4 - (year - 1) / 100 + (year - 1) / 400

/-- Days of the year before the first of the month. -/
def daysBeforeMonth (year : Nat) : Nat → Nat
  | 0 | 1 => 0
  | month + 2 => daysBeforeMonth year (month + 1) + daysInMonth year (month + 1)

/-- `date(year, month, day).toordinal()` -/
def toordinal (year month day : Nat) : Nat :=
  daysBeforeYear year + daysBeforeMonth year month + day

theorem daysInMonth_pos (year month : Nat) : 0 < daysInMonth year month := by
  unfold daysInMonth
  split <;> first | decide | (split <;> decide)

theorem daysBeforeMonth_succ {year month : Nat} (positive : 1 ≤ month) :
    daysBeforeMonth year (month + 1) = daysBeforeMonth year month + daysInMonth year month := by
  obtain ⟨month, rfl⟩ := Nat.exists_eq_add_of_le' positive
  rfl

theorem daysBeforeMonth_end (year : Nat) :
    daysBeforeMonth year 13 = if isLeap year then 366 else 365 := by
  cases leap : isLeap year <;> simp [daysBeforeMonth, daysInMonth, leap]

theorem isLeap_iff {year : Nat} : isLeap year = true ↔ 4 ∣ year ∧ (¬ 100 ∣ year ∨ 400 ∣ year) := by
  simp [isLeap, Nat.dvd_iff_mod_eq_zero]

/-- A year has the days of its months. -/
theorem daysBeforeYear_succ {year : Nat} (positive : 1 ≤ year) :
    daysBeforeYear (year + 1) = daysBeforeYear year + daysBeforeMonth year 13 := by
  obtain ⟨before, rfl⟩ := Nat.exists_eq_add_of_le' positive
  have centuries : before / 100 ≤ before / 4 := Nat.div_le_div_left (by decide) (by decide)
  have centuryIsFourth : 100 ∣ before + 1 → 4 ∣ before + 1 := Nat.dvd_trans (by decide)
  have cycleIsCentury : 400 ∣ before + 1 → 100 ∣ before + 1 := Nat.dvd_trans (by decide)
  rw [daysBeforeMonth_end]
  simp only [isLeap_iff, daysBeforeYear, Nat.add_sub_cancel, Nat.succ_div]
  split_ifs <;> omega

/-! ### Months -/

/-- Months are numbered over the years, from January of year 0. -/
def monthIndex (year month : Nat) : Nat := 12 * year + (month - 1)

/-- The ordinal of the first of the month with this number. -/
def firstDay (index : Nat) : Nat := toordinal (index / 12) (index % 12 + 1) 1

theorem monthIndex_div {year month : Nat} (positive : 1 ≤ month) (bounded : month ≤ 12) :
    monthIndex year month / 12 = year := by
  rw [monthIndex]
  omega

theorem monthIndex_mod {year month : Nat} (positive : 1 ≤ month) (bounded : month ≤ 12) :
    monthIndex year month % 12 + 1 = month := by
  rw [monthIndex]
  omega

/-- The month after a month begins when its days are over. -/
theorem firstDay_succ {index : Nat} (began : 12 ≤ index) :
    firstDay (index + 1) = firstDay index + daysInMonth (index / 12) (index % 12 + 1) := by
  rw [firstDay, firstDay, toordinal, toordinal]
  by_cases december : index % 12 = 11
  · have year : (index + 1) / 12 = index / 12 + 1 := by omega
    have month : (index + 1) % 12 = 0 := by omega
    have months : daysBeforeMonth (index / 12) 13 = _ := daysBeforeMonth_succ (by decide)
    rw [year, month, december, daysBeforeYear_succ (by omega), months]
    show daysBeforeYear (index / 12) + (daysBeforeMonth (index / 12) 12 +
        daysInMonth (index / 12) 12) + 0 + 1 =
      daysBeforeYear (index / 12) + daysBeforeMonth (index / 12) 12 + 1 +
        daysInMonth (index / 12) 12
    omega
  · have year : (index + 1) / 12 = index / 12 := by omega
    have month : (index + 1) % 12 = index % 12 + 1 := by omega
    rw [year, month, daysBeforeMonth_succ (by omega)]
    omega

theorem firstDay_lt {first second : Nat} (began : 12 ≤ first) (before : first < second) :
    firstDay first < firstDay second := by
  induction second, before using Nat.le_induction with
  | base =>
      have days := daysInMonth_pos (first / 12) (first % 12 + 1)
      rw [firstDay_succ began]
      omega
  | succ second later inductionHypothesis =>
      have days := daysInMonth_pos (second / 12) (second % 12 + 1)
      rw [firstDay_succ (by omega)]
      omega

theorem firstDay_le {first second : Nat} (began : 12 ≤ first) (ordered : first ≤ second) :
    firstDay first ≤ firstDay second := by
  rcases ordered.eq_or_lt with rfl | before
  · exact le_rfl
  · exact (firstDay_lt began before).le

/-! ### Dates and clocks -/

/-- A `date`. -/
structure Date where
  year : Nat
  month : Nat
  day : Nat
  year_pos : 1 ≤ year
  year_le : year ≤ 9999
  month_pos : 1 ≤ month
  month_le : month ≤ 12
  day_pos : 1 ≤ day
  day_le : day ≤ daysInMonth year month
deriving DecidableEq, Repr

/-- The number of the month of a date. -/
def Date.monthIndex (date : Date) : Nat := Calendar.monthIndex date.year date.month

def Date.toordinal (date : Date) : Nat := Calendar.toordinal date.year date.month date.day

/-- Microseconds of a day. -/
def microsecondsPerDay : Int := 24 * 60 * microsecondsPerMinute

/-- `date(1970, 1, 1).toordinal()` -/
def epochDay : Int := 719163

/-- The clock at the start of a day, in microseconds since the epoch. -/
def midnight (day : Nat) : Int := (day - epochDay) * microsecondsPerDay

/-- The fields of a `datetime`, with the time of the day in microseconds. -/
structure CivilDatetime extends Date where
  microsecond : Nat
  tzinfo : Option Int
  microsecond_lt : (microsecond : Int) < microsecondsPerDay
deriving DecidableEq, Repr

/-- What the clock of a `datetime` shows, as one number. -/
def CivilDatetime.wall (value : CivilDatetime) : Int :=
  midnight value.toordinal + value.microsecond

def CivilDatetime.toDatetime (value : CivilDatetime) : Datetime := ⟨value.wall, value.tzinfo⟩

/-- The clocks of a month. -/
def monthRange (index : Nat) : HalfOpen Int :=
  ⟨midnight (firstDay index), some (midnight (firstDay (index + 1)))⟩

@[simp] theorem midnight_lt {first second : Nat} :
    midnight first < midnight second ↔ first < second := by
  unfold midnight microsecondsPerDay microsecondsPerMinute
  omega

@[simp] theorem midnight_le {first second : Nat} :
    midnight first ≤ midnight second ↔ first ≤ second := by
  unfold midnight microsecondsPerDay microsecondsPerMinute
  omega

theorem midnight_succ (day : Nat) : midnight (day + 1) = midnight day + microsecondsPerDay := by
  unfold midnight microsecondsPerDay microsecondsPerMinute
  omega

theorem Date.twelve_le_monthIndex (date : Date) : 12 ≤ date.monthIndex := by
  have year := date.year_pos
  unfold Date.monthIndex Calendar.monthIndex
  omega

theorem Date.monthIndex_lt (date : Date) : date.monthIndex < 120000 := by
  have year := date.year_le
  have month := date.month_le
  unfold Date.monthIndex Calendar.monthIndex
  omega

/-- A date lies in its month. -/
theorem Date.inMonth (date : Date) : firstDay date.monthIndex ≤ date.toordinal ∧
    date.toordinal < firstDay (date.monthIndex + 1) := by
  have day := date.day_pos
  have last := date.day_le
  have first : firstDay date.monthIndex = Calendar.toordinal date.year date.month 1 := by
    rw [firstDay, Date.monthIndex, monthIndex_div date.month_pos date.month_le,
      monthIndex_mod date.month_pos date.month_le]
  rw [firstDay_succ date.twelve_le_monthIndex, first, Date.monthIndex,
    monthIndex_div date.month_pos date.month_le, monthIndex_mod date.month_pos date.month_le,
    Date.toordinal, Calendar.toordinal, Calendar.toordinal]
  omega

/-- A clock lies in its month. -/
theorem CivilDatetime.inMonth (value : CivilDatetime) :
    (monthRange value.monthIndex).Covers value.wall := by
  obtain ⟨from', before⟩ := value.toDate.inMonth
  have early := value.microsecond_lt
  have started := midnight_le.mpr from'
  have ends := midnight_le.mpr (Nat.succ_le_of_lt before)
  rw [Nat.succ_eq_add_one, midnight_succ] at ends
  refine ⟨?_, fun stop last => ?_⟩
  · show midnight _ ≤ midnight _ + _
    omega
  · cases last
    show midnight _ + _ < midnight _
    omega

/-- No month is empty. -/
theorem monthRange_covers_start {index : Nat} (began : 12 ≤ index) :
    (monthRange index).Covers (monthRange index).start := by
  refine ⟨le_rfl, fun stop ends => ?_⟩
  cases ends
  exact midnight_lt.mpr (firstDay_lt began (Nat.lt_succ_self index))

/-- Months do not overlap. -/
theorem monthRange_apart {first second : Nat} (began : 12 ≤ first) (before : first < second) :
    (monthRange first).Apart (monthRange second) := by
  intro point both
  have late := both.2.1
  have early := both.1.2 _ rfl
  have ordered := midnight_le.mpr (firstDay_le (by omega) (Nat.succ_le_of_lt before))
  exact absurd (lt_of_lt_of_le early ordered) (not_lt.mpr late)

theorem monthRange_apart_of_ne {first second : Nat} (firstBegan : 12 ≤ first)
    (secondBegan : 12 ≤ second) (different : first ≠ second) :
    (monthRange first).Apart (monthRange second) := by
  rcases Nat.lt_or_gt_of_ne different with before | behind
  · exact monthRange_apart firstBegan before
  · exact (monthRange_apart secondBegan behind).symm

end LlmObs.Foundation.Calendar
