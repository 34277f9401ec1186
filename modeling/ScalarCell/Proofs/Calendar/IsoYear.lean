import Mathlib.Order.Monotone.Basic
import Mathlib.Tactic.IntervalCases
import ScalarCell.Calendar.Date

namespace ScalarCell

/-! The ISO year of a date is at most one away from its calendar year, and stays in the range
of years even at both ends of it: the year -9999 begins on a Monday, and the year 9999 ends
on a Friday. -/

/-! ## The place of a date in its year -/

theorem daysBeforeMonth_succ (year : Int) {month : Nat} (month_pos : 1 ≤ month) :
    daysBeforeMonth year (month + 1) =
      daysBeforeMonth year month + daysInMonth year month := by
  cases month with
  | zero => cases month_pos
  | succ month => rfl

theorem daysBeforeMonth_mono (year : Int) : Monotone (daysBeforeMonth year) := by
  apply monotone_nat_of_le_succ
  intro month
  cases month with
  | zero => exact Nat.le_refl 0
  | succ month => exact Nat.le_add_right _ _

theorem daysBeforeMonth_thirteen (year : Int) :
    daysBeforeMonth year 13 = daysInYear year := by
  simp only [daysBeforeMonth, daysInMonth, daysInYear]
  split <;> rfl

namespace Date

theorem ordinal_bounds (date : Date) :
    1 ≤ date.ordinal ∧ date.ordinal ≤ daysInYear date.year := by
  obtain ⟨-, month_pos, month_le, day_pos, day_le⟩ := date.isDate
  have inYear := daysBeforeMonth_mono date.year (Nat.succ_le_succ month_le)
  rw [daysBeforeMonth_succ date.year month_pos, daysBeforeMonth_thirteen] at inYear
  rw [ordinal]
  omega

end Date

/-! ## Weekdays -/

theorem Weekday.fromMonday_ofFromMonday (days : Nat) :
    (Weekday.ofFromMonday days).fromMonday = days % 7 := by
  have less : days % 7 < 7 := Nat.mod_lt days (by decide)
  rw [Weekday.ofFromMonday]
  generalize days % 7 = rest at less
  interval_cases rest <;> rfl

namespace Date

theorem fromMonday_weekday (date : Date) :
    (date.weekday.fromMonday : Int) = date.dayNumber % 7 := by
  rw [weekday, Weekday.ofDayNumber, Weekday.fromMonday_ofFromMonday]
  omega

theorem neg_lt_year_of_isoWeek_eq_zero (date : Date)
    (before : (date.ordinal + 9 - date.weekday.fromMonday) / 7 = 0) : -9999 < date.year := by
  obtain ⟨⟨year_ge, -⟩, -⟩ := date.isDate
  apply lt_of_le_of_ne year_ge
  intro first
  have weekday_eq := date.fromMonday_weekday
  rw [dayNumber, ← first, show daysBeforeYear (-9999) = -3652425 from rfl] at weekday_eq
  have ordinal_pos := date.ordinal_bounds.1
  omega

theorem year_lt_of_isoWeek_eq (date : Date)
    (after : (date.ordinal + 9 - date.weekday.fromMonday) / 7 = 53) : date.year < 9999 := by
  obtain ⟨⟨-, year_le⟩, -⟩ := date.isDate
  apply lt_of_le_of_ne year_le
  intro last
  have weekday_eq := date.fromMonday_weekday
  rw [dayNumber, last, show daysBeforeYear 9999 = 3651694 from rfl] at weekday_eq
  have ordinal_bounds := date.ordinal_bounds
  rw [last, show daysInYear 9999 = 365 from rfl] at ordinal_bounds
  omega

theorem yearInRange_isoYearWeek (date : Date) : YearInRange date.isoYearWeek.1 := by
  obtain ⟨⟨year_ge, year_le⟩, -⟩ := date.isDate
  rw [isoYearWeek]
  split
  · have later := date.neg_lt_year_of_isoWeek_eq_zero ‹_›
    exact ⟨by dsimp; omega, by dsimp; omega⟩
  · split
    · rename_i lastWeek
      have earlier := date.year_lt_of_isoWeek_eq lastWeek.1
      exact ⟨by dsimp; omega, by dsimp; omega⟩
    · exact ⟨year_ge, year_le⟩

end Date

end ScalarCell
