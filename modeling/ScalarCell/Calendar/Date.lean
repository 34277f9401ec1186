import ScalarCell.Calendar.Range

namespace ScalarCell

/-! Days of the proleptic Gregorian calendar from the year -9999 to the year 9999. A
day is given by its month, by its ordinal in the year, by a week and a weekday, or by
its distance from the first day of the year 1. -/

/-! ## Years and months -/

def isLeapYear (year : Int) : Bool :=
  year % 4 = 0 && (year % 100 ≠ 0 || year % 400 = 0)

def daysInYear (year : Int) : Nat :=
  if isLeapYear year then 366 else 365

def daysInMonth (year : Int) : (month : Nat) → Nat
  | 2 => if isLeapYear year then 29 else 28
  | 4 => 30
  | 6 => 30
  | 9 => 30
  | 11 => 30
  | _ => 31

def daysBeforeMonth (year : Int) : (month : Nat) → Nat
  | 0 => 0
  | 1 => 0
  | month + 1 => daysBeforeMonth year month + daysInMonth year month

def daysBeforeYear (year : Int) : Int :=
  365 * (year - 1) + (year - 1) / 4 - (year - 1) / 100 + (year - 1) / 400

def YearInRange (year : Int) : Prop :=
  -9999 ≤ year ∧ year ≤ 9999

instance (year : Int) : Decidable (YearInRange year) :=
  inferInstanceAs (Decidable (_ ∧ _))

def IsDate (year : Int) (month day : Nat) : Prop :=
  YearInRange year ∧ 1 ≤ month ∧ month ≤ 12 ∧ 1 ≤ day ∧ day ≤ daysInMonth year month

instance (year : Int) (month day : Nat) : Decidable (IsDate year month day) :=
  inferInstanceAs (Decidable (_ ∧ _))

/-! ## Days of the week -/

inductive Weekday where
  | monday
  | tuesday
  | wednesday
  | thursday
  | friday
  | saturday
  | sunday
deriving DecidableEq, Repr

namespace Weekday

def all : List Weekday :=
  [.monday, .tuesday, .wednesday, .thursday, .friday, .saturday, .sunday]

def fromMonday : Weekday → Nat
  | .monday => 0
  | .tuesday => 1
  | .wednesday => 2
  | .thursday => 3
  | .friday => 4
  | .saturday => 5
  | .sunday => 6

def fromSunday (weekday : Weekday) : Nat :=
  (weekday.fromMonday + 1) % 7

def ofFromMonday (days : Nat) : Weekday :=
  match days % 7 with
  | 0 => .monday
  | 1 => .tuesday
  | 2 => .wednesday
  | 3 => .thursday
  | 4 => .friday
  | 5 => .saturday
  | _ => .sunday

def name : Weekday → String
  | .monday => "Monday"
  | .tuesday => "Tuesday"
  | .wednesday => "Wednesday"
  | .thursday => "Thursday"
  | .friday => "Friday"
  | .saturday => "Saturday"
  | .sunday => "Sunday"

def ofDayNumber (number : Int) : Weekday :=
  ofFromMonday (number % 7).toNat

end Weekday

/-! ## Dates -/

structure Date where
  year : Int
  month : Nat
  day : Nat
  isDate : IsDate year month day
deriving DecidableEq, Repr

namespace Date

def epoch : Date := ⟨1970, 1, 1, by decide⟩

instance : Inhabited Date := ⟨epoch⟩

def ofCalendar? (year : Int) (month day : Nat) : Option Date :=
  if isDate : IsDate year month day then some ⟨year, month, day, isDate⟩ else none

def ordinal (date : Date) : Nat :=
  daysBeforeMonth date.year date.month + date.day

def dayNumber (date : Date) : Int :=
  daysBeforeYear date.year + (date.ordinal - 1 : Nat)

def weekday (date : Date) : Weekday :=
  .ofDayNumber date.dayNumber

def locate? (year : Int) : (months : List Nat) → (ordinal : Nat) → Option (Nat × Nat)
  | [], _ => none
  | month :: rest, ordinal =>
      if ordinal ≤ daysInMonth year month then some (month, ordinal)
      else locate? year rest (ordinal - daysInMonth year month)

def ofOrdinal? (year : Int) (ordinal : Nat) : Option Date :=
  match locate? year [1, 2, 3, 4, 5, 6, 7, 8, 9, 10, 11, 12] ordinal with
  | some (month, day) => ofCalendar? year month day
  | none => none

/-- The date of a day number. Cycles of 400, 100, 4 and 1 years are taken out in turn;
the last century of a cycle and the last year of four are the longer ones. -/
def ofDayNumber? (number : Int) : Option Date :=
  let inCycle := (number % 146097).toNat
  let centuries := min 3 (inCycle / 36524)
  let inCentury := inCycle - centuries * 36524
  let inFour := inCentury % 1461
  let years := min 3 (inFour / 365)
  let year :=
    400 * (number / 146097) + (100 * centuries + 4 * (inCentury / 1461) + years : Nat) + 1
  ofOrdinal? year (inFour - years * 365 + 1)

/-! ### Weeks -/

/-- Whether the ISO year has a week 53: it begins or ends on a Thursday. -/
def weeksInYear (year : Int) : Nat :=
  if Weekday.ofDayNumber (daysBeforeYear year) = .thursday
      ∨ Weekday.ofDayNumber (daysBeforeYear (year + 1) - 1) = .thursday then
    53
  else
    52

/-- The ISO year and week of a date: those of the Thursday of its week. -/
def isoYearWeek (date : Date) : Int × Nat :=
  let week := (date.ordinal + 9 - date.weekday.fromMonday) / 7
  if week = 0 then (date.year - 1, weeksInYear (date.year - 1))
  else if week = 53 ∧ weeksInYear date.year = 52 then (date.year + 1, 1)
  else (date.year, week)

def sundayWeek (date : Date) : Nat :=
  (date.ordinal + 6 - date.weekday.fromSunday) / 7

def mondayWeek (date : Date) : Nat :=
  (date.ordinal + 6 - date.weekday.fromMonday) / 7

def ofIsoWeek (year : Int) (week : Nat) (weekday : Weekday) : Except OutOfRange Date :=
  if week = 0 ∨ weeksInYear year < week then
    .error ⟨.week⟩
  else
    let fourth := daysBeforeYear year + 3
    let firstMonday := fourth - (Weekday.ofDayNumber fourth).fromMonday
    match ofDayNumber? (firstMonday + 7 * (week - 1 : Nat) + weekday.fromMonday) with
    | some date => .ok date
    | none => .error ⟨.year⟩

def ofSignedOrdinal (year ordinal : Int) : Except OutOfRange Date :=
  match (if 1 ≤ ordinal then ofOrdinal? year ordinal.toNat else none) with
  | some date => .ok date
  | none => .error ⟨.ordinal⟩

/-- The ordinal of the day before week 0 of a year, which is zero or less. Week 1
begins on the first Monday. -/
def beforeFirstWeek (year : Int) : Int :=
  match (Weekday.ofDayNumber (daysBeforeYear year)).fromMonday with
  | 0 => -7
  | days + 1 => -(days + 1 : Nat)

def ofMondayWeek (year : Int) (week : Nat) (weekday : Weekday) : Except OutOfRange Date :=
  ofSignedOrdinal year (beforeFirstWeek year + week * 7 + weekday.fromMonday + 1)

def ofSundayWeek (year : Int) (week : Nat) (weekday : Weekday) : Except OutOfRange Date :=
  ofSignedOrdinal year (beforeFirstWeek year + week * 7 + weekday.fromSunday + 1)

end Date

end ScalarCell
