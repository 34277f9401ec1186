import ScalarCell.Calendar.Timestamp

namespace ScalarCell.Pattern

/-! What the components of a pattern have said about a timestamp, and the timestamp that
follows from it. -/

/-- The values read so far. A value that is read again replaces the earlier one. -/
structure Fields where
  year : Option Int := none
  century : Option Nat := none
  centuryNegative : Bool := false
  lastTwo : Option Nat := none
  isoYear : Option Int := none
  isoCentury : Option Nat := none
  isoCenturyNegative : Bool := false
  isoLastTwo : Option Nat := none
  month : Option Nat := none
  day : Option Nat := none
  ordinal : Option Nat := none
  weekday : Option Weekday := none
  isoWeek : Option Nat := none
  sundayWeek : Option Nat := none
  mondayWeek : Option Nat := none
  hour : Option Nat := none
  hourOfTwelve : Option Nat := none
  afternoon : Option Bool := none
  minute : Option Nat := none
  second : Option Nat := none
  nanosecond : Option Nat := none
  offsetHour : Option Int := none
  offsetMinute : Option Int := none
  offsetSecond : Option Int := none
  offsetNegative : Bool := false
  unixNanoseconds : Option Int := none
deriving DecidableEq, Repr

inductive FieldsError where
  | insufficient
  | range (error : OutOfRange)
deriving DecidableEq, Repr

def FieldsError.message : FieldsError → String
  | .insufficient =>
      "the `Parsed` struct did not include enough information to construct the type"
  | .range error => error.message

namespace Fields

/-! ## The date -/

def joinCentury (negative : Bool) (century lastTwo : Nat) : Int :=
  if negative then -((100 * century + lastTwo : Nat) : Int) else
    (100 * century + lastTwo : Nat)

def fullYear (fields : Fields) : Option Int :=
  match fields.year, fields.century, fields.lastTwo with
  | some year, _, _ => some year
  | none, some century, some lastTwo =>
      some (joinCentury fields.centuryNegative century lastTwo)
  | _, _, _ => none

def fullIsoYear (fields : Fields) : Option Int :=
  match fields.isoYear, fields.isoCentury, fields.isoLastTwo with
  | some year, _, _ => some year
  | none, some century, some lastTwo =>
      some (joinCentury fields.isoCenturyNegative century lastTwo)
  | _, _, _ => none

def orOutOfRange (part : CalendarPart) : Option Date → Except FieldsError Date
  | some date => .ok date
  | none => .error (.range ⟨part⟩)

def orRange : Except OutOfRange Date → Except FieldsError Date
  | .ok date => .ok date
  | .error error => .error (.range error)

/-- The dates of the combinations of fields that are complete, best first: a year with an
ordinal, with a month and a day, an ISO year with a week, a year with a week from Sunday
or from Monday. A weekday counts only together with a week. -/
def dates (fields : Fields) : List (Option (Except FieldsError Date)) :=
  let year := fields.fullYear
  let weekday := fields.weekday
  [ do return orOutOfRange .ordinal (Date.ofOrdinal? (← year) (← fields.ordinal)),
    do return orOutOfRange .day
        (Date.ofCalendar? (← year) (← fields.month) (← fields.day)),
    do return orRange
        (Date.ofIsoWeek (← fields.fullIsoYear) (← fields.isoWeek) (← weekday)),
    do return orRange (Date.ofSundayWeek (← year) (← fields.sundayWeek) (← weekday)),
    do return orRange (Date.ofMondayWeek (← year) (← fields.mondayWeek) (← weekday)) ]

def date (fields : Fields) : Except FieldsError Date :=
  (fields.dates.findSome? id).getD (.error .insufficient)

/-! ## The time and the offset -/

def hourOfDay (fields : Fields) : Option Nat :=
  match fields.hour, fields.hourOfTwelve, fields.afternoon with
  | some hour, _, _ => some hour
  | none, some hour, some afternoon => some (hour % 12 + if afternoon then 12 else 0)
  | _, _, _ => none

def orSecond : Option TimeOfDay → Except FieldsError TimeOfDay
  | some time => .ok time
  | none => .error (.range ⟨.second⟩)

def time (fields : Fields) : Except FieldsError TimeOfDay :=
  match fields.hourOfDay with
  | none => .error .insufficient
  | some hour =>
      match fields.minute, fields.second, fields.nanosecond with
      | none, none, none => orSecond (TimeOfDay.ofParts? hour 0 0 0)
      | some minute, none, none => orSecond (TimeOfDay.ofParts? hour minute 0 0)
      | some minute, some second, none =>
          orSecond (TimeOfDay.ofParts? hour minute second 0)
      | some minute, some second, some nanosecond =>
          orSecond (TimeOfDay.ofParts? hour minute second nanosecond)
      | _, _, _ => .error .insufficient

/-- A smaller part of an offset. A written minus sign before the hour holds for it too. -/
def signedOffsetPart (fields : Fields) (part : Int) : Int :=
  if fields.offsetNegative then -part else part

def offset (fields : Fields) : Except FieldsError UtcOffset :=
  match fields.offsetHour with
  | none => .error .insufficient
  | some hour =>
      let minute := (fields.offsetMinute.map fields.signedOffsetPart).getD 0
      let second :=
        match fields.offsetMinute, fields.offsetSecond with
        | some _, some second => fields.signedOffsetPart second
        | _, _ => 0
      match UtcOffset.ofParts? hour minute second with
      | some offset => .ok offset
      | none => .error (.range ⟨.hour⟩)

/-! ## The timestamp -/

def ofUnix (nanoseconds : Int) (fraction : Option Nat) : Except FieldsError Timestamp :=
  match Timestamp.ofUnixNanoseconds? nanoseconds with
  | none => .error (.range ⟨.timestamp⟩)
  | some timestamp =>
      match fraction with
      | none => .ok timestamp
      | some nanosecond =>
          match TimeOfDay.ofParts? timestamp.time.hour timestamp.time.minute
              timestamp.time.second nanosecond with
          | some time => .ok { timestamp with time }
          | none => .ok timestamp

def timestamp (fields : Fields) : Except FieldsError Timestamp :=
  match fields.unixNanoseconds with
  | some nanoseconds => ofUnix nanoseconds fields.nanosecond
  | none =>
      match fields.date with
      | .error error => .error error
      | .ok date =>
          match fields.time with
          | .error error => .error error
          | .ok time =>
              match fields.offset with
              | .error error => .error error
              | .ok offset => .ok ⟨date, time, offset⟩

def withDefaultHour (fields : Fields) : Fields :=
  match fields.hour, fields.hourOfTwelve with
  | none, none => { fields with hour := some 0 }
  | _, _ => fields

/-- A given offset where no hour of an offset was read. Hours beyond 23 cannot be taken. -/
def withDefaultOffset (fields : Fields) (offset : UtcOffset) :
    Except FieldsError Fields :=
  match fields.offsetHour with
  | some _ => .ok fields
  | none =>
      if offset.hourPart.natAbs ≤ 23 then
        .ok { fields with
          offsetHour := some offset.hourPart
          offsetMinute := some offset.minutePart
          offsetSecond := some offset.secondPart }
      else
        .error .insufficient

end Fields

end ScalarCell.Pattern
