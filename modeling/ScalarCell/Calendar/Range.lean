namespace ScalarCell

/-! The parts of a date and time that have a range of their own. -/

inductive CalendarPart where
  | year
  | month
  | day
  | ordinal
  | week
  | hour
  | minute
  | second
  | offsetMinute
  | timestamp
deriving DecidableEq, Repr

def CalendarPart.name : CalendarPart → String
  | .year => "year"
  | .month => "month"
  | .day => "day"
  | .ordinal => "ordinal"
  | .week => "week"
  | .hour => "hour"
  | .minute => "minute"
  | .second => "second"
  | .offsetMinute => "offset minute"
  | .timestamp => "timestamp"

structure OutOfRange where
  part : CalendarPart
deriving DecidableEq, Repr

def OutOfRange.message (error : OutOfRange) : String :=
  s!"{error.part.name} was not in range"

end ScalarCell
