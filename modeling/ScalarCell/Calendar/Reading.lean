namespace ScalarCell

/-! What can go wrong between timestamps and text, whatever the text's format is. -/

inductive WrittenPart where
  | day
  | month
  | ordinal
  | weekday
  | weekNumber
  | year
  | hour
  | minute
  | second
  | subsecond
  | period
  | separator
  | offsetHour
  | offsetMinute
  | offsetSecond
  | ignore
  | unixTimestamp
deriving DecidableEq, Repr

def WrittenPart.name : WrittenPart → String
  | .day => "day"
  | .month => "month"
  | .ordinal => "ordinal"
  | .weekday => "weekday"
  | .weekNumber => "week number"
  | .year => "year"
  | .hour => "hour"
  | .minute => "minute"
  | .second => "second"
  | .subsecond => "subsecond"
  | .period => "period"
  | .separator => "separator"
  | .offsetHour => "offset hour"
  | .offsetMinute => "offset minute"
  | .offsetSecond => "offset second"
  | .ignore => "ignore"
  | .unixTimestamp => "unix_timestamp"

inductive ReadError where
  | malformed (part : WrittenPart)
  | literal
  | trailing
deriving DecidableEq, Repr

def ReadError.message : ReadError → String
  | .malformed part => s!"the '{part.name}' component could not be parsed"
  | .literal => "a character literal was not valid"
  | .trailing => "unexpected trailing characters; the end of input was expected"

inductive RenderError where
  | year
  | offsetHour
  | offsetSecond
deriving DecidableEq, Repr

def RenderError.message : RenderError → String
  | .year => "The year component cannot be formatted into the requested format."
  | .offsetHour =>
      "The offset_hour component cannot be formatted into the requested format."
  | .offsetSecond =>
      "The offset_second component cannot be formatted into the requested format."

end ScalarCell
