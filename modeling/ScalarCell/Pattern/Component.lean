namespace ScalarCell.Pattern

/-! The parts of a timestamp that a pattern can name, with their modifiers. -/

inductive Padding where
  | zero
  | space
  | unpadded
deriving DecidableEq, Repr

inductive MonthStyle where
  | number
  | longName
  | shortName
deriving DecidableEq, Repr

inductive WeekdayStyle where
  | longName
  | shortName
  | fromSunday
  | fromMonday
deriving DecidableEq, Repr

inductive WeekRule where
  | iso
  | sunday
  | monday
deriving DecidableEq, Repr

inductive YearDigits where
  | full
  | century
  | lastTwo
deriving DecidableEq, Repr

inductive YearRange where
  | standard
  | extended
deriving DecidableEq, Repr

inductive YearBase where
  | calendar
  | isoWeek
deriving DecidableEq, Repr

inductive SignRule where
  | automatic
  | mandatory
deriving DecidableEq, Repr

inductive Dial where
  | twentyFour
  | twelve
deriving DecidableEq, Repr

inductive LetterCase where
  | upper
  | lower
deriving DecidableEq, Repr

inductive FractionDigits where
  | oneOrMore
  | fixed (count : Nat)
deriving DecidableEq, Repr

inductive Precision where
  | second
  | millisecond
  | microsecond
  | nanosecond
deriving DecidableEq, Repr

inductive TrailingInput where
  | prohibit
  | discard
deriving DecidableEq, Repr

inductive Component where
  | day (padding : Padding)
  | month (padding : Padding) (style : MonthStyle) (caseSensitive : Bool)
  | ordinal (padding : Padding)
  | weekday (style : WeekdayStyle) (oneIndexed : Bool) (caseSensitive : Bool)
  | weekNumber (padding : Padding) (rule : WeekRule)
  | year (padding : Padding) (digits : YearDigits) (range : YearRange) (base : YearBase)
      (sign : SignRule)
  | hour (padding : Padding) (dial : Dial)
  | minute (padding : Padding)
  | second (padding : Padding)
  | period (letterCase : LetterCase) (caseSensitive : Bool)
  | subsecond (digits : FractionDigits)
  | offsetHour (padding : Padding) (sign : SignRule)
  | offsetMinute (padding : Padding)
  | offsetSecond (padding : Padding)
  | ignore (count : Nat)
  | unixTimestamp (precision : Precision) (sign : SignRule)
  | ending (trailing : TrailingInput)
deriving DecidableEq, Repr

/-! ## Names and modifiers

A component starts out with its default modifiers and takes the written ones in turn. -/

/-- The component of a name. An `ignore` starts with nothing to skip, and its count has
to be given. -/
def Component.ofName? : String → Option Component
  | "day" => some (.day .zero)
  | "month" => some (.month .zero .number true)
  | "ordinal" => some (.ordinal .zero)
  | "weekday" => some (.weekday .longName true true)
  | "week_number" => some (.weekNumber .zero .iso)
  | "year" => some (.year .zero .full .extended .calendar .automatic)
  | "hour" => some (.hour .zero .twentyFour)
  | "minute" => some (.minute .zero)
  | "second" => some (.second .zero)
  | "period" => some (.period .upper true)
  | "subsecond" => some (.subsecond .oneOrMore)
  | "offset_hour" => some (.offsetHour .zero .automatic)
  | "offset_minute" => some (.offsetMinute .zero)
  | "offset_second" => some (.offsetSecond .zero)
  | "ignore" => some (.ignore 0)
  | "unix_timestamp" => some (.unixTimestamp .second .automatic)
  | "end" => some (.ending .prohibit)
  | _ => none

def Padding.ofText? : String → Option Padding
  | "zero" => some .zero
  | "space" => some .space
  | "none" => some .unpadded
  | _ => none

def MonthStyle.ofText? : String → Option MonthStyle
  | "numerical" => some .number
  | "long" => some .longName
  | "short" => some .shortName
  | _ => none

def WeekdayStyle.ofText? : String → Option WeekdayStyle
  | "long" => some .longName
  | "short" => some .shortName
  | "sunday" => some .fromSunday
  | "monday" => some .fromMonday
  | _ => none

def WeekRule.ofText? : String → Option WeekRule
  | "iso" => some .iso
  | "sunday" => some .sunday
  | "monday" => some .monday
  | _ => none

def YearDigits.ofText? : String → Option YearDigits
  | "full" => some .full
  | "century" => some .century
  | "last_two" => some .lastTwo
  | _ => none

def YearRange.ofText? : String → Option YearRange
  | "standard" => some .standard
  | "extended" => some .extended
  | _ => none

def YearBase.ofText? : String → Option YearBase
  | "calendar" => some .calendar
  | "iso_week" => some .isoWeek
  | _ => none

def SignRule.ofText? : String → Option SignRule
  | "automatic" => some .automatic
  | "mandatory" => some .mandatory
  | _ => none

def Dial.ofText? : String → Option Dial
  | "24" => some .twentyFour
  | "12" => some .twelve
  | _ => none

def LetterCase.ofText? : String → Option LetterCase
  | "upper" => some .upper
  | "lower" => some .lower
  | _ => none

def FractionDigits.ofText? : String → Option FractionDigits
  | "1+" => some .oneOrMore
  | "1" => some (.fixed 1)
  | "2" => some (.fixed 2)
  | "3" => some (.fixed 3)
  | "4" => some (.fixed 4)
  | "5" => some (.fixed 5)
  | "6" => some (.fixed 6)
  | "7" => some (.fixed 7)
  | "8" => some (.fixed 8)
  | "9" => some (.fixed 9)
  | _ => none

def Precision.ofText? : String → Option Precision
  | "second" => some .second
  | "millisecond" => some .millisecond
  | "microsecond" => some .microsecond
  | "nanosecond" => some .nanosecond
  | _ => none

def TrailingInput.ofText? : String → Option TrailingInput
  | "prohibit" => some .prohibit
  | "discard" => some .discard
  | _ => none

def truthOfText? : String → Option Bool
  | "true" => some true
  | "false" => some false
  | _ => none

def countOfText? (text : String) : Option Nat :=
  let digits :=
    match text.toList with
    | '+' :: rest => rest
    | characters => characters
  if digits.isEmpty || !digits.all Char.isDigit then none
  else
    let count :=
      digits.foldl (fun total digit => total * 10 + (digit.toNat - '0'.toNat)) 0
    if 1 ≤ count ∧ count ≤ 65535 then some count else none

inductive Modified where
  | changed (component : Component)
  | unknownKey
  | invalidValue
deriving DecidableEq, Repr

def Modified.ofOption : Option Component → Modified
  | some component => .changed component
  | none => .invalidValue

def Component.modify (component : Component) (key value : String) : Modified :=
  match component, key with
  | .day _, "padding" => .ofOption <| (Padding.ofText? value).map .day
  | .month _ style caseSensitive, "padding" =>
      .ofOption <| (Padding.ofText? value).map (.month · style caseSensitive)
  | .month padding _ caseSensitive, "repr" =>
      .ofOption <| (MonthStyle.ofText? value).map (.month padding · caseSensitive)
  | .month padding style _, "case_sensitive" =>
      .ofOption <| (truthOfText? value).map (.month padding style ·)
  | .ordinal _, "padding" => .ofOption <| (Padding.ofText? value).map .ordinal
  | .weekday _ oneIndexed caseSensitive, "repr" =>
      .ofOption <| (WeekdayStyle.ofText? value).map (.weekday · oneIndexed caseSensitive)
  | .weekday style _ caseSensitive, "one_indexed" =>
      .ofOption <| (truthOfText? value).map (.weekday style · caseSensitive)
  | .weekday style oneIndexed _, "case_sensitive" =>
      .ofOption <| (truthOfText? value).map (.weekday style oneIndexed ·)
  | .weekNumber _ rule, "padding" =>
      .ofOption <| (Padding.ofText? value).map (.weekNumber · rule)
  | .weekNumber padding _, "repr" =>
      .ofOption <| (WeekRule.ofText? value).map (.weekNumber padding ·)
  | .year _ digits range base sign, "padding" =>
      .ofOption <| (Padding.ofText? value).map (.year · digits range base sign)
  | .year padding _ range base sign, "repr" =>
      .ofOption <| (YearDigits.ofText? value).map (.year padding · range base sign)
  | .year padding digits _ base sign, "range" =>
      .ofOption <| (YearRange.ofText? value).map (.year padding digits · base sign)
  | .year padding digits range _ sign, "base" =>
      .ofOption <| (YearBase.ofText? value).map (.year padding digits range · sign)
  | .year padding digits range base _, "sign" =>
      .ofOption <| (SignRule.ofText? value).map (.year padding digits range base ·)
  | .hour _ dial, "padding" => .ofOption <| (Padding.ofText? value).map (.hour · dial)
  | .hour padding _, "repr" => .ofOption <| (Dial.ofText? value).map (.hour padding ·)
  | .minute _, "padding" => .ofOption <| (Padding.ofText? value).map .minute
  | .second _, "padding" => .ofOption <| (Padding.ofText? value).map .second
  | .period _ caseSensitive, "case" =>
      .ofOption <| (LetterCase.ofText? value).map (.period · caseSensitive)
  | .period letterCase _, "case_sensitive" =>
      .ofOption <| (truthOfText? value).map (.period letterCase ·)
  | .subsecond _, "digits" => .ofOption <| (FractionDigits.ofText? value).map .subsecond
  | .offsetHour padding _, "sign" =>
      .ofOption <| (SignRule.ofText? value).map (.offsetHour padding ·)
  | .offsetHour _ sign, "padding" =>
      .ofOption <| (Padding.ofText? value).map (.offsetHour · sign)
  | .offsetMinute _, "padding" => .ofOption <| (Padding.ofText? value).map .offsetMinute
  | .offsetSecond _, "padding" => .ofOption <| (Padding.ofText? value).map .offsetSecond
  | .ignore _, "count" => .ofOption <| (countOfText? value).map .ignore
  | .unixTimestamp _ sign, "precision" =>
      .ofOption <| (Precision.ofText? value).map (.unixTimestamp · sign)
  | .unixTimestamp precision _, "sign" =>
      .ofOption <| (SignRule.ofText? value).map (.unixTimestamp precision ·)
  | .ending _, "trailing_input" => .ofOption <| (TrailingInput.ofText? value).map .ending
  | _, _ => .unknownKey

end ScalarCell.Pattern
