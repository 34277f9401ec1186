import ScalarCell.Calendar.Reading
import ScalarCell.Calendar.Timestamp
import ScalarCell.Numeric.Numeral
import ScalarCell.Pattern.Read

namespace ScalarCell.Pattern

/-! Writing a timestamp with the items of a pattern. -/

def Padding.write (padding : Padding) (width number : Nat) : List Char :=
  match padding with
  | .zero => Numeral.padded '0' width number
  | .space => Numeral.padded ' ' width number
  | .unpadded => Numeral.digits number

def SignRule.write (rule : SignRule) (negative : Bool) : List Char :=
  if negative then ['-'] else if rule = .mandatory then ['+'] else []

def nameOf (names : List (String × Nat)) (value : Nat) : List Char :=
  match names.find? fun entry => entry.2 = value with
  | some (name, _) => name.toList
  | none => []

def writeYear (padding : Padding) (digits : YearDigits) (range : YearRange)
    (rule : SignRule) (year : Int) : Except RenderError (List Char) :=
  if range = .standard ∧ ¬ YearInRange year then .error .year
  else
    .ok <|
      match digits with
      | .full => rule.write (decide (year < 0)) ++ padding.write 4 year.natAbs
      | .century => rule.write (decide (year < 0)) ++ padding.write 2 (year.natAbs / 100)
      | .lastTwo => padding.write 2 (year.natAbs % 100)

/-- The digits of a fraction. Without a fixed count zeros at the end are left out, except
for the first digit. -/
def FractionDigits.write (digits : FractionDigits) (nanosecond : Nat) : List Char :=
  let all := Numeral.padded '0' 9 nanosecond
  match digits with
  | .fixed count => all.take count
  | .oneOrMore =>
      match all with
      | [] => []
      | first :: rest => first :: (rest.reverse.dropWhile (· == '0')).reverse

def Precision.countOf (precision : Precision) (timestamp : Timestamp) : Int :=
  match precision with
  | .second => timestamp.unixSeconds
  | .millisecond => timestamp.unixNanoseconds.tdiv 1000000
  | .microsecond => timestamp.unixNanoseconds.tdiv 1000
  | .nanosecond => timestamp.unixNanoseconds

def weekdayNumber (style : WeekdayStyle) (oneIndexed : Bool) (weekday : Weekday) :
    List Char :=
  match style with
  | .longName => weekday.name.toList
  | .shortName => (shortName weekday.name).toList
  | .fromSunday => Numeral.digits (weekday.fromSunday + if oneIndexed then 1 else 0)
  | .fromMonday => Numeral.digits (weekday.fromMonday + if oneIndexed then 1 else 0)

def Component.render (component : Component) (timestamp : Timestamp) :
    Except RenderError (List Char) :=
  let date := timestamp.date
  let time := timestamp.time
  let offset := timestamp.offset
  match component with
  | .day padding => .ok (padding.write 2 date.day)
  | .month padding .number _ => .ok (padding.write 2 date.month)
  | .month _ .longName _ => .ok (nameOf monthNames date.month)
  | .month _ .shortName _ => .ok (nameOf (shortNames monthNames) date.month)
  | .ordinal padding => .ok (padding.write 3 date.ordinal)
  | .weekday style oneIndexed _ => .ok (weekdayNumber style oneIndexed date.weekday)
  | .weekNumber padding .iso => .ok (padding.write 2 date.isoYearWeek.2)
  | .weekNumber padding .sunday => .ok (padding.write 2 date.sundayWeek)
  | .weekNumber padding .monday => .ok (padding.write 2 date.mondayWeek)
  | .year padding digits range .calendar sign =>
      writeYear padding digits range sign date.year
  | .year padding digits range .isoWeek sign =>
      writeYear padding digits range sign date.isoYearWeek.1
  | .hour padding .twentyFour => .ok (padding.write 2 time.hour)
  | .hour padding .twelve => .ok (padding.write 2 time.hourOfTwelve)
  | .minute padding => .ok (padding.write 2 time.minute)
  | .second padding => .ok (padding.write 2 time.second)
  | .period .upper _ => .ok (if time.hour < 12 then ['A', 'M'] else ['P', 'M'])
  | .period .lower _ => .ok (if time.hour < 12 then ['a', 'm'] else ['p', 'm'])
  | .subsecond digits => .ok (digits.write time.nanosecond)
  | .offsetHour padding sign =>
      .ok (sign.write offset.isNegative ++ padding.write 2 offset.hourPart.natAbs)
  | .offsetMinute padding => .ok (padding.write 2 offset.minutePart.natAbs)
  | .offsetSecond padding => .ok (padding.write 2 offset.secondPart.natAbs)
  | .ignore _ => .ok []
  | .unixTimestamp precision sign =>
      let count := precision.countOf timestamp
      .ok (sign.write (decide (count < 0)) ++ Numeral.digits count.natAbs)
  | .ending _ => .ok []

mutual
def Item.render : Item → Timestamp → Except RenderError (List Char)
  | .literal text, _ => .ok text
  | .component part, timestamp => part.render timestamp
  | .optional inner, timestamp => inner.render timestamp
  | .first choices, timestamp => choices.render timestamp

def Items.render : Items → Timestamp → Except RenderError (List Char)
  | .nil, _ => .ok []
  | .cons head tail, timestamp =>
      match head.render timestamp with
      | .error error => .error error
      | .ok text => (tail.render timestamp).map (text ++ ·)

def Alternatives.render : Alternatives → Timestamp → Except RenderError (List Char)
  | .nil, _ => .ok []
  | .cons head _, timestamp => head.render timestamp
end

end ScalarCell.Pattern
