import ScalarCell.Calendar.Reading
import ScalarCell.Numeric.Power
import ScalarCell.Pattern.Fields
import ScalarCell.Pattern.Item
import ScalarCell.Text.Digits
import ScalarCell.Text.Utf8

namespace ScalarCell.Pattern

/-! Reading text with the items of a pattern. Each item takes bytes from the front and
sets fields, or fails and leaves both as they were. -/

/-! ## Numbers, signs and names -/

def dropPrefix? : (expected : List UInt8) → List UInt8 → Option (List UInt8)
  | [], bytes => some bytes
  | _ :: _, [] => none
  | expected :: more, byte :: rest =>
      if byte = expected then dropPrefix? more rest else none

def takeSpaces : (limit : Nat) → List UInt8 → Nat × List UInt8
  | 0, bytes => (0, bytes)
  | _ + 1, [] => (0, [])
  | limit + 1, byte :: rest =>
      if byte = 0x20 then
        let (count, remaining) := takeSpaces limit rest
        (count + 1, remaining)
      else
        (0, byte :: rest)

/-- A number of a given width: all its digits, spaces in the place of some of the first
ones, or only as many digits as there are. -/
def Padding.read? (padding : Padding) (width : Nat) (bytes : List UInt8) :
    Option (Nat × List UInt8) :=
  match padding with
  | .zero => Digits.exactly? width bytes
  | .unpadded => Digits.upTo? width bytes
  | .space =>
      let (spaces, remaining) := takeSpaces (width - 1) bytes
      Digits.exactly? (width - spaces) remaining

def within? (low high : Nat) : Option (Nat × List UInt8) → Option (Nat × List UInt8)
  | some (number, rest) =>
      if low ≤ number ∧ number ≤ high then some (number, rest) else none
  | none => none

def takeSign : List UInt8 → Option Bool × List UInt8
  | [] => (none, [])
  | byte :: rest =>
      if byte = 0x2D then (some true, rest)
      else if byte = 0x2B then (some false, rest)
      else (none, byte :: rest)

def SignRule.missing (rule : SignRule) (sign : Option Bool) : Bool :=
  rule = .mandatory && sign.isNone

def lowercaseByte (byte : UInt8) : UInt8 :=
  if 0x41 ≤ byte ∧ byte ≤ 0x5A then byte + 0x20 else byte

def dropName? (caseSensitive : Bool) (name : String) (bytes : List UInt8) :
    Option (List UInt8) :=
  let expected := Utf8.encode name.toList
  if caseSensitive then dropPrefix? expected bytes
  else
    (dropPrefix? (expected.map lowercaseByte)
      ((bytes.take expected.length).map lowercaseByte)).map
      fun _ => bytes.drop expected.length

def readName? (caseSensitive : Bool) :
    List (String × Nat) → List UInt8 → Option (Nat × List UInt8)
  | [], _ => none
  | (name, value) :: others, bytes =>
      match dropName? caseSensitive name bytes with
      | some rest => some (value, rest)
      | none => readName? caseSensitive others bytes

def monthNames : List (String × Nat) :=
  [("January", 1), ("February", 2), ("March", 3), ("April", 4), ("May", 5), ("June", 6),
    ("July", 7), ("August", 8), ("September", 9), ("October", 10), ("November", 11),
    ("December", 12)]

def weekdayNames : List (String × Nat) :=
  Weekday.all.map fun weekday => (weekday.name, weekday.fromMonday)

def shortName (name : String) : String :=
  String.ofList (name.toList.take 3)

def shortNames (names : List (String × Nat)) : List (String × Nat) :=
  names.map fun (name, value) => (shortName name, value)

/-! ## Components -/

abbrev Progress : Type :=
  Fields × List UInt8

def readYear? (padding : Padding) (digits : YearDigits) (base : YearBase)
    (rule : SignRule) (fields : Fields) (bytes : List UInt8) : Option Progress :=
  match digits with
  | .full => do
      let (sign, rest) := takeSign bytes
      let (number, rest) ← padding.read? 4 rest
      if rule.missing sign then none
      else
        let year : Int := if sign = some true then -(number : Int) else number
        match base with
        | .calendar => some ({ fields with year := some year }, rest)
        | .isoWeek => some ({ fields with isoYear := some year }, rest)
  | .century => do
      let (sign, rest) := takeSign bytes
      let (number, rest) ←
        if sign.isSome then padding.read? 2 rest else Digits.upTo? 2 rest
      if rule.missing sign then none
      else
        let negative := sign == some true
        match base with
        | .calendar =>
            some
              ({ fields with century := some number, centuryNegative := negative }, rest)
        | .isoWeek =>
            some
              ({ fields with
                isoCentury := some number, isoCenturyNegative := negative }, rest)
  | .lastTwo => do
      let (number, rest) ← padding.read? 2 bytes
      match base with
      | .calendar => some ({ fields with lastTwo := some number }, rest)
      | .isoWeek => some ({ fields with isoLastTwo := some number }, rest)

def readMonth? (padding : Padding) (style : MonthStyle) (caseSensitive : Bool)
    (fields : Fields) (bytes : List UInt8) : Option Progress := do
  let (month, rest) ←
    match style with
    | .number => within? 1 12 (padding.read? 2 bytes)
    | .longName => readName? caseSensitive monthNames bytes
    | .shortName => readName? caseSensitive (shortNames monthNames) bytes
  some ({ fields with month := some month }, rest)

def readWeekday? (style : WeekdayStyle) (oneIndexed caseSensitive : Bool)
    (fields : Fields) (bytes : List UInt8) : Option Progress := do
  let least := if oneIndexed then 1 else 0
  let (weekday, rest) ←
    match style with
    | .longName => readName? caseSensitive weekdayNames bytes
    | .shortName => readName? caseSensitive (shortNames weekdayNames) bytes
    | .fromSunday =>
        (within? least (least + 6) (Digits.exactly? 1 bytes)).map fun (number, rest) =>
          (number - least + 6, rest)
    | .fromMonday =>
        (within? least (least + 6) (Digits.exactly? 1 bytes)).map fun (number, rest) =>
          (number - least, rest)
  some ({ fields with weekday := some (.ofFromMonday weekday) }, rest)

def readWeekNumber? (padding : Padding) (rule : WeekRule)
    (fields : Fields) (bytes : List UInt8) : Option Progress := do
  match rule with
  | .iso =>
      let (week, rest) ← within? 1 53 (padding.read? 2 bytes)
      some ({ fields with isoWeek := some week }, rest)
  | .sunday =>
      let (week, rest) ← within? 0 53 (padding.read? 2 bytes)
      some ({ fields with sundayWeek := some week }, rest)
  | .monday =>
      let (week, rest) ← within? 0 53 (padding.read? 2 bytes)
      some ({ fields with mondayWeek := some week }, rest)

def readHour? (padding : Padding) (dial : Dial) (fields : Fields) (bytes : List UInt8) :
    Option Progress := do
  match dial with
  | .twentyFour =>
      let (hour, rest) ← within? 0 23 (padding.read? 2 bytes)
      some ({ fields with hour := some hour }, rest)
  | .twelve =>
      let (hour, rest) ← within? 1 12 (padding.read? 2 bytes)
      some ({ fields with hourOfTwelve := some hour }, rest)

/-- The half of the day. Its letters may be in either case, unless they are required to
be upper case and to agree. -/
def readPeriod? (letterCase : LetterCase) (caseSensitive : Bool)
    (fields : Fields) (bytes : List UInt8) : Option Progress := do
  let exact := letterCase = .upper && caseSensitive
  let (afternoon, rest) ← readName? exact [("AM", 0), ("PM", 1)] bytes
  some ({ fields with afternoon := some (afternoon == 1) }, rest)

def readSubsecond? (digits : FractionDigits) (fields : Fields) (bytes : List UInt8) :
    Option Progress := do
  let (nanosecond, rest) ←
    match digits with
    | .oneOrMore => Digits.fraction? bytes
    | .fixed count =>
        (Digits.exactly? count bytes).map fun (number, rest) =>
          (number * 10 ^ (9 - count), rest)
  some ({ fields with nanosecond := some nanosecond }, rest)

def readOffsetHour? (padding : Padding) (rule : SignRule)
    (fields : Fields) (bytes : List UInt8) : Option Progress := do
  let (sign, rest) := takeSign bytes
  let (hour, rest) ← within? 0 23 (padding.read? 2 rest)
  if rule.missing sign then none
  else
    let negative := sign == some true
    let signedHour : Int := if negative then -(hour : Int) else hour
    some ({ fields with offsetHour := some signedHour, offsetNegative := negative }, rest)

def Precision.scale : Precision → Nat × Nat
  | .second => (14, 1000000000)
  | .millisecond => (17, 1000000)
  | .microsecond => (20, 1000)
  | .nanosecond => (23, 1)

def readUnixTimestamp? (precision : Precision) (rule : SignRule)
    (fields : Fields) (bytes : List UInt8) : Option Progress := do
  let (sign, rest) := takeSign bytes
  let (limit, step) := precision.scale
  let (count, rest) ← Digits.upTo? limit rest
  if rule.missing sign then none
  else
    let nanoseconds : Int := (count * step : Nat)
    let signed := if sign = some true then -nanoseconds else nanoseconds
    if Timestamp.InstantInRange signed then
      some ({ fields with unixNanoseconds := some signed }, rest)
    else
      none

def Component.read (component : Component) (fields : Fields) (bytes : List UInt8) :
    Except ReadError Progress :=
  match component with
  | .day padding =>
      orMalformed .day <| put (within? 1 31 (padding.read? 2 bytes)) fun number =>
        { fields with day := some number }
  | .month padding style caseSensitive =>
      orMalformed .month (readMonth? padding style caseSensitive fields bytes)
  | .ordinal padding =>
      orMalformed .ordinal <| put (within? 1 366 (padding.read? 3 bytes)) fun number =>
        { fields with ordinal := some number }
  | .weekday style oneIndexed caseSensitive =>
      orMalformed .weekday (readWeekday? style oneIndexed caseSensitive fields bytes)
  | .weekNumber padding rule =>
      orMalformed .weekNumber (readWeekNumber? padding rule fields bytes)
  | .year padding digits _ base sign =>
      orMalformed .year (readYear? padding digits base sign fields bytes)
  | .hour padding dial => orMalformed .hour (readHour? padding dial fields bytes)
  | .minute padding =>
      orMalformed .minute <| put (within? 0 59 (padding.read? 2 bytes)) fun number =>
        { fields with minute := some number }
  | .second padding =>
      orMalformed .second <| put (within? 0 60 (padding.read? 2 bytes)) fun number =>
        { fields with second := some number }
  | .period letterCase caseSensitive =>
      orMalformed .period (readPeriod? letterCase caseSensitive fields bytes)
  | .subsecond digits => orMalformed .subsecond (readSubsecond? digits fields bytes)
  | .offsetHour padding sign =>
      orMalformed .offsetHour (readOffsetHour? padding sign fields bytes)
  | .offsetMinute padding =>
      orMalformed .offsetMinute <|
        put (within? 0 59 (padding.read? 2 bytes)) fun number =>
          { fields with offsetMinute := some number }
  | .offsetSecond padding =>
      orMalformed .offsetSecond <|
        put (within? 0 59 (padding.read? 2 bytes)) fun number =>
          { fields with offsetSecond := some number }
  | .ignore count =>
      orMalformed .ignore <|
        if count ≤ bytes.length then some (fields, bytes.drop count) else none
  | .unixTimestamp precision sign =>
      orMalformed .unixTimestamp (readUnixTimestamp? precision sign fields bytes)
  | .ending .prohibit => if bytes.isEmpty then .ok (fields, bytes) else .error .trailing
  | .ending .discard => .ok (fields, [])
where
  put (outcome : Option (Nat × List UInt8)) (assign : Nat → Fields) : Option Progress :=
    outcome.map fun (number, rest) => (assign number, rest)
  orMalformed (part : WrittenPart) : Option Progress → Except ReadError Progress
    | some progress => .ok progress
    | none => .error (.malformed part)

/-! ## Items -/

mutual
/-- Reads one item. What is optional never fails; of alternatives the first that
matches is taken, and without a match the first one's error stands. -/
def Item.read : Item → Fields → List UInt8 → Except ReadError Progress
  | .literal text, fields, bytes =>
      match dropPrefix? (Utf8.encode text) bytes with
      | some rest => .ok (fields, rest)
      | none => .error .literal
  | .component part, fields, bytes => part.read fields bytes
  | .optional inner, fields, bytes =>
      match inner.read fields bytes with
      | .ok progress => .ok progress
      | .error _ => .ok (fields, bytes)
  | .first choices, fields, bytes => choices.read fields bytes

def Items.read : Items → Fields → List UInt8 → Except ReadError Progress
  | .nil, fields, bytes => .ok (fields, bytes)
  | .cons head tail, fields, bytes =>
      match head.read fields bytes with
      | .ok (fields, bytes) => tail.read fields bytes
      | .error error => .error error

def Alternatives.read : Alternatives → Fields → List UInt8 → Except ReadError Progress
  | .nil, fields, bytes => .ok (fields, bytes)
  | .cons head tail, fields, bytes =>
      match head.read fields bytes with
      | .ok progress => .ok progress
      | .error error =>
          match tail.find? fields bytes with
          | some progress => .ok progress
          | none => .error error

def Alternatives.find? : Alternatives → Fields → List UInt8 → Option Progress
  | .nil, _, _ => none
  | .cons head tail, fields, bytes =>
      match head.read fields bytes with
      | .ok progress => some progress
      | .error _ => tail.find? fields bytes
end

end ScalarCell.Pattern
