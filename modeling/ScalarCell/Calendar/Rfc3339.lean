import ScalarCell.Calendar.Reading
import ScalarCell.Calendar.Timestamp
import ScalarCell.Numeric.Numeral
import ScalarCell.Text.Digits
import ScalarCell.Text.Utf8

namespace ScalarCell.Rfc3339

/-! Timestamps as RFC 3339 writes them: a date, any one byte, a time with an optional
fraction, and an offset in hours and minutes. -/

inductive Error where
  | form (error : ReadError)
  | range (error : OutOfRange)
deriving DecidableEq, Repr

def Error.message : Error → String
  | .form error => error.message
  | .range error => error.message

/-! ## Reading -/

def readNumber (part : WrittenPart) (count : Nat) (bytes : List UInt8) :
    Except Error (Nat × List UInt8) :=
  match Digits.exactly? count bytes with
  | some outcome => .ok outcome
  | none => .error (.form (.malformed part))

def readLiteral (expected : UInt8) : List UInt8 → Except Error (List UInt8)
  | [] => .error (.form .literal)
  | byte :: rest => if byte = expected then .ok rest else .error (.form .literal)

def readFraction : List UInt8 → Except Error (Nat × List UInt8)
  | [] => .ok (0, [])
  | byte :: rest =>
      if byte = 0x2E then
        match Digits.fraction? rest with
        | some outcome => .ok outcome
        | none => .error (.form (.malformed .subsecond))
      else
        .ok (0, byte :: rest)

def readSignedOffset (sign : Int) (bytes : List UInt8) :
    Except Error (UtcOffset × List UInt8) := do
  let (hour, bytes) ← readNumber .offsetHour 2 bytes
  if 23 < hour then
    .error (.form (.malformed .offsetHour))
  let bytes ← readLiteral 0x3A bytes
  let (minute, bytes) ← readNumber .offsetMinute 2 bytes
  match UtcOffset.ofParts? (sign * hour) (sign * minute) 0 with
  | some offset => .ok (offset, bytes)
  | none => .error (.range ⟨.offsetMinute⟩)

def readOffset : List UInt8 → Except Error (UtcOffset × List UInt8)
  | [] => .error (.form (.malformed .offsetHour))
  | byte :: rest =>
      if byte = 0x5A ∨ byte = 0x7A then .ok (.utc, rest)
      else if byte = 0x2B then readSignedOffset 1 rest
      else if byte = 0x2D then readSignedOffset (-1) rest
      else .error (.form (.malformed .offsetHour))

structure Written where
  year : Nat
  month : Nat
  day : Nat
  hour : Nat
  minute : Nat
  second : Nat
  nanosecond : Nat
  offset : UtcOffset
deriving DecidableEq, Repr

def readWritten (bytes : List UInt8) : Except Error Written := do
  let (year, bytes) ← readNumber .year 4 bytes
  let bytes ← readLiteral 0x2D bytes
  let (month, bytes) ← readNumber .month 2 bytes
  if month = 0 then
    .error (.form (.malformed .month))
  let bytes ← readLiteral 0x2D bytes
  let (day, bytes) ← readNumber .day 2 bytes
  if bytes.isEmpty then
    .error (.form (.malformed .separator))
  let (hour, bytes) ← readNumber .hour 2 (bytes.drop 1)
  let bytes ← readLiteral 0x3A bytes
  let (minute, bytes) ← readNumber .minute 2 bytes
  let bytes ← readLiteral 0x3A bytes
  let (second, bytes) ← readNumber .second 2 bytes
  let (nanosecond, bytes) ← readFraction bytes
  let (offset, bytes) ← readOffset bytes
  if bytes.isEmpty then
    .ok ⟨year, month, day, hour, minute, second, nanosecond, offset⟩
  else
    .error (.form .trailing)

/-- Whether the next second begins a month in UTC: only there leap seconds are inserted. -/
def endsMonthInUtc (timestamp : Timestamp) : Bool :=
  let seconds := timestamp.unixSeconds
  if (seconds + 1) % secondsPerDay = 0 then
    match Date.ofDayNumber? (epochDay + seconds / secondsPerDay) with
    | some date => date.day == daysInMonth date.year date.month
    | none => false
  else
    false

def Written.date (written : Written) : Except Error Date :=
  if 12 < written.month then .error (.range ⟨.month⟩)
  else
    match Date.ofCalendar? written.year written.month written.day with
    | some date => .ok date
    | none => .error (.range ⟨.day⟩)

def timeOfDay (hour minute second nanosecond : Nat) : Except Error TimeOfDay :=
  if 24 ≤ hour then .error (.range ⟨.hour⟩)
  else if 60 ≤ minute then .error (.range ⟨.minute⟩)
  else
    match TimeOfDay.ofParts? hour minute second nanosecond with
    | some time => .ok time
    | none => .error (.range ⟨.second⟩)

/-- The timestamp of the written parts. A second 60 stands for the last nanosecond
before it, and must be where a leap second can be. -/
def Written.timestamp (written : Written) : Except Error Timestamp := do
  let date ← written.date
  if written.second = 60 then
    let time ← timeOfDay written.hour written.minute 59 999999999
    let timestamp : Timestamp := ⟨date, time, written.offset⟩
    if endsMonthInUtc timestamp then .ok timestamp else .error (.range ⟨.second⟩)
  else
    let time ← timeOfDay written.hour written.minute written.second written.nanosecond
    .ok ⟨date, time, written.offset⟩

def read (text : String) : Except Error Timestamp := do
  let written ← readWritten (Utf8.encode text.toList)
  written.timestamp

/-! ## Writing -/

def trimZeros (digits : List Char) : List Char :=
  (digits.reverse.dropWhile (· == '0')).reverse

def writeFraction (nanosecond : Nat) : List Char :=
  if nanosecond = 0 then [] else '.' :: trimZeros (Numeral.padded '0' 9 nanosecond)

def writeOffset (offset : UtcOffset) : List Char :=
  if offset = .utc then ['Z']
  else
    (if offset.isNegative then '-' else '+') ::
      Numeral.padded '0' 2 offset.hourPart.natAbs ++
        ':' :: Numeral.padded '0' 2 offset.minutePart.natAbs

/-- Writes a timestamp, if its year has four digits and its offset whole minutes. -/
def write (timestamp : Timestamp) : Except RenderError String :=
  if timestamp.date.year < 0 then .error .year
  else if 23 < timestamp.offset.hourPart.natAbs then .error .offsetHour
  else if timestamp.offset.secondPart ≠ 0 then .error .offsetSecond
  else
    .ok <| String.ofList <|
      Numeral.padded '0' 4 timestamp.date.year.natAbs ++
        '-' :: Numeral.padded '0' 2 timestamp.date.month ++
        '-' :: Numeral.padded '0' 2 timestamp.date.day ++
        'T' :: Numeral.padded '0' 2 timestamp.time.hour ++
        ':' :: Numeral.padded '0' 2 timestamp.time.minute ++
        ':' :: Numeral.padded '0' 2 timestamp.time.second ++
        writeFraction timestamp.time.nanosecond ++ writeOffset timestamp.offset

end ScalarCell.Rfc3339
