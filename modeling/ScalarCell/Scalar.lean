import ScalarCell.Calendar.Rfc3339
import ScalarCell.Column
import ScalarCell.Numeric.Binary64.Layout
import ScalarCell.Numeric.Binary64.Reader
import ScalarCell.PatternList

namespace ScalarCell

/-! The five scalar types, and how column values are coerced into them. A null is never an
error; it is coerced to the absence of a value. -/

inductive ScalarType where
  | string
  | int64
  | float64
  | bool
  | time
deriving DecidableEq, Repr

namespace ScalarType

@[reducible] def Native : ScalarType → Type
  | .string => String
  | .int64 => Int64
  | .float64 => Binary64
  | .bool => Bool
  | .time => Timestamp

def zero : (type : ScalarType) → type.Native
  | .string => ""
  | .int64 => 0
  | .float64 => .zero
  | .bool => false
  | .time => .epoch

def equal : (type : ScalarType) → type.Native → type.Native → Bool
  | .string, left, right => left == right
  | .int64, left, right => left == right
  | .float64, left, right => left.equal right
  | .bool, left, right => left == right
  | .time, left, right => left.sameInstant right

def toColumn : (type : ScalarType) → type.Native → ColumnValue
  | .string, value => .text value
  | .int64, value => .int value
  | .float64, value => .float value
  | .bool, value => .bool value
  | .time, value => .timestamp value

end ScalarType

/-! ## Errors -/

inductive ConversionCause where
  | utf8 (error : Utf8.Error)
  | integer (error : Numeral.Error)
  | float (error : Binary64.TextError)
  | render (error : RenderError)
deriving DecidableEq, Repr

def ConversionCause.message : ConversionCause → String
  | .utf8 error => error.message
  | .integer error => error.message
  | .float error => error.message
  | .render error => error.message

inductive ConversionTarget where
  | string
  | int64
  | float64
  | bool
deriving DecidableEq, Repr

def ConversionTarget.name : ConversionTarget → String
  | .string => "alloc::string::String"
  | .int64 => "i64"
  | .float64 => "f64"
  | .bool => "bool"

structure ConversionError where
  kind : ColumnKind
  target : ConversionTarget
  cause : Option ConversionCause
deriving DecidableEq, Repr

def ConversionError.message (error : ConversionError) : String :=
  let because :=
    match error.cause with
    | some cause => s!": {cause.message}"
    | none => ""
  s!"converting database value of kind {error.kind.name} to `{error.target.name}`{because}"

inductive ScanError where
  | conversion (error : ConversionError)
  | timestamp (error : TimestampTextError)
deriving DecidableEq, Repr

/-! ## Coercions -/

namespace ColumnValue

def blobText (target : ConversionTarget) (bytes : List UInt8) :
    Except ConversionError (List Char) :=
  match Utf8.decode bytes with
  | .ok characters => .ok characters
  | .error error => .error ⟨.blob, target, some (.utf8 error)⟩

def toText : ColumnValue → Except ConversionError (Option String)
  | .null => .ok none
  | .bool value => .ok (some (if value then "true" else "false"))
  | .int value => .ok (some (String.ofList (Numeral.signed value.toInt)))
  | .float value => .ok (some (String.ofList (Layout.column.write value)))
  | .text content => .ok (some content)
  | .blob bytes => (blobText .string bytes).map fun characters =>
      some (String.ofList characters)
  | .timestamp value =>
      match Rfc3339.write value with
      | .ok written => .ok (some written)
      | .error error => .error ⟨.timestamp, .string, some (.render error)⟩

def integerOfText (kind : ColumnKind) (characters : List Char) :
    Except ConversionError (Option Int64) :=
  match Numeral.readInt64 characters with
  | .ok number => .ok (some (Int64.ofInt number))
  | .error error => .error ⟨kind, .int64, some (.integer error)⟩

def int64OfFloat? (number : Binary64) : Option Int64 :=
  match number.toInt? with
  | some integer =>
      if -2 ^ 63 ≤ integer ∧ integer < 2 ^ 63 then some (Int64.ofInt integer) else none
  | none => none

def toInt64 : ColumnValue → Except ConversionError (Option Int64)
  | .null => .ok none
  | .bool _ => .error ⟨.bool, .int64, none⟩
  | .int value => .ok (some value)
  | .float value =>
      match int64OfFloat? value with
      | some integer => .ok (some integer)
      | none => .error ⟨.float, .int64, none⟩
  | .text content => integerOfText .text content.toList
  | .blob bytes =>
      match blobText .int64 bytes with
      | .ok characters => integerOfText .blob characters
      | .error error => .error error
  | .timestamp _ => .error ⟨.timestamp, .int64, none⟩

def floatOfText (kind : ColumnKind) (characters : List Char) :
    Except ConversionError (Option Binary64) :=
  match Binary64.read characters with
  | .ok number => .ok (some number)
  | .error error => .error ⟨kind, .float64, some (.float error)⟩

def toFloat64 : ColumnValue → Except ConversionError (Option Binary64)
  | .null => .ok none
  | .bool _ => .error ⟨.bool, .float64, none⟩
  | .int value => .ok (some (.ofInt value.toInt))
  | .float value => .ok (some value)
  | .text content => floatOfText .text content.toList
  | .blob bytes =>
      match blobText .float64 bytes with
      | .ok characters => floatOfText .blob characters
      | .error error => .error error
  | .timestamp _ => .error ⟨.timestamp, .float64, none⟩

def trueWords : List String :=
  ["1", "t", "T", "TRUE", "true", "True"]

def falseWords : List String :=
  ["0", "f", "F", "FALSE", "false", "False"]

def truthOfWord? (characters : List Char) : Option Bool :=
  if characters ∈ trueWords.map String.toList then some true
  else if characters ∈ falseWords.map String.toList then some false
  else none

def truthOfText (kind : ColumnKind) (characters : List Char) :
    Except ConversionError (Option Bool) :=
  match truthOfWord? characters with
  | some truth => .ok (some truth)
  | none => .error ⟨kind, .bool, none⟩

def toBool : ColumnValue → Except ConversionError (Option Bool)
  | .null => .ok none
  | .bool value => .ok (some value)
  | .int value =>
      if value = 1 then .ok (some true)
      else if value = 0 then .ok (some false)
      else .error ⟨.int, .bool, none⟩
  | .float _ => .error ⟨.float, .bool, none⟩
  | .text content => truthOfText .text content.toList
  | .blob bytes =>
      match blobText .bool bytes with
      | .ok characters => truthOfText .blob characters
      | .error error => .error error
  | .timestamp _ => .error ⟨.timestamp, .bool, none⟩

/-- A value as a timestamp. Text is read in UTC where it names no offset; broken bytes are
replaced before. Values of other kinds count as null. -/
def toTimestamp (patterns : PatternList) :
    ColumnValue → Except TimestampTextError (Option Timestamp)
  | .null => .ok none
  | .bool _ => .ok none
  | .int _ => .ok none
  | .float _ => .ok none
  | .text content => (patterns.read content .utc).map some
  | .blob bytes => (patterns.read (String.ofList (Utf8.decodeLossy bytes)) .utc).map some
  | .timestamp value => .ok (some value)

end ColumnValue

def ScalarType.coerce (patterns : PatternList) :
    (type : ScalarType) → ColumnValue → Except ScanError (Option type.Native)
  | .string, value => value.toText.mapError .conversion
  | .int64, value => value.toInt64.mapError .conversion
  | .float64, value => value.toFloat64.mapError .conversion
  | .bool, value => value.toBool.mapError .conversion
  | .time, value => (value.toTimestamp patterns).mapError .timestamp

end ScalarCell
