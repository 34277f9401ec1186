import ScalarCell.Cell

namespace ScalarCell

/-! Data formats deliver values as tokens. A cell is decoded from one token in two steps:
the token becomes a column value, if the type takes such tokens at all, and the column
value is coerced as a scanned one is. -/

inductive Token where
  | unit
  | none
  | bool (value : Bool)
  | int8 (value : Int8)
  | int16 (value : Int16)
  | int32 (value : Int32)
  | int64 (value : Int64)
  | int128 (value : Int)
  | uint8 (value : UInt8)
  | uint16 (value : UInt16)
  | uint32 (value : UInt32)
  | uint64 (value : UInt64)
  | uint128 (value : Nat)
  | float32 (value : Binary32)
  | float64 (value : Binary64)
  | char (value : Char)
  | text (value : String)
  | bytes (value : List UInt8)
  | some (token : Token)
deriving DecidableEq, Repr

/-! ## Problems -/

inductive Unexpected where
  | bool (value : Bool)
  | integer (value : Int)
  | wideInteger (signed : Bool) (value : Int)
  | float (value : Binary64)
  | text (value : String)
  | bytes
  | unit
  | option
  | sequence
  | map
deriving DecidableEq, Repr

inductive Expectation where
  | columnValue
  | numberLiteral
  | string
  | sequence
  | customer
deriving DecidableEq, Repr

def Expectation.name : Expectation → String
  | .columnValue => "null, a boolean, a number or a string"
  | .numberLiteral => "an integer, a numeric string or null"
  | .string => "a string"
  | .sequence => "a sequence"
  | .customer => "struct Customer"

inductive Dialect where
  | json
  | token
deriving DecidableEq, Repr

def Unexpected.name (dialect : Dialect) : Unexpected → String
  | .bool value => s!"boolean `{value}`"
  | .integer value => s!"integer `{String.ofList (Numeral.signed value)}`"
  | .wideInteger true value =>
      s!"integer `{String.ofList (Numeral.signed value)}` as i128"
  | .wideInteger false value =>
      s!"integer `{String.ofList (Numeral.signed value)}` as u128"
  | .float value =>
      let layout :=
        match dialect with
        | .json => Layout.json
        | .token => Layout.plainWithPoint
      s!"floating point `{String.ofList (layout.write value)}`"
  | .text value => s!"string {Quoted.quote value}"
  | .bytes => "byte array"
  | .unit =>
      match dialect with
      | .json => "null"
      | .token => "unit value"
  | .option => "Option value"
  | .sequence => "sequence"
  | .map => "map"

inductive DecodeProblem where
  | invalidType (found : Unexpected) (expected : Expectation)
  | invalidValue (found : Unexpected) (expected : Expectation)
  | tooFewElements (count : Nat)
  | tooManyElements (count : Nat)
  | duplicateField (name : String)
  | conversion (error : ConversionError)
  | timestamp (error : Rfc3339.Error)
deriving DecidableEq, Repr

def DecodeProblem.message (dialect : Dialect) : DecodeProblem → String
  | .invalidType found expected =>
      s!"invalid type: {found.name dialect}, expected {expected.name}"
  | .invalidValue found expected =>
      s!"invalid value: {found.name dialect}, expected {expected.name}"
  | .tooFewElements count =>
      s!"invalid length {count}, expected struct Customer with 5 elements"
  | .tooManyElements count => s!"invalid length {count}, expected fewer elements in array"
  | .duplicateField name => s!"duplicate field `{name}`"
  | .conversion error => error.message
  | .timestamp error => error.message

/-! ## From a token to a column value -/

inductive TokenRule where
  | columnValue
  | numberLiteral
  | timestampText
deriving DecidableEq, Repr

namespace TokenRule

def expectation : TokenRule → Expectation
  | .columnValue => .columnValue
  | .numberLiteral => .numberLiteral
  | .timestampText => .string

/-- Any token but the widest integers. An unsigned integer beyond the signed ones keeps its
digits as text. -/
def takeColumnValue : Token → Except DecodeProblem ColumnValue
  | .unit => .ok .null
  | .none => .ok .null
  | .bool value => .ok (.bool value)
  | .int8 value => .ok (toColumn value)
  | .int16 value => .ok (toColumn value)
  | .int32 value => .ok (toColumn value)
  | .int64 value => .ok (.int value)
  | .int128 value => .error (.invalidType (.wideInteger true value) .columnValue)
  | .uint8 value => .ok (toColumn value)
  | .uint16 value => .ok (toColumn value)
  | .uint32 value => .ok (toColumn value)
  | .uint64 value =>
      .ok <|
        if value.toNat < 2 ^ 63 then .int (Int64.ofNat value.toNat)
        else .text (String.ofList (Numeral.digits value.toNat))
  | .uint128 value => .error (.invalidType (.wideInteger false value) .columnValue)
  | .float32 value => .ok (toColumn value)
  | .float64 value => .ok (.float value)
  | .char value => .ok (.text (String.ofList [value]))
  | .text value => .ok (.text value)
  | .bytes value => .ok (.blob value)
  | .some token => takeColumnValue token

def literalText (value : String) : ColumnValue :=
  if value.isEmpty then .null else .text value

def takeNumberLiteral : Token → Except DecodeProblem ColumnValue
  | .unit => .ok .null
  | .none => .ok .null
  | .bool value => .error (.invalidType (.bool value) .numberLiteral)
  | .int8 value => .ok (toColumn value)
  | .int16 value => .ok (toColumn value)
  | .int32 value => .ok (toColumn value)
  | .int64 value => .ok (.int value)
  | .int128 value => .error (.invalidType (.wideInteger true value) .numberLiteral)
  | .uint8 value => .ok (.text (String.ofList (Numeral.digits value.toNat)))
  | .uint16 value => .ok (.text (String.ofList (Numeral.digits value.toNat)))
  | .uint32 value => .ok (.text (String.ofList (Numeral.digits value.toNat)))
  | .uint64 value => .ok (.text (String.ofList (Numeral.digits value.toNat)))
  | .uint128 value => .error (.invalidType (.wideInteger false value) .numberLiteral)
  | .float32 value => .error (.invalidType (.float value.widen) .numberLiteral)
  | .float64 value => .error (.invalidType (.float value) .numberLiteral)
  | .char value => .ok (literalText (String.ofList [value]))
  | .text value => .ok (literalText value)
  | .bytes _ => .error (.invalidType .bytes .numberLiteral)
  | .some token => takeNumberLiteral token

def takeTimestampText : Token → Except DecodeProblem ColumnValue
  | .unit => .error (.invalidType .unit .string)
  | .none => .error (.invalidType .option .string)
  | .bool value => .error (.invalidType (.bool value) .string)
  | .int8 value => .error (.invalidType (.integer value.toInt) .string)
  | .int16 value => .error (.invalidType (.integer value.toInt) .string)
  | .int32 value => .error (.invalidType (.integer value.toInt) .string)
  | .int64 value => .error (.invalidType (.integer value.toInt) .string)
  | .int128 value => .error (.invalidType (.wideInteger true value) .string)
  | .uint8 value => .error (.invalidType (.integer value.toNat) .string)
  | .uint16 value => .error (.invalidType (.integer value.toNat) .string)
  | .uint32 value => .error (.invalidType (.integer value.toNat) .string)
  | .uint64 value => .error (.invalidType (.integer value.toNat) .string)
  | .uint128 value => .error (.invalidType (.wideInteger false value) .string)
  | .float32 value => .error (.invalidType (.float value.widen) .string)
  | .float64 value => .error (.invalidType (.float value) .string)
  | .char value => .ok (.text (String.ofList [value]))
  | .text value => .ok (.text value)
  | .bytes value =>
      match Utf8.decode value with
      | .ok characters => .ok (.text (String.ofList characters))
      | .error _ => .error (.invalidValue .bytes .string)
  | .some _ => .error (.invalidType .option .string)

def take : TokenRule → Token → Except DecodeProblem ColumnValue
  | .columnValue => takeColumnValue
  | .numberLiteral => takeNumberLiteral
  | .timestampText => takeTimestampText

end TokenRule

/-! ## From a token to a cell

A cell is optional: before its rule is asked, the tokens without a value are null. -/

def Token.present? : Token → Option Token
  | .unit => Option.none
  | .none => Option.none
  | token => Option.some token

def ScalarType.tokenRule : ScalarType → TokenRule
  | .string => .columnValue
  | .int64 => .numberLiteral
  | .float64 => .columnValue
  | .bool => .columnValue
  | .time => .timestampText

def decodeTimestamp : ColumnValue → Except DecodeProblem (Option Timestamp)
  | .text content =>
      match Rfc3339.read content with
      | .ok timestamp => .ok (some timestamp)
      | .error error => .error (.timestamp error)
  | _ => .ok none

namespace Cell

def ofTaken : (type : ScalarType) → ColumnValue → Except DecodeProblem (Cell type)
  | .string, value => (value.toText.mapError .conversion).map ofOption
  | .int64, value => (value.toInt64.mapError .conversion).map ofOption
  | .float64, value => (value.toFloat64.mapError .conversion).map ofOption
  | .bool, value => (value.toBool.mapError .conversion).map ofOption
  | .time, value => (decodeTimestamp value).map ofOption

def ofToken (type : ScalarType) (token : Token) : Except DecodeProblem (Cell type) :=
  match token.present? with
  | none => .ok (null type)
  | some token =>
      match type.tokenRule.take token with
      | .ok value => ofTaken type value
      | .error problem => .error problem

end Cell

end ScalarCell
