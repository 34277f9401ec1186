import ScalarCell.Json.Number
import ScalarCell.Json.Text

namespace ScalarCell.Json

/-! The first piece of a value: a whole scalar, or the bracket that opens a container. -/

inductive Scalar where
  | null
  | bool (value : Bool)
  | number (value : Number)
  | text (value : String)
deriving DecidableEq, Repr

namespace Scalar

def token : Scalar → Token
  | .null => .unit
  | .bool value => .bool value
  | .number value => value.token
  | .text value => .text value

def unexpected : Scalar → Unexpected
  | .null => .unit
  | .bool value => .bool value
  | .number (.natural value) => .integer value.toNat
  | .number (.negative value) => .integer value.toInt
  | .number (.float value) => .float value
  | .text value => .text value

def write : Scalar → List Char
  | .null => "null".toList
  | .bool true => "true".toList
  | .bool false => "false".toList
  | .number (.natural value) => Numeral.digits value.toNat
  | .number (.negative value) => Numeral.signed value.toInt
  | .number (.float value) => Layout.json.write value
  | .text value => writeText value.toList

end Scalar

inductive Lexeme where
  | scalar (value : Scalar)
  | openList
  | openObject
deriving DecidableEq, Repr

def readWord : (word : List Char) → List Char → Except Failure (List Char)
  | [], rest => .ok rest
  | _ :: _, [] => failBefore .endInValue []
  | expected :: word, character :: rest =>
      if character = expected then readWord word rest
      else failAtNext .expectedIdentifier (character :: rest)

def readLexeme (text : List Char) : Except Failure (Lexeme × List Char) :=
  match skipBlank text with
  | [] => failAtNext .endInValue []
  | character :: rest =>
      if character = 'n' then
        (readWord ['u', 'l', 'l'] rest).map fun rest => (.scalar .null, rest)
      else if character = 't' then
        (readWord ['r', 'u', 'e'] rest).map fun rest => (.scalar (.bool true), rest)
      else if character = 'f' then
        (readWord ['a', 'l', 's', 'e'] rest).map fun rest => (.scalar (.bool false), rest)
      else if character = '-' then
        (readNumber true rest).map fun (number, rest) => (.scalar (.number number), rest)
      else if character.isDigit then
        (readNumber false (character :: rest)).map fun (number, rest) =>
          (.scalar (.number number), rest)
      else if character = '"' then
        (readText rest).map fun (characters, rest) =>
          (.scalar (.text (String.ofList characters)), rest)
      else if character = '[' then .ok (.openList, rest)
      else if character = '\x7b' then .ok (.openObject, rest)
      else failAtNext .expectedValue (character :: rest)

def readEnd (text : List Char) : Except Failure Unit :=
  match skipBlank text with
  | [] => .ok ()
  | rest => failAtNext .trailingCharacters rest

end ScalarCell.Json
