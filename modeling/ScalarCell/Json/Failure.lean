import ScalarCell.Token

namespace ScalarCell.Json

/-! What can go wrong in reading JSON, and where. A failure remembers how many bytes were
left, from which its line and column follow once the whole text is at hand. -/

inductive SyntaxError where
  | endInList
  | endInObject
  | endInString
  | endInValue
  | expectedColon
  | expectedCommaOrListEnd
  | expectedCommaOrObjectEnd
  | expectedIdentifier
  | expectedValue
  | invalidEscape
  | invalidNumber
  | numberOutOfRange
  | controlCharacter
  | keyMustBeString
  | loneLeadingSurrogate
  | unfinishedSurrogatePair
  | trailingComma
  | trailingCharacters
  | recursionLimit
deriving DecidableEq, Repr

def SyntaxError.message : SyntaxError → String
  | .endInList => "EOF while parsing a list"
  | .endInObject => "EOF while parsing an object"
  | .endInString => "EOF while parsing a string"
  | .endInValue => "EOF while parsing a value"
  | .expectedColon => "expected `:`"
  | .expectedCommaOrListEnd => "expected `,` or `]`"
  | .expectedCommaOrObjectEnd => "expected `,` or `\x7d`"
  | .expectedIdentifier => "expected ident"
  | .expectedValue => "expected value"
  | .invalidEscape => "invalid escape"
  | .invalidNumber => "invalid number"
  | .numberOutOfRange => "number out of range"
  | .controlCharacter =>
      "control character (\\u0000-\\u001F) found while parsing a string"
  | .keyMustBeString => "key must be a string"
  | .loneLeadingSurrogate => "lone leading surrogate in hex escape"
  | .unfinishedSurrogatePair => "unexpected end of hex escape"
  | .trailingComma => "trailing comma"
  | .trailingCharacters => "trailing characters"
  | .recursionLimit => "recursion limit exceeded"

inductive Problem where
  | form (error : SyntaxError)
  | content (problem : DecodeProblem)
deriving DecidableEq, Repr

def Problem.message : Problem → String
  | .form error => error.message
  | .content problem => problem.message .json

/-- A problem at a place, given by the bytes left after it; or a problem that belongs to no
place of its own, with the text that was left when it came up. A container puts the second
kind where its reading ends. -/
inductive Failure where
  | located (problem : Problem) (bytesLeft : Nat)
  | floating (problem : Problem) (rest : List Char)
deriving DecidableEq, Repr

/-- A line and a column, both in bytes: lines from one, and columns from the last line
break. -/
structure Position where
  line : Nat
  column : Nat
deriving DecidableEq, Repr

namespace Position

def after (bytes : List UInt8) : Position :=
  bytes.foldl
    (fun position byte =>
      if byte = 0x0A then ⟨position.line + 1, 0⟩
      else ⟨position.line, position.column + 1⟩)
    ⟨1, 0⟩

def ofBytesLeft (text : List Char) (bytesLeft : Nat) : Position :=
  let bytes := Utf8.encode text
  after (bytes.take (bytes.length - bytesLeft))

end Position

structure DecodeError where
  problem : Problem
  position : Option Position
deriving DecidableEq, Repr

def DecodeError.message (error : DecodeError) : String :=
  match error.position with
  | some position =>
      s!"{error.problem.message} at line {position.line} column {position.column}"
  | none => error.problem.message

def Failure.inText (text : List Char) : Failure → DecodeError
  | .located problem bytesLeft => ⟨problem, some (.ofBytesLeft text bytesLeft)⟩
  | .floating problem _ => ⟨problem, none⟩

/-! ## Raising failures -/

variable {α : Type}

def failBefore (error : SyntaxError) (rest : List Char) : Except Failure α :=
  .error (.located (.form error) (Utf8.size rest))

/-- A malformed text, noticed at the next byte, or at the end of the text. -/
def failAtNext (error : SyntaxError) (rest : List Char) : Except Failure α :=
  .error (.located (.form error) (Utf8.size rest - 1))

def refuseBefore (problem : DecodeProblem) (rest : List Char) : Except Failure α :=
  .error (.located (.content problem) (Utf8.size rest))

def refuse (problem : DecodeProblem) (rest : List Char) : Except Failure α :=
  .error (.floating (.content problem) rest)

def Failure.locate (close : List Char → List Char) : Failure → Failure
  | .located problem bytesLeft => .located problem bytesLeft
  | .floating problem rest => .located problem (Utf8.size (close rest))

/-! ## Blank space -/

def isBlank (character : Char) : Bool :=
  character = ' ' || character = '\n' || character = '\t' || character = '\r'

def skipBlank (text : List Char) : List Char :=
  text.dropWhile isBlank

end ScalarCell.Json
