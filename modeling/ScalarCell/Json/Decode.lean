import ScalarCell.Json.Value

namespace ScalarCell.Json

/-! Cells from JSON, straight from its text or from a value that was read before. -/

def decodeText {α : Type} (reader : List Char → Except Failure (α × List Char))
    (text : String) :
    Except DecodeError α :=
  match reader text.toList with
  | .error failure => .error (failure.inText text.toList)
  | .ok (outcome, rest) =>
      match readEnd rest with
      | .error failure => .error (failure.inText text.toList)
      | .ok () => .ok outcome

/-! ## From text -/

/-- Refuses a container after its opening bracket. Timestamps refuse it at the bracket, and
the other rules where the attempt to pass over it ends. -/
def refuseContainer {α : Type} (rule : TokenRule) (found : Unexpected)
    (close : List Char → List Char) (rest : List Char) : Except Failure α :=
  let problem : Problem := .content (.invalidType found rule.expectation)
  match rule with
  | .timestampText => .error (.located problem (Utf8.size rest + 1))
  | _ => .error (.located problem (Utf8.size (close rest)))

def readTaken (rule : TokenRule) (text : List Char) :
    Except Failure (ColumnValue × List Char) :=
  match readLexeme text with
  | .error failure => .error failure
  | .ok (.scalar value, rest) =>
      match rule.take value.token with
      | .ok taken => .ok (taken, rest)
      | .error problem => refuseBefore problem rest
  | .ok (.openList, rest) => refuseContainer rule .sequence closeList rest
  | .ok (.openObject, rest) => refuseContainer rule .map closeObject rest

def readCell (type : ScalarType) (text : List Char) :
    Except Failure (Cell type × List Char) :=
  match skipBlank text with
  | 'n' :: rest => (readWord ['u', 'l', 'l'] rest).map fun rest => (.null type, rest)
  | text =>
      match readTaken type.tokenRule text with
      | .error failure => .error failure
      | .ok (taken, rest) =>
          match Cell.ofTaken type taken with
          | .ok cell => .ok (cell, rest)
          | .error problem => refuse problem rest

def readCells (type : ScalarType) : (fuel : Nat) → (first : Bool) → List Char →
    Except Failure (List (Cell type) × List Char)
  | 0, _, text => failAtNext .endInList text
  | fuel + 1, first, text =>
      match nextElement first text with
      | .error failure => .error failure
      | .ok (.finish rest) => .ok ([], rest.drop 1)
      | .ok (.member rest) =>
          match readCell type rest with
          | .error failure => .error failure
          | .ok (cell, rest) =>
              (readCells type fuel false rest).map fun (cells, rest) =>
                (cell :: cells, rest)

def readCellList (type : ScalarType) (text : List Char) :
    Except Failure (List (Cell type) × List Char) :=
  match readLexeme text with
  | .error failure => .error failure
  | .ok (.openList, rest) =>
      (readCells type (rest.length + 1) true rest).mapError (Failure.locate closeList)
  | .ok (.scalar value, rest) =>
      refuseBefore (.invalidType value.unexpected .sequence) rest
  | .ok (.openObject, rest) =>
      .error (.located (.content (.invalidType .map .sequence)) (Utf8.size rest + 1))

/-! ## From values -/

def takeValue (rule : TokenRule) : Value → Except DecodeProblem ColumnValue
  | .scalar value => rule.take value.token
  | .list _ => .error (.invalidType .sequence rule.expectation)
  | .object _ => .error (.invalidType .map rule.expectation)

def cellOfValue (type : ScalarType) : Value → Except DecodeProblem (Cell type)
  | .scalar .null => .ok (.null type)
  | value =>
      match takeValue type.tokenRule value with
      | .ok taken => Cell.ofTaken type taken
      | .error problem => .error problem

def unplaced (problem : DecodeProblem) : DecodeError :=
  ⟨.content problem, none⟩

/-! ## Whole texts -/

def decodeColumn (text : String) : Except DecodeError ColumnValue :=
  decodeText (readTaken .columnValue) text

def decodeCell (type : ScalarType) (text : String) : Except DecodeError (Cell type) :=
  decodeText (readCell type) text

def decodeCellList (type : ScalarType) (text : String) :
    Except DecodeError (List (Cell type)) :=
  decodeText (readCellList type) text

def decodeValue (text : String) : Except DecodeError Value :=
  decodeText readValue text

def decodeColumnByValue (text : String) : Except DecodeError ColumnValue :=
  match decodeValue text with
  | .error error => .error error
  | .ok value => (takeValue .columnValue value).mapError unplaced

def decodeCellByValue (type : ScalarType) (text : String) :
    Except DecodeError (Cell type) :=
  match decodeValue text with
  | .error error => .error error
  | .ok value => (cellOfValue type value).mapError unplaced

end ScalarCell.Json
