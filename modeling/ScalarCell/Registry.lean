import ScalarCell.Json.Decode

namespace ScalarCell

/-! The one pattern list that a whole process reads timestamps with. It may be installed
once, and only before anything has consulted it; from the first use on it stays as it is. -/

inductive Registry where
  | untouched
  | settled (list : PatternList)
deriving DecidableEq, Repr

namespace Registry

def consult : Registry → PatternList × Registry
  | .untouched => (.default, .settled .default)
  | .settled list => (list, .settled list)

def install (registry : Registry) (list : PatternList) :
    Except PatternList Unit × Registry :=
  match registry with
  | .settled inForce => (.error list, .settled inForce)
  | .untouched =>
      if list.patterns.isEmpty then (.error list, .untouched) else (.ok (), .settled list)

/-! ## Requests

The operations of a process that have to do with the list. Each is answered in a state of
the registry and leaves another. -/

inductive Request where
  | install (list : PatternList)
  | current
  | parse (text : String) (defaultOffset : UtcOffset)
  | scan (cell : Cell .time) (value : ColumnValue)
  | scanWith (list : PatternList) (cell : Cell .time) (value : ColumnValue)
  | ofColumn (value : ColumnValue)
  | toText (cell : Cell .time)
  | decode (text : String)
  | decodeValue (value : Json.Value)

inductive Response where
  | installed (outcome : Except PatternList Unit)
  | current (list : PatternList)
  | parsed (outcome : Except TimestampTextError Timestamp)
  | scanned (outcome : Except ScanError Unit) (cell : Cell .time)
  | cell (cell : Cell .time)
  | text (outcome : Except ListRenderError ColumnValue)
  | decoded (outcome : Except Json.DecodeError (Cell .time))

/-- Whether decoding a text comes to scan a timestamp. What follows the timestamp in the
text is looked at later. -/
def decodesTimestamp (text : String) : Bool :=
  match Json.readCell .time text.toList with
  | .ok (cell, _) => !cell.isNull
  | .error _ => false

def decodesTimestampValue (value : Json.Value) : Bool :=
  match Json.cellOfValue .time value with
  | .ok cell => !cell.isNull
  | .error _ => false

def answer (registry : Registry) : Request → Response × Registry
  | .install list =>
      let (outcome, registry) := registry.install list
      (.installed outcome, registry)
  | .current =>
      let (list, registry) := registry.consult
      (.current list, registry)
  | .parse text defaultOffset =>
      let (list, registry) := registry.consult
      (.parsed (list.read text defaultOffset), registry)
  | .scan cell value =>
      let (list, registry) := registry.consult
      let (outcome, cell) := cell.scan list value
      (.scanned outcome cell, registry)
  | .scanWith list cell value =>
      let (outcome, cell) := cell.scan list value
      (.scanned outcome cell, registry)
  | .ofColumn value =>
      let (list, registry) := registry.consult
      (.cell (.ofColumn list value), registry)
  | .toText cell =>
      if cell.isNull then
        (.text (.ok .null), registry)
      else
        let (list, registry) := registry.consult
        (.text (cell.toTextColumn list), registry)
  | .decode text =>
      let outcome := Json.decodeCell .time text
      (.decoded outcome, if decodesTimestamp text then registry.consult.2 else registry)
  | .decodeValue value =>
      let outcome := (Json.cellOfValue .time value).mapError Json.unplaced
      (.decoded outcome,
        if decodesTimestampValue value then registry.consult.2 else registry)

def answerAll (registry : Registry) : List Request → List Response × Registry
  | [] => ([], registry)
  | request :: rest =>
      let (response, registry) := registry.answer request
      let (responses, registry) := registry.answerAll rest
      (response :: responses, registry)

end Registry

end ScalarCell
