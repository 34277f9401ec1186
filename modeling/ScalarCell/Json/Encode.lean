import ScalarCell.Json.Value

namespace ScalarCell.Json

/-! Cells as JSON. A null cell is `null`, a timestamp is a string, and a number that is not
finite has no written form. -/

inductive EncodeProblem where
  | unsupported (value : Binary64)
  | render (error : RenderError)
deriving DecidableEq, Repr

def EncodeProblem.message : EncodeProblem → String
  | .unsupported value =>
      s!"unsupported value: {String.ofList (Layout.plain.write value)}"
  | .render error => error.message

def Number.ofInt64 (value : Int64) : Number :=
  if value.toInt < 0 then .negative value else .natural (UInt64.ofNat value.toInt.toNat)

def scalarOf : (type : ScalarType) → type.Native → Except EncodeProblem Scalar
  | .string, value => .ok (.text value)
  | .int64, value => .ok (.number (.ofInt64 value))
  | .float64, value =>
      if value.isFinite then .ok (.number (.float value)) else .error (.unsupported value)
  | .bool, value => .ok (.bool value)
  | .time, value =>
      match Rfc3339.write value with
      | .ok text => .ok (.text text)
      | .error error => .error (.render error)

variable {type : ScalarType}

def valueOfCell (cell : Cell type) : Except EncodeProblem Value :=
  match cell.toOption with
  | some value => (scalarOf type value).map .scalar
  | none => .ok (.scalar .null)

def writeCell (cell : Cell type) : Except EncodeProblem (List Char) :=
  match cell.toOption with
  | some value => (scalarOf type value).map Scalar.write
  | none => .ok Scalar.null.write

def writeCells : List (Cell type) → Except EncodeProblem (List Char)
  | [] => .ok []
  | [cell] => writeCell cell
  | cell :: rest =>
      match writeCell cell with
      | .error problem => .error problem
      | .ok characters => (writeCells rest).map (characters ++ ',' :: ·)

def encodeCell (cell : Cell type) : Except EncodeProblem String :=
  (writeCell cell).map String.ofList

def encodeCellList (cells : List (Cell type)) : Except EncodeProblem String :=
  (writeCells cells).map fun characters => String.ofList ('[' :: characters ++ [']'])

def encodeCellByValue (cell : Cell type) : Except EncodeProblem String :=
  (valueOfCell cell).map fun value => String.ofList value.write

end ScalarCell.Json
