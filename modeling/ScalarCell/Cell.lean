import ScalarCell.Scalar

namespace ScalarCell

/-! A cell holds a scalar or is null. It pairs a flag with a value; while the flag is off
the value means nothing and no operation looks at it. -/

@[ext] structure Cell (type : ScalarType) where
  valid : Bool
  value : type.Native

namespace Cell

variable {type : ScalarType}

/-! ## Construction -/

def null (type : ScalarType) : Cell type :=
  ⟨false, type.zero⟩

instance : Inhabited (Cell type) := ⟨null type⟩

def ofValue (value : type.Native) : Cell type :=
  ⟨true, value⟩

def ofOption : Option type.Native → Cell type
  | some value => ofValue value
  | none => null type

/-! ## Observation -/

def isNull (cell : Cell type) : Bool :=
  !cell.valid

def toOption (cell : Cell type) : Option type.Native :=
  if cell.valid then some cell.value else none

def equal (left right : Cell type) : Bool :=
  match left.toOption, right.toOption with
  | some left, some right => type.equal left right
  | none, none => true
  | _, _ => false

def toColumn (cell : Cell type) : ColumnValue :=
  match cell.toOption with
  | some value => type.toColumn value
  | none => .null

def toTextColumn (patterns : PatternList) (cell : Cell .time) :
    Except ListRenderError ColumnValue :=
  match cell.toOption with
  | some timestamp => (patterns.render timestamp).map .text
  | none => .ok .null

/-! ## Scanning -/

def assign (cell : Cell type) : Option type.Native → Cell type
  | some value => { cell with valid := true, value := value }
  | none => { cell with valid := false, value := type.zero }

/-- Takes over a column value. A value that cannot be coerced leaves null behind. -/
def scan (patterns : PatternList) (cell : Cell type) (value : ColumnValue) :
    Except ScanError Unit × Cell type :=
  match type.coerce patterns value with
  | .ok outcome => (.ok (), cell.assign outcome)
  | .error error => (.error error, cell.assign none)

def ofColumn (patterns : PatternList) (value : ColumnValue) : Cell type :=
  ((null type).scan patterns value).2

end Cell

end ScalarCell
