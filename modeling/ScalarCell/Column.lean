import ScalarCell.Calendar.Timestamp
import ScalarCell.Numeric.Binary64

namespace ScalarCell

/-! Values as a database driver hands them over from a column or takes them for a
parameter. -/

inductive ColumnValue where
  | null
  | bool (value : Bool)
  | int (value : Int64)
  | float (value : Binary64)
  | text (value : String)
  | blob (value : List UInt8)
  | timestamp (value : Timestamp)
deriving DecidableEq, Repr

instance : Inhabited ColumnValue := ⟨.null⟩

inductive ColumnKind where
  | null
  | bool
  | int
  | float
  | text
  | blob
  | timestamp
deriving DecidableEq, Repr

def ColumnKind.name : ColumnKind → String
  | .null => "NULL"
  | .bool => "BOOLEAN"
  | .int => "INTEGER"
  | .float => "REAL"
  | .text => "TEXT"
  | .blob => "BLOB"
  | .timestamp => "TIMESTAMP"

namespace ColumnValue

def kind : ColumnValue → ColumnKind
  | .null => .null
  | .bool _ => .bool
  | .int _ => .int
  | .float _ => .float
  | .text _ => .text
  | .blob _ => .blob
  | .timestamp _ => .timestamp

def isNull : ColumnValue → Bool
  | .null => true
  | _ => false

end ColumnValue

/-! ## Native values as column values

Every integer type that fits into 64 signed bits becomes an integer, and a local date and
time is taken to be in UTC. -/

class ToColumn (α : Type) where
  toColumn : α → ColumnValue

export ToColumn (toColumn)

instance : ToColumn Bool := ⟨.bool⟩

instance : ToColumn Int8 := ⟨fun value => .int (Int64.ofInt value.toInt)⟩

instance : ToColumn Int16 := ⟨fun value => .int (Int64.ofInt value.toInt)⟩

instance : ToColumn Int32 := ⟨fun value => .int (Int64.ofInt value.toInt)⟩

instance : ToColumn Int64 := ⟨.int⟩

instance : ToColumn UInt8 := ⟨fun value => .int (Int64.ofNat value.toNat)⟩

instance : ToColumn UInt16 := ⟨fun value => .int (Int64.ofNat value.toNat)⟩

instance : ToColumn UInt32 := ⟨fun value => .int (Int64.ofNat value.toNat)⟩

instance : ToColumn Binary32 := ⟨fun value => .float value.widen⟩

instance : ToColumn Binary64 := ⟨.float⟩

instance : ToColumn String := ⟨.text⟩

instance : ToColumn (List UInt8) := ⟨.blob⟩

instance : ToColumn Timestamp := ⟨.timestamp⟩

instance : ToColumn (Date × TimeOfDay) :=
  ⟨fun (date, time) => .timestamp ⟨date, time, .utc⟩⟩

instance {α : Type} [ToColumn α] : ToColumn (Option α) where
  toColumn
    | some value => toColumn value
    | none => .null

end ScalarCell
