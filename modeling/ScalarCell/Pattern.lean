import ScalarCell.Pattern.Compile
import ScalarCell.Pattern.Read
import ScalarCell.Pattern.Render
import ScalarCell.Text.Quoted

namespace ScalarCell

/-! A timestamp pattern with its written form. The items as they stand are for rendering;
reading takes them with relaxed hours. -/

structure Pattern where
  source : String
  items : Pattern.Items
deriving DecidableEq, Repr

namespace Pattern

instance : Inhabited Pattern := ⟨⟨"", .nil⟩⟩

def ofSource (source : String) : Except CompileError Pattern :=
  (compile source).map fun items => ⟨source, items⟩

def ofSources : List String → Except CompileError (List Pattern)
  | [] => .ok []
  | source :: rest =>
      match ofSource source with
      | .error error => .error error
      | .ok pattern => (ofSources rest).map (pattern :: ·)

def describe (pattern : Pattern) : String :=
  s!"TimestampFormat({Quoted.quote pattern.source})"

inductive Mismatch where
  | description (error : ReadError)
  | trailingCharacters
  | components (error : FieldsError)
deriving DecidableEq, Repr

def Mismatch.message : Mismatch → String
  | .description error => error.message
  | .trailingCharacters => "unexpected trailing characters"
  | .components error => error.message

/-- Reads a whole text with given items. What the items leave open is midnight and a
default offset. -/
def readItems (items : Items) (text : List UInt8) (defaultOffset : UtcOffset) :
    Except Mismatch Timestamp :=
  match items.read {} text with
  | .error error => .error (.description error)
  | .ok (_, _ :: _) => .error .trailingCharacters
  | .ok (fields, []) =>
      match fields.withDefaultHour.withDefaultOffset defaultOffset with
      | .error error => .error (.components error)
      | .ok fields =>
          match fields.timestamp with
          | .error error => .error (.components error)
          | .ok timestamp => .ok timestamp

def read (pattern : Pattern) (text : List UInt8) (defaultOffset : UtcOffset) :
    Except Mismatch Timestamp :=
  readItems pattern.items.relaxHours text defaultOffset

def render (pattern : Pattern) (timestamp : Timestamp) : Except RenderError String :=
  (pattern.items.render timestamp).map String.ofList

end Pattern

end ScalarCell
