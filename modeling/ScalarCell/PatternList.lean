import ScalarCell.Pattern

namespace ScalarCell

/-! An ordered list of patterns. A text is read with the first pattern that accepts it,
and a timestamp is written with the first of all. -/

structure PatternList where
  patterns : List Pattern
deriving DecidableEq, Repr

/-- A text that no pattern accepts: the text as given, and the last pattern tried with
its reason, if there was one. -/
structure TimestampTextError where
  input : String
  last : Option (Pattern × Pattern.Mismatch)
deriving DecidableEq, Repr

def TimestampTextError.reason (error : TimestampTextError) : String :=
  match error.last with
  | some (_, mismatch) => mismatch.message
  | none => "no timestamp formats are configured"

def TimestampTextError.message (error : TimestampTextError) : String :=
  let tried :=
    match error.last with
    | some (pattern, _) => s!" (last tried format `{pattern.source}`)"
    | none => ""
  s!"failed to parse timestamp {Quoted.quote error.input}{tried}: {error.reason}"

inductive ListRenderError where
  | noPatterns
  | render (error : RenderError)
deriving DecidableEq, Repr

namespace PatternList

def ofSources (sources : List String) : Except Pattern.CompileError PatternList :=
  (Pattern.ofSources sources).map fun patterns => ⟨patterns⟩

def sources (list : PatternList) : List String :=
  list.patterns.map Pattern.source

def describe (list : PatternList) : String :=
  let shown := ", ".intercalate (list.patterns.map Pattern.describe)
  s!"TimestampFormats \x7b formats: [{shown}] \x7d"

/-! ## Reading and writing -/

def dropZulu (characters : List Char) : List Char :=
  if characters.getLast? = some 'Z' then characters.dropLast else characters

def readFrom (last : Option (Pattern × Pattern.Mismatch)) (text : List UInt8)
    (defaultOffset : UtcOffset) :
    List Pattern → Except (Option (Pattern × Pattern.Mismatch)) Timestamp
  | [] => .error last
  | pattern :: rest =>
      match pattern.read text defaultOffset with
      | .ok timestamp => .ok timestamp
      | .error mismatch => readFrom (some (pattern, mismatch)) text defaultOffset rest

/-- Reads a text after dropping one `Z` from its end; the error shows the text with it. -/
def read (list : PatternList) (text : String) (defaultOffset : UtcOffset) :
    Except TimestampTextError Timestamp :=
  match readFrom none (Utf8.encode (dropZulu text.toList)) defaultOffset
    list.patterns with
  | .ok timestamp => .ok timestamp
  | .error last => .error ⟨text, last⟩

def render (list : PatternList) (timestamp : Timestamp) : Except ListRenderError String :=
  match list.patterns with
  | [] => .error .noPatterns
  | pattern :: _ =>
      match pattern.render timestamp with
      | .ok text => .ok text
      | .error error => .error (.render error)

end PatternList

/-! ## The default list -/

namespace Pattern

def Items.ofList : List Item → Items
  | [] => .nil
  | head :: rest => .cons head (ofList rest)

def dateItems : List Item :=
  [ .component (.year .zero .full .extended .calendar .automatic), .literal ['-'],
    .component (.month .zero .number true), .literal ['-'], .component (.day .zero) ]

def minuteItems (separator : Char) : List Item :=
  dateItems ++
    [ .literal [separator], .component (.hour .zero .twentyFour), .literal [':'],
      .component (.minute .zero) ]

def secondItems (separator : Char) : List Item :=
  minuteItems separator ++ [ .literal [':'], .component (.second .zero) ]

def fractionItems (separator : Char) : List Item :=
  secondItems separator ++
    [ .optional
      (.cons (.literal ['.']) (.cons (.component (.subsecond .oneOrMore)) .nil)) ]

def offsetItems (separator : Char) : List Item :=
  fractionItems separator ++
    [ .component (.offsetHour .zero .mandatory), .literal [':'],
      .component (.offsetMinute .zero) ]

end Pattern

/-- Patterns for the common forms of a timestamp. The longer ones come first, so that a
shorter one never takes a text that carries more. -/
def PatternList.default : PatternList := ⟨[
  ⟨"[year]-[month]-[day] [hour]:[minute]:[second][optional [.[subsecond]]][offset_hour sign:mandatory]:[offset_minute]",
    .ofList (Pattern.offsetItems ' ')⟩,
  ⟨"[year]-[month]-[day]T[hour]:[minute]:[second][optional [.[subsecond]]][offset_hour sign:mandatory]:[offset_minute]",
    .ofList (Pattern.offsetItems 'T')⟩,
  ⟨"[year]-[month]-[day] [hour]:[minute]:[second][optional [.[subsecond]]]",
    .ofList (Pattern.fractionItems ' ')⟩,
  ⟨"[year]-[month]-[day]T[hour]:[minute]:[second][optional [.[subsecond]]]",
    .ofList (Pattern.fractionItems 'T')⟩,
  ⟨"[year]-[month]-[day] [hour]:[minute]:[second]", .ofList (Pattern.secondItems ' ')⟩,
  ⟨"[year]-[month]-[day]T[hour]:[minute]:[second]", .ofList (Pattern.secondItems 'T')⟩,
  ⟨"[year]-[month]-[day] [hour]:[minute]", .ofList (Pattern.minuteItems ' ')⟩,
  ⟨"[year]-[month]-[day]T[hour]:[minute]", .ofList (Pattern.minuteItems 'T')⟩,
  ⟨"[year]-[month]-[day]", .ofList Pattern.dateItems⟩]⟩

instance : Inhabited PatternList := ⟨.default⟩

end ScalarCell
