import ScalarCell.Json.Decode
import ScalarCell.Json.Encode

namespace ScalarCell

/-! All ways in which an operation on cells can fail. -/

inductive Error where
  | conversion (error : ConversionError)
  | timestamp (error : TimestampTextError)
  | encode (problem : Json.EncodeProblem)
  | decode (error : Json.DecodeError)
  | render (error : RenderError)
  | noPatterns
  | invalidPattern (error : Pattern.CompileError)
deriving DecidableEq, Repr

namespace Error

def ofScan : ScanError → Error
  | .conversion error => .conversion error
  | .timestamp error => .timestamp error

def ofListRender : ListRenderError → Error
  | .noPatterns => .noPatterns
  | .render error => .render error

def message : Error → String
  | .conversion error => error.message
  | .timestamp error => error.message
  | .encode problem => s!"error occurred while encoding JSON: {problem.message}"
  | .decode error => s!"error occurred while decoding JSON: {error.message}"
  | .render error => s!"failed to format timestamp: {error.message}"
  | .noPatterns => "no timestamp formats are configured"
  | .invalidPattern error => s!"invalid timestamp format: {error.message}"

def cause? : Error → Option String
  | .conversion error => error.cause.map ConversionCause.message
  | .timestamp error =>
      match error.last with
      | some (_, .components (.range error)) => some error.message
      | _ => none
  | .encode problem => some problem.message
  | .decode error => some error.message
  | .render error => some error.message
  | .noPatterns => none
  | .invalidPattern error => some error.message

end Error

end ScalarCell
