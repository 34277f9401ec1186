import ScalarCell.Error
import ScalarCell.Registry

namespace ScalarCell

/-! A slot is a place that holds a cell, in a process with its registry. Some operations look
at the cell, and the others put a new one in its place. -/

inductive Operation : ScalarType → Type where
  | clear {type : ScalarType} : Operation type
  | assign {type : ScalarType} (value : type.Native) : Operation type
  | assignOption {type : ScalarType} (value : Option type.Native) : Operation type
  | assignColumn {type : ScalarType} (value : ColumnValue) : Operation type
  | scan {type : ScalarType} (value : ColumnValue) : Operation type
  | scanWith (list : PatternList) (value : ColumnValue) : Operation .time
  | decode {type : ScalarType} (text : String) : Operation type
  | decodeValue {type : ScalarType} (value : Json.Value) : Operation type
  | decodeToken {type : ScalarType} (token : Token) : Operation type
  | isNull {type : ScalarType} : Operation type
  | toOption {type : ScalarType} : Operation type
  | equals {type : ScalarType} (other : Cell type) : Operation type
  | isEqualedBy {type : ScalarType} (other : Cell type) : Operation type
  | toColumn {type : ScalarType} : Operation type
  | toText : Operation .time
  | encode {type : ScalarType} : Operation type
  | encodeByValue {type : ScalarType} : Operation type
  | roundTrip {type : ScalarType} : Operation type
  /-- Whatever else the process does with its registry in the meantime. -/
  | elsewhere {type : ScalarType} (request : Registry.Request) : Operation type

inductive Answer (type : ScalarType) where
  | done
  | truth (value : Bool)
  | option (value : Option type.Native)
  | column (value : ColumnValue)
  | text (value : String)
  | roundTrip (text : String) (back : Cell type) (equal : Bool)
  | elsewhere (response : Registry.Response)
  | failed (error : Error)
  | refused (problem : DecodeProblem)

def Answer.ofResult {type : ScalarType} : Except Error (Answer type) → Answer type
  | .ok answer => answer
  | .error error => .failed error

@[ext] structure Slot (type : ScalarType) where
  registry : Registry
  cell : Cell type

namespace Registry

def consultFor (registry : Registry) (type : ScalarType) : PatternList × Registry :=
  (registry.consult.1, if type = .time then registry.consult.2 else registry)

/-- The registry after a cell was decoded, if it came to that. A timestamp is scanned on the
way; a null is not. -/
def afterDecoding {ε : Type} (registry : Registry) (type : ScalarType) :
    Except ε (Cell type) → Registry
  | .ok cell => if cell.isNull then registry else (registry.consultFor type).2
  | .error _ => registry

end Registry

namespace Slot

variable {type : ScalarType}

def scanWith (slot : Slot type) (list : PatternList) (value : ColumnValue) :
    Answer type × Slot type :=
  let (outcome, cell) := slot.cell.scan list value
  (.ofResult ((outcome.mapError .ofScan).map fun _ => .done), { slot with cell })

def afterDecoding (slot : Slot type) (registry : Registry) :
    Except (Answer type) (Cell type) → Answer type × Slot type
  | .ok cell => (.done, ⟨registry, cell⟩)
  | .error refusal => (refusal, { slot with registry })

/-- Writes the cell and reads it again. The copy is compared with the cell, which stays. -/
def roundTrip (slot : Slot type) : Answer type × Slot type :=
  match Json.encodeCell slot.cell with
  | .error problem => (.failed (.encode problem), slot)
  | .ok text =>
      let registry := slot.registry.afterDecoding type
        ((Json.readCell type text.toList).map Prod.fst)
      match Json.decodeCell type text with
      | .error error => (.failed (.decode error), { slot with registry })
      | .ok back => (.roundTrip text back (back.equal slot.cell), { slot with registry })

def perform : {type : ScalarType} → Slot type → Operation type → Answer type × Slot type
  | type, slot, .clear => (.done, { slot with cell := .null type })
  | _, slot, .assign value => (.done, { slot with cell := .ofValue value })
  | _, slot, .assignOption value => (.done, { slot with cell := .ofOption value })
  | type, slot, .assignColumn value =>
      let (list, registry) := slot.registry.consultFor type
      (.done, ⟨registry, .ofColumn list value⟩)
  | type, slot, .scan value =>
      let (list, registry) := slot.registry.consultFor type
      { slot with registry }.scanWith list value
  | _, slot, .scanWith list value => slot.scanWith list value
  | type, slot, .decode text =>
      slot.afterDecoding
        (slot.registry.afterDecoding type ((Json.readCell type text.toList).map Prod.fst))
        ((Json.decodeCell type text).mapError fun error => .failed (.decode error))
  | type, slot, .decodeValue value =>
      let decoded := Json.cellOfValue type value
      slot.afterDecoding (slot.registry.afterDecoding type decoded)
        (decoded.mapError fun problem => .failed (.decode (Json.unplaced problem)))
  | type, slot, .decodeToken token =>
      let decoded := Cell.ofToken type token
      slot.afterDecoding (slot.registry.afterDecoding type decoded)
        (decoded.mapError .refused)
  | _, slot, .isNull => (.truth slot.cell.isNull, slot)
  | _, slot, .toOption => (.option slot.cell.toOption, slot)
  | _, slot, .equals other => (.truth (slot.cell.equal other), slot)
  | _, slot, .isEqualedBy other => (.truth (other.equal slot.cell), slot)
  | _, slot, .toColumn => (.column slot.cell.toColumn, slot)
  | _, slot, .toText =>
      let (list, consulted) := slot.registry.consult
      let registry := if slot.cell.isNull then slot.registry else consulted
      let outcome := slot.cell.toTextColumn list
      (.ofResult ((outcome.mapError Error.ofListRender).map .column), { slot with registry })
  | _, slot, .encode =>
      (.ofResult (((Json.encodeCell slot.cell).mapError .encode).map .text), slot)
  | _, slot, .encodeByValue =>
      (.ofResult (((Json.encodeCellByValue slot.cell).mapError .encode).map .text), slot)
  | _, slot, .roundTrip => slot.roundTrip
  | _, slot, .elsewhere request =>
      let (response, registry) := slot.registry.answer request
      (.elsewhere response, { slot with registry })

def performAll (slot : Slot type) : List (Operation type) → List (Answer type) × Slot type
  | [] => ([], slot)
  | operation :: rest =>
      let (answer, slot) := slot.perform operation
      let (answers, slot) := slot.performAll rest
      (answer :: answers, slot)

end Slot

end ScalarCell
