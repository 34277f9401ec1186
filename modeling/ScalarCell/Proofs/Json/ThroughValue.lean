import ScalarCell.Json.Encode
import ScalarCell.Proofs.Json.Document

namespace ScalarCell.Json

/-! Cells by way of a whole JSON value. A document that is read into a value first is decoded
as the document itself is, and a cell that becomes a value first is written as it is without
one. -/

variable {type : ScalarType} {document : String} {cell : Cell type}

/-! ## Decoding -/

theorem cellOfValue_scalar (type : ScalarType) (value : Scalar) :
    cellOfValue type (.scalar value) = Cell.ofToken type value.token := by
  cases value with
  | null => rfl
  | bool | text => rfl
  | number value => cases value <;> rfl

theorem exists_of_cellOfValue {value : Value} (decoded : cellOfValue type value = .ok cell) :
    ∃ scalar, value = .scalar scalar ∧ Cell.ofToken type scalar.token = .ok cell := by
  cases value with
  | scalar scalar => exact ⟨scalar, rfl, (cellOfValue_scalar type scalar) ▸ decoded⟩
  | list elements => cases decoded
  | object members => cases decoded

theorem decodeCellByValue_eq_ok_iff :
    decodeCellByValue type document = .ok cell ↔
      ∃ value, decodeValue document = .ok value ∧ cellOfValue type value = .ok cell := by
  rw [decodeCellByValue]
  cases decodeValue document with
  | error error => simp
  | ok value => simp [mapError_eq_ok_iff]

theorem decodeCell_eq_ok_iff_byValue :
    decodeCell type document = .ok cell ↔ decodeCellByValue type document = .ok cell := by
  rw [decodeCell_eq_ok_iff, decodeCellByValue_eq_ok_iff]
  constructor
  · rintro ⟨scalar, parsed, decodes⟩
    exact ⟨.scalar scalar, parsed, (cellOfValue_scalar type scalar).trans decodes⟩
  · rintro ⟨value, parsed, decoded⟩
    rcases exists_of_cellOfValue decoded with ⟨scalar, rfl, decodes⟩
    exact ⟨scalar, parsed, decodes⟩

/-! ## Encoding -/

def writeNative : (type : ScalarType) → type.Native → Except EncodeProblem (List Char)
  | .string, value => .ok (writeText value.toList)
  | .int64, value => .ok (Numeral.signed value.toInt)
  | .float64, value =>
      if value.isFinite then .ok (Layout.json.write value) else .error (.unsupported value)
  | .bool, value => .ok (toString value).toList
  | .time, value =>
      match Rfc3339.write value with
      | .ok text => .ok (writeText text.toList)
      | .error error => .error (.render error)

theorem write_ofInt64 (value : Int64) :
    (Scalar.number (.ofInt64 value)).write = Numeral.signed value.toInt := by
  rw [Number.ofInt64]
  split_ifs with below
  · rfl
  · have bound := value.toInt_lt
    have fits : value.toInt.toNat < UInt64.size := by
      rw [UInt64.size]
      omega
    rw [Scalar.write, UInt64.toNat_ofNat_of_lt' fits, Numeral.signed, if_neg below]
    congr 1
    omega

theorem scalarOf_write (value : type.Native) :
    (scalarOf type value).map Scalar.write = writeNative type value := by
  cases type with
  | string => rfl
  | int64 =>
      rw [scalarOf, writeNative, ← write_ofInt64]
      rfl
  | float64 =>
      rw [scalarOf, writeNative]
      split_ifs with finite
      · rfl
      · rfl
  | bool => cases value <;> rfl
  | time =>
      rw [scalarOf, writeNative]
      cases Rfc3339.write value with
      | ok text => rfl
      | error error => rfl

def writeDirectly (cell : Cell type) : Except EncodeProblem (List Char) :=
  match cell.toOption with
  | some value => writeNative type value
  | none => .ok "null".toList

theorem writeCell_eq (cell : Cell type) : writeCell cell = writeDirectly cell := by
  rw [writeCell, writeDirectly]
  cases cell.toOption with
  | some value => exact scalarOf_write value
  | none => rfl

theorem valueOfCell_write (cell : Cell type) :
    (valueOfCell cell).map Value.write = writeDirectly cell := by
  have alone (scalar : Scalar) : Value.write (.scalar scalar) = scalar.write := by
    rw [Value.write]
  rw [← writeCell_eq, valueOfCell, writeCell]
  cases cell.toOption with
  | some value =>
      cases written : scalarOf type value with
      | ok scalar => simp only [written, Except.map, alone]
      | error problem => simp only [written, Except.map]
  | none => simp only [Except.map, alone]

theorem encodeCell_eq_ok_iff {text : String} :
    encodeCell cell = .ok text ↔
      ∃ value, valueOfCell cell = .ok value ∧ String.ofList value.write = text := by
  rw [encodeCell, writeCell_eq, ← valueOfCell_write]
  cases valueOfCell cell with
  | ok value => simp [Except.map]
  | error problem => simp [Except.map]

theorem encodeCell_eq_error_iff {problem : EncodeProblem} :
    encodeCell cell = .error problem ↔ valueOfCell cell = .error problem := by
  rw [encodeCell, writeCell_eq, ← valueOfCell_write]
  cases valueOfCell cell with
  | ok value => simp [Except.map]
  | error other => simp [Except.map]

/-- A whole JSON value on the way changes nothing. A document is decoded as a cell exactly
where the value it is parsed into is, and as the same cell. A cell is written, straight from
what it holds, exactly where it becomes a value, and the text is the value's own; where it
does not, the problem is the same. -/
theorem decode_encode_through_value (type : ScalarType) :
    (∀ (document : String) (cell : Cell type),
      decodeCell type document = .ok cell ↔
        ∃ value, decodeValue document = .ok value ∧ cellOfValue type value = .ok cell) ∧
    ∀ cell : Cell type,
      encodeCell cell = (writeDirectly cell).map String.ofList ∧
        (∀ text, encodeCell cell = .ok text ↔
          ∃ value, valueOfCell cell = .ok value ∧ String.ofList value.write = text) ∧
        ∀ problem, encodeCell cell = .error problem ↔ valueOfCell cell = .error problem := by
  refine ⟨fun document cell => ?_, fun cell =>
    ⟨?_, fun text => encodeCell_eq_ok_iff, fun problem => encodeCell_eq_error_iff⟩⟩
  · rw [decodeCell_eq_ok_iff_byValue, decodeCellByValue_eq_ok_iff]
  · rw [encodeCell, writeCell_eq]

end ScalarCell.Json
