import ScalarCell.Proofs.Json.Document
import ScalarCell.Slot

namespace ScalarCell

/-! What the operations leave in a slot. One that writes leaves the same cell whatever was
there before, and it is either a value or null with its zero; the others leave the cell
alone. -/

/-! ## Decoded cells -/

theorem Cell.exists_ofOption_of_ofToken {type : ScalarType} {cell : Cell type} {token : Token}
    (decodes : ofToken type token = .ok cell) : ∃ outcome, cell = ofOption outcome := by
  rcases ofToken_eq_ok_iff.mp decodes with ⟨-, rfl⟩ | ⟨value, -, coerces⟩
  · exact ⟨none, rfl⟩
  · exact exists_ofOption_of_ofTaken coerces

namespace Json

variable {type : ScalarType} {cell : Cell type}

theorem exists_ofOption_of_decodeCell {text : String}
    (decodes : decodeCell type text = .ok cell) : ∃ outcome, cell = .ofOption outcome := by
  rcases decodeCell_eq_ok_iff.mp decodes with ⟨value, -, decodes⟩
  exact Cell.exists_ofOption_of_ofToken decodes

theorem exists_ofOption_of_cellOfValue {value : Value}
    (decodes : cellOfValue type value = .ok cell) : ∃ outcome, cell = .ofOption outcome := by
  rw [cellOfValue.eq_def] at decodes
  split at decodes
  · cases decodes
    exact ⟨none, rfl⟩
  · split at decodes
    · exact Cell.exists_ofOption_of_ofTaken decodes
    · cases decodes

end Json

namespace Cell

variable {type : ScalarType} {cell : Cell type}

def Tidy (cell : Cell type) : Prop :=
  cell.valid = false → cell.value = type.zero

theorem tidy_ofOption (outcome : Option type.Native) : (ofOption outcome).Tidy := by
  cases outcome with
  | none => exact fun _ => rfl
  | some native => exact nofun

end Cell

/-! ## One operation -/

/-- The operations that put a cell into the slot. Decoding does so where it succeeds, and a
scan even where it fails. -/
def Operation.Writes : {type : ScalarType} → Operation type → Prop
  | _, .clear => True
  | _, .assign _ => True
  | _, .assignOption _ => True
  | _, .assignColumn _ => True
  | _, .scan _ => True
  | _, .scanWith _ _ => True
  | type, .decode text => ∃ cell, Json.decodeCell type text = .ok cell
  | type, .decodeValue value => ∃ cell, Json.cellOfValue type value = .ok cell
  | type, .decodeToken token => ∃ cell, Cell.ofToken type token = .ok cell
  | _, .isNull => False
  | _, .toOption => False
  | _, .equals _ => False
  | _, .isEqualedBy _ => False
  | _, .toColumn => False
  | _, .toText => False
  | _, .encode => False
  | _, .encodeByValue => False
  | _, .roundTrip => False
  | _, .elsewhere _ => False

namespace Slot

variable {type : ScalarType}

theorem afterDecoding_cases {ε : Type} (decoded : Except ε (Cell type))
    (refusal : ε → Answer type)
    (isOption : ∀ cell, decoded = .ok cell → ∃ outcome, cell = .ofOption outcome) :
    ((∃ cell, decoded = .ok cell) ∧ ∃ outcome, ∀ slot registry,
        (afterDecoding slot registry (decoded.mapError refusal)).2.cell =
          .ofOption outcome) ∨
      ((¬ ∃ cell, decoded = .ok cell) ∧ ∀ slot registry,
        (afterDecoding slot registry (decoded.mapError refusal)).2.cell = slot.cell) := by
  cases decoded with
  | ok cell =>
      rcases isOption cell rfl with ⟨outcome, rfl⟩
      exact .inl ⟨⟨_, rfl⟩, outcome, fun _ _ => rfl⟩
  | error error => exact .inr ⟨nofun, fun _ _ => rfl⟩

theorem roundTrip_cell (slot : Slot type) : slot.roundTrip.2.cell = slot.cell := by
  rw [roundTrip]
  split
  · rfl
  · simp only
    split
    · rfl
    · rfl

/-- What an operation does to the cell: it puts another one in its place, the same for every
cell that was there, or it leaves the cell as it was. -/
theorem perform_cases (registry : Registry) (operation : Operation type) :
    (operation.Writes ∧ ∃ outcome, ∀ cell,
        (perform ⟨registry, cell⟩ operation).2.cell = .ofOption outcome) ∨
      (¬ operation.Writes ∧ ∀ cell, (perform ⟨registry, cell⟩ operation).2.cell = cell) := by
  cases operation with
  | clear => exact .inl ⟨trivial, none, fun _ => rfl⟩
  | assign value => exact .inl ⟨trivial, some value, fun _ => rfl⟩
  | assignOption value => exact .inl ⟨trivial, value, fun _ => rfl⟩
  | assignColumn value =>
      rcases Cell.exists_ofOption_of_scan type registry.consult.1 value with ⟨outcome, left⟩
      exact .inl ⟨trivial, outcome, fun _ => left _⟩
  | scan value =>
      rcases Cell.exists_ofOption_of_scan type registry.consult.1 value with ⟨outcome, left⟩
      exact .inl ⟨trivial, outcome, left⟩
  | scanWith list value =>
      rcases Cell.exists_ofOption_of_scan .time list value with ⟨outcome, left⟩
      exact .inl ⟨trivial, outcome, left⟩
  | decode text =>
      rcases afterDecoding_cases (Json.decodeCell type text)
          (fun error => .failed (.decode error))
          fun _ => Json.exists_ofOption_of_decodeCell with
        ⟨decodes, outcome, left⟩ | ⟨refused, left⟩
      · exact .inl ⟨decodes, outcome, fun _ => left _ _⟩
      · exact .inr ⟨refused, fun _ => left _ _⟩
  | decodeValue value =>
      rcases afterDecoding_cases (Json.cellOfValue type value)
          (fun problem => .failed (.decode (Json.unplaced problem)))
          fun _ => Json.exists_ofOption_of_cellOfValue with
        ⟨decodes, outcome, left⟩ | ⟨refused, left⟩
      · exact .inl ⟨decodes, outcome, fun _ => left _ _⟩
      · exact .inr ⟨refused, fun _ => left _ _⟩
  | decodeToken token =>
      rcases afterDecoding_cases (Cell.ofToken type token) .refused
          fun _ => Cell.exists_ofOption_of_ofToken with
        ⟨decodes, outcome, left⟩ | ⟨refused, left⟩
      · exact .inl ⟨decodes, outcome, fun _ => left _ _⟩
      · exact .inr ⟨refused, fun _ => left _ _⟩
  | roundTrip => exact .inr ⟨id, fun _ => roundTrip_cell _⟩
  | isNull | toOption | equals | isEqualedBy | toColumn | toText | encode | encodeByValue
  | elsewhere => exact .inr ⟨id, fun _ => rfl⟩

/-! ## Runs -/

theorem tidy_perform {slot : Slot type} (tidy : slot.cell.Tidy) (operation : Operation type) :
    (slot.perform operation).2.cell.Tidy := by
  rcases perform_cases slot.registry operation with ⟨-, outcome, left⟩ | ⟨-, left⟩
  · rw [left slot.cell]
    exact Cell.tidy_ofOption outcome
  · rw [left slot.cell]
    exact tidy

theorem tidy_performAll {slot : Slot type} (tidy : slot.cell.Tidy)
    (operations : List (Operation type)) : (slot.performAll operations).2.cell.Tidy := by
  induction operations generalizing slot with
  | nil => exact tidy
  | cons operation rest induction => exact induction (tidy_perform tidy operation)

end Slot

/-- A scan leaves the same behind whatever the cell held before: the value that the column
value is coerced to, or null with its zero, and null where it fails. A cell made from the
column value is that one, too, and null is always taken over. A timestamp fails exactly
where a text or bytes are refused by every pattern. So, whatever operations a cell goes
through, there is nothing left behind in it while it is null. -/
theorem Cell.scan_overwrites :
    (∀ (type : ScalarType) (patterns : PatternList) (value : ColumnValue) (cell : Cell type),
      (∀ other : Cell type, cell.scan patterns value = other.scan patterns value) ∧
      ((∃ native, type.coerce patterns value = .ok (some native) ∧
          cell.scan patterns value = (.ok (), ⟨true, native⟩)) ∨
        (type.coerce patterns value = .ok none ∧
          cell.scan patterns value = (.ok (), ⟨false, type.zero⟩)) ∨
        ∃ error, type.coerce patterns value = .error error ∧
          cell.scan patterns value = (.error error, ⟨false, type.zero⟩)) ∧
      ofColumn patterns value = (cell.scan patterns value).2 ∧
      cell.scan patterns .null = (.ok (), null type)) ∧
    (∀ (patterns : PatternList) (value : ColumnValue) (cell : Cell .time),
      (∃ error, (cell.scan patterns value).1 = .error error) ↔
        ∃ text, value.timestampText? = some text ∧
          ∀ pattern ∈ patterns.patterns, ∃ mismatch,
            pattern.read (Utf8.encode (PatternList.dropZulu text.toList)) .utc =
              .error mismatch) ∧
    ∀ (type : ScalarType) (registry : Registry) (operations : List (Operation type)),
      let final := (Slot.performAll ⟨registry, null type⟩ operations).2.cell
      final.valid = false → final.value = type.zero := by
  refine ⟨fun type patterns value cell => ⟨?_, ?_, ?_, ?_⟩,
    fun patterns value cell => ?_, fun type registry operations => ?_⟩
  · exact fun other => scan_eq_scan cell other patterns value
  · rw [scan_eq]
    rcases type.coerce patterns value with error | outcome
    · exact .inr (.inr ⟨error, rfl, rfl⟩)
    · cases outcome with
      | none => exact .inr (.inl ⟨rfl, rfl⟩)
      | some native => exact .inl ⟨native, rfl, rfl⟩
  · rw [ofColumn, scan_eq_scan]
  · rw [scan_eq, ScalarType.coerce_null]
    rfl
  · rw [exists_scan_error_iff, ScalarType.coerce, exists_mapError_eq_error_iff,
      ColumnValue.exists_toTimestamp_error_iff]
    simp only [PatternList.exists_error_iff]
  · have start : (⟨registry, null type⟩ : Slot type).cell.Tidy := fun _ => rfl
    exact Slot.tidy_performAll start operations

end ScalarCell
