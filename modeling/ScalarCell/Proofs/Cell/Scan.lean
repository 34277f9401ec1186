import ScalarCell.Proofs.PatternList.Default
import ScalarCell.Token

namespace ScalarCell

/-! What a scan leaves in a cell. It depends on the value and the list alone, never on what
the cell held before. -/

/-! ## Steps that can fail -/

section Steps

variable {ε δ α β : Type} {outcome : Except ε α}

theorem map_eq_ok_iff {change : α → β} {result : β} :
    outcome.map change = .ok result ↔ ∃ value, outcome = .ok value ∧ result = change value := by
  cases outcome with
  | ok value => simp [Except.map, eq_comm]
  | error error => simp [Except.map]

theorem map_ne_ok {change : α → β} {result : β} (differs : ∀ value, change value ≠ result) :
    outcome.map change ≠ .ok result := by
  intro changed
  rcases map_eq_ok_iff.mp changed with ⟨value, -, equal⟩
  exact differs value equal.symm

theorem mapError_eq_ok_iff {change : ε → δ} {result : α} :
    outcome.mapError change = .ok result ↔ outcome = .ok result := by
  cases outcome with
  | ok value => simp [Except.mapError]
  | error error => simp [Except.mapError]

theorem exists_map_eq_error_iff {change : α → β} :
    (∃ error, outcome.map change = .error error) ↔ ∃ error, outcome = .error error := by
  cases outcome with
  | ok value => simp [Except.map]
  | error error => simp [Except.map]

theorem exists_mapError_eq_error_iff {change : ε → δ} :
    (∃ error, outcome.mapError change = .error error) ↔
      ∃ error, outcome = .error error := by
  cases outcome with
  | ok value => simp [Except.mapError]
  | error error => simp [Except.mapError]

theorem exists_error_of_ne_ok (refused : ∀ value, outcome ≠ .ok value) :
    ∃ error, outcome = .error error := by
  cases outcome with
  | error error => exact ⟨error, rfl⟩
  | ok value => exact absurd rfl (refused value)

theorem toOption_map (change : α → β) :
    (outcome.map change).toOption = outcome.toOption.map change := by
  cases outcome with
  | ok value => rfl
  | error error => rfl

theorem toOption_eq_some_iff {value : α} :
    outcome.toOption = some value ↔ outcome = .ok value := by
  cases outcome with
  | ok other => simp [Except.toOption]
  | error error => simp [Except.toOption]

end Steps

/-! ## Values that are no timestamps -/

def ColumnValue.timestampText? : ColumnValue → Option String
  | .text content => some content
  | .blob bytes => some (String.ofList (Utf8.decodeLossy bytes))
  | _ => none

theorem ColumnValue.exists_toTimestamp_error_iff {list : PatternList}
    {value : ColumnValue} :
    (∃ error, value.toTimestamp list = .error error) ↔
      ∃ text, value.timestampText? = some text ∧ ∃ error, list.read text .utc = .error error := by
  cases value with
  | null | bool | int | float | timestamp => simp [toTimestamp, timestampText?]
  | text content => simp [toTimestamp, timestampText?, exists_map_eq_error_iff]
  | blob bytes => simp [toTimestamp, timestampText?, exists_map_eq_error_iff]

/-! ## Scanning -/

theorem ScalarType.coerce_null (patterns : PatternList) (type : ScalarType) :
    type.coerce patterns .null = .ok none := by
  cases type with
  | string | int64 | float64 | bool | time => rfl

namespace Cell

variable {type : ScalarType} {patterns : PatternList} {value : ColumnValue}

theorem assign_eq_ofOption (cell : Cell type) (outcome : Option type.Native) :
    cell.assign outcome = ofOption outcome := by
  cases outcome with
  | none => rfl
  | some native => rfl

/-- A scan puts what the value is coerced to in place of what was there, and null where it
fails. -/
theorem scan_eq (cell : Cell type) (patterns : PatternList) (value : ColumnValue) :
    cell.scan patterns value =
      match type.coerce patterns value with
      | .ok outcome => (.ok (), ofOption outcome)
      | .error error => (.error error, null type) := by
  rw [scan]
  cases type.coerce patterns value with
  | ok outcome => simp only [assign_eq_ofOption]
  | error error => rfl

theorem scan_eq_scan (first second : Cell type) (patterns : PatternList)
    (value : ColumnValue) : first.scan patterns value = second.scan patterns value := by
  rw [scan_eq, scan_eq]

theorem scan_of_coerce {native : type.Native}
    (coerces : type.coerce patterns value = .ok (some native)) (cell : Cell type) :
    cell.scan patterns value = (.ok (), ofValue native) := by
  rw [scan_eq, coerces]
  rfl

theorem scan_eq_ok_iff {cell after : Cell type} :
    cell.scan patterns value = (.ok (), after) ↔
      ∃ outcome, type.coerce patterns value = .ok outcome ∧ after = ofOption outcome := by
  rw [scan_eq]
  cases type.coerce patterns value with
  | ok outcome => simp [eq_comm]
  | error error => simp

theorem exists_scan_error_iff {cell : Cell type} :
    (∃ error, (cell.scan patterns value).1 = .error error) ↔
      ∃ error, type.coerce patterns value = .error error := by
  rw [scan_eq]
  cases type.coerce patterns value with
  | ok outcome => simp
  | error error => simp

theorem exists_ofOption_of_scan (type : ScalarType) (patterns : PatternList)
    (value : ColumnValue) :
    ∃ outcome, ∀ cell : Cell type, (cell.scan patterns value).2 = ofOption outcome := by
  simp only [scan_eq]
  cases type.coerce patterns value with
  | ok outcome => exact ⟨outcome, fun _ => rfl⟩
  | error error => exact ⟨none, fun _ => rfl⟩

/-! ## Decoded cells -/

theorem ofTaken_eq_ok_iff {cell : Cell type} (notTime : type ≠ .time)
    (patterns : PatternList) :
    ofTaken type value = .ok cell ↔
      (null type).scan patterns value = (.ok (), cell) := by
  rw [scan_eq_ok_iff]
  cases type with
  | time => exact absurd rfl notTime
  | string | int64 | float64 | bool =>
      simp only [ofTaken, ScalarType.coerce, map_eq_ok_iff, mapError_eq_ok_iff]

theorem exists_ofOption_of_ofTaken {cell : Cell type}
    (coerces : ofTaken type value = .ok cell) : ∃ outcome, cell = ofOption outcome := by
  cases type with
  | string | int64 | float64 | bool | time =>
      rcases map_eq_ok_iff.mp coerces with ⟨outcome, -, rfl⟩
      exact ⟨outcome, rfl⟩

end Cell

end ScalarCell
