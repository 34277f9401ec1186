import ScalarCell.Proofs.Json.CellText

namespace ScalarCell.Json

/-! Timestamps are taken from strings alone, and read there as RFC 3339 has them. -/

theorem take_timestampText_iff {value : Scalar} {taken : ColumnValue} :
    TokenRule.timestampText.take value.token = .ok taken ↔
      ∃ content, value = .text content ∧ taken = .text content := by
  cases value with
  | null => simp [Scalar.token, TokenRule.take, TokenRule.takeTimestampText]
  | bool value => simp [Scalar.token, TokenRule.take, TokenRule.takeTimestampText]
  | number value =>
      cases value <;>
        simp [Scalar.token, Number.token, TokenRule.take,
          TokenRule.takeTimestampText]
  | text value =>
      simp [Scalar.token, TokenRule.take, TokenRule.takeTimestampText, eq_comm]

theorem ofTaken_text_eq_ok_iff {content : String} {cell : Cell .time} :
    Cell.ofTaken .time (.text content) = .ok cell ↔
      ∃ timestamp, Rfc3339.read content = .ok timestamp ∧ cell = .ofValue timestamp := by
  cases read : Rfc3339.read content with
  | ok found =>
      have coerced : Cell.ofTaken .time (.text content) = .ok (.ofValue found) := by
        simp only [Cell.ofTaken, decodeTimestamp, read]
        rfl
      simp [coerced, eq_comm]
  | error error =>
      have refused : Cell.ofTaken .time (.text content) = .error (.timestamp error) := by
        simp only [Cell.ofTaken, decodeTimestamp, read]
        rfl
      simp [refused]

theorem cellOfValue_text (content : String) :
    cellOfValue .time (.scalar (.text content)) = Cell.ofTaken .time (.text content) := rfl

theorem readCell_time_iff {text rest : List Char} {cell : Cell .time} :
    (readCell .time text = .ok (cell, rest) ∧ cell.isNull = false) ↔
      ∃ content timestamp, readLexeme text = .ok (.scalar (.text content), rest) ∧
        Rfc3339.read content = .ok timestamp ∧ cell = .ofValue timestamp := by
  constructor
  · intro given
    rcases given with ⟨read, notNull⟩
    rcases readCell_eq_ok_iff.mp read with ⟨value, lexeme, decodes⟩
    rcases Cell.ofToken_eq_ok_iff.mp decodes with ⟨-, rfl⟩ | ⟨taken, takes, coerces⟩
    · cases notNull
    · rcases take_timestampText_iff.mp takes with ⟨content, rfl, rfl⟩
      rcases ofTaken_text_eq_ok_iff.mp coerces with ⟨timestamp, wellFormed, rfl⟩
      exact ⟨content, timestamp, lexeme, wellFormed, rfl⟩
  · intro given
    rcases given with ⟨content, timestamp, lexeme, wellFormed, rfl⟩
    have coerces := ofTaken_text_eq_ok_iff.mpr ⟨timestamp, wellFormed, rfl⟩
    exact ⟨readCell_scalar lexeme rfl coerces, rfl⟩

end ScalarCell.Json
