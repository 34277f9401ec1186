import ScalarCell.Cell
import ScalarCell.Proofs.Cell.Scan
import ScalarCell.Proofs.PatternList.AsciiText

namespace ScalarCell

/-! Bytes in a column. Those of a text are coerced as the text itself, and an error differs
only in the kind of value it names. Bytes of no text are never coerced into a value. -/

def ScanError.withKind (kind : ColumnKind) : ScanError → ScanError
  | .conversion error => .conversion { error with kind }
  | .timestamp error => .timestamp error

namespace ColumnValue

variable {bytes : List UInt8}

/-! ## Bytes of a text -/

theorem blobText_encode (target : ConversionTarget) (characters : List Char) :
    blobText target (Utf8.encode characters) = .ok characters := by
  rw [blobText, Utf8.decode_eq_ok_iff.mpr rfl]

theorem integerOfText_blob (characters : List Char) :
    (integerOfText .blob characters).mapError ScanError.conversion =
      ((integerOfText .text characters).mapError ScanError.conversion).mapError
        (ScanError.withKind .blob) := by
  rw [integerOfText, integerOfText]
  cases Numeral.readInt64 characters with
  | ok number => rfl
  | error error => rfl

theorem floatOfText_blob (characters : List Char) :
    (floatOfText .blob characters).mapError ScanError.conversion =
      ((floatOfText .text characters).mapError ScanError.conversion).mapError
        (ScanError.withKind .blob) := by
  rw [floatOfText, floatOfText]
  cases Binary64.read characters with
  | ok number => rfl
  | error error => rfl

theorem truthOfText_blob (characters : List Char) :
    (truthOfText .blob characters).mapError ScanError.conversion =
      ((truthOfText .text characters).mapError ScanError.conversion).mapError
        (ScanError.withKind .blob) := by
  rw [truthOfText, truthOfText]
  cases truthOfWord? characters with
  | some truth => rfl
  | none => rfl

theorem toTimestamp_encode (patterns : PatternList) (text : String) :
    (ColumnValue.blob (Utf8.encode text.toList)).toTimestamp patterns =
      (ColumnValue.text text).toTimestamp patterns := by
  rw [toTimestamp, toTimestamp, Utf8.decodeLossy_encode, String.ofList_toList]

end ColumnValue

open ColumnValue

theorem ScalarType.coerce_encode (type : ScalarType) (patterns : PatternList) (text : String) :
    type.coerce patterns (.blob (Utf8.encode text.toList)) =
      (type.coerce patterns (.text text)).mapError (ScanError.withKind .blob) := by
  cases type with
  | string =>
      rw [coerce, coerce, toText, toText, blobText_encode]
      simp only [Except.map, Except.mapError, String.ofList_toList]
  | int64 =>
      rw [coerce, coerce, toInt64, toInt64, blobText_encode]
      exact integerOfText_blob text.toList
  | float64 =>
      rw [coerce, coerce, toFloat64, toFloat64, blobText_encode]
      exact floatOfText_blob text.toList
  | bool =>
      rw [coerce, coerce, ColumnValue.toBool, ColumnValue.toBool, blobText_encode]
      exact truthOfText_blob text.toList
  | time =>
      rw [coerce, coerce, toTimestamp_encode]
      cases (ColumnValue.text text).toTimestamp patterns with
      | ok outcome => rfl
      | error error => rfl

/-! ## Broken bytes -/

section Broken

variable {bytes : List UInt8} (broken : ∀ characters, Utf8.encode characters ≠ bytes)

include broken

theorem ColumnValue.exists_blobText_error (target : ConversionTarget) :
    ∃ error, blobText target bytes = .error ⟨.blob, target, some (.utf8 error)⟩ := by
  rcases (Utf8.decode_of_broken broken).1 with ⟨error, failed⟩
  exact ⟨error, by rw [blobText, failed]⟩

theorem ScalarType.exists_coerce_conversion {type : ScalarType} (notTime : type ≠ .time)
    (patterns : PatternList) :
    ∃ error, type.coerce patterns (.blob bytes) = .error (.conversion error) := by
  cases type with
  | string =>
      rcases exists_blobText_error broken .string with ⟨error, failed⟩
      exact ⟨_, by rw [coerce, toText, failed]; rfl⟩
  | int64 =>
      rcases exists_blobText_error broken .int64 with ⟨error, failed⟩
      exact ⟨_, by rw [coerce, toInt64, failed]; rfl⟩
  | float64 =>
      rcases exists_blobText_error broken .float64 with ⟨error, failed⟩
      exact ⟨_, by rw [coerce, toFloat64, failed]; rfl⟩
  | bool =>
      rcases exists_blobText_error broken .bool with ⟨error, failed⟩
      exact ⟨_, by rw [coerce, ColumnValue.toBool, failed]; rfl⟩
  | time => exact absurd rfl notTime

theorem ScalarType.exists_coerce_timestamp_error :
    ∃ error, ScalarType.time.coerce .default (.blob bytes) = .error (.timestamp error) ∧
      error.input = String.ofList (Utf8.decodeLossy bytes) := by
  have replaced := (Utf8.decode_of_broken broken).2
  rw [← String.toList_ofList (l := Utf8.decodeLossy bytes)] at replaced
  rcases @PatternList.exists_default_read_error _ .utc replaced with ⟨error, refused⟩
  refine ⟨error, ?_, PatternList.input_of_read refused⟩
  rw [coerce, toTimestamp, refused]
  rfl

end Broken

/-! ## Scanning -/

/-- The bytes of a text are scanned as the text is: both succeed or fail, both leave the same
cell, and an error differs only in the kind of value it names. Bytes of no text are refused by
every type, with a conversion error or, where a timestamp is read with the default list, with
the text in which the broken bytes are replaced; they leave null. -/
theorem Cell.scan_bytes :
    (∀ (type : ScalarType) (patterns : PatternList) (cell : Cell type) (text : String),
      cell.scan patterns (.blob (Utf8.encode text.toList)) =
        ((cell.scan patterns (.text text)).1.mapError (ScanError.withKind .blob),
          (cell.scan patterns (.text text)).2)) ∧
    ∀ bytes : List UInt8, (∀ characters, Utf8.encode characters ≠ bytes) →
      (∀ (type : ScalarType) (patterns : PatternList) (cell : Cell type), type ≠ .time →
        ∃ error, cell.scan patterns (.blob bytes) = (.error (.conversion error), .null type)) ∧
      ∀ cell : Cell .time, ∃ error,
        cell.scan .default (.blob bytes) = (.error (.timestamp error), .null .time) ∧
          error.input = String.ofList (Utf8.decodeLossy bytes) := by
  refine ⟨fun type patterns cell text => ?_, fun bytes broken =>
    ⟨fun type patterns cell notTime => ?_, fun cell => ?_⟩⟩
  · rw [scan_eq, scan_eq, type.coerce_encode patterns text]
    cases type.coerce patterns (.text text) with
    | ok outcome => rfl
    | error error => rfl
  · rcases ScalarType.exists_coerce_conversion broken notTime patterns with ⟨error, failed⟩
    exact ⟨error, by rw [scan_eq, failed]⟩
  · rcases ScalarType.exists_coerce_timestamp_error broken with ⟨error, failed, input_eq⟩
    exact ⟨error, by rw [scan_eq, failed], input_eq⟩

/-- A date with one byte that is no character does not become a timestamp, and neither does it
with the replacement mark in the place of that byte. -/
theorem Cell.scan_bytes_broken :
    (∀ characters, Utf8.encode characters ≠ Utf8.encode "2021-03-04".toList ++ [0xFF]) ∧
      ∃ error, (Cell.null .time).scan .default
          (.blob (Utf8.encode "2021-03-04".toList ++ [0xFF])) =
            (.error (.timestamp error), .null .time) ∧
        error.input = "2021-03-04\uFFFD" := by
  have broken : ∀ characters,
      Utf8.encode characters ≠ Utf8.encode "2021-03-04".toList ++ [0xFF] := by
    intro characters encoded
    have decoded := Utf8.decode_eq_ok_iff.mpr encoded
    cases decoded
  exact ⟨broken, (scan_bytes.2 _ broken).2 _⟩

end ScalarCell
