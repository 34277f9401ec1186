import ScalarCell.Proofs.Json.TimestampRoundTrip
import ScalarCell.Proofs.PatternList.Rfc3339Text

namespace ScalarCell.Json

/-! Two ways from a text to a timestamp: as a string of JSON, and as a text column with the
default list. They never contradict each other. -/

open PatternList Rfc3339

variable {content document : String} {cell scanned : Cell .time} {timestamp : Timestamp}

/-! ## Strings -/

/-- Decoding a string of this content gives the cell, be the string a document or a value
in one that was read before. -/
inductive DecodesText (content : String) (cell : Cell .time) : Prop
  | document {document : String}
      (isString : decodeValue document = .ok (.scalar (.text content)))
      (decodes : decodeCell .time document = .ok cell)
  | value (decodes : cellOfValue .time (.scalar (.text content)) = .ok cell)

theorem decodesText_iff :
    DecodesText content cell ↔
      ∃ timestamp, Rfc3339.read content = .ok timestamp ∧ cell = .ofValue timestamp := by
  rw [← ofTaken_text_eq_ok_iff]
  constructor
  · intro decodes
    cases decodes with
    | value decodes => exact decodes
    | document isString decodes =>
        rcases decodeCell_eq_ok_iff.mp decodes with ⟨value, isValue, decodes⟩
        rw [isString] at isValue
        cases isValue
        exact decodes
  · exact .value

theorem decodeValue_encodeCell (holds : cell.toOption = some timestamp)
    (encoded : encodeCell cell = .ok document) :
    Writable timestamp ∧
      decodeValue document = .ok (.scalar (.text (String.ofList (characters timestamp)))) := by
  have writable := writable_of_encodeCell encoded timestamp holds
  have written : encodeCell cell =
      .ok (String.ofList (writeText (characters timestamp))) := by
    rw [encodeCell, writeCell, holds]
    simp only [scalarOf_writable writable, Except.map, Scalar.write, String.toList_ofList]
  have lexeme := readLexeme_writeText (characters timestamp) []
  rw [List.append_nil] at lexeme
  rw [encoded] at written
  cases written
  refine ⟨writable, decodeValue_scalar_iff.mpr ⟨[], ?_, rfl⟩⟩
  rw [String.toList_ofList]
  exact lexeme

/-! ## Columns -/

theorem scan_timestamp_string {patterns : PatternList} {source held : Cell .string}
    (scans : source.scan patterns (.timestamp timestamp) = (.ok (), held)) :
    Writable timestamp ∧ held = .ofValue (String.ofList (characters timestamp)) := by
  simp only [Cell.scan, ScalarType.coerce, ColumnValue.toText] at scans
  cases written : Rfc3339.write timestamp with
  | error error => simp [written, Except.mapError] at scans
  | ok text =>
      have writable := writable_of_write written
      rw [write_of_writable writable] at written
      cases written
      simp only [write_of_writable writable] at scans
      cases scans
      exact ⟨writable, rfl⟩

/-! ## Agreement -/

/-- A string that is both decoded and scanned gives the same timestamp, with the same offset.
Every text that a timestamp is turned into, by scanning it as a string or by encoding it, is
scanned as that timestamp again. -/
theorem scan_default_agrees :
    (∀ content (target decoded scanned : Cell .time), DecodesText content decoded →
        target.scan .default (.text content) = (.ok (), scanned) →
        ∃ timestamp, decoded = .ofValue timestamp ∧ scanned = .ofValue timestamp) ∧
      (∀ timestamp patterns (source held : Cell .string) (target : Cell .time),
        source.scan patterns (.timestamp timestamp) = (.ok (), held) →
        ∃ content, held = .ofValue content ∧
          target.scan .default (.text content) = (.ok (), .ofValue timestamp)) ∧
      ∀ timestamp document (cell target : Cell .time), cell.toOption = some timestamp →
        encodeCell cell = .ok document →
        ∃ content, decodeValue document = .ok (.scalar (.text content)) ∧
          target.scan .default (.text content) = (.ok (), .ofValue timestamp) := by
  refine ⟨?_, ?_, ?_⟩
  · intro content target decoded scanned decodes scans
    rcases decodesText_iff.mp decodes with ⟨timestamp, read, rfl⟩
    rcases Cell.scan_text_iff.mp scans with ⟨found, readDefault, rfl⟩
    exact ⟨timestamp, rfl, congrArg _ (default_read_eq_of_rfc3339 read readDefault)⟩
  · intro timestamp patterns source held target scans
    rcases scan_timestamp_string scans with ⟨writable, rfl⟩
    exact ⟨_, rfl, Cell.scan_text_iff.mpr ⟨timestamp, default_read_characters writable, rfl⟩⟩
  · intro timestamp document cell target holds encoded
    rcases decodeValue_encodeCell holds encoded with ⟨writable, decoded⟩
    exact ⟨_, decoded, Cell.scan_text_iff.mpr ⟨timestamp, default_read_characters writable, rfl⟩⟩

end ScalarCell.Json
