import ScalarCell.Json.Encode
import ScalarCell.Proofs.Json.Document

namespace ScalarCell.Json

/-! Cells that come back from their text, one by one and in lists. An element of a list is
read as it would be alone, for what follows it does not belong to it. -/

open Digits

variable {type : ScalarType} {text rest : List Char} {cell : Cell type}

theorem toOption_ofOption (value : Option type.Native) :
    (Cell.ofOption value).toOption = value := by
  cases value with
  | none => rfl
  | some value => rfl

theorem isNull_eq (cell : Cell type) : cell.isNull = cell.toOption.isNone := by
  rw [Cell.isNull, Cell.toOption]
  cases cell.valid with
  | true => rfl
  | false => rfl

/-! ## Reading one cell -/

theorem readCell_null (rest : List Char) :
    readCell type (Scalar.null.write ++ rest) = .ok (.null type, rest) := rfl

theorem readCell_scalar {value : Scalar} {taken : ColumnValue}
    (lexeme : readLexeme text = .ok (.scalar value, rest))
    (takes : type.tokenRule.take value.token = .ok taken)
    (coerces : Cell.ofTaken type taken = .ok cell) :
    readCell type text = .ok (cell, rest) :=
  readCell_eq_ok_iff.mpr
    ⟨value, lexeme, Cell.ofToken_eq_ok_iff.mpr (.inr ⟨taken, takes, coerces⟩)⟩

/-! ## Reading a list -/

theorem readCell_skipBlank (text : List Char) :
    readCell type (skipBlank text) = readCell type text := by
  have again : skipBlank (skipBlank text) = skipBlank text := List.dropWhile_idempotent _ _
  rw [readCell, again, readCell]

theorem exists_of_readCell {outcome : Cell type × List Char}
    (read : readCell type text = .ok outcome) :
    ∃ first others, skipBlank text = first :: others ∧ first ≠ ']' := by
  rw [← readCell_skipBlank] at read
  cases begins : skipBlank text with
  | nil =>
      rw [begins] at read
      cases read
  | cons first others =>
      refine ⟨first, others, rfl, ?_⟩
      rintro rfl
      rw [begins] at read
      cases read

def asElement (first : Bool) (text : List Char) : List Char :=
  if first then text else ',' :: text

theorem nextElement_asElement {outcome : Cell type × List Char} (first : Bool)
    (read : readCell type text = .ok outcome) :
    nextElement first (asElement first text) = .ok (.member (skipBlank text)) := by
  rcases exists_of_readCell read with ⟨character, others, begins, notEnd⟩
  cases first with
  | true => simp [asElement, nextElement, begins, notEnd]
  | false =>
      have comma : skipBlank (',' :: text) = ',' :: text := rfl
      simp [asElement, nextElement, comma, begins, notEnd]

theorem readCells_asElement {fuel : Nat} (first : Bool)
    (read : readCell type text = .ok (cell, rest)) :
    readCells type (fuel + 1) first (asElement first text) =
      (readCells type fuel false rest).map fun (cells, rest) => (cell :: cells, rest) := by
  rw [readCells, nextElement_asElement first read]
  simp only [readCell_skipBlank, read]

theorem readCells_end (fuel : Nat) (first : Bool) (rest : List Char) :
    readCells type (fuel + 1) first (']' :: rest) = .ok ([], rest) := rfl

/-! ## Cells that come back -/

/-- A cell is written, and read back as it was wherever its text stands: at the end, or
before anything with which a number would not go on. -/
def ReadsBack (cell : Cell type) : Prop :=
  ∃ characters, writeCell cell = .ok characters ∧
    ∀ rest, EndsNumber rest →
      readCell type (characters ++ rest) = .ok (.ofOption cell.toOption, rest)

theorem readsBack_null (isNull : cell.toOption = none) : ReadsBack cell := by
  refine ⟨Scalar.null.write, ?_, fun rest _ => ?_⟩
  · rw [writeCell, isNull]
  · rw [isNull]
    exact readCell_null rest

theorem readsBack_scalar {value : type.Native} {scalar : Scalar} {taken : ColumnValue}
    (holds : cell.toOption = some value) (written : scalarOf type value = .ok scalar)
    (exact : scalar.IsExact)
    (takes : type.tokenRule.take scalar.token = .ok taken)
    (coerces : Cell.ofTaken type taken = .ok (.ofValue value)) : ReadsBack cell := by
  refine ⟨scalar.write, ?_, fun rest ends => ?_⟩
  · rw [writeCell, holds]
    simp only [written]
    rfl
  · rw [holds]
    exact readCell_scalar (exact.readLexeme_write ends) takes coerces

/-! ## Whole texts -/

theorem endsNumber_comma (rest : List Char) : EndsNumber (',' :: rest) := by
  simp [EndsNumber, NoDigitNext, ContinuesAsFloat, startsWithExponent]

theorem endsNumber_listEnd (rest : List Char) : EndsNumber (']' :: rest) := by
  simp [EndsNumber, NoDigitNext, ContinuesAsFloat, startsWithExponent]

theorem ReadsBack.decodeCell_encodeCell (readsBack : ReadsBack cell) :
    ∃ text, encodeCell cell = .ok text ∧
      decodeCell type text = .ok (.ofOption cell.toOption) := by
  rcases readsBack with ⟨characters, written, read⟩
  have readAll := read [] endsNumber_nil
  rw [List.append_nil] at readAll
  refine ⟨String.ofList characters, ?_, ?_⟩
  · rw [encodeCell, written]
    rfl
  · rw [decodeCell, decodeText, String.toList_ofList, readAll]
    rfl

theorem length_pos_of_readCell {outcome : Cell type × List Char}
    (read : readCell type text = .ok outcome) : 0 < text.length := by
  cases text with
  | nil => cases read
  | cons first others => exact Nat.succ_pos _

/-- The elements of a list come back one after another. Every one takes up at least one
character, so the fuel that a text is read with is enough. -/
theorem readCells_writeCells {cells : List (Cell type)}
    (readBack : ∀ element ∈ cell :: cells, ReadsBack element) :
    ∃ characters, writeCells (cell :: cells) = .ok characters ∧
      cells.length < characters.length ∧
      ∀ fuel first rest, cells.length + 1 < fuel →
        readCells type fuel first (asElement first (characters ++ ']' :: rest)) =
          .ok ((cell :: cells).map fun element => .ofOption element.toOption, rest) := by
  induction cells generalizing cell with
  | nil =>
      rcases readBack cell List.mem_cons_self with ⟨characters, written, read⟩
      have alone := length_pos_of_readCell (read [] endsNumber_nil)
      rw [List.append_nil] at alone
      refine ⟨characters, written, alone, fun fuel first rest enough => ?_⟩
      obtain ⟨spare, rfl⟩ : ∃ spare, fuel = spare + 1 + 1 :=
        ⟨fuel - 2, by rw [List.length_nil] at enough; omega⟩
      rw [readCells_asElement first (read _ (endsNumber_listEnd rest)), readCells_end]
      rfl
  | cons next others induction =>
      rcases readBack cell List.mem_cons_self with ⟨characters, written, read⟩
      rcases induction fun element member =>
          readBack element (List.mem_cons_of_mem _ member) with
        ⟨more, writtenMore, longer, readMore⟩
      refine ⟨characters ++ ',' :: more, ?_, ?_, fun fuel first rest enough => ?_⟩
      · rw [writeCells]
        · simp only [written, writtenMore]
          rfl
        · exact List.cons_ne_nil _ _
      · simp only [List.length_append, List.length_cons]
        omega
      · obtain ⟨fuel, rfl⟩ : ∃ before, fuel = before + 1 := ⟨fuel - 1, by omega⟩
        have readRest := readMore fuel false rest
          (by rw [List.length_cons] at enough; omega)
        rw [List.append_assoc, List.cons_append,
          readCells_asElement first (read _ (endsNumber_comma _))]
        change (readCells type fuel false (asElement false _)).map _ = _
        rw [readRest]
        rfl

theorem decodeCellList_encodeCellList {cells : List (Cell type)}
    (readBack : ∀ cell ∈ cells, ReadsBack cell) :
    ∃ text, encodeCellList cells = .ok text ∧
      decodeCellList type text = .ok (cells.map fun cell => .ofOption cell.toOption) := by
  have opened (rest : List Char) : readLexeme ('[' :: rest) = .ok (.openList, rest) := rfl
  cases cells with
  | nil => exact ⟨_, rfl, rfl⟩
  | cons cell cells =>
      rcases readCells_writeCells readBack with ⟨characters, written, longer, read⟩
      refine ⟨String.ofList ('[' :: characters ++ [']']), ?_, ?_⟩
      · rw [encodeCellList, written]
        rfl
      · have readAll := read ((characters ++ [']']).length + 1) true [] (by simp; omega)
        rw [asElement, if_pos rfl] at readAll
        rw [decodeCellList, decodeText, String.toList_ofList, readCellList,
          List.cons_append, opened]
        simp only [readAll]
        rfl

end ScalarCell.Json
