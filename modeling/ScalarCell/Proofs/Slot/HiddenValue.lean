import ScalarCell.Proofs.Json.CellText
import ScalarCell.Proofs.Slot.Overwriting

namespace ScalarCell

/-! The value behind a null is never seen. Two slots whose cells differ in nothing but such
values give the same answers for ever, and are the same once an operation has written. -/

/-! ## Looking at a cell

Whatever looks at a cell looks at the option that it stands for. -/

namespace Cell

variable {type : ScalarType} {left right : Cell type}

theorem toOption_of_isNull {cell : Cell type} (isNull : cell.isNull = true) :
    cell.toOption = none := by
  rw [Cell.isNull, Bool.not_eq_true'] at isNull
  rw [toOption, isNull]
  rfl

theorem isNull_congr (alike : left.toOption = right.toOption) :
    left.isNull = right.isNull := by
  rw [Json.isNull_eq, Json.isNull_eq, alike]

theorem equal_congr (alike : left.toOption = right.toOption) (other : Cell type) :
    left.equal other = right.equal other ∧ other.equal left = other.equal right := by
  simp only [equal, alike, and_self]

theorem toColumn_congr (alike : left.toOption = right.toOption) :
    left.toColumn = right.toColumn := by
  simp only [toColumn, alike]

theorem toTextColumn_congr {left right : Cell .time} (alike : left.toOption = right.toOption)
    (list : PatternList) : left.toTextColumn list = right.toTextColumn list := by
  simp only [toTextColumn, alike]

theorem encodeCell_congr (alike : left.toOption = right.toOption) :
    Json.encodeCell left = Json.encodeCell right := by
  simp only [Json.encodeCell, Json.writeCell, alike]

theorem encodeCellByValue_congr (alike : left.toOption = right.toOption) :
    Json.encodeCellByValue left = Json.encodeCellByValue right := by
  simp only [Json.encodeCellByValue, Json.valueOfCell, alike]

end Cell

namespace Slot

variable {type : ScalarType} {left right : Cell type}

/-! ## One operation -/

/-- The answer to a decoding, and what it leaves in the registry, are settled before the slot
is looked at. -/
theorem afterDecoding_congr (left right : Slot type) (registry : Registry)
    (decoded : Except (Answer type) (Cell type)) :
    (left.afterDecoding registry decoded).1 = (right.afterDecoding registry decoded).1 ∧
      (left.afterDecoding registry decoded).2.registry =
        (right.afterDecoding registry decoded).2.registry := by
  cases decoded with
  | ok cell => exact ⟨rfl, rfl⟩
  | error refusal => exact ⟨rfl, rfl⟩

theorem scanWith_congr (registry : Registry) (left right : Cell type) (list : PatternList)
    (value : ColumnValue) :
    scanWith ⟨registry, left⟩ list value = scanWith ⟨registry, right⟩ list value := by
  simp only [scanWith, Cell.scan_eq_scan left right]

theorem roundTrip_congr (registry : Registry) (alike : left.toOption = right.toOption) :
    (roundTrip ⟨registry, left⟩).1 = (roundTrip ⟨registry, right⟩).1 ∧
      (roundTrip ⟨registry, left⟩).2.registry = (roundTrip ⟨registry, right⟩).2.registry := by
  simp only [roundTrip, Cell.encodeCell_congr alike]
  cases Json.encodeCell right with
  | error problem => exact ⟨rfl, rfl⟩
  | ok text =>
      cases decodes : Json.decodeCell type text with
      | error error => simp only [decodes, and_self]
      | ok back => simp only [decodes, (Cell.equal_congr alike back).2, and_self]

theorem perform_congr (registry : Registry) (alike : left.toOption = right.toOption)
    (operation : Operation type) :
    (perform ⟨registry, left⟩ operation).1 = (perform ⟨registry, right⟩ operation).1 ∧
      (perform ⟨registry, left⟩ operation).2.registry =
        (perform ⟨registry, right⟩ operation).2.registry := by
  cases operation with
  | clear | assign | assignOption | assignColumn | elsewhere => exact ⟨rfl, rfl⟩
  | scan value =>
      simp only [perform, scanWith_congr _ left right, and_self]
  | scanWith list value =>
      simp only [perform, scanWith_congr _ left right, and_self]
  | decode | decodeValue | decodeToken => exact afterDecoding_congr _ _ _ _
  | isNull => exact ⟨congrArg Answer.truth (Cell.isNull_congr alike), rfl⟩
  | toOption => exact ⟨congrArg Answer.option alike, rfl⟩
  | equals other => exact ⟨congrArg Answer.truth (Cell.equal_congr alike other).1, rfl⟩
  | isEqualedBy other => exact ⟨congrArg Answer.truth (Cell.equal_congr alike other).2, rfl⟩
  | toColumn => exact ⟨congrArg Answer.column (Cell.toColumn_congr alike), rfl⟩
  | toText =>
      simp only [perform, Cell.isNull_congr alike, Cell.toTextColumn_congr alike, and_self]
  | encode => simp only [perform, Cell.encodeCell_congr alike, and_self]
  | encodeByValue => simp only [perform, Cell.encodeCellByValue_congr alike, and_self]
  | roundTrip => exact roundTrip_congr registry alike

/-- Slots in the same process whose cells are both null, or valid with the same value. -/
structure Alike (left right : Slot type) : Prop where
  registry : left.registry = right.registry
  toOption : left.cell.toOption = right.cell.toOption

theorem Alike.perform {left right : Slot type} (alike : Alike left right)
    (operation : Operation type) :
    (left.perform operation).1 = (right.perform operation).1 ∧
      Alike (left.perform operation).2 (right.perform operation).2 ∧
      (operation.Writes → (left.perform operation).2 = (right.perform operation).2) := by
  rcases left with ⟨registry, left⟩
  rcases right with ⟨_, right⟩
  rcases alike with ⟨rfl, sameOption⟩
  rcases perform_congr registry sameOption operation with ⟨sameAnswer, sameRegistry⟩
  refine ⟨sameAnswer, ?_⟩
  rcases perform_cases registry operation with
    ⟨-, outcome, written⟩ | ⟨writesNot, unchanged⟩
  · have sameCell := (written left).trans (written right).symm
    exact ⟨⟨sameRegistry, congrArg Cell.toOption sameCell⟩,
      fun _ => Slot.ext sameRegistry sameCell⟩
  · refine ⟨⟨sameRegistry, ?_⟩, fun writes => absurd writes writesNot⟩
    rw [unchanged left, unchanged right]
    exact sameOption

/-! ## Runs -/

theorem Alike.performAll {left right : Slot type} (alike : Alike left right)
    (operations : List (Operation type)) :
    (left.performAll operations).1 = (right.performAll operations).1 ∧
      Alike (left.performAll operations).2 (right.performAll operations).2 := by
  induction operations generalizing left right with
  | nil => exact ⟨rfl, alike⟩
  | cons operation rest induction =>
      rcases alike.perform operation with ⟨sameAnswer, alikeAfter, -⟩
      rcases induction alikeAfter with ⟨sameAnswers, alikeAtLast⟩
      exact ⟨congrArg₂ List.cons sameAnswer sameAnswers, alikeAtLast⟩

theorem Alike.performAll_eq {left right : Slot type} (alike : Alike left right)
    {operations : List (Operation type)} (writes : ∃ operation ∈ operations, operation.Writes) :
    (left.performAll operations).2 = (right.performAll operations).2 := by
  induction operations generalizing left right with
  | nil => rcases writes with ⟨_, member, -⟩; cases member
  | cons operation rest induction =>
      rcases alike.perform operation with ⟨-, alikeAfter, same⟩
      by_cases first : operation.Writes
      · exact congrArg (fun slot => (slot.performAll rest).2) (same first)
      · apply induction alikeAfter
        simpa [first] using writes

theorem performAll_cell_of_not_writes {slot : Slot type} {operations : List (Operation type)}
    (writesNot : ∀ operation ∈ operations, ¬ operation.Writes) :
    (slot.performAll operations).2.cell = slot.cell := by
  induction operations generalizing slot with
  | nil => rfl
  | cons operation rest induction =>
      rcases List.forall_mem_cons.mp writesNot with ⟨firstNot, restNot⟩
      rcases perform_cases slot.registry operation with ⟨writes, -⟩ | ⟨-, unchanged⟩
      · exact absurd writes firstNot
      · exact (induction restNot).trans (unchanged slot.cell)

/-- What two null cells still hold makes no difference. Every run gives the same answers and
leaves the registry the same, and once it has written, the cell, too; a run that does not
write leaves either cell as it was. -/
theorem answers_eq_of_isNull (registry : Registry) (leftNull : left.isNull = true)
    (rightNull : right.isNull = true) (operations : List (Operation type)) :
    (performAll ⟨registry, left⟩ operations).1 = (performAll ⟨registry, right⟩ operations).1 ∧
      (performAll ⟨registry, left⟩ operations).2.registry =
        (performAll ⟨registry, right⟩ operations).2.registry ∧
      ((∃ operation ∈ operations, operation.Writes) →
        (performAll ⟨registry, left⟩ operations).2 =
          (performAll ⟨registry, right⟩ operations).2) ∧
      ((∀ operation ∈ operations, ¬ operation.Writes) →
        (performAll ⟨registry, left⟩ operations).2.cell = left ∧
          (performAll ⟨registry, right⟩ operations).2.cell = right) := by
  have alike : Alike ⟨registry, left⟩ ⟨registry, right⟩ :=
    ⟨rfl, (Cell.toOption_of_isNull leftNull).trans (Cell.toOption_of_isNull rightNull).symm⟩
  rcases alike.performAll operations with ⟨answers, alikeAtLast⟩
  exact ⟨answers, alikeAtLast.registry, alike.performAll_eq, fun writesNot =>
    ⟨performAll_cell_of_not_writes writesNot, performAll_cell_of_not_writes writesNot⟩⟩

/-- Two nulls, one of them in front of a number that has no written form: they are encoded
alike, and a scan that fails makes them the same. -/
theorem answers_eq_of_nan :
    let operations : List (Operation .float64) :=
      [.encode, .encodeByValue, .toOption, .toColumn, .equals (.null .float64), .roundTrip,
        .scan (.bool true)]
    let held : Cell .float64 := ⟨false, .nan⟩
    held.isNull = true ∧ (Cell.null .float64).isNull = true ∧
      performAll ⟨.untouched, held⟩ operations =
        performAll ⟨.untouched, .null .float64⟩ operations := by
  intro operations held
  have leftNull : held.isNull = true := rfl
  have rightNull : (Cell.null .float64).isNull = true := rfl
  rcases answers_eq_of_isNull .untouched leftNull rightNull operations with
    ⟨answers, -, written, -⟩
  have scans : ∃ operation ∈ operations, operation.Writes :=
    ⟨.scan (.bool true), by simp [operations], trivial⟩
  exact ⟨leftNull, rightNull, Prod.ext answers (written scans)⟩

end Slot

end ScalarCell
