import ScalarCell.Proofs.Cell.Agreement
import ScalarCell.Proofs.Cell.Scan
import ScalarCell.Proofs.Numeric.DecimalExponent

namespace ScalarCell

/-! Text carries numbers without loss: what a number is written as in a text cell is read back
as the same number. -/

open Digits

/-! ## Notations -/

namespace Decimal

theorem IsScientific.not_isPositional {digits text : List Char} {exponent : Int}
    {decimal : Decimal} (isScientific : IsScientific digits exponent text) :
    ¬ decimal.IsPositional text := by
  rcases isScientific with ⟨negative, isMantissa, wide, exponentNumber⟩
  generalize text_eq : _ ++ 'e' :: _ = text
  have mark : 'e' ∈ text := by
    rw [← text_eq]
    exact List.mem_append_right _ List.mem_cons_self
  intro isPositional
  cases isPositional with
  | whole _ isNumber => exact absurd (isNumber.isDigit 'e' mark) (by decide)
  | point _ _ isNumber =>
      have isDigit := List.forall_mem_append.mp isNumber.isDigit
      rcases List.mem_append.mp mark with inWhole | afterWhole
      · exact absurd (isDigit.1 'e' inWhole) (by decide)
      · rcases List.mem_cons.mp afterWhole with point | inFraction
        · exact absurd point (by decide)
        · exact absurd (isDigit.2 'e' inFraction) (by decide)

theorem nearest?_unscaled {decimal : Decimal} (positive : 0 < decimal.coefficient)
    (high : decimal.exponent ≤ 400) : decimal.unscaled.nearest? = decimal.nearest? := by
  rcases decimal with ⟨coefficient, exponent⟩
  cases exponent with
  | ofNat exponent =>
      have exponent_eq : Int.ofNat exponent = 0 + exponent := (Int.zero_add _).symm
      symm
      exact nearest?_eq_of_moved exponent_eq rfl
        (Nat.mul_pos positive (Nat.pow_pos (by decide)))
        (show -342 ≤ (0 : Int) by decide) high
  | negSucc exponent => rfl

end Decimal

namespace Magnitude

theorem nearest?_unscaled_shortest (magnitude : Magnitude) (tie : Tie) :
    (magnitude.shortest tie).unscaled.nearest? = some magnitude := by
  by_cases nonzero : magnitude = .zero
  · rw [nonzero, shortest_zero]
    rfl
  · rcases shortest_bounds nonzero tie with ⟨positive, -, -, high⟩
    rw [Decimal.nearest?_unscaled positive (by omega)]
    exact magnitude.nearest?_shortest tie

def InPlainRange (magnitude : Magnitude) : Prop :=
  magnitude = .zero ∨
    ∃ exponent, -4 ≤ exponent ∧ exponent < 6 ∧ magnitude.HasDecimalExponent exponent

/-- The layout decides by the shortest digits, which are on the same side of both ends of the
range as the magnitude. -/
theorem inPlainRange_iff (magnitude : Magnitude) (tie : Tie) :
    magnitude.InPlainRange ↔
      -4 ≤ (magnitude.shortest tie).leadingExponent ∧
        (magnitude.shortest tie).leadingExponent < 6 := by
  by_cases nonzero : magnitude = .zero
  · rw [nonzero, shortest_zero]
    exact ⟨fun _ => by decide, fun _ => .inl rfl⟩
  · rw [leadingExponent_shortest_iff nonzero, InPlainRange, or_iff_right nonzero]

theorem column_cases (magnitude : Magnitude) :
    (magnitude.InPlainRange ∧
      (magnitude.shortest .upward).unscaled.IsPositional
        (Layout.column.magnitude magnitude)) ∨
    (¬ magnitude.InPlainRange ∧
      Decimal.IsScientific (Numeral.digits (magnitude.shortest .upward).coefficient)
        (magnitude.shortest .upward).leadingExponent (Layout.column.magnitude magnitude)) := by
  have layout_eq : Layout.column.magnitude magnitude =
      if -4 ≤ (magnitude.shortest .upward).leadingExponent ∧
          (magnitude.shortest .upward).leadingExponent ≤ 5 then
        (magnitude.shortest .upward).positional false
      else (magnitude.shortest .upward).scientific 2 := rfl
  rw [layout_eq, inPlainRange_iff magnitude .upward]
  split
  · exact .inl ⟨by omega, Decimal.isPositional_positional _⟩
  · exact .inr ⟨by omega, Decimal.isScientific_scientific _ (Nat.le_refl 2)⟩

/-- The notation of a magnitude in a text cell: plain digits in their range, and elsewhere as
few digits as any decimal number has that reads back, with an exponent. -/
structure HasColumnForm (magnitude : Magnitude) (text : List Char) : Prop where
  plain_iff : (∃ decimal : Decimal, decimal.IsPositional text) ↔ magnitude.InPlainRange
  scientific : ¬ magnitude.InPlainRange →
    ∃ digits exponent, Decimal.IsScientific digits exponent text ∧
      ∀ decimal : Decimal, decimal.nearest? = some magnitude →
        digits.length ≤ (Numeral.digits decimal.coefficient).length

theorem hasColumnForm (magnitude : Magnitude) :
    magnitude.HasColumnForm (Layout.column.magnitude magnitude) := by
  rcases magnitude.column_cases with ⟨plain, isPositional⟩ | ⟨notPlain, isScientific⟩
  · exact ⟨⟨fun _ => plain, fun _ => ⟨_, isPositional⟩⟩,
      fun notPlain => absurd plain notPlain⟩
  · have noPoint : ¬ ∃ decimal : Decimal,
        decimal.IsPositional (Layout.column.magnitude magnitude) :=
      fun ⟨_, isPositional⟩ => isScientific.not_isPositional isPositional
    have nonzero : magnitude ≠ .zero := fun zero => notPlain (.inl zero)
    refine ⟨⟨fun some => absurd some noPoint, fun plain => absurd plain notPlain⟩,
      fun _ => ⟨_, _, isScientific, ?_⟩⟩
    intro decimal reads
    rw [Decimal.length_digits (shortest_bounds nonzero .upward).1]
    apply Nat.le_trans (magnitude.shortest_fewest .upward reads)
    rw [decimalLength]
    split
    · exact Nat.zero_le _
    · exact Nat.le_refl _

theorem exists_readDecimal?_column (magnitude : Magnitude) :
    DigitNext (Layout.column.magnitude magnitude) ∧
      ∃ decimal, Binary64.readDecimal? (Layout.column.magnitude magnitude) = some decimal ∧
        decimal.nearest? = some magnitude := by
  rcases magnitude.column_cases with ⟨-, isPositional⟩ | ⟨-, isScientific⟩
  · exact ⟨isPositional.digitNext, _, Binary64.readDecimal?_of_isPositional isPositional,
      magnitude.nearest?_unscaled_shortest .upward⟩
  · have isNumber := isNumber_digits (magnitude.shortest .upward).coefficient
    refine ⟨isScientific.digitNext isNumber.isDigit, _,
      Binary64.readDecimal?_of_isScientific isScientific isNumber, ?_⟩
    rw [Decimal.leadingExponent_eq, Int.add_sub_cancel]
    exact magnitude.nearest?_shortest .upward

end Magnitude

/-! ## Scanning into text and back -/

namespace Binary64

theorem write_column_finite (negative : Bool) (magnitude : Magnitude) :
    Layout.column.write (.finite negative magnitude) =
      if negative then '-' :: Layout.column.magnitude magnitude
      else Layout.column.magnitude magnitude := by
  cases negative with
  | true => rfl
  | false => rfl

theorem read_write_column (number : Binary64) :
    Binary64.read (Layout.column.write number) = .ok number := by
  cases number with
  | nan => rfl
  | infinite negative =>
      cases negative with
      | true => rfl
      | false => rfl
  | finite negative magnitude =>
      rcases magnitude.exists_readDecimal?_column with ⟨starts, decimal, read, nearest⟩
      rw [write_column_finite, read_signed negative starts read, nearest]
      rfl

end Binary64

namespace Cell

variable (patterns : PatternList)

theorem exists_text_of_int64 (number : Int64) :
    ∃ text : String,
      (∀ cell : Cell .string, cell.scan patterns (.int number) = (.ok (), ofValue text)) ∧
      (∀ cell : Cell .int64, cell.scan patterns (.text text) = (.ok (), ofValue number)) := by
  have read :
      ColumnValue.integerOfText .text (String.ofList (Numeral.signed number.toInt)).toList =
        .ok (some number) := by
    rw [String.toList_ofList]
    exact ColumnValue.integerOfText_eq_ok_iff.mpr (isInteger_signed number.toInt)
  refine ⟨String.ofList (Numeral.signed number.toInt), scan_of_coerce rfl,
    scan_of_coerce ?_⟩
  rw [ScalarType.coerce, ColumnValue.toInt64, read]
  rfl

theorem exists_text_of_float64 (number : Binary64) :
    ∃ text : String,
      (∀ cell : Cell .string, cell.scan patterns (.float number) = (.ok (), ofValue text)) ∧
      (∀ cell : Cell .float64, cell.scan patterns (.text text) = (.ok (), ofValue number)) ∧
      (∀ negative magnitude, number = .finite negative magnitude →
        ∃ body, text.toList = (if negative then '-' :: body else body) ∧
          magnitude.HasColumnForm body) := by
  have read :
      ColumnValue.floatOfText .text (String.ofList (Layout.column.write number)).toList =
        .ok (some number) := by
    rw [String.toList_ofList, ColumnValue.floatOfText, number.read_write_column]
  refine ⟨String.ofList (Layout.column.write number), scan_of_coerce rfl,
    scan_of_coerce ?_, ?_⟩
  · rw [ScalarType.coerce, ColumnValue.toFloat64, read]
    rfl
  · rintro negative magnitude rfl
    exact ⟨_, by rw [String.toList_ofList, Binary64.write_column_finite],
      magnitude.hasColumnForm⟩

/-- A number that is scanned as text and then from this text is the same as before. The text of
one that is finite has plain digits in their range, and the fewest digits elsewhere. -/
theorem text_carries_numbers :
    (∀ number : Int64, ∃ text : String,
      (∀ cell : Cell .string, cell.scan patterns (.int number) = (.ok (), ofValue text)) ∧
      (∀ cell : Cell .int64, cell.scan patterns (.text text) = (.ok (), ofValue number))) ∧
    (∀ number : Binary64, ∃ text : String,
      (∀ cell : Cell .string, cell.scan patterns (.float number) = (.ok (), ofValue text)) ∧
      (∀ cell : Cell .float64, cell.scan patterns (.text text) = (.ok (), ofValue number)) ∧
      (∀ negative magnitude, number = .finite negative magnitude →
        ∃ body, text.toList = (if negative then '-' :: body else body) ∧
          magnitude.HasColumnForm body)) :=
  ⟨exists_text_of_int64 patterns, exists_text_of_float64 patterns⟩

end Cell

end ScalarCell
