import ScalarCell.Numeric.Binary64.Layout
import ScalarCell.Proofs.Text.Numeral

namespace ScalarCell.Decimal

/-! The two notations of decimal numbers: what they look like, what they stand for, and that
they are what is written. -/

open Digits

/-! ## Positional notation -/

inductive IsPositional : List Char → Decimal → Prop
  | whole {digits : List Char} {number : Nat} (nonempty : digits ≠ [])
      (isNumber : IsNumber digits.length digits number) :
      IsPositional digits ⟨number, 0⟩
  | point {whole fraction : List Char} {number : Nat} (wholeNonempty : whole ≠ [])
      (fractionNonempty : fraction ≠ [])
      (isNumber : IsNumber (whole ++ fraction).length (whole ++ fraction) number) :
      IsPositional (whole ++ '.' :: fraction) ⟨number, -(fraction.length : Int)⟩

theorem isNumber_zeros (coefficient exponent : Nat) :
    IsNumber ((Numeral.digits coefficient).length + exponent)
      (Numeral.digits coefficient ++ List.replicate exponent '0')
      (coefficient * 10 ^ exponent) := by
  have isNumber := isNumber_digits coefficient
  refine ⟨by simp, ?_, ?_⟩
  · intro character member
    rcases List.mem_append.mp member with digit | zero
    · exact isNumber.isDigit character digit
    · rw [List.eq_of_mem_replicate zero]
      decide
  · rw [Nat.ofDigitChars_append, isNumber.value_eq, Nat.ofDigitChars_replicate_zero,
      Nat.mul_comm]

theorem positional_negSucc (coefficient exponent : Nat) (pointZero : Bool) :
    ∃ whole fraction,
      positional ⟨coefficient, .negSucc exponent⟩ pointZero = whole ++ '.' :: fraction ∧
      (whole = ['0'] ∨ whole ≠ [] ∧ whole <+: Numeral.digits coefficient) ∧
      fraction.length = exponent + 1 ∧
      IsNumber (whole ++ fraction).length (whole ++ fraction) coefficient := by
  have isNumber := isNumber_digits coefficient
  have nonempty : Numeral.digits coefficient ≠ [] := Nat.toDigits_ne_nil
  simp only [positional]
  generalize Numeral.digits coefficient = digits at isNumber nonempty ⊢
  split
  · rename_i proper
    refine ⟨digits.take (digits.length - (exponent + 1)),
      digits.drop (digits.length - (exponent + 1)), rfl,
      .inr ⟨?_, List.take_prefix _ _⟩, ?_, ?_⟩
    · apply List.ne_nil_of_length_pos
      rw [List.length_take]
      omega
    · rw [List.length_drop]
      omega
    · rw [List.take_append_drop]
      exact isNumber
  · rename_i enough
    refine ⟨['0'], List.replicate (exponent + 1 - digits.length) '0' ++ digits, rfl, .inl rfl,
      ?_, rfl, ?_, ?_⟩
    · rw [List.length_append, List.length_replicate]
      omega
    · intro character member
      rw [← List.append_assoc, List.singleton_append, ← List.replicate_succ] at member
      rcases List.mem_append.mp member with zero | digit
      · rw [List.eq_of_mem_replicate zero]
        decide
      · exact isNumber.isDigit character digit
    · rw [← List.append_assoc, List.singleton_append, ← List.replicate_succ,
        Nat.ofDigitChars_append, Nat.ofDigitChars_replicate_zero, Nat.mul_zero,
        isNumber.value_eq]

/-- What positional text without a point of its own stands for: zeros at the end are digits
of the coefficient. -/
def unscaled (decimal : Decimal) : Decimal :=
  match decimal.exponent with
  | .ofNat exponent => ⟨decimal.coefficient * 10 ^ exponent, 0⟩
  | .negSucc _ => decimal

theorem isPositional_positional (decimal : Decimal) :
    IsPositional (decimal.positional false) decimal.unscaled := by
  rcases decimal with ⟨coefficient, exponent⟩
  cases exponent with
  | ofNat exponent =>
      have isNumber := isNumber_zeros coefficient exponent
      rw [← isNumber.length_eq] at isNumber
      simp only [positional, unscaled, Bool.false_eq_true, if_false, List.append_nil]
      exact .whole (List.append_ne_nil_of_left_ne_nil Nat.toDigits_ne_nil _) isNumber
  | negSucc exponent =>
      rcases positional_negSucc coefficient exponent false with
        ⟨whole, fraction, text_eq, whole_eq, length_eq, isNumber⟩
      have wholeNonempty : whole ≠ [] := by
        rcases whole_eq with rfl | ⟨nonempty, -⟩
        · exact List.cons_ne_nil _ _
        · exact nonempty
      have fractionNonempty : fraction ≠ [] := by
        apply List.ne_nil_of_length_pos
        omega
      have exponent_eq : Int.negSucc exponent = -(fraction.length : Int) := by omega
      rw [text_eq]
      change IsPositional _ ⟨coefficient, .negSucc exponent⟩
      rw [exponent_eq]
      exact .point wholeNonempty fractionNonempty isNumber

/-! ## Scientific notation -/

inductive IsMantissa : (digits : List Char) → List Char → Prop
  | single (digit : Char) : IsMantissa [digit] [digit]
  | point (first : Char) {others : List Char} (nonempty : others ≠ []) :
      IsMantissa (first :: others) (first :: '.' :: others)

inductive IsScientific (digits : List Char) : (exponent : Int) → List Char → Prop
  | intro {mantissa exponentDigits : List Char} {number : Nat} (negative : Bool)
      (isMantissa : IsMantissa digits mantissa) (wide : 2 ≤ exponentDigits.length)
      (isNumber : IsNumber exponentDigits.length exponentDigits number) :
      IsScientific digits (if negative then -(number : Int) else number)
        (mantissa ++ 'e' :: (if negative then '-' else '+') :: exponentDigits)

theorem leadingExponent_eq (decimal : Decimal) :
    decimal.leadingExponent + 1 =
      decimal.exponent + (Numeral.digits decimal.coefficient).length := by
  have length_pos : 0 < (Numeral.digits decimal.coefficient).length :=
    Nat.length_toDigits_pos
  rw [leadingExponent]
  omega

theorem exists_mantissa (decimal : Decimal) (width : Nat) :
    ∃ mantissa, IsMantissa (Numeral.digits decimal.coefficient) mantissa ∧
      decimal.scientific width =
        mantissa ++ 'e' :: (if decimal.leadingExponent < 0 then '-' else '+') ::
          Numeral.padded '0' width decimal.leadingExponent.natAbs := by
  rw [scientific]
  cases digits : Numeral.digits decimal.coefficient with
  | nil => exact absurd digits Nat.toDigits_ne_nil
  | cons first others =>
      cases others with
      | nil => exact ⟨_, .single first, rfl⟩
      | cons second others => exact ⟨_, .point first (List.cons_ne_nil second others), rfl⟩

theorem isScientific_scientific (decimal : Decimal) {width : Nat} (wide : 2 ≤ width) :
    IsScientific (Numeral.digits decimal.coefficient) decimal.leadingExponent
      (decimal.scientific width) := by
  rcases decimal.exists_mantissa width with ⟨mantissa, isMantissa, text_eq⟩
  have exponentNumber := isNumber_zero_padded width decimal.leadingExponent.natAbs
  have long := le_length_padded '0' width decimal.leadingExponent.natAbs
  have written := IsScientific.intro (decide (decimal.leadingExponent < 0)) isMantissa
    (Nat.le_trans wide long) exponentNumber
  have signed : (if decimal.leadingExponent < 0
      then -(decimal.leadingExponent.natAbs : Int) else decimal.leadingExponent.natAbs) =
        decimal.leadingExponent := by
    split <;> omega
  simp only [decide_eq_true_eq, signed] at written
  rw [text_eq]
  exact written

end ScalarCell.Decimal
