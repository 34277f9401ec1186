import ScalarCell.Proofs.Json.Number
import ScalarCell.Proofs.Numeric.DecimalText

namespace ScalarCell

/-! The texts of decimal numbers, read as numbers of JSON. -/

open Digits

namespace Decimal

/-- What positional text stands for: a whole number is written with a zero after the point,
which counts as one more digit. -/
def withPoint (decimal : Decimal) : Decimal :=
  match decimal.exponent with
  | .ofNat exponent => ⟨decimal.coefficient * 10 ^ (exponent + 1), -1⟩
  | .negSucc _ => decimal

end Decimal

namespace Json

/-! ## Positional text -/

variable (negative : Bool)

theorem readNumber_fraction {whole fraction : List Char} (canonical : Canonical whole)
    (isDigit : ∀ character ∈ whole ++ fraction, character.isDigit = true)
    (nonempty : fraction ≠ [])
    (fits : Nat.ofDigitChars 10 (whole ++ fraction) 0 < 2 ^ 64) :
    readNumber negative (whole ++ '.' :: fraction) =
      scaledNumber negative (Nat.ofDigitChars 10 (whole ++ fraction) 0)
        (0 - fraction.length) := by
  have atEnd : NoDigitNext [] := by simp [NoDigitNext]
  have read := readNumber_point negative canonical isDigit nonempty atEnd fits
  rw [List.append_nil, readOptionalExponent_nil] at read
  exact read

theorem readNumber_whole {number exponent : Nat} (zero : number = 0 → exponent = 0)
    (fits : number * 10 ^ (exponent + 1) < 2 ^ 64) :
    readNumber negative
        (Numeral.digits number ++ List.replicate exponent '0' ++ ['.', '0']) =
      scaledNumber negative (number * 10 ^ (exponent + 1)) (-1) := by
  have isNumber := Decimal.isNumber_zeros number (exponent + 1)
  rw [List.replicate_succ', ← List.append_assoc] at isNumber
  have canonical : Canonical (Numeral.digits number ++ List.replicate exponent '0') := by
    rcases canonical_digits number with digits | ⟨first, others, digits, notZero⟩
    · have number_eq := ofDigitChars_digits number
      rw [digits] at number_eq
      rw [digits, zero number_eq.symm]
      exact .inl rfl
    · exact .inr ⟨first, others ++ List.replicate exponent '0',
        by rw [digits]; rfl, notZero⟩
  rw [readNumber_fraction negative canonical isNumber.isDigit (by decide)
    (by rw [isNumber.value_eq]; exact fits), isNumber.value_eq]
  rfl

theorem readNumber_positional {decimal : Decimal}
    (zero : decimal.coefficient = 0 → decimal.exponent = 0)
    (fits : decimal.withPoint.coefficient < 2 ^ 64) :
    readNumber negative (decimal.positional true) =
      scaledNumber negative decimal.withPoint.coefficient decimal.withPoint.exponent := by
  rcases decimal with ⟨coefficient, exponent⟩
  cases exponent with
  | ofNat exponent =>
      exact readNumber_whole negative
        (fun coefficient_zero => Int.ofNat.inj (zero coefficient_zero)) fits
  | negSucc exponent =>
      rcases Decimal.positional_negSucc coefficient exponent true with
        ⟨whole, fraction, text_eq, whole_eq, length_eq, isNumber⟩
      have canonical : Canonical whole := by
        rcases whole_eq with rfl | ⟨nonempty, isPrefix⟩
        · exact canonical_singleton '0'
        · exact (canonical_digits coefficient).of_front nonempty isPrefix
      have nonempty : fraction ≠ [] := by
        apply List.ne_nil_of_length_pos
        omega
      have exponent_eq : Int.negSucc exponent = 0 - (fraction.length : Int) := by omega
      rw [text_eq, readNumber_fraction negative canonical isNumber.isDigit nonempty
        (by rw [isNumber.value_eq]; exact fits), isNumber.value_eq, ← exponent_eq]
      rfl

/-! ## Scientific text -/

theorem padded_one (number : Nat) :
    Numeral.padded '0' 1 number = Numeral.digits number := by
  have digits_pos : 0 < (Numeral.digits number).length := Nat.length_toDigits_pos
  rw [Numeral.padded, Nat.sub_eq_zero_of_le digits_pos, List.replicate_zero,
    List.nil_append]

theorem signedExponent_natAbs (exponent : Int) :
    signedExponent (decide (exponent < 0)) exponent.natAbs = exponent := by
  rw [signedExponent]
  split
  · rename_i negative
    have negative := of_decide_eq_true negative
    omega
  · rename_i notNegative
    have notNegative := of_decide_eq_false (Bool.not_eq_true _ ▸ notNegative)
    omega

theorem readOptionalExponent_digits (significand : Nat) (start : Int) {exponent : Int}
    (inRange : exponent.natAbs < exponentLimit) :
    readOptionalExponent significand start
        ('e' :: (if exponent < 0 then '-' else '+') :: Numeral.padded '0' 1
          exponent.natAbs) =
      scaled significand (start + exponent) [] := by
  have isNumber := isNumber_digits exponent.natAbs
  have nonempty : Numeral.digits exponent.natAbs ≠ [] := Nat.toDigits_ne_nil
  have sign_eq : (if exponent < 0 then '-' else '+') =
      if decide (exponent < 0) = true then '-' else '+' := by
    simp only [decide_eq_true_eq]
  rw [padded_one, sign_eq, readOptionalExponent_eq nonempty isNumber.isDigit
    (by rw [isNumber.value_eq]; exact inRange), isNumber.value_eq, signedExponent_natAbs]

theorem readNumber_scientific {decimal : Decimal} (fits : decimal.coefficient < 2 ^ 64)
    (inRange : decimal.leadingExponent.natAbs < exponentLimit) :
    readNumber negative (decimal.scientific 1) =
      scaledNumber negative decimal.coefficient decimal.exponent := by
  have isDigit := (isNumber_digits decimal.coefficient).isDigit
  have value_eq := ofDigitChars_digits decimal.coefficient
  have leading_eq := decimal.leadingExponent_eq
  have exponentRead (start : Int) :=
    readOptionalExponent_digits decimal.coefficient start inRange
  rcases decimal.exists_mantissa 1 with ⟨mantissa, isMantissa, text_eq⟩
  rw [text_eq]
  generalize ((if decimal.leadingExponent < 0 then '-' else '+') ::
    Numeral.padded '0' 1 decimal.leadingExponent.natAbs) = exponentText at exponentRead ⊢
  generalize Numeral.digits decimal.coefficient = digits
    at isDigit value_eq leading_eq isMantissa
  cases isMantissa with
  | single digit =>
      rw [List.length_singleton] at leading_eq
      have exponent_eq : 0 + decimal.leadingExponent = decimal.exponent := by omega
      rw [readNumber_exponent negative (canonical_singleton digit) isDigit
        (by rw [value_eq]; exact fits), value_eq, exponentRead, exponent_eq,
        scaledNumber]
  | @point first others nonempty =>
      have atExponent : NoDigitNext ('e' :: exponentText) := by
        intro _ first
        cases first
        rfl
      have all_eq : Nat.ofDigitChars 10 ([first] ++ others) 0 =
          decimal.coefficient := value_eq
      have read := readNumber_point negative (canonical_singleton first) isDigit
        nonempty atExponent (by rw [all_eq]; exact fits)
      rw [List.length_cons] at leading_eq
      have exponent_eq :
          0 - (others.length : Int) + decimal.leadingExponent = decimal.exponent := by omega
      rw [all_eq, exponentRead, exponent_eq] at read
      exact read

end Json

end ScalarCell
