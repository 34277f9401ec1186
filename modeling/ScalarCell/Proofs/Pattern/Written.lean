import ScalarCell.Pattern.Render
import ScalarCell.Proofs.Pattern.CommonForms
import ScalarCell.Proofs.Text.Numeral

namespace ScalarCell.Pattern

/-! Numbers, fractions and signs as components write them have the forms in which they
are read. -/

open Digits

theorem fractionText_of_append_zeros {kept : List Char} {count nanosecond : Nat}
    (nonempty : kept ≠ [])
    (isNumber : IsNumber 9 (kept ++ List.replicate count '0') nanosecond) :
    FractionText ('.' :: kept) nanosecond := by
  have isDigit : ∀ character ∈ kept, character.isDigit = true := fun character member =>
    isNumber.isDigit character (List.mem_append_left _ member)
  have filled : (kept ++ List.replicate 9 '0').take 9 =
      kept ++ List.replicate count '0' := by
    have nine : kept.length + count = 9 := by
      simpa using isNumber.length_eq
    have zeros : List.replicate 9 '0' =
        List.replicate count '0' ++ List.replicate (9 - count) '0' := by
      rw [List.replicate_append_replicate]
      congr 1
      omega
    rw [zeros, ← List.append_assoc]
    exact List.take_left' isNumber.length_eq
  have form := FractionText.digits nonempty isDigit
  rw [filled, isNumber.value_eq] at form
  exact form

theorem fractionText_write {nanosecond : Nat} (fits : nanosecond < 10 ^ 9) :
    FractionText ('.' :: FractionDigits.oneOrMore.write nanosecond) nanosecond := by
  have isNumber := isNumber_padded (by decide) fits
  rcases List.exists_cons_of_length_eq_add_one isNumber.length_eq with
    ⟨first, rest, all_eq⟩
  have written : FractionDigits.oneOrMore.write nanosecond =
      first :: (rest.reverse.dropWhile (· == '0')).reverse := by
    simp only [FractionDigits.write, all_eq]
  rcases exists_append_replicate_zero rest with ⟨count, rest_eq⟩
  generalize (rest.reverse.dropWhile (· == '0')).reverse = kept at written rest_eq
  rw [all_eq, rest_eq, ← List.cons_append] at isNumber
  rw [written]
  exact fractionText_of_append_zeros (List.cons_ne_nil first kept) isNumber

theorem signText_automatic (negative : Bool) :
    SignText (SignRule.automatic.write negative)
    (if negative then some true else none) := by
  cases negative with
  | false => exact .absent
  | true => exact .minus

theorem signText_mandatory (negative : Bool) :
    SignText (SignRule.mandatory.write negative) (some negative) := by
  cases negative with
  | false => exact .plus
  | true => exact .minus

end ScalarCell.Pattern
