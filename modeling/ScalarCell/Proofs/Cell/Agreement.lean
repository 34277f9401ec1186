import ScalarCell.Proofs.Cell.WholeNumber
import ScalarCell.Proofs.Numeric.FloatReader
import ScalarCell.Scalar

namespace ScalarCell

/-! Coercions of one value into different types do not contradict each other. -/

open Digits

/-! ## Integers among the numbers -/

theorem Magnitude.ofNat?_of_toNat? {magnitude : Magnitude} {number : Nat}
    (whole : magnitude.toNat? = some number) : ofNat? number = some magnitude := by
  rw [ofNat?, ← toNat?_eq_some_iff.mp whole]
  exact magnitude.nearest?_units

theorem Binary64.isNearestTo_of_toInt? {number : Binary64} {integer : Int}
    (isInteger : number.toInt? = some integer) : number.IsNearestTo integer := by
  cases number with
  | nan | infinite => cases isInteger
  | finite negative magnitude =>
      rw [toInt?] at isInteger
      cases whole : magnitude.toNat? with
      | none =>
          rw [whole] at isInteger
          cases isInteger
      | some number =>
          rw [whole] at isInteger
          cases isInteger
          exact isNearestTo_of_nearest (Magnitude.ofNat?_of_toNat? whole)

namespace ColumnValue

variable {integer : Int64} {truth : Bool}

/-! ## Texts -/

section Texts

variable {kind : ColumnKind} {text : List Char}

theorem integerOfText_eq_ok_iff :
    integerOfText kind text = .ok (some integer) ↔ IsInteger text integer.toInt := by
  have low := integer.le_toInt
  have high := integer.toInt_lt
  constructor
  · intro accepted
    rw [integerOfText] at accepted
    cases read : Numeral.readInt64 text with
    | error error =>
        rw [read] at accepted
        cases accepted
    | ok exact =>
        rw [read] at accepted
        rcases readInt64_eq_ok_iff.mp read with ⟨isInteger, above, below⟩
        cases accepted
        rwa [Int64.toInt_ofInt_of_le above below]
  · intro isInteger
    rw [integerOfText, readInt64_eq_ok_iff.mpr ⟨isInteger, low, high⟩]
    simp

theorem exists_floatOfText (isInteger : IsInteger text integer.toInt) :
    ∃ number, floatOfText kind text = .ok (some number) ∧
      number.IsNearestTo integer.toInt := by
  have low := integer.le_toInt
  have high := integer.toInt_lt
  rcases Binary64.read_of_isInteger isInteger (by omega) with ⟨number, read, nearest⟩
  exact ⟨number, by rw [floatOfText, read], nearest⟩

theorem readInt64_of_truthOfWord? (isTruth : truthOfWord? text = some truth) :
    Numeral.readInt64 text = .ok (if truth then 1 else 0) ∨
      Numeral.readInt64 text = .error .invalidDigit := by
  have trueWord : ∀ word ∈ trueWords.map String.toList,
      Numeral.readInt64 word = .ok 1 ∨ Numeral.readInt64 word = .error .invalidDigit := by
    decide
  have falseWord : ∀ word ∈ falseWords.map String.toList,
      Numeral.readInt64 word = .ok 0 ∨ Numeral.readInt64 word = .error .invalidDigit := by
    decide
  rw [truthOfWord?] at isTruth
  split at isTruth
  · rename_i isWord
    cases isTruth
    exact trueWord text isWord
  · split at isTruth
    · rename_i isWord
      cases isTruth
      exact falseWord text isWord
    · cases isTruth

theorem eq_of_truthOfText (isTruth : truthOfText kind text = .ok (some truth))
    (isInteger : integerOfText kind text = .ok (some integer)) :
    integer = if truth then 1 else 0 := by
  rw [truthOfText] at isTruth
  rw [integerOfText] at isInteger
  split at isTruth
  · rename_i word found
    cases isTruth
    rcases readInt64_of_truthOfWord? found with digit | noInteger
    · rw [digit] at isInteger
      cases isInteger
      cases truth with
      | true => rfl
      | false => rfl
    · rw [noInteger] at isInteger
      cases isInteger
  · cases isTruth

end Texts

/-! ## Values -/

theorem exists_toFloat64_of_toInt64 {value : ColumnValue}
    (accepted : value.toInt64 = .ok (some integer)) :
    ∃ number, value.toFloat64 = .ok (some number) ∧ number.IsNearestTo integer.toInt := by
  cases value with
  | null | bool | timestamp => cases accepted
  | int value =>
      cases accepted
      have low := integer.le_toInt
      have high := integer.toInt_lt
      exact ⟨_, rfl, Binary64.isNearestTo_ofInt (by omega)⟩
  | float number =>
      have isExactly := toInt64_float_eq_ok_iff.mp accepted
      exact ⟨number, rfl,
        Binary64.isNearestTo_of_toInt? (Binary64.toInt?_eq_some_iff.mpr isExactly)⟩
  | text content => exact exists_floatOfText (integerOfText_eq_ok_iff.mp accepted)
  | blob bytes =>
      rw [toInt64, blobText] at accepted
      rw [toFloat64, blobText]
      cases decoded : Utf8.decode bytes with
      | error error =>
          rw [decoded] at accepted
          cases accepted
      | ok characters =>
          rw [decoded] at accepted
          exact exists_floatOfText (integerOfText_eq_ok_iff.mp accepted)

theorem eq_of_toBool_of_toInt64 {value : ColumnValue}
    (isTruth : value.toBool = .ok (some truth))
    (isInteger : value.toInt64 = .ok (some integer)) :
    integer = if truth then 1 else 0 := by
  cases value with
  | null | bool | timestamp => cases isInteger
  | float => cases isTruth
  | int value =>
      cases isInteger
      rw [toBool] at isTruth
      split at isTruth
      · cases isTruth
        assumption
      · split at isTruth
        · cases isTruth
          assumption
        · cases isTruth
  | text content => exact eq_of_truthOfText isTruth isInteger
  | blob bytes =>
      rw [toBool, blobText] at isTruth
      rw [toInt64, blobText] at isInteger
      cases decoded : Utf8.decode bytes with
      | error error =>
          rw [decoded] at isTruth
          cases isTruth
      | ok characters =>
          rw [decoded] at isTruth isInteger
          exact eq_of_truthOfText isTruth isInteger

/-- A value that is taken for an integer is taken for a number, too, the one nearest to that;
and where it is a truth value besides, the integer is one for what is true and zero for what
is false. -/
theorem coercions_agree (value : ColumnValue) :
    (∀ integer, value.toInt64 = .ok (some integer) →
      ∃ number, value.toFloat64 = .ok (some number) ∧
        number.IsNearestTo integer.toInt) ∧
    (∀ truth integer, value.toBool = .ok (some truth) →
      value.toInt64 = .ok (some integer) → integer = if truth then 1 else 0) :=
  ⟨fun _ => exists_toFloat64_of_toInt64, fun _ _ => eq_of_toBool_of_toInt64⟩

/-- A sign and zeros before the digits make no difference, and an integer of 54 bits is
rounded. -/
theorem coercions_agree_padded :
    (∃ number, (text "+0009007199254740993").toFloat64 = .ok (some number) ∧
        number.IsNearestTo 9007199254740993) ∧
      (text "1").toBool = .ok (some true) ∧ (text "1").toInt64 = .ok (some 1) ∧
      (1 : Int64) = if true then 1 else 0 :=
  ⟨(coercions_agree (.text "+0009007199254740993")).1 9007199254740993 rfl, rfl, rfl,
    (coercions_agree (.text "1")).2 true 1 rfl rfl⟩

end ColumnValue

end ScalarCell
