import ScalarCell.Numeric.Binary64.Reader
import ScalarCell.Proofs.Numeric.DecimalText
import ScalarCell.Proofs.Numeric.Nearest
import ScalarCell.Proofs.Text.Integer

namespace ScalarCell

/-! What the reader of numbers makes of decimal text in both notations, and of integers. -/

open Digits

def DigitNext (text : List Char) : Prop :=
  ∃ character ∈ text.head?, character.isDigit = true

theorem digitNext_append {digits : List Char} (nonempty : digits ≠ [])
    (isDigit : ∀ character ∈ digits, character.isDigit = true) (rest : List Char) :
    DigitNext (digits ++ rest) := by
  rcases List.exists_cons_of_ne_nil nonempty with ⟨first, others, rfl⟩
  exact ⟨first, rfl, isDigit first List.mem_cons_self⟩

namespace Decimal

theorem IsPositional.digitNext {text : List Char} {decimal : Decimal}
    (isPositional : decimal.IsPositional text) : DigitNext text := by
  cases isPositional with
  | whole nonempty isNumber =>
      have starts := digitNext_append nonempty isNumber.isDigit []
      rwa [List.append_nil] at starts
  | point nonempty _ isNumber =>
      exact digitNext_append nonempty
        (fun character member => isNumber.isDigit character (List.mem_append_left _ member)) _

theorem IsScientific.digitNext {digits text : List Char} {exponent : Int}
    (isScientific : IsScientific digits exponent text)
    (isDigit : ∀ character ∈ digits, character.isDigit = true) : DigitNext text := by
  rcases isScientific with ⟨negative, isMantissa, wide, exponentNumber⟩
  cases isMantissa with
  | single digit => exact ⟨digit, rfl, isDigit digit List.mem_cons_self⟩
  | point first => exact ⟨first, rfl, isDigit first List.mem_cons_self⟩

end Decimal

namespace Binary64

/-! ## Digits and exponents -/

theorem digitsValue_eq {digits : List Char}
    (isDigit : ∀ character ∈ digits, character.isDigit = true) (total : Nat) :
    digitsValue total digits = Nat.ofDigitChars 10 digits total := by
  induction digits generalizing total with
  | nil => rfl
  | cons first others induction =>
      rcases List.forall_mem_cons.mp isDigit with ⟨firstDigit, othersDigit⟩
      rw [digitsValue, digit?_eq_some firstDigit, Option.getD_some, induction othersDigit,
        ofDigitChars_cons_digitValue]

theorem unsigned?_eq {digits : List Char} {number : Nat} (nonempty : digits ≠ [])
    (isNumber : IsNumber digits.length digits number) :
    readExponent?.unsigned? digits = some number := by
  have accepted : (digits.isEmpty || !digits.all Char.isDigit) = false := by
    simpa [nonempty] using isNumber.isDigit
  rw [readExponent?.unsigned?, accepted, if_neg Bool.false_ne_true,
    digitsValue_eq isNumber.isDigit, isNumber.value_eq]

theorem readExponent?_eq {digits : List Char} {number : Nat} (negative : Bool)
    (nonempty : digits ≠ []) (isNumber : IsNumber digits.length digits number) :
    readExponent? ('e' :: (if negative then '-' else '+') :: digits) =
      some (if negative then -(number : Int) else number) := by
  cases negative with
  | true => simp [readExponent?, unsigned?_eq nonempty isNumber]
  | false => simp [readExponent?, unsigned?_eq nonempty isNumber]

/-! ## Decimal numbers -/

variable {whole fraction rest : List Char} {number : Nat}

theorem readDecimal?_whole (nonempty : whole ≠ [])
    (isNumber : IsNumber whole.length whole number) (noDigit : NoDigitNext rest)
    (noPoint : rest.head? ≠ some '.') :
    readDecimal? (whole ++ rest) =
      (readExponent? rest).map fun exponent => ⟨number, exponent⟩ := by
  rw [readDecimal?, takeWhile_isDigit_append isNumber.isDigit noDigit,
    dropWhile_isDigit_append isNumber.isDigit noDigit]
  split
  rename_i fraction afterFraction parts
  split at parts
  · cases noPoint rfl
  · cases parts
    simp [nonempty, digitsValue_eq isNumber.isDigit, isNumber.value_eq, digitsValue]

theorem readDecimal?_point (nonempty : whole ≠ [])
    (isNumber : IsNumber (whole ++ fraction).length (whole ++ fraction) number)
    (noDigit : NoDigitNext rest) :
    readDecimal? (whole ++ '.' :: (fraction ++ rest)) =
      (readExponent? rest).map fun exponent => ⟨number, exponent - fraction.length⟩ := by
  rcases List.forall_mem_append.mp isNumber.isDigit with ⟨wholeDigits, fractionDigits⟩
  have atPoint : NoDigitNext ('.' :: (fraction ++ rest)) := by
    rintro _ ⟨⟩
    rfl
  have value_eq := isNumber.value_eq
  rw [Nat.ofDigitChars_append] at value_eq
  rw [readDecimal?, takeWhile_isDigit_append wholeDigits atPoint,
    dropWhile_isDigit_append wholeDigits atPoint]
  simp [takeWhile_isDigit_append fractionDigits noDigit,
    dropWhile_isDigit_append fractionDigits noDigit, nonempty, digitsValue_eq wholeDigits,
    digitsValue_eq fractionDigits, value_eq]

theorem readDecimal?_of_isPositional {text : List Char} {decimal : Decimal}
    (isPositional : decimal.IsPositional text) :
    readDecimal? text = some decimal := by
  have atEnd : NoDigitNext [] := by simp [NoDigitNext]
  cases isPositional with
  | whole nonempty isNumber =>
      have read := readDecimal?_whole nonempty isNumber atEnd (by simp)
      rwa [List.append_nil] at read
  | @point _ fraction number nonempty _ isNumber =>
      have read := readDecimal?_point nonempty isNumber atEnd
      rw [List.append_nil] at read
      rw [read, readExponent?, Option.map_some, Int.zero_sub]

theorem readDecimal?_of_isScientific {digits text : List Char} {exponent : Int}
    (isScientific : Decimal.IsScientific digits exponent text)
    (isNumber : IsNumber digits.length digits number) :
    readDecimal? text = some ⟨number, exponent + 1 - digits.length⟩ := by
  rcases isScientific with ⟨negative, isMantissa, wide, exponentNumber⟩
  have exponent_eq := readExponent?_eq negative
    (List.ne_nil_of_length_pos (Nat.lt_of_lt_of_le Nat.two_pos wide)) exponentNumber
  generalize (if negative then '-' else '+') :: _ = exponentText at exponent_eq ⊢
  have atMark : NoDigitNext ('e' :: exponentText) := by
    rintro _ ⟨⟩
    rfl
  cases isMantissa with
  | single digit =>
      rw [readDecimal?_whole (List.cons_ne_nil _ _) isNumber atMark (by simp), exponent_eq]
      simp
  | @point first others nonempty =>
      have read := readDecimal?_point (List.cons_ne_nil first []) isNumber atMark
      rw [exponent_eq] at read
      have places (exponent : Int) :
          exponent - others.length = exponent + 1 - (first :: others).length := by
        rw [List.length_cons]
        omega
      rw [List.cons_append, List.cons_append, ← List.singleton_append, read, Option.map_some,
        places]

/-! ## Whole texts -/

theorem toLower_of_isDigit {character : Char} (isDigit : character.isDigit = true) :
    character.toLower = character := by
  rw [isDigit_iff] at isDigit
  have notUpper : ¬ (character.val ≥ 'A'.val ∧ character.val ≤ 'Z'.val) := by
    rw [ge_iff_le, UInt32.le_iff_toNat_le]
    change ¬ (65 ≤ character.toNat ∧ _)
    omega
  exact dif_neg notUpper

theorem readUnsigned?_of_digitNext {text : List Char} (negative : Bool)
    (starts : DigitNext text) :
    readUnsigned? negative text =
      (readDecimal? text).map fun decimal => ofMagnitude? negative decimal.nearest? := by
  cases text with
  | nil => simp [DigitNext] at starts
  | cons first others =>
      obtain ⟨_, ⟨⟩, isDigit⟩ := starts
      have noName {initial : Char} (name : List Char) (notDigit : initial.isDigit = false) :
          (first :: others).map Char.toLower ≠ initial :: name := by
        rw [List.map_cons, toLower_of_isDigit isDigit]
        intro same
        exact ne_of_isDigit isDigit notDigit (List.cons.inj same).1
      rw [readUnsigned?]
      simp only [show "nan".toList = ['n', 'a', 'n'] from rfl,
        show "inf".toList = ['i', 'n', 'f'] from rfl,
        show "infinity".toList = ['i', 'n', 'f', 'i', 'n', 'i', 't', 'y'] from rfl,
        noName _ (show 'n'.isDigit = false from rfl),
        noName _ (show 'i'.isDigit = false from rfl), or_self, if_false]

/-- A text that begins with a digit, after a sign or none, is read as the decimal number it
stands for, which is rounded once. -/
theorem read_signed {text : List Char} {decimal : Decimal} (negative : Bool)
    (starts : DigitNext text) (read : readDecimal? text = some decimal) :
    Binary64.read (if negative then '-' :: text else text) =
      .ok (ofMagnitude? negative decimal.nearest?) := by
  have unsigned := readUnsigned?_of_digitNext negative starts
  rw [read, Option.map_some] at unsigned
  cases negative with
  | true => simp [Binary64.read, unsigned]
  | false =>
      cases text with
      | nil => simp [DigitNext] at starts
      | cons first others =>
          obtain ⟨_, ⟨⟩, isDigit⟩ := starts
          have other (other : Char) (notDigit : other.isDigit = false) :=
            ne_of_isDigit isDigit notDigit
          simp [Binary64.read, unsigned, other]

theorem read_plus {text : List Char} {decimal : Decimal} (starts : DigitNext text)
    (read : readDecimal? text = some decimal) :
    Binary64.read ('+' :: text) = .ok (ofMagnitude? false decimal.nearest?) := by
  have unsigned := readUnsigned?_of_digitNext false starts
  rw [read, Option.map_some] at unsigned
  simp [Binary64.read, unsigned]

/-! ## Integers -/

theorem nearest?_natural (number : Nat) :
    Decimal.nearest? ⟨number, 0⟩ = Magnitude.ofNat? number := by
  rw [Decimal.nearest?, Magnitude.ofNat?]
  by_cases zero : number = 0
  · simp [zero, Magnitude.nearest?_zero]
  · simp [zero]

theorem read_of_isInteger {text : List Char} {integer : Int}
    (isInteger : IsInteger text integer) (fits : integer.natAbs ≤ 2 ^ 64) :
    ∃ number, Binary64.read text = .ok number ∧ number.IsNearestTo integer := by
  cases isInteger with
  | unsigned nonempty isNumber =>
      have digits := Decimal.IsPositional.whole nonempty isNumber
      refine ⟨_, read_signed false digits.digitNext (readDecimal?_of_isPositional digits), ?_⟩
      rw [nearest?_natural]
      exact isNearestTo_ofMagnitude? false (by omega)
  | plus nonempty isNumber =>
      have digits := Decimal.IsPositional.whole nonempty isNumber
      refine ⟨_, read_plus digits.digitNext (readDecimal?_of_isPositional digits), ?_⟩
      rw [nearest?_natural]
      exact isNearestTo_ofMagnitude? false (by omega)
  | minus nonempty isNumber =>
      have digits := Decimal.IsPositional.whole nonempty isNumber
      refine ⟨_, read_signed true digits.digitNext (readDecimal?_of_isPositional digits), ?_⟩
      rw [nearest?_natural]
      exact isNearestTo_ofMagnitude? true (by omega)

end Binary64

end ScalarCell
