import ScalarCell.Numeric.Numeral
import ScalarCell.Proofs.Text.Digits

namespace ScalarCell.Digits

/-! Whole numbers as they are written, and the number that digits stand for. -/

theorem digit?_eq_some {character : Char} (isDigit : character.isDigit = true) :
    Numeral.digit? character = some (digitValue character) := if_pos isDigit

theorem digit?_eq_none {character : Char} (notDigit : character.isDigit = false) :
    Numeral.digit? character = none := by
  rw [Numeral.digit?, if_neg (by simp [notDigit])]

theorem le_ofDigitChars (digits : List Char) (total : Nat) :
    total ≤ Nat.ofDigitChars 10 digits total := by
  rw [Nat.ofDigitChars_eq_ofDigitChars_zero]
  exact Nat.le_trans (Nat.le_mul_of_pos_left total (Nat.pow_pos (by decide)))
    (Nat.le_add_right _ _)

theorem ofDigitChars_cons_digitValue (first : Char) (rest : List Char) (total : Nat) :
    Nat.ofDigitChars 10 (first :: rest) total =
      Nat.ofDigitChars 10 rest (total * 10 + digitValue first) := by
  rw [Nat.ofDigitChars_cons, digitValue, Nat.mul_comm]

theorem digitValue_lt {character : Char} (isDigit : character.isDigit = true) :
    digitValue character < 10 := by
  rw [isDigit_iff] at isDigit
  rw [digitValue, show '0'.toNat = 48 from rfl]
  omega

theorem digitChar_digitValue {character : Char} (isDigit : character.isDigit = true) :
    Nat.digitChar (digitValue character) = character := by
  have value_lt := digitValue_lt isDigit
  rw [isDigit_iff] at isDigit
  apply Char.toNat_inj.mp
  rw [Nat.toNat_digitChar_of_lt_ten value_lt, digitValue, show '0'.toNat = 48 from rfl]
  omega

theorem ofDigitChars_lt {digits : List Char}
    (isDigit : ∀ character ∈ digits, character.isDigit = true) :
    Nat.ofDigitChars 10 digits 0 < 10 ^ digits.length := by
  induction digits with
  | nil => decide
  | cons first digits induction =>
      rcases List.forall_mem_cons.mp isDigit with ⟨firstDigit, othersDigit⟩
      have rest_lt := induction othersDigit
      have first_le : 10 ^ digits.length * digitValue first ≤ 10 ^ digits.length * 9 :=
        Nat.mul_le_mul_left _ (Nat.le_of_lt_succ (digitValue_lt firstDigit))
      rw [ofDigitChars_cons_digitValue, Nat.zero_mul, Nat.zero_add,
        Nat.ofDigitChars_eq_ofDigitChars_zero, List.length_cons, Nat.pow_succ]
      omega

theorem isNumber_digits (number : Nat) :
    IsNumber (Numeral.digits number).length (Numeral.digits number) number :=
  ⟨rfl, fun _ member => Nat.isDigit_of_mem_toDigits (by decide) (by decide) member,
    Nat.ofDigitChars_ten_toDigits⟩

theorem ofDigitChars_digits (number : Nat) :
    Nat.ofDigitChars 10 (Numeral.digits number) 0 = number :=
  (isNumber_digits number).value_eq

theorem lt_pow_length_digits (number : Nat) :
    number < 10 ^ (Numeral.digits number).length := by
  have value_lt := ofDigitChars_lt (isNumber_digits number).isDigit
  rwa [ofDigitChars_digits] at value_lt

theorem digits_append {total : Nat} {digits : List Char} (positive : 0 < total)
    (isDigit : ∀ character ∈ digits, character.isDigit = true) :
    Numeral.digits total ++ digits = Numeral.digits (Nat.ofDigitChars 10 digits total) := by
  induction digits generalizing total with
  | nil => rw [List.append_nil, Nat.ofDigitChars_nil]
  | cons first digits induction =>
      rcases List.forall_mem_cons.mp isDigit with ⟨firstDigit, othersDigit⟩
      have oneMore : Numeral.digits total ++ [first] =
          Numeral.digits (total * 10 + digitValue first) := by
        have appended :=
          Nat.toDigits_append_toDigits (by decide) positive (digitValue_lt firstDigit)
        rw [Nat.toDigits_of_lt_base (digitValue_lt firstDigit),
          digitChar_digitValue firstDigit, Nat.mul_comm] at appended
        exact appended
      rw [ofDigitChars_cons_digitValue, ← induction (by omega) othersDigit, ← oneMore,
        List.append_assoc, List.singleton_append]

theorem isNumber_zero_padded (width number : Nat) :
    IsNumber (Numeral.padded '0' width number).length (Numeral.padded '0' width number)
      number := by
  have isNumber := isNumber_digits number
  refine ⟨rfl, ?_, ?_⟩
  · intro character member
    rcases List.mem_append.mp member with zero | digit
    · rw [List.eq_of_mem_replicate zero]
      decide
    · exact isNumber.isDigit character digit
  · rw [Numeral.padded, Nat.ofDigitChars_append, Nat.ofDigitChars_replicate_zero,
      Nat.mul_zero]
    exact isNumber.value_eq

theorem le_length_padded (fill : Char) (width number : Nat) :
    width ≤ (Numeral.padded fill width number).length := by
  rw [Numeral.padded, List.length_append, List.length_replicate]
  omega

theorem isNumber_padded {width number : Nat} (positive : 0 < width)
    (fits : number < 10 ^ width) :
    IsNumber width (Numeral.padded '0' width number) number := by
  have short : (Numeral.digits number).length ≤ width :=
    (Nat.length_toDigits_le_iff (by decide) positive).mpr fits
  rcases isNumber_zero_padded width number with ⟨-, isDigit, value_eq⟩
  refine ⟨?_, isDigit, value_eq⟩
  rw [Numeral.padded, List.length_append, List.length_replicate]
  omega

theorem exists_append_replicate_zero (text : List Char) :
    ∃ count, text = (text.reverse.dropWhile (· == '0')).reverse ++
      List.replicate count '0' := by
  refine ⟨(text.reverse.takeWhile (· == '0')).length, ?_⟩
  have zeros : text.reverse.takeWhile (· == '0') =
      List.replicate (text.reverse.takeWhile (· == '0')).length '0' := by
    apply List.eq_replicate_of_mem
    intro character member
    simpa using List.mem_takeWhile_imp member
  rw [← List.reverse_replicate, ← zeros, ← List.reverse_append,
    List.takeWhile_append_dropWhile, List.reverse_reverse]

theorem ne_of_isDigit {character other : Char} (isDigit : character.isDigit = true)
    (notDigit : other.isDigit = false) : character ≠ other := by
  intro same
  subst same
  rw [isDigit] at notDigit
  cases notDigit

/-! ## Reading -/

theorem readDigits_eq {limit total : Nat} (overflow : Numeral.Error) {digits : List Char}
    (isDigit : ∀ character ∈ digits, character.isDigit = true)
    (fits : Nat.ofDigitChars 10 digits total ≤ limit) :
    Numeral.readDigits limit overflow total digits =
      .ok (Nat.ofDigitChars 10 digits total) := by
  induction digits generalizing total with
  | nil => rfl
  | cons first digits induction =>
      rw [ofDigitChars_cons_digitValue] at fits ⊢
      have within : total * 10 + digitValue first ≤ limit :=
        Nat.le_trans (le_ofDigitChars digits _) fits
      have others : ∀ character ∈ digits, character.isDigit = true :=
        fun character member => isDigit character (List.mem_cons_of_mem _ member)
      rw [Numeral.readDigits, digit?_eq_some (isDigit first List.mem_cons_self)]
      simp only [within, if_true]
      exact induction others fits

end ScalarCell.Digits
