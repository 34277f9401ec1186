import ScalarCell.Proofs.Text.Numeral

namespace ScalarCell.Digits

/-! Integers with a sign, as they are read from text: which texts are accepted, and what they
stand for. -/

inductive IsInteger : List Char → Int → Prop
  | unsigned {digits : List Char} {number : Nat} (nonempty : digits ≠ [])
      (isNumber : IsNumber digits.length digits number) : IsInteger digits number
  | plus {digits : List Char} {number : Nat} (nonempty : digits ≠ [])
      (isNumber : IsNumber digits.length digits number) : IsInteger ('+' :: digits) number
  | minus {digits : List Char} {number : Nat} (nonempty : digits ≠ [])
      (isNumber : IsNumber digits.length digits number) :
      IsInteger ('-' :: digits) (-(number : Int))

theorem isInteger_signed (integer : Int) : IsInteger (Numeral.signed integer) integer := by
  have isNumber := isNumber_digits integer.natAbs
  have nonempty : Numeral.digits integer.natAbs ≠ [] := Nat.toDigits_ne_nil
  rw [Numeral.signed]
  split
  · have written := IsInteger.minus nonempty isNumber
    rwa [show -(integer.natAbs : Int) = integer by omega] at written
  · have written := IsInteger.unsigned nonempty isNumber
    rwa [show (integer.natAbs : Int) = integer by omega] at written

theorem IsInteger.unique {text : List Char} {integer other : Int}
    (isInteger : IsInteger text integer) (isOther : IsInteger text other) :
    integer = other := by
  have noSign {digits rest : List Char} {number : Nat} {sign : Char}
      (isNumber : IsNumber digits.length digits number) (notDigit : sign.isDigit = false)
      (starts : digits = sign :: rest) : False := by
    rw [starts] at isNumber
    exact ne_of_isDigit (isNumber.isDigit sign List.mem_cons_self) notDigit rfl
  cases isInteger with
  | unsigned _ isNumber =>
      cases isOther with
      | unsigned _ isOther => rw [← isNumber.value_eq, isOther.value_eq]
      | plus => exact (noSign isNumber rfl rfl).elim
      | minus => exact (noSign isNumber rfl rfl).elim
  | plus _ isNumber =>
      cases isOther with
      | unsigned _ isOther => exact (noSign isOther rfl rfl).elim
      | plus _ isOther => rw [← isNumber.value_eq, isOther.value_eq]
  | minus _ isNumber =>
      cases isOther with
      | unsigned _ isOther => exact (noSign isOther rfl rfl).elim
      | minus _ isOther => rw [← isNumber.value_eq, isOther.value_eq]

theorem readDigits_eq_ok_iff {limit total number : Nat} {overflow : Numeral.Error}
    {text : List Char} (within : total ≤ limit) :
    Numeral.readDigits limit overflow total text = .ok number ↔
      (∀ character ∈ text, character.isDigit = true) ∧
        Nat.ofDigitChars 10 text total = number ∧ number ≤ limit := by
  constructor
  · intro read
    induction text generalizing total with
    | nil =>
        cases read
        exact ⟨by simp, rfl, within⟩
    | cons first rest induction =>
        rw [Numeral.readDigits] at read
        cases digit : first.isDigit with
        | false =>
            rw [digit?_eq_none digit] at read
            cases read
        | true =>
            rw [digit?_eq_some digit] at read
            simp only at read
            split at read
            · rename_i fits
              rcases induction fits read with ⟨isDigit, value_eq, le⟩
              exact ⟨List.forall_mem_cons.mpr ⟨digit, isDigit⟩,
                by rw [ofDigitChars_cons_digitValue, value_eq], le⟩
            · cases read
  · rintro ⟨isDigit, rfl, le⟩
    exact readDigits_eq overflow isDigit le

theorem readMagnitude_eq_ok_iff {limit number : Nat} {overflow : Numeral.Error}
    {text : List Char} :
    Numeral.readMagnitude limit overflow text = .ok number ↔
      text ≠ [] ∧ IsNumber text.length text number ∧ number ≤ limit := by
  cases text with
  | nil => simp [Numeral.readMagnitude]
  | cons first rest =>
      rw [Numeral.readMagnitude, readDigits_eq_ok_iff (Nat.zero_le limit)]
      · constructor
        · rintro ⟨isDigit, value_eq, le⟩
          exact ⟨List.cons_ne_nil _ _, ⟨rfl, isDigit, value_eq⟩, le⟩
        · rintro ⟨-, isNumber, le⟩
          exact ⟨isNumber.isDigit, isNumber.value_eq, le⟩
      · exact List.cons_ne_nil _ _

theorem map_natCast_eq_ok_iff {outcome : Except Numeral.Error Nat} {change : Int → Int}
    {integer : Int} :
    (do let number ← outcome; pure (number : Int)).map change = .ok integer ↔
      ∃ number : Nat, outcome = .ok number ∧ integer = change number := by
  cases outcome with
  | ok number => simp [bind, Except.bind, pure, Except.pure, Except.map, eq_comm]
  | error error => simp [bind, Except.bind, Except.map]

theorem readInt64_eq_ok_iff {text : List Char} {integer : Int} :
    Numeral.readInt64 text = .ok integer ↔
      IsInteger text integer ∧ -2 ^ 63 ≤ integer ∧ integer < 2 ^ 63 := by
  constructor
  · intro read
    rw [Numeral.readInt64.eq_def] at read
    split at read
    · cases read
    · rcases map_natCast_eq_ok_iff.mp read with ⟨number, magnitude, rfl⟩
      rcases readMagnitude_eq_ok_iff.mp magnitude with ⟨nonempty, isNumber, le⟩
      exact ⟨.minus nonempty isNumber, by omega, by omega⟩
    · rcases map_natCast_eq_ok_iff.mp read with ⟨number, magnitude, rfl⟩
      rcases readMagnitude_eq_ok_iff.mp magnitude with ⟨nonempty, isNumber, le⟩
      exact ⟨.plus nonempty isNumber, by omega, by omega⟩
    · rename_i nonempty _ _
      rcases map_natCast_eq_ok_iff.mp read with ⟨number, magnitude, rfl⟩
      rcases (readDigits_eq_ok_iff (Nat.zero_le _)).mp magnitude with
        ⟨isDigit, value_eq, le⟩
      exact ⟨.unsigned nonempty ⟨rfl, isDigit, value_eq⟩, by omega, by omega⟩
  · rintro ⟨form, low, high⟩
    cases form with
    | @unsigned _ number nonempty isNumber =>
        have read : Numeral.readDigits (2 ^ 63 - 1) .tooLarge 0 text = .ok number :=
          (readDigits_eq_ok_iff (Nat.zero_le _)).mpr
            ⟨isNumber.isDigit, isNumber.value_eq, by omega⟩
        rcases List.exists_cons_of_ne_nil nonempty with ⟨first, others, rfl⟩
        have isDigit := isNumber.isDigit first List.mem_cons_self
        rw [Numeral.readInt64, read]
        · rfl
        · exact List.cons_ne_nil _ _
        · rintro _ ⟨⟩
          cases isDigit
        · rintro _ ⟨⟩
          cases isDigit
    | plus nonempty isNumber =>
        rw [Numeral.readInt64, readMagnitude_eq_ok_iff.mpr ⟨nonempty, isNumber, by omega⟩]
        rfl
    | minus nonempty isNumber =>
        rw [Numeral.readInt64, readMagnitude_eq_ok_iff.mpr ⟨nonempty, isNumber, by omega⟩]
        rfl

theorem readInt64_digits {number : Nat} (fits : number < 2 ^ 63) :
    Numeral.readInt64 (Numeral.digits number) = .ok (number : Int) :=
  readInt64_eq_ok_iff.mpr
    ⟨.unsigned Nat.toDigits_ne_nil (isNumber_digits number), by omega, by omega⟩

end ScalarCell.Digits
