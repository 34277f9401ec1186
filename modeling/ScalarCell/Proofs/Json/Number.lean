import ScalarCell.Json.Number
import ScalarCell.Proofs.Text.Numeral

namespace ScalarCell.Json

/-! What the scanner of numbers makes of well-formed numbers. -/

open Digits

theorem takeDigits_append {limit total : Nat} {digits rest : List Char}
    (isDigit : ∀ character ∈ digits, character.isDigit = true)
    (noDigit : NoDigitNext rest) (fits : Nat.ofDigitChars 10 digits total < limit) :
    takeDigits limit total (digits ++ rest) =
      (Nat.ofDigitChars 10 digits total, digits.length, rest) := by
  induction digits generalizing total with
  | nil =>
      cases rest with
      | nil => rfl
      | cons character rest =>
          rw [List.nil_append, takeDigits, digit?_eq_none (noDigit character rfl)]
          rfl
  | cons first digits induction =>
      rw [ofDigitChars_cons_digitValue] at fits ⊢
      have below : total * 10 + digitValue first < limit :=
        Nat.lt_of_le_of_lt (le_ofDigitChars digits _) fits
      have others : ∀ character ∈ digits, character.isDigit = true :=
        fun character member => isDigit character (List.mem_cons_of_mem _ member)
      rw [List.cons_append, takeDigits, digit?_eq_some (isDigit first List.mem_cons_self)]
      simp only [below, if_true]
      rw [induction others fits]
      rfl

theorem startsWithDigit_eq_false {text : List Char} (noDigit : NoDigitNext text) :
    startsWithDigit text = false := by
  cases text with
  | nil => rfl
  | cons character rest => exact noDigit character rfl

theorem startsWithDigit_append {digits : List Char} (nonempty : digits ≠ [])
    (isDigit : ∀ character ∈ digits, character.isDigit = true) (rest : List Char) :
    startsWithDigit (digits ++ rest) = true := by
  cases digits with
  | nil => exact absurd rfl nonempty
  | cons first digits => exact isDigit first List.mem_cons_self

/-! ## The parts of a number -/

variable {significand : Nat} {start : Int} {digits rest : List Char}

theorem readFraction_append (nonempty : digits ≠ [])
    (isDigit : ∀ character ∈ digits, character.isDigit = true)
    (noDigit : NoDigitNext rest)
    (fits : Nat.ofDigitChars 10 digits significand < 2 ^ 64) :
    readFraction significand start (digits ++ rest) =
      readOptionalExponent (Nat.ofDigitChars 10 digits significand)
      (start - digits.length)
        rest := by
  have some_taken : digits.length ≠ 0 :=
    fun empty => nonempty (List.length_eq_zero_iff.mp empty)
  rw [readFraction, takeDigits_append isDigit noDigit fits]
  simp only [startsWithDigit_eq_false noDigit, some_taken, if_false, Bool.false_eq_true]

def signedExponent (negative : Bool) (number : Nat) : Int :=
  if negative then -(number : Int) else number

theorem readExponentDigits_eq {positive : Bool} (nonempty : digits ≠ [])
    (isDigit : ∀ character ∈ digits, character.isDigit = true)
    (fits : Nat.ofDigitChars 10 digits 0 < exponentLimit) :
    readExponentDigits significand start positive digits =
      scaled significand
      (start + signedExponent (!positive) (Nat.ofDigitChars 10 digits 0))
        [] := by
  have noDigit : NoDigitNext [] := by simp [NoDigitNext]
  have taken := takeDigits_append isDigit noDigit fits
  have starts := startsWithDigit_append nonempty isDigit []
  rw [List.append_nil] at taken starts
  rw [readExponentDigits, starts, taken]
  have atEnd : startsWithDigit [] = false := startsWithDigit_eq_false noDigit
  · simp only [if_true, atEnd, Bool.false_eq_true, if_false]
    cases positive with
    | true => rfl
    | false => rfl
  · exact nonempty

theorem readOptionalExponent_eq {negative : Bool} (nonempty : digits ≠ [])
    (isDigit : ∀ character ∈ digits, character.isDigit = true)
    (fits : Nat.ofDigitChars 10 digits 0 < exponentLimit) :
    readOptionalExponent significand start
        ('e' :: (if negative then '-' else '+') :: digits) =
      scaled significand (start + signedExponent negative (Nat.ofDigitChars 10 digits 0))
      [] := by
  have marked (text : List Char) : startsWithExponent ('e' :: text) = true := rfl
  rw [readOptionalExponent, if_pos (marked _), List.drop_one, List.tail_cons]
  cases negative with
  | true => exact readExponentDigits_eq nonempty isDigit fits
  | false => exact readExponentDigits_eq nonempty isDigit fits

theorem readOptionalExponent_nil :
    readOptionalExponent significand start [] = scaled significand start [] := by
  have unmarked : ¬startsWithExponent [] = true := Bool.false_ne_true
  rw [readOptionalExponent, if_neg unmarked]

/-! ## Whole numbers

A number that is not an integer goes on with a point or an exponent after its first digits. -/

def ContinuesAsFloat (text : List Char) : Prop :=
  text.head? = some '.' ∨ startsWithExponent text = true

theorem ContinuesAsFloat.noDigitNext {text : List Char}
    (continues : ContinuesAsFloat text) :
    NoDigitNext text := by
  cases text with
  | nil => simp [NoDigitNext]
  | cons character rest =>
      intro _ first
      cases first
      rcases continues with point | exponent
      · cases point
        rfl
      · simp only [startsWithExponent, Bool.or_eq_true, decide_eq_true_eq] at exponent
        rcases exponent with rfl | rfl <;> rfl

def Canonical (digits : List Char) : Prop :=
  digits = ['0'] ∨ ∃ first others, digits = first :: others ∧ first ≠ '0'

theorem canonical_digits (number : Nat) : Canonical (Numeral.digits number) := by
  have isNumber := isNumber_digits number
  have digits_pos : 0 < (Numeral.digits number).length := Nat.length_toDigits_pos
  cases digits : Numeral.digits number with
  | nil =>
      rw [digits] at digits_pos
      cases digits_pos
  | cons first others =>
      by_cases zero : first = '0'
      · subst zero
        rw [digits] at isNumber
        have others_eq : Nat.ofDigitChars 10 others 0 = number := by
          rw [← isNumber.value_eq, ofDigitChars_cons_digitValue]
          rfl
        have short : number < 10 ^ others.length := by
          rw [← others_eq]
          exact ofDigitChars_lt fun character member =>
            isNumber.isDigit character (List.mem_cons_of_mem _ member)
        by_cases others_empty : others = []
        · exact .inl (by rw [others_empty])
        · have fewer : (Numeral.digits number).length ≤ others.length :=
            (Nat.length_toDigits_le_iff (by decide)
              (List.length_pos_iff.mpr others_empty)).mpr short
          rw [digits, List.length_cons] at fewer
          omega
      · exact .inr ⟨first, others, rfl, zero⟩

theorem digits_ofDigitChars {digits : List Char} (canonical : Canonical digits)
    (isDigit : ∀ character ∈ digits, character.isDigit = true) :
    Numeral.digits (Nat.ofDigitChars 10 digits 0) = digits := by
  rcases canonical with rfl | ⟨first, others, rfl, notZero⟩
  · rfl
  · rcases List.forall_mem_cons.mp isDigit with ⟨firstDigit, othersDigit⟩
    have positive : 0 < digitValue first := by
      apply Nat.pos_of_ne_zero
      intro zero
      apply notZero
      rw [← digitChar_digitValue firstDigit, zero]
      rfl
    rw [ofDigitChars_cons_digitValue, Nat.zero_mul, Nat.zero_add,
      ← digits_append positive othersDigit, Numeral.digits,
      Nat.toDigits_of_lt_base (digitValue_lt firstDigit), digitChar_digitValue firstDigit,
      List.singleton_append]

theorem Canonical.of_front {front digits : List Char} (canonical : Canonical digits)
    (nonempty : front ≠ []) (isPrefix : front <+: digits) : Canonical front := by
  rcases List.exists_cons_of_ne_nil nonempty with ⟨first, others, rfl⟩
  rcases canonical with rfl | ⟨_, _, rfl, notZero⟩
  · rcases List.cons_prefix_cons.mp isPrefix with ⟨rfl, empty⟩
    exact .inl (by rw [List.prefix_nil.mp empty])
  · rcases List.cons_prefix_cons.mp isPrefix with ⟨rfl, -⟩
    exact .inr ⟨first, others, rfl, notZero⟩

theorem canonical_singleton (digit : Char) : Canonical [digit] := by
  by_cases zero : digit = '0'
  · exact .inl (by rw [zero])
  · exact .inr ⟨digit, [], rfl, zero⟩

theorem readNumber_digits (negative : Bool)
    (isDigit : ∀ character ∈ digits, character.isDigit = true)
    (canonical : Canonical digits) (fits : Nat.ofDigitChars 10 digits 0 < 2 ^ 64)
    (noDigit : NoDigitNext rest) :
    readNumber negative (digits ++ rest) =
      readAfterInteger negative (Nat.ofDigitChars 10 digits 0) rest := by
  rcases canonical with rfl | ⟨first, others, rfl, notZero⟩
  · rw [List.singleton_append, readNumber, startsWithDigit_eq_false noDigit]
    rfl
  · have taken := takeDigits_append isDigit noDigit fits
    have starts := startsWithDigit_append (List.cons_ne_nil first others) isDigit rest
    rw [List.cons_append] at taken starts ⊢
    rw [readNumber]
    · simp only [starts, if_true, taken, startsWithDigit_eq_false noDigit,
        Bool.false_eq_true, if_false]
    · exact List.cons_ne_nil _ _
    · intro _ first
      cases first
      exact notZero rfl

theorem readNumber_append (negative : Bool)
    (isDigit : ∀ character ∈ digits, character.isDigit = true)
    (canonical : Canonical digits) (fits : Nat.ofDigitChars 10 digits 0 < 2 ^ 64)
    (continues : ContinuesAsFloat rest) :
    readNumber negative (digits ++ rest) =
      (readFloatTail (Nat.ofDigitChars 10 digits 0) 0 rest).map fun (magnitude, rest) =>
        (.float (.finite negative magnitude), rest) := by
  rw [readNumber_digits negative isDigit canonical fits continues.noDigitNext,
    readAfterInteger, if_pos (show rest.head? = some '.' ∨ _ from continues)]

def EndsNumber (text : List Char) : Prop :=
  NoDigitNext text ∧ ¬ ContinuesAsFloat text

theorem endsNumber_nil : EndsNumber [] := by
  simp [EndsNumber, NoDigitNext, ContinuesAsFloat, startsWithExponent]

theorem readNumber_integer (negative : Bool) {number : Nat} (fits : number < 2 ^ 64)
    (ends : EndsNumber rest) :
    readNumber negative (Numeral.digits number ++ rest) =
      .ok (integer negative number, rest) := by
  have isNumber := isNumber_digits number
  rw [← isNumber.value_eq] at fits
  rw [readNumber_digits negative isNumber.isDigit (canonical_digits number) fits ends.1,
    isNumber.value_eq, readAfterInteger,
    if_neg (show ¬ (rest.head? = some '.' ∨ _) from ends.2)]

/-! ## Numbers with a point or an exponent -/

def scaledNumber (negative : Bool) (significand : Nat) (exponent : Int) :
    Except Failure (Number × List Char) :=
  (scaled significand exponent []).map fun (magnitude, rest) =>
    (.float (.finite negative magnitude), rest)

theorem scaled_eq {magnitude : Magnitude}
    (found : scale? significand start = some magnitude) :
    scaled significand start rest = .ok (magnitude, rest) := by
  rw [scaled, found, Option.elim_some]

theorem scaledNumber_eq (negative : Bool) {magnitude : Magnitude}
    (found : scale? significand start = some magnitude) :
    scaledNumber negative significand start =
      .ok (.float (.finite negative magnitude), []) := by
  rw [scaledNumber, scaled_eq found, Except.map]

variable {whole fraction : List Char} (negative : Bool)

theorem readNumber_point (canonical : Canonical whole)
    (isDigit : ∀ character ∈ whole ++ fraction, character.isDigit = true)
    (nonempty : fraction ≠ []) (noDigit : NoDigitNext rest)
    (fits : Nat.ofDigitChars 10 (whole ++ fraction) 0 < 2 ^ 64) :
    readNumber negative (whole ++ '.' :: (fraction ++ rest)) =
      (readOptionalExponent (Nat.ofDigitChars 10 (whole ++ fraction) 0)
        (0 - fraction.length)
        rest).map fun (magnitude, rest) =>
        (.float (.finite negative magnitude), rest) := by
  rw [Nat.ofDigitChars_append] at fits ⊢
  have wholeDigits := fun character member =>
    isDigit character (List.mem_append_left fraction member)
  have fractionDigits := fun character member =>
    isDigit character (List.mem_append_right whole member)
  have wholeFits : Nat.ofDigitChars 10 whole 0 < 2 ^ 64 :=
    Nat.lt_of_le_of_lt (le_ofDigitChars fraction _) fits
  rw [readNumber_append negative wholeDigits canonical wholeFits (.inl rfl),
    readFloatTail, readFraction_append nonempty fractionDigits noDigit fits]

theorem readNumber_exponent (canonical : Canonical whole)
    (isDigit : ∀ character ∈ whole, character.isDigit = true)
    (fits : Nat.ofDigitChars 10 whole 0 < 2 ^ 64) :
    readNumber negative (whole ++ 'e' :: rest) =
      (readOptionalExponent (Nat.ofDigitChars 10 whole 0) 0 ('e' :: rest)).map
        fun (magnitude, rest) => (.float (.finite negative magnitude), rest) := by
  rw [readNumber_append negative isDigit canonical fits (.inr rfl), readFloatTail]
  intro _ first
  cases first

end ScalarCell.Json
