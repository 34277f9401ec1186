import Mathlib.Data.List.DropRight
import ScalarCell.Json.Lexeme
import ScalarCell.Proofs.Json.Number
import ScalarCell.Proofs.Json.Text

namespace ScalarCell.Json

/-! The first piece of a text. Scalars whose text has all their digits or characters are read
back from it, whatever follows. -/

open Digits

variable {text rest : List Char}

theorem readLexeme_skipBlank (text : List Char) :
    readLexeme (skipBlank text) = readLexeme text := by
  have again : skipBlank (skipBlank text) = skipBlank text := List.dropWhile_idempotent _ _
  rw [readLexeme, again, readLexeme]

/-! ## Numbers -/

theorem startsWithDigit_of_readNumber {negative : Bool} {text : List Char}
    {outcome : Number × List Char} (read : readNumber negative text = .ok outcome) :
    startsWithDigit text = true := by
  rw [readNumber.eq_def] at read
  split at read
  · cases read
  · rfl
  · split at read
    · assumption
    · cases read

theorem isBlank_of_isDigit {character : Char} (isDigit : character.isDigit = true) :
    isBlank character = false := by
  have notBlank (other : Char) (notDigit : other.isDigit = false) :=
    ne_of_isDigit isDigit notDigit
  simp [isBlank, notBlank]

def signedText (negative : Bool) (text : List Char) : List Char :=
  if negative then '-' :: text else text

theorem skipBlank_signedText (negative : Bool) {text : List Char}
    (starts : startsWithDigit text = true) :
    skipBlank (signedText negative text) = signedText negative text := by
  cases negative with
  | true => rfl
  | false =>
      cases text with
      | nil => rfl
      | cons first others =>
          have isDigit : first.isDigit = true := starts
          simp [signedText, skipBlank, isBlank_of_isDigit isDigit]

theorem readLexeme_signedText (negative : Bool) {text : List Char}
    (starts : startsWithDigit text = true) :
    readLexeme (signedText negative text) =
      (readNumber negative text).map fun (number, rest) =>
        (.scalar (.number number), rest) := by
  rw [readLexeme, skipBlank_signedText negative starts]
  cases negative with
  | true => simp [signedText]
  | false =>
      cases text with
      | nil => cases starts
      | cons first others =>
          have isDigit : first.isDigit = true := starts
          have other (other : Char) (notDigit : other.isDigit = false) :=
            ne_of_isDigit isDigit notDigit
          simp [signedText, other, isDigit]

theorem readLexeme_number {negative : Bool} {text rest : List Char} {number : Number}
    (read : readNumber negative text = .ok (number, rest)) :
    readLexeme (signedText negative text) = .ok (.scalar (.number number), rest) := by
  rw [readLexeme_signedText negative (startsWithDigit_of_readNumber read), read]
  rfl

/-! ## Words and strings -/

theorem readLexeme_bool (value : Bool) (rest : List Char) :
    readLexeme ((Scalar.bool value).write ++ rest) = .ok (.scalar (.bool value), rest) := by
  cases value with
  | true => rfl
  | false => rfl

theorem readLexeme_writeText (characters rest : List Char) :
    readLexeme (writeText characters ++ rest) =
      .ok (.scalar (.text (String.ofList characters)), rest) := by
  have read := readText_flatMap_escape characters rest
  rw [writeText, List.append_assoc, List.cons_append, List.singleton_append]
  have quoted (others : List Char) : readLexeme ('"' :: others) =
      (readText others).map fun outcome =>
        (.scalar (.text (String.ofList outcome.1)), outcome.2) := rfl
  rw [quoted, read]
  rfl

/-! ## Whole scalars -/

/-- Scalars whose text says everything about them. Of the negative integers it takes one
below zero, for zero with a minus sign is none. -/
inductive Scalar.IsExact : Scalar → Prop
  | null : IsExact .null
  | bool (value : Bool) : IsExact (.bool value)
  | natural (value : UInt64) : IsExact (.number (.natural value))
  | negative {value : Int64} (below : value.toInt < 0) : IsExact (.number (.negative value))
  | text (value : String) : IsExact (.text value)

theorem readLexeme_natural (value : UInt64) (ends : EndsNumber rest) :
    readLexeme (Numeral.digits value.toNat ++ rest) =
      .ok (.scalar (.number (.natural value)), rest) := by
  have read := readNumber_integer false value.toNat_lt ends
  rw [integer, Bool.not_false, if_pos rfl, UInt64.ofNat_toNat] at read
  exact readLexeme_number read

theorem readLexeme_negative {value : Int64} (below : value.toInt < 0)
    (ends : EndsNumber rest) :
    readLexeme (Numeral.signed value.toInt ++ rest) =
      .ok (.scalar (.number (.negative value)), rest) := by
  have least := value.le_toInt
  have inRange : 1 ≤ value.toInt.natAbs ∧ value.toInt.natAbs ≤ 2 ^ 63 := by omega
  have opposite : -(value.toInt.natAbs : Int) = value.toInt := by omega
  have fits : value.toInt.natAbs < 2 ^ 64 := by omega
  have read := readNumber_integer true fits ends
  rw [integer, Bool.not_true, if_neg Bool.false_ne_true, if_pos inRange, opposite,
    Int64.ofInt_toInt] at read
  rw [Numeral.signed, if_pos below]
  exact readLexeme_number read

theorem Scalar.IsExact.readLexeme_write {value : Scalar} (exact : value.IsExact)
    (ends : EndsNumber rest) :
    readLexeme (value.write ++ rest) = .ok (.scalar value, rest) := by
  cases exact with
  | null => rfl
  | bool value => exact readLexeme_bool value rest
  | natural value => exact readLexeme_natural value ends
  | negative below => exact readLexeme_negative below ends
  | text value =>
      rw [Scalar.write, readLexeme_writeText, String.ofList_toList]

end ScalarCell.Json
