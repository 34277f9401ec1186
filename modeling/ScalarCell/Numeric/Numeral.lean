import ScalarCell.Numeric.Power

namespace ScalarCell.Numeral

/-! Whole numbers as decimal text. Writing uses no leading zeros; reading allows a
sign and any number of them, and says which character or which bound it failed at. -/

def digits (number : Nat) : List Char :=
  Nat.toDigits 10 number

def padded (fill : Char) (width number : Nat) : List Char :=
  List.replicate (width - (digits number).length) fill ++ digits number

def signed (number : Int) : List Char :=
  if number < 0 then '-' :: digits number.natAbs else digits number.natAbs

def digit? (character : Char) : Option Nat :=
  if character.isDigit then some (character.toNat - '0'.toNat) else none

inductive Error where
  | empty
  | invalidDigit
  | tooLarge
  | tooSmall
deriving DecidableEq, Repr

def Error.message : Error → String
  | .empty => "cannot parse integer from empty string"
  | .invalidDigit => "invalid digit found in string"
  | .tooLarge => "number too large to fit in target type"
  | .tooSmall => "number too small to fit in target type"

def readDigits (limit : Nat) (overflow : Error) :
    (total : Nat) → List Char → Except Error Nat
  | total, [] => .ok total
  | total, character :: rest =>
      match digit? character with
      | none => .error .invalidDigit
      | some digit =>
          if total * 10 + digit ≤ limit then
            readDigits limit overflow (total * 10 + digit) rest
          else
            .error overflow

def readMagnitude (limit : Nat) (overflow : Error) : List Char → Except Error Nat
  | [] => .error .invalidDigit
  | characters => readDigits limit overflow 0 characters

def readInt64 : List Char → Except Error Int
  | [] => .error .empty
  | '-' :: rest => (readMagnitude (2 ^ 63) .tooSmall rest).map fun number =>
      -(number : Int)
  | '+' :: rest => (readMagnitude (2 ^ 63 - 1) .tooLarge rest).map fun number =>
      (number : Int)
  | characters => (readDigits (2 ^ 63 - 1) .tooLarge 0 characters).map fun number =>
      (number : Int)

end ScalarCell.Numeral
