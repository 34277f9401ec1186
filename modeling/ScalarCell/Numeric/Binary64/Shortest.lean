import ScalarCell.Numeric.Binary64

namespace ScalarCell

/-! The shortest decimal numbers that are read back as a given binary one. A grid of
decimal numbers is tried for each count of digits; the first grid that has a point
which reads back gives the answer, the nearer of two. -/

structure Decimal where
  coefficient : Nat
  exponent : Int
deriving DecidableEq, Repr

def decimalLength (number : Nat) : Nat :=
  if number = 0 then 0 else (Nat.toDigits 10 number).length

namespace Decimal

/-- The magnitude nearest to a decimal number. Far beyond both ends of the range the
outcome is decided without computing the power. -/
def nearest? (decimal : Decimal) : Option Magnitude :=
  match decimal.exponent with
  | .ofNat exponent =>
      if decimal.coefficient = 0 then some .zero
      else if 400 < exponent then none
      else Magnitude.nearest? (decimal.coefficient * 10 ^ exponent * unitsPerOne) 1
  | .negSucc exponent =>
      if decimal.coefficient.log2 + 1100 < exponent then some .zero
      else Magnitude.nearest? (decimal.coefficient * unitsPerOne) (10 ^ (exponent + 1))

def trim : (fuel : Nat) → Decimal → Decimal
  | 0, decimal => decimal
  | fuel + 1, decimal =>
      if decimal.coefficient % 10 = 0 then
        trim fuel ⟨decimal.coefficient / 10, decimal.exponent + 1⟩
      else
        decimal

end Decimal

inductive Tie where
  | upward
  | toEven
deriving DecidableEq, Repr

namespace Magnitude

def decimalScale (magnitude : Magnitude) : Int :=
  decimalLength (magnitude.units * 10 ^ 324 / unitsPerOne) - 324

def stepsOfTen (magnitude : Magnitude) : (exponent : Int) → Nat × Nat
  | .ofNat exponent => (magnitude.units, unitsPerOne * 10 ^ exponent)
  | .negSucc exponent => (magnitude.units * 10 ^ (exponent + 1), unitsPerOne)

/-- Which of two neighbouring decimal numbers reads back, or the nearer if both do. -/
def closestOnGrid? (magnitude : Magnitude) (tie : Tie) (exponent : Int) :
    Option Decimal :=
  let (numerator, denominator) := magnitude.stepsOfTen exponent
  let lower : Decimal := ⟨numerator / denominator, exponent⟩
  let upper : Decimal := ⟨numerator / denominator + 1, exponent⟩
  let twice := 2 * (numerator % denominator)
  match lower.nearest? == some magnitude, upper.nearest? == some magnitude with
  | true, true =>
      if twice < denominator then some lower
      else if denominator < twice then some upper
      else
        match tie with
        | .upward => some upper
        | .toEven => if lower.coefficient % 2 = 0 then some lower else some upper
  | true, false => some lower
  | false, true => some upper
  | false, false => none

def shortestFrom (magnitude : Magnitude) (tie : Tie) :
    (left : Nat) → (exponent : Int) → Decimal
  | 0, exponent =>
      let (numerator, denominator) := magnitude.stepsOfTen exponent
      ⟨numerator / denominator, exponent⟩
  | left + 1, exponent =>
      match magnitude.closestOnGrid? tie exponent with
      | some decimal => decimal
      | none => magnitude.shortestFrom tie left (exponent - 1)

/-- The decimal number of fewest digits that reads back as the magnitude; seventeen
digits always do. -/
def shortest (magnitude : Magnitude) (tie : Tie) : Decimal :=
  if magnitude = .zero then ⟨0, 0⟩
  else (magnitude.shortestFrom tie 17 (magnitude.decimalScale - 1)).trim 18

end Magnitude

end ScalarCell
