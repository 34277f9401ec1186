import ScalarCell.Numeric.Binary64.Shortest
import ScalarCell.Numeric.Numeral

namespace ScalarCell

/-! How the shortest digits of a number are laid out as text. One record holds all
decisions of a format. -/

/-- The decisions of a number format: the decimal exponents that are written
positionally, whether a positional whole number ends in `.0`, the least number of
exponent digits, the way ties go, and the names of what is not finite. -/
structure Layout where
  positionalFrom : Int
  positionalTo : Int
  pointZero : Bool
  exponentWidth : Nat
  tie : Tie
  nanName : String
  infinityName : String
  minusInfinityName : String
deriving Repr

namespace Decimal

def leadingExponent (decimal : Decimal) : Int :=
  decimal.exponent + ((Numeral.digits decimal.coefficient).length - 1 : Nat)

def positional (decimal : Decimal) (pointZero : Bool) : List Char :=
  let digits := Numeral.digits decimal.coefficient
  match decimal.exponent with
  | .ofNat exponent =>
      digits ++ List.replicate exponent '0' ++ if pointZero then ['.', '0'] else []
  | .negSucc exponent =>
      let places := exponent + 1
      if places < digits.length then
        digits.take (digits.length - places) ++
          '.' :: digits.drop (digits.length - places)
      else
        '0' :: '.' :: List.replicate (places - digits.length) '0' ++ digits

def scientific (decimal : Decimal) (exponentWidth : Nat) : List Char :=
  let mantissa :=
    match Numeral.digits decimal.coefficient with
    | [] => []
    | first :: [] => [first]
    | first :: rest => first :: '.' :: rest
  let exponent := decimal.leadingExponent
  mantissa ++ 'e' :: (if exponent < 0 then '-' else '+') ::
    Numeral.padded '0' exponentWidth exponent.natAbs

end Decimal

namespace Layout

def magnitude (layout : Layout) (magnitude : Magnitude) : List Char :=
  let decimal := magnitude.shortest layout.tie
  if layout.positionalFrom ≤ decimal.leadingExponent
      ∧ decimal.leadingExponent ≤ layout.positionalTo then
    decimal.positional layout.pointZero
  else
    decimal.scientific layout.exponentWidth

def write (layout : Layout) : Binary64 → List Char
  | .nan => layout.nanName.toList
  | .infinite false => layout.infinityName.toList
  | .infinite true => layout.minusInfinityName.toList
  | .finite false magnitude => layout.magnitude magnitude
  | .finite true magnitude => '-' :: layout.magnitude magnitude

/-- Numbers in a text column: positional from 0.0001 up to six whole digits, and
otherwise with at least two digits of exponent. -/
def column : Layout where
  positionalFrom := -4
  positionalTo := 5
  pointZero := false
  exponentWidth := 2
  tie := .upward
  nanName := "NaN"
  infinityName := "+Inf"
  minusInfinityName := "-Inf"

def plain : Layout where
  positionalFrom := -400
  positionalTo := 400
  pointZero := false
  exponentWidth := 1
  tie := .upward
  nanName := "NaN"
  infinityName := "inf"
  minusInfinityName := "-inf"

def plainWithPoint : Layout :=
  { plain with pointZero := true }

/-- Numbers in JSON: positional from 0.00001 up to sixteen whole digits, and always
with a point or an exponent. -/
def json : Layout where
  positionalFrom := -5
  positionalTo := 15
  pointZero := true
  exponentWidth := 1
  tie := .toEven
  nanName := "null"
  infinityName := "null"
  minusInfinityName := "null"

end Layout

end ScalarCell
