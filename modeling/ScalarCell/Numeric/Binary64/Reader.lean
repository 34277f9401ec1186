import ScalarCell.Numeric.Binary64.Shortest
import ScalarCell.Numeric.Numeral

namespace ScalarCell.Binary64

/-! Reading a number from decimal text, rounded once to the nearest. A sign, a point
with digits on at least one side, and an exponent may appear; so may the names of the
infinities and of `nan`, in any letter case. -/

inductive TextError where
  | empty
  | invalid
deriving DecidableEq, Repr

def TextError.message : TextError → String
  | .empty => "cannot parse float from empty string"
  | .invalid => "invalid float literal"

def digitsValue (total : Nat) : List Char → Nat
  | [] => total
  | character :: rest =>
      digitsValue (total * 10 + (Numeral.digit? character).getD 0) rest

def readExponent? : List Char → Option Int
  | [] => some 0
  | mark :: rest =>
      if mark = 'e' ∨ mark = 'E' then
        match rest with
        | '-' :: digits => (unsigned? digits).map fun number => -(number : Int)
        | '+' :: digits => (unsigned? digits).map fun number => (number : Int)
        | digits => (unsigned? digits).map fun number => (number : Int)
      else
        none
where
  unsigned? (digits : List Char) : Option Nat :=
    if digits.isEmpty || !digits.all Char.isDigit then none
    else some (digitsValue 0 digits)

def readDecimal? (characters : List Char) : Option Decimal :=
  let whole := characters.takeWhile Char.isDigit
  let afterWhole := characters.dropWhile Char.isDigit
  let (fraction, afterFraction) :=
    match afterWhole with
    | '.' :: rest => (rest.takeWhile Char.isDigit, rest.dropWhile Char.isDigit)
    | rest => ([], rest)
  if whole.isEmpty && fraction.isEmpty then
    none
  else
    (readExponent? afterFraction).map fun exponent =>
      ⟨digitsValue (digitsValue 0 whole) fraction, exponent - fraction.length⟩

def readUnsigned? (negative : Bool) (characters : List Char) : Option Binary64 :=
  let name := characters.map Char.toLower
  if name = "nan".toList then some .nan
  else if name = "inf".toList ∨ name = "infinity".toList then some (.infinite negative)
  else (readDecimal? characters).map fun decimal => ofMagnitude? negative decimal.nearest?

def read (characters : List Char) : Except TextError Binary64 :=
  let outcome :=
    match characters with
    | '-' :: rest => readUnsigned? true rest
    | '+' :: rest => readUnsigned? false rest
    | rest => readUnsigned? false rest
  match outcome with
  | some number => .ok number
  | none => .error (if characters.isEmpty then .empty else .invalid)

end ScalarCell.Binary64
