import ScalarCell.Numeric.Power

namespace ScalarCell

/-! Binary floating-point numbers of 64 bits. Every finite number is a multiple of
the least positive one, so a magnitude is studied as a natural number of such units
and all rounding happens in exact integer arithmetic. -/

def codeLimit : Nat := 2047 * 2 ^ 52

/-- A finite number without its sign. The code is its bit pattern, and codes are
ordered as the magnitudes are. -/
structure Magnitude where
  code : Nat
  code_lt : code < codeLimit
deriving DecidableEq, Repr

inductive Binary64 where
  | nan
  | infinite (negative : Bool)
  | finite (negative : Bool) (magnitude : Magnitude)
deriving DecidableEq, Repr

def unitsPerOne : Nat := 2 ^ 1074

def roundHalfEven (numerator denominator : Nat) : Nat :=
  let quotient := numerator / denominator
  let twice := 2 * (numerator % denominator)
  if twice < denominator then quotient
  else if denominator < twice then quotient + 1
  else quotient + quotient % 2

namespace Magnitude

def zero : Magnitude := ⟨0, by decide⟩

instance : Inhabited Magnitude := ⟨zero⟩

/-- The value, counted in units. Below 2⁵² the codes are the values; above, 52 bits
of the code follow a leading one and the others shift it. -/
def units (magnitude : Magnitude) : Nat :=
  if magnitude.code < 2 ^ 52 then magnitude.code
  else (2 ^ 52 + magnitude.code % 2 ^ 52) * 2 ^ (magnitude.code / 2 ^ 52 - 1)

/-- The code of the number nearest to a quotient of units, were there no largest
number. Beyond 2⁵³ units only multiples of a power of two are numbers; a carry out
of the 53 bits runs into the next power by itself. -/
def nearestCode (numerator denominator : Nat) : Nat :=
  let shift := Nat.log2 (numerator / denominator) - 52
  shift * 2 ^ 52 + roundHalfEven numerator (denominator * 2 ^ shift)

def nearest? (numerator denominator : Nat) : Option Magnitude :=
  if inRange : nearestCode numerator denominator < codeLimit then
    some ⟨nearestCode numerator denominator, inRange⟩
  else
    none

def ofNat? (number : Nat) : Option Magnitude :=
  nearest? (number * unitsPerOne) 1

def multiply? (left right : Magnitude) : Option Magnitude :=
  nearest? (left.units * right.units) unitsPerOne

def divide? (left right : Magnitude) : Option Magnitude :=
  nearest? (left.units * unitsPerOne) right.units

def toNat? (magnitude : Magnitude) : Option Nat :=
  if magnitude.units % unitsPerOne = 0 then some (magnitude.units / unitsPerOne) else none

end Magnitude

namespace Binary64

def zero : Binary64 := .finite false .zero

instance : Inhabited Binary64 := ⟨zero⟩

def ofMagnitude? (negative : Bool) : Option Magnitude → Binary64
  | some magnitude => .finite negative magnitude
  | none => .infinite negative

def ofUnits (negative : Bool) (numerator denominator : Nat) : Binary64 :=
  ofMagnitude? negative (Magnitude.nearest? numerator denominator)

def ofInt (number : Int) : Binary64 :=
  ofMagnitude? (decide (number < 0)) (Magnitude.ofNat? number.natAbs)

def toInt? : Binary64 → Option Int
  | .nan => none
  | .infinite _ => none
  | .finite negative magnitude =>
      magnitude.toNat?.map fun number => if negative then -(number : Int) else number

def isFinite : Binary64 → Bool
  | .finite _ _ => true
  | _ => false

def equal : Binary64 → Binary64 → Bool
  | .finite leftNegative left, .finite rightNegative right =>
      left == right && (leftNegative == rightNegative || left == .zero)
  | .infinite left, .infinite right => left == right
  | _, _ => false

/-! ## Bit patterns -/

/-- The sign bit is the highest, and the code takes the others; codes past the limit
are no numbers. -/
def ofBits (bits : UInt64) : Binary64 :=
  let negative := decide (2 ^ 63 ≤ bits.toNat)
  let code := bits.toNat % 2 ^ 63
  if inRange : code < codeLimit then .finite negative ⟨code, inRange⟩
  else if code = codeLimit then .infinite negative
  else .nan

def toBits : Binary64 → UInt64
  | .nan => UInt64.ofNat (codeLimit + 2 ^ 51)
  | .infinite negative => UInt64.ofNat ((if negative then 2 ^ 63 else 0) + codeLimit)
  | .finite negative magnitude =>
      UInt64.ofNat ((if negative then 2 ^ 63 else 0) + magnitude.code)

end Binary64

/-! ## Numbers of 32 bits -/

structure Binary32 where
  bits : UInt32
deriving DecidableEq, Repr

namespace Binary32

def widen (number : Binary32) : Binary64 :=
  let negative := decide (2 ^ 31 ≤ number.bits.toNat)
  let exponent := number.bits.toNat / 2 ^ 23 % 2 ^ 8
  let fraction := number.bits.toNat % 2 ^ 23
  if exponent = 255 then
    if fraction = 0 then .infinite negative else .nan
  else if exponent = 0 then
    .ofUnits negative (fraction * 2 ^ 925) 1
  else
    .ofUnits negative ((2 ^ 23 + fraction) * 2 ^ (exponent - 1) * 2 ^ 925) 1

end Binary32

end ScalarCell
