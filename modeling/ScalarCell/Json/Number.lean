import ScalarCell.Json.Failure

namespace ScalarCell.Json

/-! Numbers of JSON. Integers that fit stay integers; everything else is computed from the
first digits, as many as 64 bits hold, and one multiplication or division by a power of
ten, each rounded on its own. -/

inductive Number where
  | natural (value : UInt64)
  | negative (value : Int64)
  | float (value : Binary64)
deriving DecidableEq, Repr

def Number.token : Number → Token
  | .natural value => .uint64 value
  | .negative value => .int64 value
  | .float value => .float64 value

/-! ## Scaling -/

def powerOfTen? (exponent : Nat) : Option Magnitude :=
  Magnitude.ofNat? (10 ^ exponent)

def greatestPower : Nat := 308

/-- Divides by the greatest power of ten so many times, and then by a last one. -/
def divideInSteps? : (steps : Nat) → Magnitude → (last : Nat) → Option Magnitude
  | 0, magnitude, last => (powerOfTen? last).bind magnitude.divide?
  | steps + 1, magnitude, last =>
      if magnitude = .zero then
        some .zero
      else
        ((powerOfTen? greatestPower).bind magnitude.divide?).bind fun quotient =>
          divideInSteps? steps quotient last

def scale? (significand : Nat) (exponent : Int) : Option Magnitude :=
  (Magnitude.ofNat? significand).bind fun magnitude =>
    match exponent with
    | .ofNat exponent =>
        if exponent ≤ greatestPower then
          (powerOfTen? exponent).bind magnitude.multiply?
        else if magnitude = .zero then
          some .zero
        else
          none
    | .negSucc exponent =>
        let steps := exponent / greatestPower
        divideInSteps? steps magnitude (exponent + 1 - steps * greatestPower)

def scaled (significand : Nat) (exponent : Int) (rest : List Char) :
    Except Failure (Magnitude × List Char) :=
  (scale? significand exponent).elim (failBefore .numberOutOfRange rest) fun magnitude =>
    .ok (magnitude, rest)

/-! ## Digits -/

def takeDigits (limit : Nat) : (total : Nat) → List Char → Nat × Nat × List Char
  | total, [] => (total, 0, [])
  | total, character :: rest =>
      match Numeral.digit? character with
      | some digit =>
          if total * 10 + digit < limit then
            let (outcome, count, remaining) := takeDigits limit (total * 10 + digit) rest
            (outcome, count + 1, remaining)
          else
            (total, 0, character :: rest)
      | none => (total, 0, character :: rest)

def startsWithDigit : List Char → Bool
  | character :: _ => character.isDigit
  | [] => false

def startsWithExponent : List Char → Bool
  | character :: _ => character = 'e' || character = 'E'
  | [] => false

/-! ## The parts of a number -/

def exponentLimit : Nat := 2 ^ 31

/-- The digits of an exponent after its sign. One that is too large makes a number zero or
puts it out of range. -/
def readExponentDigits (significand : Nat) (start : Int) (positive : Bool)
    (text : List Char) :
    Except Failure (Magnitude × List Char) :=
  if startsWithDigit text then
    let (exponent, _, rest) := takeDigits exponentLimit 0 text
    if startsWithDigit rest then
      if significand ≠ 0 ∧ positive then failAtNext .numberOutOfRange rest
      else .ok (.zero, rest.dropWhile Char.isDigit)
    else
      scaled significand (if positive then start + exponent else start - exponent) rest
  else
    match text with
    | [] => failBefore .endInValue []
    | _ => failAtNext .invalidNumber text

def readExponent (significand : Nat) (start : Int) (text : List Char) :
    Except Failure (Magnitude × List Char) :=
  match text with
  | '+' :: rest => readExponentDigits significand start true rest
  | '-' :: rest => readExponentDigits significand start false rest
  | rest => readExponentDigits significand start true rest

def readOptionalExponent (significand : Nat) (exponent : Int) (text : List Char) :
    Except Failure (Magnitude × List Char) :=
  if startsWithExponent text then readExponent significand exponent (text.drop 1)
  else scaled significand exponent text

def readFraction (significand : Nat) (start : Int) (text : List Char) :
    Except Failure (Magnitude × List Char) :=
  let (outcome, count, rest) := takeDigits (2 ^ 64) significand text
  if startsWithDigit rest then
    readOptionalExponent outcome (start - count) (rest.dropWhile Char.isDigit)
  else if count = 0 then
    failAtNext (if rest.isEmpty then .endInValue else .invalidNumber) rest
  else
    readOptionalExponent outcome (start - count) rest

def readFloatTail (significand : Nat) (exponent : Int) (text : List Char) :
    Except Failure (Magnitude × List Char) :=
  match text with
  | '.' :: rest => readFraction significand exponent rest
  | rest => readOptionalExponent significand exponent rest

/-- An integer with its sign: zero with a minus sign and negative numbers out of range are
no integers of 64 bits. -/
def integer (negative : Bool) (significand : Nat) : Number :=
  if !negative then .natural (UInt64.ofNat significand)
  else if 1 ≤ significand ∧ significand ≤ 2 ^ 63 then
    .negative (Int64.ofInt (-significand))
  else .float (.ofMagnitude? true (Magnitude.ofNat? significand))

def readAfterInteger (negative : Bool) (significand : Nat) (text : List Char) :
    Except Failure (Number × List Char) :=
  if text.head? = some '.' ∨ startsWithExponent text then
    (readFloatTail significand 0 text).map fun (magnitude, rest) =>
      (.float (.finite negative magnitude), rest)
  else
    .ok (integer negative significand, text)

def readNumber (negative : Bool) (text : List Char) :
    Except Failure (Number × List Char) :=
  match text with
  | [] => failBefore .endInValue []
  | '0' :: rest =>
      if startsWithDigit rest then failAtNext .invalidNumber rest
      else readAfterInteger negative 0 rest
  | text =>
      if startsWithDigit text then
        let (significand, _, rest) := takeDigits (2 ^ 64) 0 text
        if startsWithDigit rest then
          let more := rest.takeWhile Char.isDigit
          (readFloatTail significand more.length (rest.dropWhile Char.isDigit)).map
            fun (magnitude, rest) => (.float (.finite negative magnitude), rest)
        else
          readAfterInteger negative significand rest
      else
        failAtNext .invalidNumber text

end ScalarCell.Json
