import ScalarCell.Json.Container

namespace ScalarCell.Json

/-! Passing over a value of any depth whose content nobody wants. Only its form matters, and
each function gives the rest of the text after it. -/

def skipExponent (text : List Char) : Except Failure (List Char) :=
  let digits :=
    match text with
    | '+' :: rest => rest
    | '-' :: rest => rest
    | rest => rest
  if startsWithDigit digits then .ok (digits.dropWhile Char.isDigit)
  else failAtNext .invalidNumber digits

def skipOptionalExponent (text : List Char) : Except Failure (List Char) :=
  if startsWithExponent text then skipExponent (text.drop 1) else .ok text

def skipNumberTail (text : List Char) : Except Failure (List Char) :=
  match text with
  | '.' :: rest =>
      if startsWithDigit rest then skipOptionalExponent (rest.dropWhile Char.isDigit)
      else failAtNext .invalidNumber rest
  | rest => skipOptionalExponent rest

def skipNumber (text : List Char) : Except Failure (List Char) :=
  match text with
  | '0' :: rest =>
      if startsWithDigit rest then failAtNext .invalidNumber rest else skipNumberTail rest
  | rest =>
      if startsWithDigit rest then skipNumberTail (rest.dropWhile Char.isDigit)
      else failAtNext .invalidNumber rest

mutual
def skipValueWith : (fuel : Nat) → List Char → Except Failure (List Char)
  | 0, text => failAtNext .endInValue text
  | fuel + 1, text =>
      match skipBlank text with
      | [] => failAtNext .endInValue []
      | character :: rest =>
          if character = 'n' then readWord ['u', 'l', 'l'] rest
          else if character = 't' then readWord ['r', 'u', 'e'] rest
          else if character = 'f' then readWord ['a', 'l', 's', 'e'] rest
          else if character = '-' then skipNumber rest
          else if character.isDigit then skipNumber (character :: rest)
          else if character = '"' then skipText rest
          else if character = '[' then skipElements fuel true rest
          else if character = '\x7b' then skipMembers fuel true rest
          else failAtNext .expectedValue (character :: rest)

def skipElements : (fuel : Nat) → (first : Bool) → List Char → Except Failure (List Char)
  | 0, _, text => failAtNext .endInList text
  | fuel + 1, first, text =>
      match skipBlank text with
      | [] => failAtNext .endInList []
      | character :: rest =>
          if character = ']' then .ok rest
          else if first || character = ',' then
            match skipValueWith fuel (if first then character :: rest else rest) with
            | .error failure => .error failure
            | .ok rest => skipElements fuel false rest
          else failAtNext .expectedCommaOrListEnd (character :: rest)

def skipMembers : (fuel : Nat) → (first : Bool) → List Char → Except Failure (List Char)
  | 0, _, text => failAtNext .endInObject text
  | fuel + 1, first, text =>
      match skipBlank text with
      | [] => failAtNext .endInObject []
      | character :: rest =>
          if character = '\x7d' then .ok rest
          else if first || character = ',' then
            match skipMember fuel (if first then character :: rest else rest) with
            | .error failure => .error failure
            | .ok rest => skipMembers fuel false rest
          else failAtNext .expectedCommaOrObjectEnd (character :: rest)

def skipMember : (fuel : Nat) → List Char → Except Failure (List Char)
  | 0, text => failAtNext .endInObject text
  | fuel + 1, text =>
      match skipBlank text with
      | [] => failAtNext .endInObject []
      | character :: rest =>
          if character = '"' then
            match skipText rest with
            | .error failure => .error failure
            | .ok rest =>
                match readColon rest with
                | .error failure => .error failure
                | .ok rest => skipValueWith fuel rest
          else failAtNext .keyMustBeString (character :: rest)
end

/-- The rest after a value. A call uses up a character or is followed by one that does. -/
def skipValue (text : List Char) : Except Failure (List Char) :=
  skipValueWith (3 * text.length + 3) text

end ScalarCell.Json
