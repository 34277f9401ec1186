import ScalarCell.Json.Lexeme

namespace ScalarCell.Json

/-! The punctuation of lists and objects between their values. -/

/-- What comes next in a container: its end, or a member. The rest begins with the closing
bracket or with the member. -/
inductive Next where
  | finish (rest : List Char)
  | member (rest : List Char)
deriving DecidableEq, Repr

def nextElement (first : Bool) (text : List Char) : Except Failure Next :=
  match skipBlank text with
  | [] => failAtNext .endInList []
  | character :: rest =>
      if character = ']' then .ok (.finish (character :: rest))
      else if first then .ok (.member (character :: rest))
      else if character = ',' then
        match skipBlank rest with
        | [] => failAtNext .endInValue []
        | character :: rest =>
            if character = ']' then failAtNext .trailingComma (character :: rest)
            else .ok (.member (character :: rest))
      else failAtNext .expectedCommaOrListEnd (character :: rest)

def nextQuote (text : List Char) : Except Failure Next :=
  match text with
  | [] => failAtNext .endInValue []
  | character :: rest =>
      if character = '"' then .ok (.member rest)
      else if character = '\x7d' then failAtNext .trailingComma (character :: rest)
      else failAtNext .keyMustBeString (character :: rest)

/-- The next key of an object, after a comma unless it is the first; the rest begins
behind its opening quote. -/
def nextKey (first : Bool) (text : List Char) : Except Failure Next :=
  match skipBlank text with
  | [] => failAtNext .endInObject []
  | character :: rest =>
      if character = '\x7d' then .ok (.finish (character :: rest))
      else if first then nextQuote (character :: rest)
      else if character = ',' then nextQuote (skipBlank rest)
      else failAtNext .expectedCommaOrObjectEnd (character :: rest)

def readColon (text : List Char) : Except Failure (List Char) :=
  match skipBlank text with
  | [] => failAtNext .endInObject []
  | character :: rest =>
      if character = ':' then .ok rest else failAtNext .expectedColon (character :: rest)

/-! ## Ends -/

def readListEnd (text : List Char) : Except Failure (List Char) :=
  match skipBlank text with
  | [] => failAtNext .endInList []
  | character :: rest =>
      if character = ']' then .ok rest
      else if character = ',' then
        match skipBlank rest with
        | character :: rest =>
            if character = ']' then failAtNext .trailingComma (character :: rest)
            else failAtNext .trailingCharacters (character :: rest)
        | [] => failAtNext .trailingCharacters []
      else failAtNext .trailingCharacters (character :: rest)

def closeList (text : List Char) : List Char :=
  match skipBlank text with
  | [] => []
  | character :: rest =>
      if character = ']' then rest
      else if character = ',' then skipBlank rest
      else character :: rest

def closeObject (text : List Char) : List Char :=
  match skipBlank text with
  | [] => []
  | character :: rest => if character = '\x7d' then rest else character :: rest

end ScalarCell.Json
