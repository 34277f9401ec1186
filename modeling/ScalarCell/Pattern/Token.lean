namespace ScalarCell.Pattern

/-! The pieces that a written pattern falls into. Outside brackets everything up to the
next opening bracket is literal; inside, blank space and words alternate. Positions
count bytes. -/

inductive Token where
  | literal (text : List Char)
  | opening (position : Nat)
  | closing (position : Nat)
  | blank (text : List Char) (start last : Nat)
  | word (text : List Char) (start last : Nat)
deriving DecidableEq, Repr

def isBlank (character : Char) : Bool :=
  character = ' ' || character = '\t' || character = '\n' || character = '\x0c' ||
    character = '\r'

def Token.addLiteral (character : Char) : List Token → List Token
  | .literal text :: rest => .literal (character :: text) :: rest
  | tokens => .literal [character] :: tokens

def Token.addBlank (character : Char) (position : Nat) : List Token → List Token
  | .blank text _ last :: rest => .blank (character :: text) position last :: rest
  | tokens => .blank [character] position position :: tokens

def Token.addToWord (character : Char) (position : Nat) (tokens : List Token) :
    List Token :=
  let last := position + character.utf8Size - 1
  match tokens with
  | .word text start wordLast :: rest =>
      if text.head? = some '\\' then
        .word [character] position last :: .word text start wordLast :: rest
      else
        .word (character :: text) position wordLast :: rest
  | tokens => .word [character] position last :: tokens

/-- The pieces from a position on, inside so many brackets. Two opening brackets in a row
open nothing. -/
def tokensFrom : (depth position : Nat) → List Char → List Token
  | _, _, [] => []
  | depth, position, '[' :: '[' :: rest =>
      .opening position :: .opening (position + 1) :: tokensFrom depth (position + 2) rest
  | depth, position, character :: rest =>
      let next := position + character.utf8Size
      if character = '[' then
        .opening position :: tokensFrom (depth + 1) next rest
      else if depth = 0 then
        Token.addLiteral character (tokensFrom depth next rest)
      else if character = ']' then
        .closing position :: tokensFrom (depth - 1) next rest
      else if isBlank character then
        Token.addBlank character position (tokensFrom depth next rest)
      else
        Token.addToWord character position (tokensFrom depth next rest)

def tokens (pattern : List Char) : List Token :=
  tokensFrom 0 0 pattern

end ScalarCell.Pattern
