import ScalarCell.Json.Failure

namespace ScalarCell.Json

/-! Strings of JSON. Writing escapes what has to be escaped and nothing else; reading also
takes the other escapes, among them pairs of surrogates. -/

/-! ## Writing -/

def escape (character : Char) : List Char :=
  if character = '"' then ['\\', '"']
  else if character = '\\' then ['\\', '\\']
  else if character = '\x08' then ['\\', 'b']
  else if character = '\x0c' then ['\\', 'f']
  else if character = '\n' then ['\\', 'n']
  else if character = '\r' then ['\\', 'r']
  else if character = '\t' then ['\\', 't']
  else if character.toNat < 0x20 then
    ['\\', 'u', '0', '0', Nat.digitChar (character.toNat / 16),
      Nat.digitChar (character.toNat % 16)]
  else [character]

def writeText (characters : List Char) : List Char :=
  '"' :: characters.flatMap escape ++ ['"']

/-! ## Escapes -/

def hexValue? (character : Char) : Option Nat :=
  if character.isDigit then some (character.toNat - '0'.toNat)
  else if 'a' ≤ character ∧ character ≤ 'f' then some (character.toNat - 'a'.toNat + 10)
  else if 'A' ≤ character ∧ character ≤ 'F' then some (character.toNat - 'A'.toNat + 10)
  else none

def hexUnit? (first second third fourth : Char) : Option Nat := do
  let first ← hexValue? first
  let second ← hexValue? second
  let third ← hexValue? third
  let fourth ← hexValue? fourth
  return ((first * 16 + second) * 16 + third) * 16 + fourth

def shortEscape? (mark : Char) : Option Char :=
  if mark = '"' then some '"'
  else if mark = '\\' then some '\\'
  else if mark = '/' then some '/'
  else if mark = 'b' then some '\x08'
  else if mark = 'f' then some '\x0c'
  else if mark = 'n' then some '\n'
  else if mark = 'r' then some '\r'
  else if mark = 't' then some '\t'
  else none

def isLeadingSurrogate (unit : Nat) : Bool :=
  0xD800 ≤ unit && unit ≤ 0xDBFF

def isTrailingSurrogate (unit : Nat) : Bool :=
  0xDC00 ≤ unit && unit ≤ 0xDFFF

def joinSurrogates (leading trailing : Nat) : Char :=
  Char.ofNat (0x10000 + (leading - 0xD800) * 0x400 + (trailing - 0xDC00))

def failHex {α : Type} (text : List Char) : Except Failure α :=
  if Utf8.size (text.take 4) < 4 then failBefore .endInString []
  else .error (.located (.form .invalidEscape) (Utf8.size text - 4))

/-! ## Reading -/

def prepend (character : Char) :
    Except Failure (List Char × List Char) → Except Failure (List Char × List Char)
  | .ok (characters, rest) => .ok (character :: characters, rest)
  | .error failure => .error failure

def readText : List Char → Except Failure (List Char × List Char)
  | [] => failBefore .endInString []
  | character :: rest =>
      if character = '"' then .ok ([], rest)
      else if character = '\\' then
        match rest with
        | [] => failBefore .endInString []
        | mark :: rest =>
            if mark = 'u' then
              match rest with
              | first :: second :: third :: fourth :: rest =>
                  match hexUnit? first second third fourth with
                  | none => failHex (first :: second :: third :: fourth :: rest)
                  | some unit =>
                      if isTrailingSurrogate unit then
                        failBefore .loneLeadingSurrogate rest
                      else if isLeadingSurrogate unit then
                        match rest with
                        | '\\' :: 'u' :: first :: second :: third :: fourth :: rest =>
                            match hexUnit? first second third fourth with
                            | none => failHex (first :: second :: third :: fourth :: rest)
                            | some trailing =>
                                if isTrailingSurrogate trailing then
                                  prepend (joinSurrogates unit trailing) (readText rest)
                                else
                                  failBefore .loneLeadingSurrogate rest
                        | '\\' :: 'u' :: rest => failHex rest
                        | '\\' :: [] => failBefore .endInString []
                        | '\\' :: rest => failAtNext .unfinishedSurrogatePair rest
                        | [] => failBefore .endInString []
                        | rest => failAtNext .unfinishedSurrogatePair rest
                      else
                        prepend (Char.ofNat unit) (readText rest)
              | short => failHex short
            else
              match shortEscape? mark with
              | some character => prepend character (readText rest)
              | none => failAtNext .invalidEscape (mark :: rest)
      else if character.toNat < 0x20 then failBefore .controlCharacter rest
      else prepend character (readText rest)

/-! ## Passing over

A string that nobody wants only has to end; its surrogates need not be paired. -/

def skipText : List Char → Except Failure (List Char)
  | [] => failBefore .endInString []
  | character :: rest =>
      if character = '"' then .ok rest
      else if character = '\\' then
        match rest with
        | [] => failBefore .endInString []
        | mark :: rest =>
            if mark = 'u' then
              match rest with
              | first :: second :: third :: fourth :: rest =>
                  match hexUnit? first second third fourth with
                  | none => failHex (first :: second :: third :: fourth :: rest)
                  | some _ => skipText rest
              | short => failHex short
            else
              match shortEscape? mark with
              | some _ => skipText rest
              | none => failAtNext .invalidEscape (mark :: rest)
      else if character.toNat < 0x20 then failBefore .controlCharacter (character :: rest)
      else skipText rest

end ScalarCell.Json
