namespace ScalarCell.Utf8

/-! UTF-8 as a relation between characters and bytes. Encoding is total; strict
decoding names the first byte sequence that is no character, and lenient decoding
puts the replacement character in its place. -/

def encode (characters : List Char) : List UInt8 :=
  characters.flatMap String.utf8EncodeChar

def size (characters : List Char) : Nat :=
  characters.foldl (fun total character => total + character.utf8Size) 0

/-! ## One character at a time -/

/-- A character of which some bytes were read: `read` bytes so far, whose payload
is `value`, with `owed` more to come, the next of them between `low` and `high`. -/
structure Pending where
  value : Nat
  owed : Nat
  low : UInt8
  high : UInt8
  read : Nat
deriving DecidableEq, Repr

inductive Step where
  | complete (character : Char)
  | more (pending : Pending)
  | reject
deriving DecidableEq, Repr

/-- The first byte of a character. The ranges for the second byte leave out
overlong forms, surrogates and everything above U+10FFFF. -/
def Step.ofLead (byte : UInt8) : Step :=
  if byte < 0x80 then
    .complete (Char.ofNat byte.toNat)
  else if byte < 0xC2 then
    .reject
  else if byte < 0xE0 then
    .more ⟨byte.toNat - 0xC0, 1, 0x80, 0xBF, 1⟩
  else if byte < 0xF0 then
    .more ⟨byte.toNat - 0xE0, 2, if byte = 0xE0 then 0xA0 else 0x80,
      if byte = 0xED then 0x9F else 0xBF, 1⟩
  else if byte < 0xF5 then
    .more ⟨byte.toNat - 0xF0, 3, if byte = 0xF0 then 0x90 else 0x80,
      if byte = 0xF4 then 0x8F else 0xBF, 1⟩
  else
    .reject

def Pending.step (pending : Pending) (byte : UInt8) : Step :=
  if pending.low ≤ byte ∧ byte ≤ pending.high then
    let value := pending.value * 64 + (byte.toNat - 0x80)
    if pending.owed ≤ 1 then
      .complete (Char.ofNat value)
    else
      .more ⟨value, pending.owed - 1, 0x80, 0xBF, pending.read + 1⟩
  else
    .reject

/-! ## Strict decoding -/

inductive Error where
  | invalid (length index : Nat)
  | incomplete (index : Nat)
deriving DecidableEq, Repr

def Error.message : Error → String
  | .invalid length index =>
      s!"invalid utf-8 sequence of {length} bytes from index {index}"
  | .incomplete index => s!"incomplete utf-8 byte sequence from index {index}"

def decodeFrom : (index : Nat) → Option Pending → List UInt8 → Except Error (List Char)
  | _, none, [] => .ok []
  | index, some _, [] => .error (.incomplete index)
  | index, none, byte :: rest =>
      match Step.ofLead byte with
      | .complete character => (decodeFrom (index + 1) none rest).map (character :: ·)
      | .more pending => decodeFrom index (some pending) rest
      | .reject => .error (.invalid 1 index)
  | index, some pending, byte :: rest =>
      match pending.step byte with
      | .complete character =>
          (decodeFrom (index + pending.read + 1) none rest).map (character :: ·)
      | .more next => decodeFrom index (some next) rest
      | .reject => .error (.invalid pending.read index)

def decode (bytes : List UInt8) : Except Error (List Char) :=
  decodeFrom 0 none bytes

/-! ## Lenient decoding -/

def replacement : Char := '\uFFFD'

/-- Lenient decoding in the middle of a text. A byte that breaks a character off
is looked at again as a first byte. -/
def decodeLossyFrom : Option Pending → List UInt8 → List Char
  | none, [] => []
  | some _, [] => [replacement]
  | none, byte :: rest =>
      match Step.ofLead byte with
      | .complete character => character :: decodeLossyFrom none rest
      | .more pending => decodeLossyFrom (some pending) rest
      | .reject => replacement :: decodeLossyFrom none rest
  | some pending, byte :: rest =>
      match pending.step byte with
      | .complete character => character :: decodeLossyFrom none rest
      | .more next => decodeLossyFrom (some next) rest
      | .reject =>
          replacement ::
            match Step.ofLead byte with
            | .complete character => character :: decodeLossyFrom none rest
            | .more next => decodeLossyFrom (some next) rest
            | .reject => replacement :: decodeLossyFrom none rest

def decodeLossy (bytes : List UInt8) : List Char :=
  decodeLossyFrom none bytes

end ScalarCell.Utf8
