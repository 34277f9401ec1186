namespace ScalarCell.Digits

/-! Runs of decimal digits at the start of a byte sequence. -/

def digit? (byte : UInt8) : Option Nat :=
  if 0x30 ≤ byte ∧ byte ≤ 0x39 then some (byte.toNat - 0x30) else none

def value (digits : List Nat) : Nat :=
  digits.foldl (fun total digit => total * 10 + digit) 0

def takeUpTo : (limit : Nat) → List UInt8 → List Nat × List UInt8
  | 0, bytes => ([], bytes)
  | _ + 1, [] => ([], [])
  | limit + 1, byte :: rest =>
      match digit? byte with
      | some digit =>
          let (digits, remaining) := takeUpTo limit rest
          (digit :: digits, remaining)
      | none => ([], byte :: rest)

def takeAll : List UInt8 → List Nat × List UInt8
  | [] => ([], [])
  | byte :: rest =>
      match digit? byte with
      | some digit =>
          let (digits, remaining) := takeAll rest
          (digit :: digits, remaining)
      | none => ([], byte :: rest)

def exactly? (count : Nat) (bytes : List UInt8) : Option (Nat × List UInt8) :=
  let (digits, remaining) := takeUpTo count bytes
  if digits.length = count then some (value digits, remaining) else none

def upTo? (limit : Nat) (bytes : List UInt8) : Option (Nat × List UInt8) :=
  let (digits, remaining) := takeUpTo limit bytes
  if digits.isEmpty then none else some (value digits, remaining)

def nanoseconds (digits : List Nat) : Nat :=
  value ((digits ++ List.replicate 9 0).take 9)

def fraction? (bytes : List UInt8) : Option (Nat × List UInt8) :=
  let (digits, remaining) := takeAll bytes
  if digits.isEmpty then none else some (nanoseconds digits, remaining)

end ScalarCell.Digits
