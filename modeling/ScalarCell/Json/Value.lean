import ScalarCell.Json.Container

namespace ScalarCell.Json

/-! Whole JSON values. The members of an object are kept in the order of their keys, and
of members with the same key the last one counts. -/

mutual
inductive Value where
  | scalar (value : Scalar)
  | list (elements : Elements)
  | object (members : Members)

inductive Elements where
  | nil
  | cons (head : Value) (tail : Elements)

inductive Members where
  | nil
  | cons (key : String) (value : Value) (tail : Members)
end

deriving instance Repr for Value
deriving instance Repr for Elements
deriving instance Repr for Members

instance : Inhabited Value := ⟨.scalar .null⟩

def Elements.length : Elements → Nat
  | .nil => 0
  | .cons _ tail => tail.length + 1

def Members.addIfAbsent (key : String) (value : Value) : Members → Members
  | .nil => .cons key value .nil
  | .cons other otherValue tail =>
      if key = other then .cons other otherValue tail
      else if key < other then .cons key value (.cons other otherValue tail)
      else .cons other otherValue (tail.addIfAbsent key value)

/-! ## Writing -/

mutual
def Value.write : Value → List Char
  | .scalar value => value.write
  | .list elements => '[' :: elements.write ++ [']']
  | .object members => '\x7b' :: members.write ++ ['\x7d']

def Elements.write : Elements → List Char
  | .nil => []
  | .cons head .nil => head.write
  | .cons head tail => head.write ++ ',' :: tail.write

def Members.write : Members → List Char
  | .nil => []
  | .cons key value .nil => writeText key.toList ++ ':' :: value.write
  | .cons key value tail =>
      writeText key.toList ++ ':' :: value.write ++ ',' :: tail.write
end

/-! ## Reading

Containers may be nested up to a limit; `depth` is one more than the number of levels that
may still be opened. -/

mutual
def readValueWith : (fuel depth : Nat) → List Char → Except Failure (Value × List Char)
  | 0, _, text => failAtNext .endInValue text
  | fuel + 1, depth, text =>
      match readLexeme text with
      | .error failure => .error failure
      | .ok (.scalar value, rest) => .ok (.scalar value, rest)
      | .ok (.openList, rest) =>
          if depth ≤ 1 then failBefore .recursionLimit rest
          else
            (readElements fuel (depth - 1) true rest).map fun (elements, rest) =>
              (.list elements, rest)
      | .ok (.openObject, rest) =>
          if depth ≤ 1 then failBefore .recursionLimit rest
          else
            (readMembers fuel (depth - 1) true rest).map fun (members, rest) =>
              (.object members, rest)

def readElements : (fuel depth : Nat) → (first : Bool) → List Char →
    Except Failure (Elements × List Char)
  | 0, _, _, text => failAtNext .endInList text
  | fuel + 1, depth, first, text =>
      match nextElement first text with
      | .error failure => .error failure
      | .ok (.finish rest) => .ok (.nil, rest.drop 1)
      | .ok (.member rest) =>
          match readValueWith fuel depth rest with
          | .error failure => .error failure
          | .ok (head, rest) =>
              (readElements fuel depth false rest).map fun (tail, rest) =>
                (.cons head tail, rest)

def readMembers : (fuel depth : Nat) → (first : Bool) → List Char →
    Except Failure (Members × List Char)
  | 0, _, _, text => failAtNext .endInObject text
  | fuel + 1, depth, first, text =>
      match nextKey first text with
      | .error failure => .error failure
      | .ok (.finish rest) => .ok (.nil, rest.drop 1)
      | .ok (.member rest) =>
          match readText rest with
          | .error failure => .error failure
          | .ok (key, rest) =>
              match readColon rest with
              | .error failure => .error failure
              | .ok rest =>
                  match readValueWith fuel depth rest with
                  | .error failure => .error failure
                  | .ok (value, rest) =>
                      (readMembers fuel depth false rest).map fun (tail, rest) =>
                        (tail.addIfAbsent (String.ofList key) value, rest)
end

def depthLimit : Nat := 128

def readValue (text : List Char) : Except Failure (Value × List Char) :=
  readValueWith (2 * text.length + 2) depthLimit text

end ScalarCell.Json
