import ScalarCell.Json.Decode
import ScalarCell.Json.Encode
import ScalarCell.Json.Skip

namespace ScalarCell

/-! A customer row: one cell of a scalar type for each field. It shows how cells behave as
the members of a JSON object. What an absent member is, its type decides as it does for a
token without a value. -/

inductive CustomerField where
  | name
  | age
  | balance
  | active
  | lastSeen
deriving DecidableEq, Repr

namespace CustomerField

def all : List CustomerField :=
  [.name, .age, .balance, .active, .lastSeen]

@[reducible] def type : CustomerField → ScalarType
  | .name => .string
  | .age => .int64
  | .balance => .float64
  | .active => .bool
  | .lastSeen => .time

def key : CustomerField → String
  | .name => "name"
  | .age => "age"
  | .balance => "balance"
  | .active => "active"
  | .lastSeen => "last_seen"

def ofKey? (key : String) : Option CustomerField :=
  all.find? fun field => field.key = key

end CustomerField

structure Customer where
  cell : (field : CustomerField) → Cell field.type

structure PartialCustomer where
  cell? : (field : CustomerField) → Option (Cell field.type)

namespace PartialCustomer

def empty : PartialCustomer :=
  ⟨fun _ => none⟩

def set (customer : PartialCustomer) (field : CustomerField) (cell : Cell field.type) :
    PartialCustomer where
  cell? other := if same : field = other then some (same ▸ cell) else customer.cell? other

def cell (customer : PartialCustomer) (field : CustomerField) :
    Except DecodeProblem (Cell field.type) :=
  match customer.cell? field with
  | some cell => .ok cell
  | none => Cell.ofToken field.type .none

def complete (customer : PartialCustomer) : Except DecodeProblem Customer := do
  let name ← customer.cell .name
  let age ← customer.cell .age
  let balance ← customer.cell .balance
  let active ← customer.cell .active
  let lastSeen ← customer.cell .lastSeen
  return ⟨fun
    | .name => name
    | .age => age
    | .balance => balance
    | .active => active
    | .lastSeen => lastSeen⟩

end PartialCustomer

namespace Json

/-! ## From text -/

def readCustomerElements : (fields : List CustomerField) → (count : Nat) →
    PartialCustomer → List Char → Except Failure (Customer × List Char)
  | [], _, customer, text =>
      match customer.complete with
      | .error problem => refuse problem text
      | .ok customer => (readListEnd text).map fun rest => (customer, rest)
  | field :: fields, count, customer, text =>
      match nextElement (count == 0) text with
      | .error failure => .error failure
      | .ok (.finish rest) => refuse (.tooFewElements count) rest
      | .ok (.member rest) =>
          match readCell field.type rest with
          | .error failure => .error failure
          | .ok (cell, rest) =>
              readCustomerElements fields (count + 1) (customer.set field cell) rest

/-- The fields from the members of an object, whichever are there. A field may be given
once; members of other names are passed over. -/
def readCustomerMembers : (fuel : Nat) → (first : Bool) → PartialCustomer → List Char →
    Except Failure (Customer × List Char)
  | 0, _, _, text => failAtNext .endInObject text
  | fuel + 1, first, customer, text =>
      match nextKey first text with
      | .error failure => .error failure
      | .ok (.finish rest) =>
          match customer.complete with
          | .error problem => refuse problem rest
          | .ok customer => .ok (customer, rest.drop 1)
      | .ok (.member rest) =>
          match readText rest with
          | .error failure => .error failure
          | .ok (key, rest) =>
              match CustomerField.ofKey? (String.ofList key) with
              | some field =>
                  if (customer.cell? field).isSome then
                    refuse (.duplicateField field.key) rest
                  else
                    match readColon rest with
                    | .error failure => .error failure
                    | .ok rest =>
                        match readCell field.type rest with
                        | .error failure => .error failure
                        | .ok (cell, rest) =>
                            readCustomerMembers fuel false (customer.set field cell) rest
              | none =>
                  match readColon rest with
                  | .error failure => .error failure
                  | .ok rest =>
                      match skipValue rest with
                      | .error failure => .error failure
                      | .ok rest => readCustomerMembers fuel false customer rest

def readCustomer (text : List Char) : Except Failure (Customer × List Char) :=
  match readLexeme text with
  | .error failure => .error failure
  | .ok (.scalar value, rest) =>
      refuseBefore (.invalidType value.unexpected .customer) rest
  | .ok (.openList, rest) =>
      (readCustomerElements CustomerField.all 0 .empty rest).mapError
        (Failure.locate closeList)
  | .ok (.openObject, rest) =>
      (readCustomerMembers (rest.length + 1) true .empty rest).mapError
        (Failure.locate closeObject)

def decodeCustomer (text : String) : Except DecodeError Customer :=
  decodeText readCustomer text

/-! ## From values -/

def customerOfElements (total : Nat) : (fields : List CustomerField) → (count : Nat) →
    PartialCustomer → Elements → Except DecodeProblem Customer
  | [], _, customer, .nil => customer.complete
  | [], _, _, .cons _ _ => .error (.tooManyElements total)
  | _ :: _, count, _, .nil => .error (.tooFewElements count)
  | field :: fields, count, customer, .cons head tail =>
      match cellOfValue field.type head with
      | .error problem => .error problem
      | .ok cell => customerOfElements total fields (count + 1)
          (customer.set field cell) tail

def customerOfMembers : PartialCustomer → Members → Except DecodeProblem Customer
  | customer, .nil => customer.complete
  | customer, .cons key value tail =>
      match CustomerField.ofKey? key with
      | none => customerOfMembers customer tail
      | some field =>
          match cellOfValue field.type value with
          | .error problem => .error problem
          | .ok cell => customerOfMembers (customer.set field cell) tail

def customerOfValue : Value → Except DecodeProblem Customer
  | .scalar value => .error (.invalidType value.unexpected .customer)
  | .list elements =>
      customerOfElements elements.length CustomerField.all 0 .empty elements
  | .object members => customerOfMembers .empty members

def decodeCustomerByValue (text : String) : Except DecodeError Customer :=
  match decodeValue text with
  | .error error => .error error
  | .ok value => (customerOfValue value).mapError unplaced

/-! ## To text -/

def writeFields (customer : Customer) :
    List CustomerField → Except EncodeProblem (List Char)
  | [] => .ok []
  | field :: fields =>
      match writeCell (customer.cell field) with
      | .error problem => .error problem
      | .ok characters =>
          let member := writeText field.key.toList ++ ':' :: characters
          match fields with
          | [] => .ok member
          | _ => (writeFields customer fields).map (member ++ ',' :: ·)

def encodeCustomer (customer : Customer) : Except EncodeProblem String :=
  (writeFields customer CustomerField.all).map fun characters =>
    String.ofList ('\x7b' :: characters ++ ['\x7d'])

end Json

end ScalarCell
