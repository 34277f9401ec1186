import ScalarCell.Customer
import ScalarCell.Proofs.Json.Alone

namespace ScalarCell.Json

/-! A customer from an object. Each of its fields is decoded from the member of its name as
from a document of its own, and what other members hold makes no difference. -/

/-! ## Objects -/

/-- A member as it stands in an object: a key that decodes to a string and any value, with
blank space around both. -/
structure Member where
  key : String
  value : List Char
  keyText : List Char
  beforeKey : List Char
  afterKey : List Char
  beforeValue : List Char
  afterValue : List Char
  spells : Spells keyText key.toList
  isValue : ValueText value
  blankBeforeKey : AllBlank beforeKey
  blankAfterKey : AllBlank afterKey
  blankBeforeValue : AllBlank beforeValue
  blankAfterValue : AllBlank afterValue

def Member.text (member : Member) : List Char :=
  member.beforeKey ++
    '"' :: (member.keyText ++ '"' :: (member.afterKey ++
      ':' :: (member.beforeValue ++ (member.value ++ member.afterValue))))

def Member.compact (key : String) {keyText value : List Char}
    (spells : Spells keyText key.toList) (isValue : ValueText value) : Member where
  key := key
  value := value
  keyText := keyText
  beforeKey := []
  afterKey := []
  beforeValue := []
  afterValue := []
  spells := spells
  isValue := isValue
  blankBeforeKey := allBlank_nil
  blankAfterKey := allBlank_nil
  blankBeforeValue := allBlank_nil
  blankAfterValue := allBlank_nil

def membersText (first : Bool) : List Member → List Char
  | [] => []
  | member :: others => asElement first member.text ++ membersText false others

/-- An object as it stands in a document, with blank space around it and behind the bracket
that opens it. -/
structure ObjectText where
  members : List Member
  before : List Char
  inside : List Char
  after : List Char
  blankBefore : AllBlank before
  blankInside : AllBlank inside
  blankAfter : AllBlank after

def ObjectText.document (object : ObjectText) : String :=
  String.ofList (object.before ++
    '\x7b' :: (object.inside ++ (membersText true object.members ++ '\x7d' :: object.after)))

end ScalarCell.Json

namespace ScalarCell

theorem CustomerField.ofKey?_eq_some_iff {key : String} {field : CustomerField} :
    ofKey? key = some field ↔ key = field.key := by
  constructor
  · intro found
    have same := List.find?_some found
    exact (of_decide_eq_true same).symm
  · rintro rfl
    cases field <;> decide

theorem CustomerField.key_injective {field other : CustomerField}
    (same : field.key = other.key) : field = other := by
  have found := ofKey?_eq_some_iff.mpr same
  rw [ofKey?_eq_some_iff.mpr rfl] at found
  exact Option.some.inj found

namespace PartialCustomer

variable {customer : PartialCustomer} {field other : CustomerField} {cell : Cell field.type}

/-- Every type decodes a member that is not there, and to its null. -/
theorem cell_eq (customer : PartialCustomer) (field : CustomerField) :
    customer.cell field = .ok ((customer.cell? field).getD (.null field.type)) := by
  rw [PartialCustomer.cell]
  cases customer.cell? field with
  | some cell => rfl
  | none => rfl

theorem complete_eq (customer : PartialCustomer) :
    customer.complete =
      .ok ⟨fun field => (customer.cell? field).getD (.null field.type)⟩ := by
  simp only [complete, cell_eq]
  refine congrArg (fun cell => Except.ok (Customer.mk cell)) (funext fun field => ?_)
  cases field with
  | name | age | balance | active | lastSeen => rfl

theorem cell_of_complete {result : Customer} (completed : customer.complete = .ok result)
    (field : CustomerField) :
    result.cell field = (customer.cell? field).getD (.null field.type) := by
  rw [complete_eq] at completed
  cases completed
  rfl

theorem cell?_set_same : (customer.set field cell).cell? field = some cell := by
  simp [set]

theorem cell?_set_other (differs : field ≠ other) :
    (customer.set field cell).cell? other = customer.cell? other := by
  simp [set, differs]

end PartialCustomer

/-! ## One member -/

def PartialCustomer.take? (customer : PartialCustomer) (member : Json.Member) :
    Option PartialCustomer :=
  match CustomerField.ofKey? member.key with
  | some field =>
      (Json.decodeCell field.type (String.ofList member.value)).toOption.map
        (customer.set field)
  | none => some customer

namespace PartialCustomer

variable {customer next : PartialCustomer} {member : Json.Member}
  {field other : CustomerField}

theorem take?_eq_some_iff :
    customer.take? member = some next ↔
      (∀ field : CustomerField, member.key ≠ field.key) ∧ next = customer ∨
        ∃ (field : CustomerField) (cell : Cell field.type), member.key = field.key ∧
          Json.decodeCell field.type (String.ofList member.value) = .ok cell ∧
          next = customer.set field cell := by
  rw [take?]
  cases found : CustomerField.ofKey? member.key with
  | none =>
      have noField (field : CustomerField) : member.key ≠ field.key := by
        intro same
        rw [CustomerField.ofKey?_eq_some_iff.mpr same] at found
        cases found
      simp [noField, eq_comm]
  | some field =>
      have same := CustomerField.ofKey?_eq_some_iff.mp found
      constructor
      · intro taken
        rcases Option.map_eq_some_iff.mp taken with ⟨cell, decoded, rfl⟩
        exact .inr ⟨field, cell, same, toOption_eq_some_iff.mp decoded, rfl⟩
      · rintro (⟨noField, -⟩ | ⟨other, cell, is, decoded, rfl⟩)
        · exact absurd same (noField field)
        · cases CustomerField.key_injective (same.symm.trans is)
          simp only [decoded]
          rfl

theorem cell?_of_take? (taken : customer.take? member = some next)
    (differs : member.key ≠ other.key) : next.cell? other = customer.cell? other := by
  rcases take?_eq_some_iff.mp taken with ⟨-, rfl⟩ | ⟨field, cell, is, -, rfl⟩
  · rfl
  · exact cell?_set_other fun same => differs (same ▸ is)

theorem exists_cell?_of_take? (taken : customer.take? member = some next)
    (is : member.key = field.key) :
    ∃ cell, Json.decodeCell field.type (String.ofList member.value) = .ok cell ∧
      next.cell? field = some cell := by
  rcases take?_eq_some_iff.mp taken with ⟨noField, -⟩ | ⟨found, cell, same, decoded, rfl⟩
  · exact absurd is (noField field)
  · cases CustomerField.key_injective (is.symm.trans same)
    exact ⟨cell, decoded, cell?_set_same⟩

theorem exists_take? (decodes : ∀ field : CustomerField, member.key = field.key →
      ∃ cell, Json.decodeCell field.type (String.ofList member.value) = .ok cell) :
    ∃ next, customer.take? member = some next := by
  by_cases known : ∃ field : CustomerField, member.key = field.key
  · rcases known with ⟨field, is⟩
    rcases decodes field is with ⟨cell, decoded⟩
    exact ⟨_, take?_eq_some_iff.mpr (.inr ⟨field, cell, is, decoded, rfl⟩)⟩
  · have noField := not_exists.mp known
    exact ⟨customer, take?_eq_some_iff.mpr (.inl ⟨noField, rfl⟩)⟩

end PartialCustomer

namespace Json

variable {rest : List Char} {member : Member} {customer : PartialCustomer} {fuel : Nat}
  {first : Bool}

theorem nextKey_asElement {before : List Char} (first : Bool) (blankBefore : AllBlank before)
    (text : List Char) :
    nextKey first (asElement first (before ++ '"' :: text)) = .ok (.member text) := by
  have quote : skipBlank ('"' :: text) = '"' :: text := rfl
  rw [nextKey]
  cases first with
  | true =>
      rw [asElement, if_pos rfl, skipBlank_append blankBefore, quote]
      rfl
  | false =>
      have comma (text : List Char) : skipBlank (',' :: text) = ',' :: text := rfl
      rw [asElement, if_neg Bool.false_ne_true, comma]
      simp only [skipBlank_append blankBefore, quote]
      rfl

theorem readCustomerMembers_blank {blank : List Char} (allBlank : AllBlank blank)
    (text : List Char) :
    readCustomerMembers (fuel + 1) first customer (blank ++ text) =
      readCustomerMembers (fuel + 1) first customer text := by
  have key : nextKey first (blank ++ text) = nextKey first text := by
    rw [nextKey, skipBlank_append allBlank, nextKey]
  rw [readCustomerMembers, key, readCustomerMembers]

/-- A member that is no field yet goes to its field, or to nothing, and the others are left. -/
theorem readCustomerMembers_member (first : Bool)
    (fresh : ∀ field, member.key = field.key → customer.cell? field = none)
    (ends : EndsValue rest) :
    (readCustomerMembers (fuel + 1) first customer
        (asElement first (member.text ++ rest))).toOption =
      (customer.take? member).bind fun customer =>
        (readCustomerMembers fuel false customer (member.afterValue ++ rest)).toOption := by
  have endsAfter := ends.append member.blankAfterValue
  have key := nextKey_asElement first member.blankBeforeKey
  have keyText := readText_of_spells member.spells
  have colon := readColon_append member.blankAfterKey
  rw [Member.text]
  simp only [List.append_assoc, List.cons_append]
  rw [readCustomerMembers, PartialCustomer.take?]
  simp only [key, keyText, colon, String.ofList_toList]
  cases found : CustomerField.ofKey? member.key with
  | none =>
      simp only [member.isValue.skipValue_append member.blankBeforeValue endsAfter]
      rfl
  | some field =>
      have empty := fresh field (CustomerField.ofKey?_eq_some_iff.mp found)
      simp only [empty, Option.isSome_none, Bool.false_eq_true, if_false,
        readCell_blank member.blankBeforeValue]
      have alone (cell : Cell field.type) (after : List Char) :=
        @ValueText.readCell_append_iff _ _ cell _ after member.isValue endsAfter
      cases decoded : decodeCell field.type (String.ofList member.value) with
      | ok cell =>
          simp only [(alone cell _).mpr ⟨decoded, rfl⟩]
          rfl
      | error error =>
          cases read : readCell field.type (member.value ++ (member.afterValue ++ rest)) with
          | error failure => rfl
          | ok outcome =>
              rw [((alone outcome.1 outcome.2).mp read).1] at decoded
              cases decoded

/-! ## All members -/

theorem readCustomerMembers_membersText {members : List Member}
    (distinct : (members.map Member.key).Nodup)
    (fresh : ∀ member ∈ members, ∀ field : CustomerField,
      member.key = field.key → customer.cell? field = none)
    (enough : members.length < fuel) :
    (readCustomerMembers fuel first customer
        (membersText first members ++ '\x7d' :: rest)).toOption =
      (members.foldlM PartialCustomer.take? customer).bind fun customer =>
        customer.complete.toOption.map fun customer => (customer, rest) := by
  -- A field that is filled refuses its member. As no key comes twice, none of those that are
  -- still to come is filled by the ones before.
  induction members generalizing fuel first customer with
  | nil =>
      obtain ⟨fuel, rfl⟩ := Nat.exists_eq_add_of_le' (show 1 ≤ fuel by omega)
      have closes : nextKey first ('\x7d' :: rest) = .ok (.finish ('\x7d' :: rest)) := by
        rw [nextKey]
        rfl
      rw [membersText, List.nil_append, readCustomerMembers, closes, List.foldlM_nil]
      simp only [PartialCustomer.complete_eq]
      rfl
  | cons member others induction =>
      rw [List.length_cons] at enough
      obtain ⟨fuel, rfl⟩ := Nat.exists_eq_add_of_le' (show 2 ≤ fuel by omega)
      have ends : EndsValue (membersText false others ++ '\x7d' :: rest) := by
        cases others with
        | nil => exact endsValue_objectEnd rest
        | cons next others => exact endsValue_comma _
      rw [membersText, List.append_assoc, asElement_append,
        readCustomerMembers_member first (fresh member List.mem_cons_self) ends,
        List.foldlM_cons]
      cases taken : customer.take? member with
      | none => rfl
      | some next =>
          rcases List.nodup_cons.mp distinct with ⟨notMember, distinct⟩
          have stillFresh : ∀ other ∈ others, ∀ field : CustomerField,
              other.key = field.key → next.cell? field = none := by
            intro other isOther field is
            have differs : member.key ≠ field.key := fun same =>
              notMember (same.trans is.symm ▸ List.mem_map_of_mem isOther)
            rw [PartialCustomer.cell?_of_take? taken differs]
            exact fresh other (List.mem_cons_of_mem _ isOther) field is
          simp only [Option.bind_some, readCustomerMembers_blank member.blankAfterValue]
          exact induction distinct stillFresh (by omega)

end Json

namespace PartialCustomer

variable {customer result : PartialCustomer} {members : List Json.Member}
  {member : Json.Member} {field : CustomerField}

/-! ## What the members leave -/

theorem cell?_of_foldlM (taken : members.foldlM take? customer = some result)
    (absent : ∀ member ∈ members, member.key ≠ field.key) :
    result.cell? field = customer.cell? field := by
  induction members generalizing customer with
  | nil =>
      cases taken
      rfl
  | cons first others induction =>
      rw [List.foldlM_cons] at taken
      rcases Option.bind_eq_some_iff.mp taken with ⟨next, takes, taken⟩
      rcases List.forall_mem_cons.mp absent with ⟨notFirst, absent⟩
      rw [induction taken absent, cell?_of_take? takes notFirst]

theorem exists_cell?_of_foldlM (distinct : (members.map Json.Member.key).Nodup)
    (taken : members.foldlM take? customer = some result) (isMember : member ∈ members)
    (is : member.key = field.key) :
    ∃ cell, Json.decodeCell field.type (String.ofList member.value) = .ok cell ∧
      result.cell? field = some cell := by
  induction members generalizing customer with
  | nil => cases isMember
  | cons first others induction =>
      rw [List.foldlM_cons] at taken
      rcases Option.bind_eq_some_iff.mp taken with ⟨next, takes, othersTaken⟩
      rcases List.nodup_cons.mp distinct with ⟨notMember, distinct⟩
      rcases List.mem_cons.mp isMember with rfl | isMember
      · rcases exists_cell?_of_take? takes is with ⟨cell, decoded, held⟩
        have absent : ∀ other ∈ others, other.key ≠ field.key := fun other isOther same =>
          notMember (is.trans same.symm ▸ List.mem_map_of_mem isOther)
        exact ⟨cell, decoded, (cell?_of_foldlM othersTaken absent).trans held⟩
      · exact induction distinct othersTaken isMember

theorem exists_foldlM (decodes : ∀ member ∈ members, ∀ field : CustomerField,
      member.key = field.key →
        ∃ cell, Json.decodeCell field.type (String.ofList member.value) = .ok cell) :
    ∃ result, members.foldlM take? customer = some result := by
  induction members generalizing customer with
  | nil => exact ⟨customer, rfl⟩
  | cons first others induction =>
      rcases List.forall_mem_cons.mp decodes with ⟨decodesFirst, decodes⟩
      rcases exists_take? decodesFirst with ⟨next, takes⟩
      rcases @induction next decodes with ⟨result, taken⟩
      exact ⟨result, by rw [List.foldlM_cons, takes]; exact taken⟩

end PartialCustomer

/-! ## Whole documents -/

namespace Json

theorem length_le_membersText (first : Bool) (members : List Member) :
    members.length ≤ (membersText first members).length := by
  induction members generalizing first with
  | nil => exact Nat.zero_le _
  | cons member others induction =>
      have tail := induction false
      have nonempty : 0 < (asElement first member.text).length := by
        cases first with
        | true =>
            simp only [asElement, if_true, Member.text, List.length_append, List.length_cons]
            omega
        | false => exact Nat.succ_pos _
      rw [membersText, List.length_append, List.length_cons]
      omega

theorem readCustomer_object {before content : List Char} (blankBefore : AllBlank before) :
    (readCustomer (before ++ '\x7b' :: content)).toOption =
      (readCustomerMembers (content.length + 1) true .empty content).toOption := by
  have opened : readLexeme (before ++ '\x7b' :: content) = .ok (.openObject, content) := by
    rw [← readLexeme_skipBlank, skipBlank_append blankBefore]
    rfl
  rw [readCustomer, opened]
  simp only
  cases readCustomerMembers (content.length + 1) true .empty content with
  | ok outcome => rfl
  | error failure => rfl

theorem decodeCustomer_document {object : ObjectText} {customer : Customer}
    (distinct : (object.members.map Member.key).Nodup) :
    decodeCustomer object.document = .ok customer ↔
      ∃ result, object.members.foldlM PartialCustomer.take? .empty = some result ∧
        result.complete = .ok customer := by
  have longEnough := length_le_membersText true object.members
  have enough : object.members.length <
      (object.inside ++ (membersText true object.members ++
        '\x7d' :: object.after)).length + 1 := by
    simp only [List.length_append]
    omega
  have fresh : ∀ member ∈ object.members, ∀ field : CustomerField,
      member.key = field.key → PartialCustomer.empty.cell? field = none :=
    fun _ _ _ _ => rfl
  rw [decodeCustomer, decodeText_eq_ok_iff, ObjectText.document, String.toList_ofList]
  simp only [← toOption_eq_some_iff, readCustomer_object object.blankBefore,
    readCustomerMembers_blank object.blankInside,
    readCustomerMembers_membersText distinct fresh enough]
  constructor
  · rintro ⟨rest, read, -⟩
    rcases Option.bind_eq_some_iff.mp read with ⟨result, taken, left⟩
    rcases Option.map_eq_some_iff.mp left with ⟨_, completed, equal⟩
    cases equal
    exact ⟨result, taken, completed⟩
  · rintro ⟨result, taken, completed⟩
    refine ⟨object.after, ?_, ?_⟩
    · rw [taken, Option.bind_some, completed]
      rfl
    · exact toOption_eq_some_iff.mpr (readEnd_eq_ok_iff.mpr object.blankAfter)

/-- An object is decoded as a customer exactly where each member that is named as a field is
decoded as its field from a document of its own, whatever else the object holds and however
its members are ordered. Each field then has the cell of its member, and where there is no
such member it is null. -/
theorem decodeCustomer_object (object : ObjectText)
    (distinct : (object.members.map Member.key).Nodup) :
    ((∃ customer, decodeCustomer object.document = .ok customer) ↔
      ∀ member ∈ object.members, ∀ field : CustomerField, member.key = field.key →
        ∃ cell, decodeCell field.type (String.ofList member.value) = .ok cell) ∧
    ∀ customer, decodeCustomer object.document = .ok customer →
      (∀ member ∈ object.members, ∀ field : CustomerField, member.key = field.key →
        decodeCell field.type (String.ofList member.value) = .ok (customer.cell field)) ∧
      ∀ field : CustomerField, (∀ member ∈ object.members, member.key ≠ field.key) →
        customer.cell field = .null field.type := by
  have present {customer : Customer}
      (decoded : decodeCustomer object.document = .ok customer) {member : Member}
      (isMember : member ∈ object.members) {field : CustomerField}
      (is : member.key = field.key) :
      decodeCell field.type (String.ofList member.value) = .ok (customer.cell field) := by
    rcases (decodeCustomer_document distinct).mp decoded with ⟨result, taken, completed⟩
    rcases PartialCustomer.exists_cell?_of_foldlM distinct taken isMember is with
      ⟨cell, decodes, held⟩
    rw [decodes, PartialCustomer.cell_of_complete completed, held, Option.getD_some]
  refine ⟨⟨?_, fun decodes => ?_⟩, fun customer decoded =>
    ⟨fun member isMember field is => present decoded isMember is, fun field absent => ?_⟩⟩
  · rintro ⟨customer, decoded⟩ member isMember field is
    exact ⟨customer.cell field, present decoded isMember is⟩
  · rcases @PartialCustomer.exists_foldlM .empty _ decodes with ⟨result, taken⟩
    exact ⟨_, (decodeCustomer_document distinct).mpr ⟨result, taken, result.complete_eq⟩⟩
  · rcases (decodeCustomer_document distinct).mp decoded with ⟨result, taken, completed⟩
    rw [PartialCustomer.cell_of_complete completed,
      PartialCustomer.cell?_of_foldlM taken absent]
    rfl

theorem spells_escapedAge :
    Spells ['\\', 'u', '0', '0', '6', '1', 'g', 'e'] ['a', 'g', 'e'] :=
  .unit rfl rfl rfl (@spells_self ['g', 'e'] (by simp))

theorem valueText_twelve : ValueText ['1', '2'] :=
  .integer false ⟨List.cons_ne_nil _ _, by simp⟩ (.inr ⟨'1', ['2'], rfl, by decide⟩)

theorem valueText_nested : ValueText ['[', '\x7b', '\x7d', ']'] :=
  .list (.last allBlank_nil (.emptyObject allBlank_nil) allBlank_nil)

def escapedAge : ObjectText where
  members :=
    [.compact "age" spells_escapedAge valueText_twelve,
      .compact "more" (@spells_self "more".toList (by simp)) valueText_nested]
  before := []
  inside := []
  after := ['\n']
  blankBefore := allBlank_nil
  blankInside := allBlank_nil
  blankAfter := by simp [AllBlank, isBlank]

theorem decodeCustomer_escapedAge :
    (escapedAge.members.map Member.key).Nodup ∧
      escapedAge.document = "\x7b\"\\u0061ge\":12,\"more\":[\x7b\x7d]\x7d\n" ∧
      ∃ customer, decodeCustomer escapedAge.document = .ok customer ∧
        customer.cell .age = .ofValue 12 ∧ customer.cell .name = .null .string := by
  have distinct : (escapedAge.members.map Member.key).Nodup := by decide
  rcases decodeCustomer_object escapedAge distinct with ⟨succeeds, cells⟩
  have age : decodeCell .int64 (String.ofList ['1', '2']) = .ok (.ofValue 12) := rfl
  have decodes : ∀ member ∈ escapedAge.members, ∀ field : CustomerField,
      member.key = field.key →
        ∃ cell, decodeCell field.type (String.ofList member.value) = .ok cell := by
    intro member isMember field is
    rcases List.mem_cons.mp isMember with rfl | isMember
    · cases CustomerField.key_injective (show CustomerField.age.key = field.key from is)
      exact ⟨_, age⟩
    · rcases List.mem_singleton.mp isMember with rfl
      have noField : ∀ field ∈ CustomerField.all, "more" ≠ field.key := by decide
      exact absurd is (noField field (by cases field <;> decide))
  rcases succeeds.mpr decodes with ⟨customer, decoded⟩
  rcases cells customer decoded with ⟨present, absent⟩
  refine ⟨distinct, rfl, customer, decoded, ?_, absent .name (by decide)⟩
  have same := present _ List.mem_cons_self .age rfl
  exact Except.ok.inj (same.symm.trans age)

end Json

end ScalarCell
