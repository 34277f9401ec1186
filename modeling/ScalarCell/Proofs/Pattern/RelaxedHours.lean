import ScalarCell.PatternList
import ScalarCell.Proofs.Pattern.Component

namespace ScalarCell.Pattern

/-! What relaxed hours take beyond the hours as they are written. An hour alone only takes more
texts. A part that may be left out is another matter: where it is left out for an hour of one
digit, relaxed hours may take it, and with it the text that what follows is waiting for. -/

/-! ## One hour -/

theorem upTo?_of_exactly? {count : Nat} {bytes : List UInt8} {outcome : Nat × List UInt8}
    (read : Digits.exactly? (count + 1) bytes = some outcome) :
    Digits.upTo? (count + 1) bytes = some outcome := by
  simp only [Digits.exactly?] at read
  simp only [Digits.upTo?]
  generalize Digits.takeUpTo (count + 1) bytes = taken at read ⊢
  split at read
  · rename_i all
    rw [if_neg]
    · exact read
    · intro empty
      rw [List.isEmpty_iff.mp empty] at all
      cases all
  · cases read

theorem readHour?_unpadded {dial : Dial} {fields : Fields} {bytes : List UInt8}
    {progress : Progress} (read : readHour? .zero dial fields bytes = some progress) :
    readHour? .unpadded dial fields bytes = some progress := by
  have relaxed : ∀ {low high : Nat} {outcome : Nat × List UInt8},
      within? low high (Padding.zero.read? 2 bytes) = some outcome →
      within? low high (Padding.unpadded.read? 2 bytes) = some outcome := by
    intro low high outcome inside
    obtain ⟨taken, bounds⟩ := within?_eq_some_iff.mp inside
    exact within?_eq_some_iff.mpr ⟨upTo?_of_exactly? taken, bounds⟩
  cases dial with
  | twentyFour =>
      cases inside : within? 0 23 (Padding.zero.read? 2 bytes) with
      | none => simp [readHour?, inside] at read
      | some outcome => simpa [readHour?, inside, relaxed inside] using read
  | twelve =>
      cases inside : within? 1 12 (Padding.zero.read? 2 bytes) with
      | none => simp [readHour?, inside] at read
      | some outcome => simpa [readHour?, inside, relaxed inside] using read

theorem Component.read_relaxHour {part : Component} {fields : Fields} {bytes : List UInt8}
    {progress : Progress} (read : part.read fields bytes = .ok progress) :
    part.relaxHour.read fields bytes = .ok progress := by
  cases part with
  | hour padding dial =>
      cases padding with
      | zero =>
          apply orMalformed_eq_ok_iff.mpr
          exact readHour?_unpadded (orMalformed_eq_ok_iff.mp read)
      | space | unpadded => exact read
  | _ => exact read

/-! ## Parts that are given up -/

mutual
/-- Whether, as a text is read with items as they are written, a part is given up that relaxed
hours take at the same place: an optional sequence, or an alternative before the one that is
chosen. -/
def Item.takesMore : Item → Fields → List UInt8 → Bool
  | .literal _, _, _ => false
  | .component _, _, _ => false
  | .optional inner, fields, bytes =>
      match inner.read fields bytes with
      | .ok _ => inner.takesMore fields bytes
      | .error _ => (inner.relaxHours.read fields bytes).isOk
  | .first choices, fields, bytes => choices.takesMore fields bytes

def Items.takesMore : Items → Fields → List UInt8 → Bool
  | .nil, _, _ => false
  | .cons head tail, fields, bytes =>
      head.takesMore fields bytes ||
        match head.read fields bytes with
        | .ok (fields, bytes) => tail.takesMore fields bytes
        | .error _ => false

def Alternatives.takesMore : Alternatives → Fields → List UInt8 → Bool
  | .nil, _, _ => false
  | .cons head tail, fields, bytes =>
      match head.read fields bytes with
      | .ok _ => head.takesMore fields bytes
      | .error _ =>
          (head.relaxHours.read fields bytes).isOk || tail.takesMore fields bytes
end

theorem exists_error_of_isOk_eq_false {ε α : Type} {outcome : Except ε α}
    (refused : outcome.isOk = false) : ∃ error, outcome = .error error := by
  cases outcome with
  | ok value => cases refused
  | error error => exact ⟨error, rfl⟩

mutual
/-- What items read as they are written they also read with relaxed hours, unless those take a
part that was given up. The induction is on the items; of two items in a row the second begins
where the first one ended, which is the same place in both readings. -/
theorem Item.read_relaxHours : ∀ (item : Item) {fields : Fields} {bytes : List UInt8}
    {progress : Progress}, item.read fields bytes = .ok progress →
    item.takesMore fields bytes = false → item.relaxHours.read fields bytes = .ok progress
  | .literal _, _, _, _, read, _ => read
  | .component _, _, _, _, read, _ => Component.read_relaxHour read
  | .optional inner, fields, bytes, _, read, plain => by
      rw [Item.read] at read
      rw [Item.takesMore] at plain
      rw [Item.relaxHours, Item.read]
      cases attempt : inner.read fields bytes with
      | ok progress =>
          rw [attempt] at read plain
          rw [inner.read_relaxHours attempt plain]
          exact read
      | error error =>
          rw [attempt] at read plain
          obtain ⟨refusal, refused⟩ := exists_error_of_isOk_eq_false plain
          rw [refused]
          exact read
  | .first choices, _, _, _, read, plain => choices.read_relaxHours read plain

theorem Items.read_relaxHours : ∀ (items : Items) {fields : Fields} {bytes : List UInt8}
    {progress : Progress}, items.read fields bytes = .ok progress →
    items.takesMore fields bytes = false →
    items.relaxHours.read fields bytes = .ok progress
  | .nil, _, _, _, read, _ => read
  | .cons head tail, fields, bytes, _, read, plain => by
      rw [Items.read] at read
      rw [Items.takesMore, Bool.or_eq_false_iff] at plain
      rw [Items.relaxHours, Items.read]
      cases attempt : head.read fields bytes with
      | ok middle =>
          rw [attempt] at read plain
          rw [head.read_relaxHours attempt plain.1]
          exact tail.read_relaxHours read plain.2
      | error error =>
          rw [attempt] at read
          cases read

theorem Alternatives.read_relaxHours : ∀ (choices : Alternatives) {fields : Fields}
    {bytes : List UInt8} {progress : Progress},
    choices.read fields bytes = .ok progress → choices.takesMore fields bytes = false →
    choices.relaxHours.read fields bytes = .ok progress
  | .nil, _, _, _, read, _ => read
  | .cons head tail, fields, bytes, _, read, plain => by
      rw [Alternatives.read] at read
      rw [Alternatives.takesMore] at plain
      rw [Alternatives.relaxHours, Alternatives.read]
      cases attempt : head.read fields bytes with
      | ok progress =>
          rw [attempt] at read plain
          rw [head.read_relaxHours attempt plain]
          exact read
      | error error =>
          rw [attempt] at read plain
          rw [Bool.or_eq_false_iff] at plain
          obtain ⟨refusal, refused⟩ := exists_error_of_isOk_eq_false plain.1
          cases chosen : tail.find? fields bytes with
          | some progress =>
              rw [chosen] at read
              rw [refused, tail.find?_relaxHours chosen plain.2]
              exact read
          | none =>
              rw [chosen] at read
              cases read

theorem Alternatives.find?_relaxHours : ∀ (choices : Alternatives) {fields : Fields}
    {bytes : List UInt8} {progress : Progress},
    choices.find? fields bytes = some progress → choices.takesMore fields bytes = false →
    choices.relaxHours.find? fields bytes = some progress
  | .nil, _, _, _, found, _ => found
  | .cons head tail, fields, bytes, _, found, plain => by
      rw [Alternatives.find?] at found
      rw [Alternatives.takesMore] at plain
      rw [Alternatives.relaxHours, Alternatives.find?]
      cases attempt : head.read fields bytes with
      | ok progress =>
          rw [attempt] at found plain
          rw [head.read_relaxHours attempt plain]
          exact found
      | error error =>
          rw [attempt] at found plain
          rw [Bool.or_eq_false_iff] at plain
          obtain ⟨refusal, refused⟩ := exists_error_of_isOk_eq_false plain.1
          rw [refused]
          exact tail.find?_relaxHours found plain.2
end

/-! ## Patterns with their hours outside -/

def Items.RelaxesOutside : Items → Prop
  | .nil => True
  | .cons (.literal _) tail => tail.RelaxesOutside
  | .cons (.component _) tail => tail.RelaxesOutside
  | .cons (.optional inner) tail => inner.relaxHours = inner ∧ tail.RelaxesOutside
  | .cons (.first choices) tail => choices.relaxHours = choices ∧ tail.RelaxesOutside

mutual
theorem Item.takesMore_of_relaxHours_eq : ∀ (item : Item) (fields : Fields)
    (bytes : List UInt8), item.relaxHours = item → item.takesMore fields bytes = false
  | .literal _, _, _, _ => rfl
  | .component _, _, _, _ => rfl
  | .optional inner, fields, bytes, same => by
      have inner_same : inner.relaxHours = inner := by
        simpa only [Item.relaxHours, Item.optional.injEq] using same
      rw [Item.takesMore]
      cases attempt : inner.read fields bytes with
      | ok progress => exact inner.takesMore_of_relaxHours_eq fields bytes inner_same
      | error error =>
          rw [inner_same, attempt]
          rfl
  | .first choices, fields, bytes, same => by
      apply choices.takesMore_of_relaxHours_eq fields bytes
      simpa only [Item.relaxHours, Item.first.injEq] using same

theorem Items.takesMore_of_relaxHours_eq : ∀ (items : Items) (fields : Fields)
    (bytes : List UInt8), items.relaxHours = items → items.takesMore fields bytes = false
  | .nil, _, _, _ => rfl
  | .cons head tail, fields, bytes, same => by
      simp only [Items.relaxHours, Items.cons.injEq] at same
      rw [Items.takesMore, head.takesMore_of_relaxHours_eq fields bytes same.1]
      cases head.read fields bytes with
      | ok middle => exact tail.takesMore_of_relaxHours_eq middle.1 middle.2 same.2
      | error error => rfl

theorem Alternatives.takesMore_of_relaxHours_eq : ∀ (choices : Alternatives)
    (fields : Fields) (bytes : List UInt8), choices.relaxHours = choices →
    choices.takesMore fields bytes = false
  | .nil, _, _, _ => rfl
  | .cons head tail, fields, bytes, same => by
      simp only [Alternatives.relaxHours, Alternatives.cons.injEq] at same
      rw [Alternatives.takesMore]
      cases attempt : head.read fields bytes with
      | ok progress => exact head.takesMore_of_relaxHours_eq fields bytes same.1
      | error error =>
          rw [same.1, attempt]
          exact tail.takesMore_of_relaxHours_eq fields bytes same.2
end

theorem Items.RelaxesOutside.takesMore_eq : ∀ {items : Items}, items.RelaxesOutside →
    ∀ (fields : Fields) (bytes : List UInt8), items.takesMore fields bytes = false
  | .nil, _, _, _ => rfl
  | .cons head tail, outside, fields, bytes => by
      have alone : head.takesMore fields bytes = false ∧ tail.RelaxesOutside := by
        cases head with
        | literal | component => exact ⟨rfl, outside⟩
        | optional inner =>
            refine ⟨Item.takesMore_of_relaxHours_eq _ fields bytes ?_, outside.2⟩
            rw [Item.relaxHours, outside.1]
        | first choices =>
            refine ⟨Item.takesMore_of_relaxHours_eq _ fields bytes ?_, outside.2⟩
            rw [Item.relaxHours, outside.1]
      rw [Items.takesMore, alone.1]
      cases head.read fields bytes with
      | ok middle => exact alone.2.takesMore_eq middle.1 middle.2
      | error error => rfl

/-! ## Whole texts -/

variable {pattern : Pattern} {text : List UInt8} {defaultOffset : UtcOffset}
  {timestamp : Timestamp}

theorem readItems_relaxHours {items : Items}
    (asWritten : readItems items text defaultOffset = .ok timestamp)
    (plain : items.takesMore {} text = false) :
    readItems items.relaxHours text defaultOffset = .ok timestamp := by
  rw [readItems] at asWritten ⊢
  cases read : items.read {} text with
  | ok progress =>
      rw [read] at asWritten
      rw [items.read_relaxHours read plain]
      exact asWritten
  | error error =>
      rw [read] at asWritten
      cases asWritten

/-- What a pattern reads with its hours as they are written it also reads with relaxed ones.
The exception is a text on whose way some part is given up that relaxed hours take, and there is
none for a pattern that has its hours outside of such parts. -/
theorem read_or_takesMore
    (asWritten : readItems pattern.items text defaultOffset = .ok timestamp) :
    pattern.read text defaultOffset = .ok timestamp ∨
      pattern.items.takesMore {} text = true ∧ ¬ pattern.items.RelaxesOutside := by
  cases more : pattern.items.takesMore {} text with
  | false => exact .inl (readItems_relaxHours asWritten more)
  | true =>
      refine .inr ⟨rfl, fun outside => ?_⟩
      rw [outside.takesMore_eq] at more
      cases more

def optionalTimePattern : Pattern where
  source := "[year]-[month]-[day][optional [ [hour]:[minute]]]"
  items := .ofList (dateItems ++ [.optional (.ofList [.literal [' '],
    .component (.hour .zero .twentyFour), .literal [':'], .component (.minute .zero)])])

def minutesPastFive : Timestamp where
  date := ⟨2021, 3, 4, by decide⟩
  time := { TimeOfDay.midnight with
    hour := 5, minute := 6, hour_lt := by decide, minute_lt := by decide }
  offset := .utc

/-- An hour of two digits is the same to both, also where it might be left out. -/
theorem read_or_takesMore_optional :
    readItems optionalTimePattern.items (Utf8.encode "2021-03-04 05:06".toList) .utc =
        .ok minutesPastFive ∧
      optionalTimePattern.read (Utf8.encode "2021-03-04 05:06".toList) .utc =
        .ok minutesPastFive := by
  have asWritten : readItems optionalTimePattern.items
      (Utf8.encode "2021-03-04 05:06".toList) .utc = .ok minutesPastFive := by decide +kernel
  have plain : optionalTimePattern.items.takesMore {}
      (Utf8.encode "2021-03-04 05:06".toList) = false := by decide +kernel
  refine ⟨asWritten, (read_or_takesMore asWritten).resolve_right ?_⟩
  rw [plain]
  exact fun more => Bool.false_ne_true more.1

def hourOrMinutePattern : Pattern where
  source := "[year]-[month]-[day][first [ [hour]] [ [hour padding:none]:[minute]]]"
  items := .ofList (dateItems ++ [.first (.cons
    (.ofList [.literal [' '], .component (.hour .zero .twentyFour)]) (.cons
    (.ofList [.literal [' '], .component (.hour .unpadded .twentyFour), .literal [':'],
      .component (.minute .zero)]) .nil))])

/-- An hour of one digit is taken by the alternative that ends with it, and the minutes are
left over. As they are written, the alternatives leave it to the second one. -/
theorem read_or_takesMore_first :
    Pattern.ofSource hourOrMinutePattern.source = .ok hourOrMinutePattern ∧
      readItems hourOrMinutePattern.items (Utf8.encode "2021-03-04 5:06".toList) .utc =
        .ok minutesPastFive ∧
      hourOrMinutePattern.read (Utf8.encode "2021-03-04 5:06".toList) .utc =
        .error .trailingCharacters := by
  have compiled : Pattern.ofSource hourOrMinutePattern.source =
      .ok hourOrMinutePattern := by decide +kernel
  have asWritten : readItems hourOrMinutePattern.items
      (Utf8.encode "2021-03-04 5:06".toList) .utc = .ok minutesPastFive := by decide +kernel
  have relaxed : hourOrMinutePattern.read (Utf8.encode "2021-03-04 5:06".toList) .utc =
      .error .trailingCharacters := by decide +kernel
  exact ⟨compiled, asWritten, relaxed⟩

end ScalarCell.Pattern
