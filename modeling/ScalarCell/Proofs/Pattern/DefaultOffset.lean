import ScalarCell.Proofs.Calendar.UtcOffset
import ScalarCell.Proofs.Pattern.Component
import ScalarCell.Proofs.Pattern.Completion

namespace ScalarCell.Pattern

/-! What a default offset does to what was read. Where an hour of an offset was read it does
nothing. Where none was, it becomes the offset as it is, whatever smaller parts were read. -/

/-! ## Counts since the epoch -/

def Component.isCount : Component → Bool
  | .unixTimestamp _ _ => true
  | _ => false

mutual
def Item.hasCount : Item → Bool
  | .literal _ => false
  | .component part => part.isCount
  | .optional inner => inner.hasCount
  | .first choices => choices.hasCount

def Items.hasCount : Items → Bool
  | .nil => false
  | .cons head tail => head.hasCount || tail.hasCount

def Alternatives.hasCount : Alternatives → Bool
  | .nil => false
  | .cons head tail => head.hasCount || tail.hasCount
end

theorem Component.isCount_relaxHour (part : Component) :
    part.relaxHour.isCount = part.isCount := by
  cases part with
  | hour padding dial => cases padding <;> rfl
  | _ => rfl

mutual
theorem Item.hasCount_relaxHours : ∀ item : Item, item.relaxHours.hasCount = item.hasCount
  | .literal _ => rfl
  | .component part => part.isCount_relaxHour
  | .optional inner => inner.hasCount_relaxHours
  | .first choices => choices.hasCount_relaxHours

theorem Items.hasCount_relaxHours : ∀ items : Items,
    items.relaxHours.hasCount = items.hasCount
  | .nil => rfl
  | .cons head tail => by
      rw [Items.relaxHours, Items.hasCount, head.hasCount_relaxHours,
        tail.hasCount_relaxHours, Items.hasCount]

theorem Alternatives.hasCount_relaxHours : ∀ choices : Alternatives,
    choices.relaxHours.hasCount = choices.hasCount
  | .nil => rfl
  | .cons head tail => by
      rw [Alternatives.relaxHours, Alternatives.hasCount, head.hasCount_relaxHours,
        tail.hasCount_relaxHours, Alternatives.hasCount]
end

/-! ## What is read without a count -/

/-- Fields without a count since the epoch, and without the sign of an offset whose hour is
not there. -/
structure Fields.Plain (fields : Fields) : Prop where
  noCount : fields.unixNanoseconds = none
  noSign : fields.offsetHour = none → fields.offsetNegative = false

variable {fields : Fields} {bytes : List UInt8} {progress : Progress}

theorem plain_of_put {outcome : Option (Nat × List UInt8)} {assign : Nat → Fields}
    (read : Component.read.put outcome assign = some progress)
    (keeps : ∀ number, (assign number).Plain) : progress.1.Plain := by
  obtain ⟨taken, -, rfl⟩ := Option.map_eq_some_iff.mp read
  exact keeps taken.1

theorem plain_of_bind {outcome : Option (Nat × List UInt8)}
    {next : Nat × List UInt8 → Option Progress}
    (keeps : ∀ taken made, next taken = some made → made.1.Plain)
    (read : outcome.bind next = some progress) : progress.1.Plain := by
  obtain ⟨taken, -, made⟩ := Option.bind_eq_some_iff.mp read
  exact keeps taken progress made

theorem plain_of_readYear? {padding : Padding} {digits : YearDigits} {base : YearBase}
    {rule : SignRule} (plain : fields.Plain)
    (read : readYear? padding digits base rule fields bytes = some progress) :
    progress.1.Plain := by
  rw [readYear?.eq_def] at read
  generalize takeSign bytes = signed at read
  obtain ⟨sign, unsigned⟩ := signed
  cases digits with
  | full =>
      apply plain_of_bind _ read
      intro taken made assigned
      dsimp only at assigned
      split at assigned
      · cases assigned
      · cases base <;> cases assigned <;> exact ⟨plain.noCount, plain.noSign⟩
  | century =>
      cases sign <;>
      · apply plain_of_bind _ read
        intro taken made assigned
        dsimp only at assigned
        split at assigned
        · cases assigned
        · cases base <;> cases assigned <;> exact ⟨plain.noCount, plain.noSign⟩
  | lastTwo =>
      apply plain_of_bind _ read
      intro taken made assigned
      cases base <;> cases assigned <;> exact ⟨plain.noCount, plain.noSign⟩

theorem plain_of_readMonth? {padding : Padding} {style : MonthStyle} {caseSensitive : Bool}
    (plain : fields.Plain)
    (read : readMonth? padding style caseSensitive fields bytes = some progress) :
    progress.1.Plain := by
  cases style <;>
  · apply plain_of_bind _ read
    intro taken made assigned
    cases assigned
    exact ⟨plain.noCount, plain.noSign⟩

theorem plain_of_readWeekday? {style : WeekdayStyle} {oneIndexed caseSensitive : Bool}
    (plain : fields.Plain)
    (read : readWeekday? style oneIndexed caseSensitive fields bytes = some progress) :
    progress.1.Plain := by
  cases style <;>
  · apply plain_of_bind _ read
    intro taken made assigned
    cases assigned
    exact ⟨plain.noCount, plain.noSign⟩

theorem plain_of_readWeekNumber? {padding : Padding} {rule : WeekRule} (plain : fields.Plain)
    (read : readWeekNumber? padding rule fields bytes = some progress) :
    progress.1.Plain := by
  cases rule <;>
  · apply plain_of_bind _ read
    intro taken made assigned
    cases assigned
    exact ⟨plain.noCount, plain.noSign⟩

theorem plain_of_readHour? {padding : Padding} {dial : Dial} (plain : fields.Plain)
    (read : readHour? padding dial fields bytes = some progress) : progress.1.Plain := by
  cases dial <;>
  · apply plain_of_bind _ read
    intro taken made assigned
    cases assigned
    exact ⟨plain.noCount, plain.noSign⟩

theorem plain_of_readPeriod? {letterCase : LetterCase} {caseSensitive : Bool}
    (plain : fields.Plain)
    (read : readPeriod? letterCase caseSensitive fields bytes = some progress) :
    progress.1.Plain := by
  apply plain_of_bind _ read
  intro taken made assigned
  cases assigned
  exact ⟨plain.noCount, plain.noSign⟩

theorem plain_of_readSubsecond? {digits : FractionDigits} (plain : fields.Plain)
    (read : readSubsecond? digits fields bytes = some progress) : progress.1.Plain := by
  cases digits <;>
  · apply plain_of_bind _ read
    intro taken made assigned
    cases assigned
    exact ⟨plain.noCount, plain.noSign⟩

theorem plain_of_readOffsetHour? {padding : Padding} {rule : SignRule} (plain : fields.Plain)
    (read : readOffsetHour? padding rule fields bytes = some progress) :
    progress.1.Plain := by
  rw [readOffsetHour?.eq_def] at read
  generalize takeSign bytes = signed at read
  obtain ⟨sign, unsigned⟩ := signed
  apply plain_of_bind _ read
  intro taken made assigned
  dsimp only at assigned
  split at assigned
  · cases assigned
  · cases assigned
    exact ⟨plain.noCount, by simp⟩

theorem Component.read_plain {part : Component} (noCount : part.isCount = false)
    (plain : fields.Plain) (read : part.read fields bytes = .ok progress) :
    progress.1.Plain := by
  cases part with
  | day | ordinal | minute | second | offsetMinute | offsetSecond =>
      exact plain_of_put (orMalformed_eq_ok_iff.mp read)
        fun _ => ⟨plain.noCount, plain.noSign⟩
  | month => exact plain_of_readMonth? plain (orMalformed_eq_ok_iff.mp read)
  | weekday => exact plain_of_readWeekday? plain (orMalformed_eq_ok_iff.mp read)
  | weekNumber => exact plain_of_readWeekNumber? plain (orMalformed_eq_ok_iff.mp read)
  | year => exact plain_of_readYear? plain (orMalformed_eq_ok_iff.mp read)
  | hour => exact plain_of_readHour? plain (orMalformed_eq_ok_iff.mp read)
  | period => exact plain_of_readPeriod? plain (orMalformed_eq_ok_iff.mp read)
  | subsecond => exact plain_of_readSubsecond? plain (orMalformed_eq_ok_iff.mp read)
  | offsetHour => exact plain_of_readOffsetHour? plain (orMalformed_eq_ok_iff.mp read)
  | ignore count =>
      have skipped := orMalformed_eq_ok_iff.mp read
      split at skipped
      · cases skipped
        exact plain
      · cases skipped
  | unixTimestamp => cases noCount
  | ending rule =>
      cases rule with
      | prohibit =>
          rw [Component.read.eq_def] at read
          dsimp only at read
          split at read
          · cases read
            exact plain
          · cases read
      | discard =>
          cases read
          exact plain

mutual
/-- Items without a count leave the fields plain, however deep they stand. -/
theorem Item.read_plain : ∀ (item : Item) (fields : Fields) (bytes : List UInt8)
    (progress : Progress), item.hasCount = false → fields.Plain →
      item.read fields bytes = .ok progress → progress.1.Plain
  | .literal text, fields, bytes, progress, noCount, plain, read => by
      rw [Item.read] at read
      split at read
      · cases read
        exact plain
      · cases read
  | .component part, fields, bytes, progress, noCount, plain, read =>
      part.read_plain noCount plain read
  | .optional inner, fields, bytes, progress, noCount, plain, read => by
      rw [Item.read] at read
      split at read
      · rename_i taken readInner
        cases read
        exact inner.read_plain fields bytes progress noCount plain readInner
      · cases read
        exact plain
  | .first choices, fields, bytes, progress, noCount, plain, read =>
      choices.read_plain fields bytes progress noCount plain read

theorem Items.read_plain : ∀ (items : Items) (fields : Fields) (bytes : List UInt8)
    (progress : Progress), items.hasCount = false → fields.Plain →
      items.read fields bytes = .ok progress → progress.1.Plain
  | .nil, fields, bytes, progress, _, plain, read => by
      cases read
      exact plain
  | .cons head tail, fields, bytes, progress, noCount, plain, read => by
      obtain ⟨headNoCount, tailNoCount⟩ := Bool.or_eq_false_iff.mp noCount
      rw [Items.read] at read
      split at read
      · rename_i between rest readHead
        have betweenPlain := head.read_plain fields bytes _ headNoCount plain readHead
        exact tail.read_plain between rest progress tailNoCount betweenPlain read
      · cases read

theorem Alternatives.read_plain : ∀ (choices : Alternatives) (fields : Fields)
    (bytes : List UInt8) (progress : Progress), choices.hasCount = false → fields.Plain →
      choices.read fields bytes = .ok progress → progress.1.Plain
  | .nil, fields, bytes, progress, _, plain, read => by
      cases read
      exact plain
  | .cons head tail, fields, bytes, progress, noCount, plain, read => by
      obtain ⟨headNoCount, tailNoCount⟩ := Bool.or_eq_false_iff.mp noCount
      rw [Alternatives.read] at read
      split at read
      · rename_i taken readHead
        cases read
        exact head.read_plain fields bytes progress headNoCount plain readHead
      · split at read
        · rename_i found
          cases read
          exact tail.find?_plain fields bytes progress tailNoCount plain found
        · cases read

theorem Alternatives.find?_plain : ∀ (choices : Alternatives) (fields : Fields)
    (bytes : List UInt8) (progress : Progress), choices.hasCount = false → fields.Plain →
      choices.find? fields bytes = some progress → progress.1.Plain
  | .nil, fields, bytes, progress, _, _, found => by cases found
  | .cons head tail, fields, bytes, progress, noCount, plain, found => by
      obtain ⟨headNoCount, tailNoCount⟩ := Bool.or_eq_false_iff.mp noCount
      rw [Alternatives.find?] at found
      split at found
      · rename_i taken readHead
        cases found
        exact head.read_plain fields bytes progress headNoCount plain readHead
      · exact tail.find?_plain fields bytes progress tailNoCount plain found
end

/-! ## Filling in -/

variable {defaultOffset first second : UtcOffset}

theorem plain_empty : ({} : Fields).Plain := by
  constructor
  · rfl
  · exact fun _ => rfl

theorem withDefaultHour_offsetHour (fields : Fields) :
    fields.withDefaultHour.offsetHour = fields.offsetHour := by
  rw [Fields.withDefaultHour]
  split <;> rfl

theorem withDefaultHour_offset (fields : Fields) :
    fields.withDefaultHour.offset = fields.offset := by
  rw [Fields.withDefaultHour]
  split <;> rfl

theorem Fields.Plain.withDefaultHour (plain : fields.Plain) :
    fields.withDefaultHour.Plain := by
  rw [Fields.withDefaultHour]
  split <;> exact ⟨plain.noCount, plain.noSign⟩

theorem withDefaultOffset_eq_error_iff :
    (∃ error, fields.withDefaultHour.withDefaultOffset defaultOffset = .error error) ↔
      fields.offsetHour = none ∧ 23 < defaultOffset.hourPart.natAbs := by
  rw [Fields.withDefaultOffset, withDefaultHour_offsetHour]
  cases fields.offsetHour with
  | some hour => simp
  | none =>
      by_cases settable : defaultOffset.hourPart.natAbs ≤ 23
      · simp [settable]
      · simp [settable, Nat.lt_of_not_le settable]

def Fields.localTime (fields : Fields) : Except FieldsError (Date × TimeOfDay) :=
  match fields.date with
  | .error error => .error error
  | .ok date => fields.time.map (date, ·)

theorem timestamp_of_localTime (noCount : fields.unixNanoseconds = none) {offset : UtcOffset}
    (known : fields.offset = .ok offset) :
    fields.timestamp = fields.localTime.map fun (date, time) => ⟨date, time, offset⟩ := by
  rw [Fields.timestamp, noCount, Fields.localTime, known]
  cases fields.date with
  | error error => rfl
  | ok date =>
      cases fields.time with
      | error error => rfl
      | ok time => rfl

theorem offset_of_timestamp (noCount : fields.unixNanoseconds = none) {timestamp : Timestamp}
    (made : fields.timestamp = .ok timestamp) : fields.offset = .ok timestamp.offset := by
  rw [Fields.timestamp, noCount] at made
  dsimp only at made
  split at made
  · cases made
  · split at made
    · cases made
    · split at made
      · cases made
      · rename_i offset known
        cases made
        exact known

def Fields.setOffset (fields : Fields) (offset : UtcOffset) : Fields :=
  { fields with
    offsetHour := some offset.hourPart
    offsetMinute := some offset.minutePart
    offsetSecond := some offset.secondPart }

theorem setOffset_localTime (fields : Fields) (offset : UtcOffset) :
    (fields.setOffset offset).localTime = fields.localTime := rfl

theorem withDefaultOffset_of_absent (absent : fields.offsetHour = none)
    (settable : defaultOffset.hourPart.natAbs ≤ 23) :
    fields.withDefaultOffset defaultOffset = .ok (fields.setOffset defaultOffset) := by
  rw [Fields.withDefaultOffset, absent]
  exact if_pos settable

theorem complete_of_noOffset (plain : fields.Plain) (absent : fields.offsetHour = none)
    (settable : defaultOffset.hourPart.natAbs ≤ 23) :
    complete fields defaultOffset = fields.withDefaultHour.localTime.map
      fun (date, time) => ⟨date, time, defaultOffset⟩ := by
  have stillAbsent : fields.withDefaultHour.offsetHour = none := by
    rw [withDefaultHour_offsetHour, absent]
  have noCount : (fields.withDefaultHour.setOffset defaultOffset).unixNanoseconds = none :=
    plain.withDefaultHour.noCount
  -- A minus sign read for another offset would turn the filled-in minutes around.
  have noSign : (fields.withDefaultHour.setOffset defaultOffset).offsetNegative = false :=
    plain.withDefaultHour.noSign stillAbsent
  have known : (fields.withDefaultHour.setOffset defaultOffset).offset = .ok defaultOffset :=
    offset_of_parts noSign rfl rfl rfl
  rw [complete, withDefaultOffset_of_absent stillAbsent settable]
  dsimp only
  rw [timestamp_of_localTime noCount known, setOffset_localTime]

/-! ## Two default offsets -/

/-- What one text may be with two default offsets: the same error twice, one timestamp twice,
which has its offset from elsewhere, or one local time at either of them. -/
inductive SameUpToOffset {ε : Type} (first second : UtcOffset) (Written : UtcOffset → Prop) :
    Except ε Timestamp → Except ε Timestamp → Prop
  | refused (error : ε) : SameUpToOffset first second Written (.error error) (.error error)
  | written (timestamp : Timestamp) (found : Written timestamp.offset) :
      SameUpToOffset first second Written (.ok timestamp) (.ok timestamp)
  | filled (date : Date) (time : TimeOfDay) :
      SameUpToOffset first second Written (.ok ⟨date, time, first⟩) (.ok ⟨date, time, second⟩)

def Items.Writes (items : Items) (text : List UInt8) (offset : UtcOffset) : Prop :=
  ∃ fields, items.read {} text = .ok (fields, []) ∧ fields.offset = .ok offset

section SameUpToOffset

variable {ε δ : Type} {Written Broader : UtcOffset → Prop}
  {outcome other : Except ε Timestamp}

theorem SameUpToOffset.mono (same : SameUpToOffset first second Written outcome other)
    (broader : ∀ offset, Written offset → Broader offset) :
    SameUpToOffset first second Broader outcome other := by
  cases same with
  | refused error => exact .refused error
  | written timestamp found => exact .written timestamp (broader timestamp.offset found)
  | filled date time => exact .filled date time

theorem SameUpToOffset.mapError (same : SameUpToOffset first second Written outcome other)
    (change : ε → δ) :
    SameUpToOffset first second Written (outcome.mapError change) (other.mapError change) := by
  cases same with
  | refused error => exact .refused (change error)
  | written timestamp found => exact .written timestamp found
  | filled date time => exact .filled date time

end SameUpToOffset

/-- Fields with an offset of their own are completed to one timestamp, and those without one to
a local time at the offset that is given. -/
theorem complete_sameUpToOffset (plain : fields.Plain)
    (sameReach : first.hourPart.natAbs ≤ 23 ↔ second.hourPart.natAbs ≤ 23) :
    SameUpToOffset first second (fun offset => fields.offset = .ok offset) (complete fields first)
      (complete fields second) := by
  cases written : fields.offsetHour with
  | some hour =>
      have untouched (offset : UtcOffset) :
          complete fields offset = fields.withDefaultHour.timestamp := by
        rw [complete, Fields.withDefaultOffset, withDefaultHour_offsetHour, written]
      rw [untouched, untouched]
      cases made : fields.withDefaultHour.timestamp with
      | error error => exact .refused error
      | ok timestamp =>
          have known := offset_of_timestamp plain.withDefaultHour.noCount made
          rw [withDefaultHour_offset] at known
          exact .written timestamp known
  | none =>
      by_cases settable : first.hourPart.natAbs ≤ 23
      · rw [complete_of_noOffset plain written settable,
          complete_of_noOffset plain written (sameReach.mp settable)]
        cases fields.withDefaultHour.localTime with
        | error error => exact .refused error
        | ok parts => exact .filled parts.1 parts.2
      · have refused {offset : UtcOffset} (beyond : ¬ offset.hourPart.natAbs ≤ 23) :
            complete fields offset = .error FieldsError.insufficient := by
          rw [complete, Fields.withDefaultOffset, withDefaultHour_offsetHour, written]
          simp [beyond]
        rw [refused settable, refused (mt sameReach.mpr settable)]
        exact .refused FieldsError.insufficient

theorem readItems_of_read {items : Items} {text : List UInt8}
    (read : items.read {} text = .ok (fields, [])) :
    readItems items text defaultOffset =
      (complete fields defaultOffset).mapError .components := by
  rw [readItems, read, complete]
  dsimp only
  cases fields.withDefaultHour.withDefaultOffset defaultOffset with
  | error error => rfl
  | ok filled =>
      dsimp only
      cases filled.timestamp with
      | error error => rfl
      | ok timestamp => rfl

theorem readItems_sameUpToOffset {items : Items} (noCount : items.hasCount = false)
    (sameReach : first.hourPart.natAbs ≤ 23 ↔ second.hourPart.natAbs ≤ 23)
    (text : List UInt8) :
    SameUpToOffset first second (items.Writes text) (readItems items text first)
      (readItems items text second) := by
  cases read : items.read {} text with
  | error error =>
      rw [readItems, readItems, read]
      exact .refused _
  | ok progress =>
      obtain ⟨fields, rest⟩ := progress
      cases rest with
      | cons byte rest =>
          rw [readItems, readItems, read]
          exact .refused _
      | nil =>
          rw [readItems_of_read read, readItems_of_read read]
          have plain : fields.Plain := items.read_plain {} text _ noCount plain_empty read
          apply ((complete_sameUpToOffset plain sameReach).mapError _).mono
          intro offset known
          exact ⟨fields, read, known⟩

end ScalarCell.Pattern
