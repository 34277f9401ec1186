import ScalarCell.Pattern
import ScalarCell.Proofs.Calendar.UtcOffset
import ScalarCell.Proofs.Pattern.CommonForms

namespace ScalarCell.Pattern

/-! From the fields of a common form to the timestamp. -/

/-! ## Dates and times of their parts -/

theorem ofCalendar?_eq_some_iff {year : Int} {month day : Nat} {date : Date} :
    Date.ofCalendar? year month day = some date ↔
      date.year = year ∧ date.month = month ∧ date.day = day := by
  rw [Date.ofCalendar?]
  constructor
  · intro made
    split at made
    · cases made
      exact ⟨rfl, rfl, rfl⟩
    · cases made
  · intro given
    rcases given with ⟨rfl, rfl, rfl⟩
    rw [dif_pos date.isDate]

theorem timeOfParts?_eq_some_iff {hour minute second nanosecond : Nat}
    {time : TimeOfDay} :
    TimeOfDay.ofParts? hour minute second nanosecond = some time ↔
      time.hour = hour ∧ time.minute = minute ∧ time.second = second ∧
        time.nanosecond = nanosecond := by
  rw [TimeOfDay.ofParts?]
  constructor
  · intro made
    split at made
    · cases made
      exact ⟨rfl, rfl, rfl, rfl⟩
    · cases made
  · intro given
    rcases given with ⟨rfl, rfl, rfl, rfl⟩
    rw [dif_pos ⟨time.hour_lt, time.minute_lt, time.second_lt, time.nanosecond_lt⟩]

/-! ## Reading a whole text -/

def complete (fields : Fields) (defaultOffset : UtcOffset) :
    Except FieldsError Timestamp :=
  match fields.withDefaultHour.withDefaultOffset defaultOffset with
  | .error error => .error error
  | .ok fields => fields.timestamp

theorem readItems_eq_ok_iff {items : List Item} {text : List UInt8}
    {defaultOffset : UtcOffset} {timestamp : Timestamp} :
    readItems (Items.ofList items).relaxHours text defaultOffset = .ok timestamp ↔
      ∃ fields, readList items {} text = .ok (fields, []) ∧
        complete fields defaultOffset = .ok timestamp := by
  rw [readItems]
  simp only [readList]
  rcases (Items.ofList items).relaxHours.read {} text with error | ⟨fields,
    _ | ⟨byte, rest⟩⟩
  · simp
  · simp only [Except.ok.injEq, Prod.mk.injEq, and_true, exists_eq_left', complete]
    rcases fields.withDefaultHour.withDefaultOffset defaultOffset with error | full
    · simp
    · cases found : full.timestamp with
      | error error => simp [found]
      | ok made => simp [found]
  · simp

/-! ## Fields without an offset -/

def localFields (year : Int) (month day : Nat)
    (hour minute second nanosecond : Option Nat) :
    Fields :=
  { year := some year, month := some month, day := some day, hour, minute, second,
    nanosecond }

/-- No part of a time is given without the one before it. -/
inductive Nested : (hour minute second nanosecond : Option Nat) → Prop
  | absent : Nested none none none none
  | hour (hour : Nat) : Nested (some hour) none none none
  | minute (hour minute : Nat) : Nested (some hour) (some minute) none none
  | second (hour minute second : Nat) (nanosecond : Option Nat) :
      Nested (some hour) (some minute) (some second) nanosecond

theorem Nested.withDefaultHour {hour minute second nanosecond : Option Nat}
    (nested : Nested hour minute second nanosecond) :
    Nested (some (hour.getD 0)) minute second nanosecond := by
  cases nested with
  | absent => exact .hour 0
  | hour hour => exact .hour hour
  | minute hour minute => exact .minute hour minute
  | second hour minute second nanosecond => exact .second hour minute second nanosecond

variable {year : Int} {month day : Nat} {hour minute second nanosecond : Option Nat}
variable {fields : Fields} {timestamp : Timestamp}

theorem date_eq_of_calendar (noOrdinal : fields.ordinal = none)
    (hasYear : fields.year = some year) (hasMonth : fields.month = some month)
    (hasDay : fields.day = some day) :
    fields.date = Fields.orOutOfRange .day (Date.ofCalendar? year month day) := by
  simp [Fields.date, Fields.dates, Fields.fullYear, noOrdinal, hasYear, hasMonth, hasDay]

theorem time_eq_of_nested {hour : Nat} (hasHour : fields.hour = some hour)
    (nested : Nested (some hour) fields.minute fields.second fields.nanosecond) :
    fields.time = Fields.orSecond (TimeOfDay.ofParts? hour (fields.minute.getD 0)
      (fields.second.getD 0) (fields.nanosecond.getD 0)) := by
  simp only [Fields.time, Fields.hourOfDay, hasHour]
  generalize fields.minute = minute at nested ⊢
  generalize fields.second = second at nested ⊢
  generalize fields.nanosecond = nanosecond at nested ⊢
  cases nested with
  | hour => rfl
  | minute => rfl
  | second hour minute second nanosecond =>
      cases nanosecond with
      | none => rfl
      | some nanosecond => rfl

theorem timestamp_eq_ok_iff {hour : Nat} (noCount : fields.unixNanoseconds = none)
    (noOrdinal : fields.ordinal = none) (hasYear : fields.year = some year)
    (hasMonth : fields.month = some month) (hasDay : fields.day = some day)
    (hasHour : fields.hour = some hour)
    (nested : Nested (some hour) fields.minute fields.second fields.nanosecond) :
    fields.timestamp = .ok timestamp ↔
      (timestamp.date.year = year ∧ timestamp.date.month = month ∧
        timestamp.date.day = day) ∧
      (timestamp.time.hour = hour ∧ timestamp.time.minute = fields.minute.getD 0 ∧
        timestamp.time.second = fields.second.getD 0 ∧
        timestamp.time.nanosecond = fields.nanosecond.getD 0) ∧
      fields.offset = .ok timestamp.offset := by
  rw [← ofCalendar?_eq_some_iff, ← timeOfParts?_eq_some_iff]
  simp only [Fields.timestamp, noCount,
    date_eq_of_calendar noOrdinal hasYear hasMonth hasDay,
    time_eq_of_nested hasHour nested]
  rcases timestamp with ⟨date, time, offset⟩
  cases Date.ofCalendar? year month day with
  | none => simp [Fields.orOutOfRange]
  | some found =>
      cases TimeOfDay.ofParts? hour (fields.minute.getD 0) (fields.second.getD 0)
          (fields.nanosecond.getD 0) with
      | none => simp [Fields.orOutOfRange, Fields.orSecond]
      | some clock =>
          cases fields.offset with
          | error error => simp [Fields.orOutOfRange, Fields.orSecond]
          | ok made => simp [Fields.orOutOfRange, Fields.orSecond]

theorem offset_of_parts {defaultOffset : UtcOffset}
    (notNegative : fields.offsetNegative = false)
    (hasHour : fields.offsetHour = some defaultOffset.hourPart)
    (hasMinute : fields.offsetMinute = some defaultOffset.minutePart)
    (hasSecond : fields.offsetSecond = some defaultOffset.secondPart) :
    fields.offset = .ok defaultOffset := by
  simp [Fields.offset, Fields.signedOffsetPart, notNegative, hasHour,
    hasMinute, hasSecond, UtcOffset.ofParts?_parts]

theorem complete_localFields_iff {defaultOffset : UtcOffset}
    (nested : Nested hour minute second nanosecond) :
    complete (localFields year month day hour minute second nanosecond) defaultOffset =
        .ok timestamp ↔
      defaultOffset.hourPart.natAbs ≤ 23 ∧
      (timestamp.date.year = year ∧ timestamp.date.month = month ∧
        timestamp.date.day = day) ∧
      (timestamp.time.hour = hour.getD 0 ∧ timestamp.time.minute = minute.getD 0 ∧
        timestamp.time.second = second.getD 0 ∧
        timestamp.time.nanosecond = nanosecond.getD 0) ∧
      timestamp.offset = defaultOffset := by
  have withHour :
      (localFields year month day hour minute second nanosecond).withDefaultHour =
      localFields year month day (some (hour.getD 0)) minute second nanosecond := by
    cases hour with
    | none => simp [Fields.withDefaultHour, localFields]
    | some hour => simp [Fields.withDefaultHour, localFields]
  rw [complete, withHour]
  by_cases settable : defaultOffset.hourPart.natAbs ≤ 23
  · simp only [Fields.withDefaultOffset, localFields, settable, if_true, true_and]
    rw [timestamp_eq_ok_iff rfl rfl rfl rfl rfl rfl nested.withDefaultHour,
      offset_of_parts rfl rfl rfl rfl, Except.ok.injEq, eq_comm (a := timestamp.offset)]
  · simp [Fields.withDefaultOffset, localFields, settable]

/-! ## Fields with a written offset -/

def offsetFields (year : Int) (month day : Nat)
    (hour minute second nanosecond : Option Nat)
    (negative : Bool) (offsetHour offsetMinute : Nat) : Fields :=
  { localFields year month day hour minute second nanosecond with
    offsetHour := some (signed (some negative) offsetHour)
    offsetNegative := negative
    offsetMinute := some (offsetMinute : Int) }

/-- The sign of a written offset holds for its hours and its minutes, also when it has no
whole hour. -/
theorem offset_of_signed {negative : Bool} {offsetHour offsetMinute : Nat}
    (offsetHour_le : offsetHour ≤ 23) (offsetMinute_le : offsetMinute ≤ 59)
    (hasSign : fields.offsetNegative = negative)
    (hasHour : fields.offsetHour = some (signed (some negative) offsetHour))
    (hasMinute : fields.offsetMinute = some (offsetMinute : Int))
    (noSecond : fields.offsetSecond = none) :
    ∃ inRange, fields.offset =
      .ok ⟨signed (some negative) (offsetHour * 3600 + offsetMinute * 60), inRange⟩ := by
  have parts : ∃ inRange, UtcOffset.ofParts? (signed (some negative) offsetHour)
      (fields.signedOffsetPart offsetMinute) 0 =
        some ⟨signed (some negative) (offsetHour * 3600 + offsetMinute * 60),
          inRange⟩ := by
    have sum : signed (some negative) offsetHour * 3600 +
        fields.signedOffsetPart offsetMinute * 60 + 0 =
          signed (some negative) (offsetHour * 3600 + offsetMinute * 60) := by
      cases negative with
      | false => simp [signed, Fields.signedOffsetPart, hasSign]
      | true =>
          simp [signed, Fields.signedOffsetPart, hasSign]
          omega
    rw [← sum]
    apply UtcOffset.ofParts?_of_sameSign
    · cases negative <;> simp [signed, Fields.signedOffsetPart, hasSign]
    · cases negative <;> simp [signed] <;> omega
    · cases negative <;> simp [Fields.signedOffsetPart, hasSign] <;> omega
    · decide
  rcases parts with ⟨inRange, made⟩
  refine ⟨inRange, ?_⟩
  simp only [Fields.offset, hasHour, hasMinute, noSecond, Option.map_some,
    Option.getD_some, made]

theorem complete_offsetFields_iff {defaultOffset : UtcOffset} {hour : Nat}
    {negative : Bool} {offsetHour offsetMinute : Nat}
    (nested : Nested (some hour) minute second nanosecond)
    (offsetHour_le : offsetHour ≤ 23) (offsetMinute_le : offsetMinute ≤ 59) :
    complete (offsetFields year month day (some hour) minute second nanosecond negative
        offsetHour offsetMinute) defaultOffset = .ok timestamp ↔
      (timestamp.date.year = year ∧ timestamp.date.month = month ∧
        timestamp.date.day = day) ∧
      (timestamp.time.hour = hour ∧ timestamp.time.minute = minute.getD 0 ∧
        timestamp.time.second = second.getD 0 ∧
        timestamp.time.nanosecond = nanosecond.getD 0) ∧
      timestamp.offset.seconds =
        signed (some negative) (offsetHour * 3600 + offsetMinute * 60) := by
  have filled : complete (offsetFields year month day (some hour) minute second nanosecond
      negative offsetHour offsetMinute) defaultOffset =
        (offsetFields year month day (some hour) minute second nanosecond
          negative offsetHour
          offsetMinute).timestamp := rfl
  have written :
      ∃ inRange, (offsetFields year month day (some hour) minute second nanosecond
      negative offsetHour offsetMinute).offset =
        .ok ⟨signed (some negative) (offsetHour * 3600 + offsetMinute * 60), inRange⟩ :=
    offset_of_signed offsetHour_le offsetMinute_le rfl rfl rfl rfl
  rcases written with ⟨inRange, made⟩
  rcases timestamp with ⟨date, time, offset⟩
  rw [filled, timestamp_eq_ok_iff rfl rfl rfl rfl rfl rfl nested, made, Except.ok.injEq,
    UtcOffset.mk.injEq, eq_comm (b := offset.seconds)]
  rfl

end ScalarCell.Pattern
