import ScalarCell.Proofs.Calendar.Rfc3339RoundTrip

namespace ScalarCell.Pattern

/-! RFC 3339 and the default list have texts in common. On these they agree, part by part,
and what RFC 3339 writes is among them. -/

open Digits Rfc3339

/-! ## What may follow a time to the second -/

inductive OffsetRest : List Char → Option UtcOffset → Prop
  | absent : OffsetRest [] none
  | offset {offsetText : List Char} {negative : Bool} {hour minute : Nat}
      {offset : UtcOffset} (offsetForm : OffsetText offsetText negative hour minute)
      (hour_le : hour ≤ 25) (minute_le : minute ≤ 59)
      (seconds_eq : offset.seconds = signed (some negative) (hour * 3600 + minute * 60)) :
      OffsetRest offsetText (some offset)

variable {rest zoneText front text : List Char} {separator : Char}
variable {written other : Option UtcOffset} {offset : UtcOffset} {time : TimeOfDay}

theorem OffsetRest.noFractionNext (form : OffsetRest rest written) :
    NoFractionNext rest := by
  cases form with
  | absent => exact noFractionNext_nil
  | offset offsetForm => exact offsetForm.noFractionNext.1

theorem OffsetRest.unique (form : OffsetRest rest written)
    (otherForm : OffsetRest rest other) : written = other := by
  cases form with
  | absent =>
      generalize text_eq : ([] : List Char) = text at otherForm
      cases otherForm with
      | absent => rfl
      | offset offsetForm => exact absurd text_eq.symm offsetForm.noFractionNext.2
  | offset offsetForm _ _ seconds_eq =>
      cases otherForm with
      | absent => exact absurd rfl offsetForm.noFractionNext.2
      | offset otherForm _ _ other_eq =>
          rcases offsetForm.append_unique otherForm (rfl : rest ++ [] = _) with
            ⟨⟨rfl, rfl, rfl⟩, -⟩
          exact congrArg some (signed_offset_eq seconds_eq other_eq)

theorem ClockText.of_secondText {secondText : List Char}
    {hour minute second nanosecond : Nat}
    (clockForm : ClockText (separator :: (secondText ++ rest)) time written)
    (form : SecondText secondText hour minute second nanosecond)
    (stops : NoFractionNext rest) :
    (time.hour = hour ∧ time.minute = minute ∧ time.second = second ∧
        time.nanosecond = nanosecond) ∧
      OffsetRest rest written := by
  generalize text_eq : separator :: (secondText ++ rest) = text at clockForm
  cases clockForm with
  | absent => cases text_eq
  | minute _ minuteForm =>
      exact absurd (List.cons.inj text_eq).2 (form.append_ne_minuteText minuteForm rest)
  | @second _ otherText _ _ otherForm =>
      have same := (List.cons.inj text_eq).2.trans (List.append_nil otherText).symm
      rcases form.append_unique otherForm stops noFractionNext_nil same with
        ⟨⟨rfl, rfl, rfl, rfl⟩, rfl⟩
      exact ⟨⟨rfl, rfl, rfl, rfl⟩, .absent⟩
  | offset _ otherForm offsetForm hour_le minute_le seconds_eq =>
      rcases form.append_unique otherForm stops offsetForm.noFractionNext.1
          (List.cons.inj text_eq).2 with
        ⟨⟨rfl, rfl, rfl, rfl⟩, rfl⟩
      exact ⟨⟨rfl, rfl, rfl, rfl⟩, .offset offsetForm hour_le minute_le seconds_eq⟩

theorem OffsetRest.clockText {secondText : List Char} (form : OffsetRest rest written)
    (isSeparator : IsSeparator separator)
    (secondForm : SecondText secondText time.hour time.minute time.second
      time.nanosecond) :
    ClockText (separator :: (secondText ++ rest)) time written := by
  cases form with
  | absent =>
      rw [List.append_nil]
      exact .second isSeparator secondForm
  | offset offsetForm hour_le minute_le seconds_eq =>
      exact .offset isSeparator secondForm offsetForm hour_le minute_le seconds_eq

/-! ## The letter of UTC -/

/-- A list drops the letter of UTC, and then takes the default offset for it. A small letter
it does not drop. -/
theorem exists_offsetRest_of_zoneText (form : ZoneText zoneText offset)
    (notSmall : zoneText ≠ ['z']) (front : List Char) :
    ∃ rest written, PatternList.dropZulu (front ++ zoneText) = front ++ rest ∧
      OffsetRest rest written ∧ offset = written.getD .utc := by
  cases form with
  | zulu isZulu =>
      rcases isZulu with rfl | rfl
      · exact ⟨[], none, by rw [PatternList.dropZulu_append_zulu, List.append_nil], .absent,
          rfl⟩
      · exact absurd rfl notSmall
  | offset offsetForm hour_le minute_le seconds_eq =>
      have ends := offsetForm.endsWithDigit.append_left front
      exact ⟨zoneText, some offset, PatternList.dropZulu_of_endsWithDigit ends,
        .offset offsetForm (by omega) minute_le seconds_eq, rfl⟩

theorem zoneText_ne_small_of_endsWithDigit
    (ends : EndsWithDigit (PatternList.dropZulu (front ++ zoneText))) :
    zoneText ≠ ['z'] := by
  rintro rfl
  have kept : PatternList.dropZulu (front ++ ['z']) = front ++ ['z'] := by
    simp [PatternList.dropZulu]
  rw [kept] at ends
  rcases ends with ⟨_, digit, same, isDigit⟩
  rcases List.append_inj' same rfl with ⟨-, last_eq⟩
  cases last_eq
  cases isDigit

/-! ## Agreement -/

theorem timestamp_of_defaultText {written : Written} {timestamp : Timestamp}
    (form : WrittenText separator zoneText text written)
    (defaultForm : DefaultText .utc (PatternList.dropZulu text) timestamp) :
    written.timestamp = .ok timestamp := by
  rcases form.exists_parts with
    ⟨dateText, secondText, rfl, dateForm, secondForm, zoneForm⟩
  have text_eq : dateText ++ separator :: (secondText ++ zoneText) =
      (dateText ++ separator :: secondText) ++ zoneText := by simp
  rw [text_eq] at defaultForm
  have notSmall := zoneText_ne_small_of_endsWithDigit defaultForm.endsWithDigit
  rcases exists_offsetRest_of_zoneText zoneForm notSmall
      (dateText ++ separator :: secondText) with
    ⟨rest, offset, dropped, restForm, offset_eq⟩
  rw [dropped, List.append_assoc, List.cons_append] at defaultForm
  generalize same : dateText ++ separator :: (secondText ++ rest) = whole at defaultForm
  rcases defaultForm with ⟨otherDateForm, clockForm, default_eq⟩
  rcases dateForm.append_unique otherDateForm same with ⟨⟨year_eq, month_eq, day_eq⟩, rfl⟩
  rcases clockForm.of_secondText secondForm restForm.noFractionNext with
    ⟨⟨hour_eq, minute_eq, second_eq, nanosecond_eq⟩, otherRestForm⟩
  -- The list reads no leap second, so none was written.
  have second_lt := timestamp.time.second_lt
  rw [Written.timestamp_eq_ok_iff (by omega), offset_eq, default_eq,
    restForm.unique otherRestForm]
  exact ⟨⟨year_eq.symm, month_eq.symm, day_eq.symm⟩,
    ⟨hour_eq, minute_eq, second_eq, nanosecond_eq⟩, rfl⟩

end ScalarCell.Pattern

namespace ScalarCell.PatternList

open Pattern Rfc3339

variable {text : String} {timestamp found : Timestamp}

theorem default_read_eq_of_rfc3339 (read : Rfc3339.read text = .ok timestamp)
    (readDefault : PatternList.default.read text .utc = .ok found) : found = timestamp := by
  rw [Rfc3339.read, bind_eq_ok_iff] at read
  rcases read with ⟨written, readWritten, made⟩
  rcases exists_of_readWritten readWritten with ⟨separator, zoneText, -, form⟩
  rcases default_read_iff_readsAs.mp readDefault with ⟨defaultForm, -⟩
  rw [timestamp_of_defaultText form defaultForm] at made
  exact Except.ok.inj made

theorem writeOffset_ne_small (offset : UtcOffset) : writeOffset offset ≠ ['z'] := by
  rw [writeOffset]
  split
  · decide
  · simp

theorem default_read_characters (writable : Writable timestamp) :
    PatternList.default.read (String.ofList (characters timestamp)) .utc =
      .ok timestamp := by
  have year_eq : (timestamp.date.year.natAbs : Int) = timestamp.date.year :=
    Int.natAbs_of_nonneg writable.1.1
  rcases (writtenText_characters writable).exists_parts with
    ⟨dateText, secondText, text_eq, dateForm, secondForm, zoneForm⟩
  rcases exists_offsetRest_of_zoneText zoneForm (writeOffset_ne_small timestamp.offset)
      (dateText ++ 'T' :: secondText) with
    ⟨rest, written, dropped, restForm, offset_eq⟩
  simp only [List.append_assoc, List.cons_append] at dropped
  rw [default_read_iff_readsAs, String.toList_ofList, text_eq, dropped]
  rw [Written.ofTimestamp, year_eq] at dateForm
  exact ⟨.intro dateForm (restForm.clockText (.inr rfl) secondForm) offset_eq,
    writable.2.2⟩

end ScalarCell.PatternList
