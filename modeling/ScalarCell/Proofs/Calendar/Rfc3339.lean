import ScalarCell.Calendar.Rfc3339
import ScalarCell.Proofs.PatternList.DefaultText

namespace ScalarCell.Rfc3339

/-! The texts that RFC 3339 has for timestamps, and what each of them says. The reader takes
these texts and no others. -/

open Digits Pattern

/-! ## Forms -/

inductive ZoneText : List Char → UtcOffset → Prop
  | zulu {letter : Char} (isZulu : letter = 'Z' ∨ letter = 'z') : ZoneText [letter] .utc
  | offset {offsetText : List Char} {negative : Bool} {hour minute : Nat}
      {offset : UtcOffset} (offsetForm : OffsetText offsetText negative hour minute)
      (hour_le : hour ≤ 23) (minute_le : minute ≤ 59)
      (seconds_eq : offset.seconds = signed (some negative) (hour * 3600 + minute * 60)) :
      ZoneText offsetText offset

/-- A date, one character, and a time with its offset. Every number has all its digits. -/
inductive WrittenText (separator : Char) (zoneText : List Char) :
    List Char → Written → Prop
  | intro {yearText monthText dayText hourText minuteText secondText : List Char}
      {fractionText : List Char} {written : Written}
      (yearForm : IsNumber 4 yearText written.year)
      (monthForm : IsNumber 2 monthText written.month) (month_ne : written.month ≠ 0)
      (dayForm : IsNumber 2 dayText written.day)
      (hourForm : IsNumber 2 hourText written.hour)
      (minuteForm : IsNumber 2 minuteText written.minute)
      (secondForm : IsNumber 2 secondText written.second)
      (fractionForm : FractionText fractionText written.nanosecond)
      (zoneForm : ZoneText zoneText written.offset) :
      WrittenText separator zoneText (yearText ++ '-' :: (monthText ++ '-' :: (dayText ++
        separator :: (hourText ++ ':' :: (minuteText ++ ':' :: (secondText ++
          (fractionText ++ zoneText))))))) written

theorem ZoneText.noFractionNext {text : List Char} {offset : UtcOffset}
    (form : ZoneText text offset) : NoFractionNext text := by
  cases form with
  | zulu isZulu => rcases isZulu with rfl | rfl <;> simp [NoFractionNext]
  | offset offsetForm => exact offsetForm.noFractionNext.1

theorem WrittenText.exists_parts {separator : Char} {zoneText text : List Char}
    {written : Written} (form : WrittenText separator zoneText text written) :
    ∃ dateText secondText,
      text = dateText ++ separator :: (secondText ++ zoneText) ∧
      DateText dateText written.year written.month written.day ∧
      SecondText secondText written.hour written.minute written.second
        written.nanosecond ∧
      ZoneText zoneText written.offset := by
  rcases form with
    ⟨yearForm, monthForm, -, dayForm, hourForm, minuteForm, secondForm, fractionForm,
      zoneForm⟩
  have minuteText := MinuteText.intro (.inr rfl) hourForm minuteForm
  exact ⟨_, _, by simp, .intro .absent yearForm monthForm dayForm,
    .intro minuteText secondForm fractionForm, zoneForm⟩

/-! ## Steps that can fail -/

section Steps

variable {ε α β : Type} {result : β}

theorem bind_eq_ok_iff {outcome : Except ε α} {next : α → Except ε β} :
    (outcome >>= next) = .ok result ↔
      ∃ value, outcome = .ok value ∧ next value = .ok result := by
  cases outcome with
  | error error => simp [bind, Except.bind]
  | ok value => simp [bind, Except.bind]

theorem check_eq_ok_iff {refused : Prop} [Decidable refused] {error : ε}
    {next : α → Except ε β} {outcome : Except ε β} :
    (if refused then Except.error error >>= next else outcome) = .ok result ↔
      ¬ refused ∧ outcome = .ok result := by
  by_cases holds : refused
  · simp [holds, bind, Except.bind]
  · simp [holds]

end Steps

/-! ## Reading the parts -/

variable {part : WrittenPart} {count number nanosecond : Nat} {text rest : List Char}
variable {bytes : List UInt8} {offset : UtcOffset}

theorem readNumber_eq_ok_iff {outcome : Nat × List UInt8} :
    readNumber part count bytes = .ok outcome ↔ exactly? count bytes = some outcome := by
  rw [readNumber]
  cases exactly? count bytes with
  | none => simp
  | some found => simp

theorem readNumber_encode_iff :
    readNumber part count (Utf8.encode text) = .ok (number, bytes) ↔
      ∃ digits rest, text = digits ++ rest ∧ IsNumber count digits number ∧
        bytes = Utf8.encode rest := by
  rw [readNumber_eq_ok_iff, exactly?_encode_iff]
  constructor
  · intro given
    rcases given with ⟨digits, found, rest, text_eq, isNumber, progress_eq⟩
    cases progress_eq
    exact ⟨digits, rest, text_eq, isNumber, rfl⟩
  · intro given
    rcases given with ⟨digits, rest, text_eq, isNumber, rfl⟩
    exact ⟨digits, number, rest, text_eq, isNumber, rfl⟩

/-- One byte is passed over between the date and the time. It is a whole character, for
digits follow it. -/
theorem readNumber_drop_encode_iff :
    readNumber part (count + 1) ((Utf8.encode text).drop 1) = .ok (number, bytes) ↔
      ∃ separator rest, text = separator :: rest ∧ separator.toNat < 128 ∧
        readNumber part (count + 1) (Utf8.encode rest) = .ok (number, bytes) := by
  simp only [readNumber_eq_ok_iff, exactly?_drop_encode_iff]

theorem readLiteral_encode_iff {expected : Char} {byte : UInt8}
    (same : expected.toNat = byte.toNat) (ascii : byte.toNat < 128) :
    readLiteral byte (Utf8.encode text) = .ok bytes ↔
      ∃ rest, text = expected :: rest ∧ bytes = Utf8.encode rest := by
  have passes : readLiteral byte (Utf8.encode text) = .ok bytes ↔
      Utf8.encode text = byte :: bytes := by
    cases Utf8.encode text with
    | nil => simp [readLiteral]
    | cons first others =>
        by_cases isByte : first = byte <;> simp [readLiteral, isByte]
  rw [passes, Utf8.encode_eq_cons_char_iff same ascii]

theorem readLiteral_dash_iff :
    readLiteral 0x2D (Utf8.encode text) = .ok bytes ↔
      ∃ rest, text = '-' :: rest ∧ bytes = Utf8.encode rest :=
  readLiteral_encode_iff rfl (by decide)

theorem readLiteral_colon_iff :
    readLiteral 0x3A (Utf8.encode text) = .ok bytes ↔
      ∃ rest, text = ':' :: rest ∧ bytes = Utf8.encode rest :=
  readLiteral_encode_iff rfl (by decide)

/-! ### The fraction -/

theorem encode_eq_cons_point_iff :
    Utf8.encode text = 0x2E :: bytes ↔
      ∃ rest, text = '.' :: rest ∧ bytes = Utf8.encode rest :=
  Utf8.encode_eq_cons_char_iff rfl (by decide)

theorem exists_of_readFraction
    (read : readFraction (Utf8.encode text) = .ok (nanosecond, bytes)) :
    ∃ fractionText rest, text = fractionText ++ rest ∧
      FractionText fractionText nanosecond ∧ bytes = Utf8.encode rest := by
  rw [readFraction.eq_def] at read
  split at read
  · rename_i empty
    cases read
    exact ⟨[], text, rfl, .absent, empty.symm⟩
  · rename_i byte others encoded
    split at read
    · rename_i isPoint
      subst isPoint
      rcases encode_eq_cons_point_iff.mp encoded with ⟨afterPoint, rfl, rfl⟩
      split at read
      · rename_i outcome found
        cases read
        rcases fraction?_encode_iff.mp found with
          ⟨digits, rest, rfl, nonempty, isDigit, -, progress_eq⟩
        cases progress_eq
        exact ⟨'.' :: digits, rest, rfl, .digits nonempty isDigit, rfl⟩
      · cases read
    · cases read
      exact ⟨[], text, rfl, .absent, encoded.symm⟩

theorem readFraction_encode {fractionText : List Char}
    (form : FractionText fractionText nanosecond) (stops : NoFractionNext rest) :
    readFraction (Utf8.encode (fractionText ++ rest)) =
      .ok (nanosecond, Utf8.encode rest) := by
  cases form with
  | absent =>
      rw [List.nil_append]
      cases encoded : Utf8.encode rest with
      | nil => rfl
      | cons byte others =>
          have notPoint : byte ≠ 0x2E := by
            rintro rfl
            rcases encode_eq_cons_point_iff.mp encoded with ⟨_, rfl, -⟩
            exact (stops '.' rfl).1 rfl
          simp only [readFraction, notPoint, if_false]
  | @digits digits nonempty isDigit =>
      have noDigit : NoDigitNext rest := fun character first => (stops character first).2
      have read := fraction?_encode_iff.mpr
        ⟨digits, rest, rfl, nonempty, isDigit, noDigit, rfl⟩
      change readFraction (0x2E :: Utf8.encode (digits ++ rest)) = _
      simp only [readFraction, if_true, read]

/-! ### The offset -/

def signFactor (negative : Bool) : Int :=
  if negative then -1 else 1

theorem ofParts?_signed {negative : Bool} {hour minute : Nat} (hour_le : hour ≤ 25) :
    UtcOffset.ofParts? (signFactor negative * hour) (signFactor negative * minute) 0 =
        some offset ↔
      minute ≤ 59 ∧
        offset.seconds = signed (some negative) (hour * 3600 + minute * 60) := by
  have sum : signFactor negative * hour * 3600 + signFactor negative * minute * 60 + 0 =
      signed (some negative) (hour * 3600 + minute * 60) := by
    cases negative with
    | false => simp [signFactor, signed]
    | true =>
        simp [signFactor, signed]
        omega
  have distances : (signFactor negative * (hour : Int)).natAbs = hour ∧
      (signFactor negative * (minute : Int)).natAbs = minute := by
    cases negative <;> simp [signFactor]
  by_cases minute_le : minute ≤ 59
  · have sameSign : (0 ≤ signFactor negative * (hour : Int) ∧
        0 ≤ signFactor negative * (minute : Int) ∧ (0 : Int) ≤ 0) ∨
        (signFactor negative * (hour : Int) ≤ 0 ∧
          signFactor negative * (minute : Int) ≤ 0 ∧ (0 : Int) ≤ 0) := by
      cases negative <;> simp [signFactor]
    rcases UtcOffset.ofParts?_of_sameSign sameSign (by omega) (by omega) (by decide) with
      ⟨inRange, made⟩
    rcases offset with ⟨seconds, range⟩
    rw [made, Option.some.injEq, UtcOffset.mk.injEq, sum, eq_comm]
    exact ⟨fun same => ⟨minute_le, same⟩, And.right⟩
  · rw [UtcOffset.ofParts?, if_neg (by omega)]
    simp [minute_le]

theorem readSignedOffset_encode_iff {negative : Bool} :
    readSignedOffset (signFactor negative) (Utf8.encode text) = .ok (offset, bytes) ↔
      ∃ hourText minuteText hour minute rest,
        text = hourText ++ ':' :: (minuteText ++ rest) ∧ IsNumber 2 hourText hour ∧
        hour ≤ 23 ∧ IsNumber 2 minuteText minute ∧ minute ≤ 59 ∧
        offset.seconds = signed (some negative) (hour * 3600 + minute * 60) ∧
        bytes = Utf8.encode rest := by
  simp only [readSignedOffset, bind_eq_ok_iff, check_eq_ok_iff, Prod.exists]
  constructor
  · intro read
    rcases read with ⟨hour, _, readHour, notMore, _, readColon, minute, _, readMinute, made⟩
    rcases readNumber_encode_iff.mp readHour with ⟨hourText, _, rfl, hourForm, rfl⟩
    rcases readLiteral_colon_iff.mp readColon with ⟨_, rfl, rfl⟩
    rcases readNumber_encode_iff.mp readMinute with ⟨minuteText, rest, rfl, minuteForm, rfl⟩
    have hour_le : hour ≤ 23 := by omega
    split at made
    · rename_i found isOffset
      cases made
      rcases (ofParts?_signed (by omega)).mp isOffset with ⟨minute_le, seconds_eq⟩
      exact ⟨hourText, minuteText, hour, minute, rest, rfl, hourForm, hour_le, minuteForm,
        minute_le, seconds_eq, rfl⟩
    · cases made
  · intro given
    rcases given with
      ⟨hourText, minuteText, hour, minute, rest, rfl, hourForm, hour_le, minuteForm,
        minute_le, seconds_eq, rfl⟩
    have made := (ofParts?_signed (by omega : hour ≤ 25)).mpr ⟨minute_le, seconds_eq⟩
    refine ⟨hour, _, readNumber_encode_iff.mpr ⟨hourText, _, rfl, hourForm, rfl⟩, by omega,
      _, readLiteral_colon_iff.mpr ⟨_, rfl, rfl⟩, minute, _,
      readNumber_encode_iff.mpr ⟨minuteText, rest, rfl, minuteForm, rfl⟩, ?_⟩
    simp only [made]

theorem exists_zoneText_of_readSignedOffset {negative : Bool} {signText : List Char}
    (signForm : SignText signText (some negative))
    (read : readSignedOffset (signFactor negative) (Utf8.encode text) =
      .ok (offset, bytes)) :
    ∃ zoneText rest, signText ++ text = zoneText ++ rest ∧ ZoneText zoneText offset ∧
      bytes = Utf8.encode rest := by
  rcases readSignedOffset_encode_iff.mp read with
    ⟨hourText, minuteText, hour, minute, rest, rfl, hourForm, hour_le, minuteForm,
      minute_le, seconds_eq, rfl⟩
  exact ⟨_, rest, by simp, .offset (.intro signForm hourForm minuteForm) hour_le minute_le
    seconds_eq, rfl⟩

theorem exists_of_readOffset
    (read : readOffset (Utf8.encode text) = .ok (offset, bytes)) :
    ∃ zoneText rest, text = zoneText ++ rest ∧ ZoneText zoneText offset ∧
      bytes = Utf8.encode rest := by
  rw [readOffset.eq_def] at read
  split at read
  · cases read
  · rename_i byte others encoded
    split at read
    · rename_i isZulu
      cases read
      rcases isZulu with rfl | rfl
      · rcases (Utf8.encode_eq_cons_char_iff (rfl : ('Z' : Char).toNat = _)
          (by decide)).mp encoded with ⟨rest, rfl, rfl⟩
        exact ⟨['Z'], rest, rfl, .zulu (.inl rfl), rfl⟩
      · rcases (Utf8.encode_eq_cons_char_iff (rfl : ('z' : Char).toNat = _)
          (by decide)).mp encoded with ⟨rest, rfl, rfl⟩
        exact ⟨['z'], rest, rfl, .zulu (.inr rfl), rfl⟩
    · split at read
      · rename_i isPlus
        subst isPlus
        rcases (Utf8.encode_eq_cons_char_iff (rfl : ('+' : Char).toNat = _)
          (by decide)).mp encoded with ⟨rest, rfl, rfl⟩
        exact exists_zoneText_of_readSignedOffset .plus read
      · split at read
        · rename_i isMinus
          subst isMinus
          rcases (Utf8.encode_eq_cons_char_iff (rfl : ('-' : Char).toNat = _)
            (by decide)).mp encoded with ⟨rest, rfl, rfl⟩
          exact exists_zoneText_of_readSignedOffset .minus read
        · cases read

theorem readOffset_encode {zoneText : List Char} (form : ZoneText zoneText offset)
    (rest : List Char) :
    readOffset (Utf8.encode (zoneText ++ rest)) = .ok (offset, Utf8.encode rest) := by
  cases form with
  | zulu isZulu => rcases isZulu with rfl | rfl <;> rfl
  | @offset _ negative hour minute _ offsetForm hour_le minute_le seconds_eq =>
      rcases offsetForm with ⟨signForm, hourForm, minuteForm⟩
      have read := readSignedOffset_encode_iff.mpr
        ⟨_, _, hour, minute, rest, rfl, hourForm, hour_le, minuteForm, minute_le,
          seconds_eq, rfl⟩
      rw [List.append_assoc, List.append_assoc, List.cons_append]
      cases signForm with
      | plus => exact read
      | minus => exact read

/-! ## Reading the whole -/

theorem exists_of_readWritten {written : Written}
    (read : readWritten (Utf8.encode text) = .ok written) :
    ∃ separator zoneText, separator.toNat < 128 ∧
      WrittenText separator zoneText text written := by
  simp only [readWritten, bind_eq_ok_iff, check_eq_ok_iff, Prod.exists] at read
  rcases read with
    ⟨year, _, readYear, _, readDash, month, _, readMonth, month_ne, _, readSecondDash, day,
      _, readDay, -, hour, _, readHour, _, readColon, minute, _, readMinute, _,
      readSecondColon, second, _, readSecond, nanosecond, _, readFraction, offset, _,
      readZone, made⟩
  rcases readNumber_encode_iff.mp readYear with ⟨yearText, _, rfl, yearForm, rfl⟩
  rcases readLiteral_dash_iff.mp readDash with ⟨_, rfl, rfl⟩
  rcases readNumber_encode_iff.mp readMonth with ⟨monthText, _, rfl, monthForm, rfl⟩
  rcases readLiteral_dash_iff.mp readSecondDash with ⟨_, rfl, rfl⟩
  rcases readNumber_encode_iff.mp readDay with ⟨dayText, _, rfl, dayForm, rfl⟩
  -- Any byte may stand here, and the hour after it makes it a character of its own.
  rcases readNumber_drop_encode_iff.mp readHour with ⟨separator, _, rfl, ascii, readHour⟩
  rcases readNumber_encode_iff.mp readHour with ⟨hourText, _, rfl, hourForm, rfl⟩
  rcases readLiteral_colon_iff.mp readColon with ⟨_, rfl, rfl⟩
  rcases readNumber_encode_iff.mp readMinute with ⟨minuteText, _, rfl, minuteForm, rfl⟩
  rcases readLiteral_colon_iff.mp readSecondColon with ⟨_, rfl, rfl⟩
  rcases readNumber_encode_iff.mp readSecond with ⟨secondText, _, rfl, secondForm, rfl⟩
  rcases exists_of_readFraction readFraction with ⟨fractionText, _, rfl, fractionForm, rfl⟩
  rcases exists_of_readOffset readZone with ⟨zoneText, rest, rfl, zoneForm, rfl⟩
  split at made
  · rename_i atEnd
    cases made
    rcases Utf8.encode_eq_nil_iff.mp (List.isEmpty_iff.mp atEnd) with rfl
    rw [List.append_nil]
    exact ⟨separator, zoneText, ascii, .intro yearForm monthForm month_ne dayForm hourForm minuteForm
      secondForm fractionForm zoneForm⟩
  · cases made

theorem readWritten_encode {written : Written} {separator : Char} {zoneText : List Char}
    (ascii : separator.toNat < 128) (form : WrittenText separator zoneText text written) :
    readWritten (Utf8.encode text) = .ok written := by
  rcases form with
    ⟨yearForm, monthForm, month_ne, dayForm, hourForm, minuteForm, secondForm,
      fractionForm, zoneForm⟩
  have readZone := readOffset_encode zoneForm []
  rw [List.append_nil] at readZone
  have notAtEnd (rest : List Char) :
      ¬ (Utf8.encode (separator :: rest)).isEmpty = true := by
    rw [List.isEmpty_iff, Utf8.encode_eq_nil_iff]
    exact List.cons_ne_nil _ _
  simp only [readWritten, bind_eq_ok_iff, check_eq_ok_iff, Prod.exists]
  refine ⟨_, _, readNumber_encode_iff.mpr ⟨_, _, rfl, yearForm, rfl⟩,
    _, readLiteral_dash_iff.mpr ⟨_, rfl, rfl⟩,
    _, _, readNumber_encode_iff.mpr ⟨_, _, rfl, monthForm, rfl⟩, month_ne,
    _, readLiteral_dash_iff.mpr ⟨_, rfl, rfl⟩,
    _, _, readNumber_encode_iff.mpr ⟨_, _, rfl, dayForm, rfl⟩, notAtEnd _,
    _, _, readNumber_drop_encode_iff.mpr ⟨separator, _, rfl, ascii,
      readNumber_encode_iff.mpr ⟨_, _, rfl, hourForm, rfl⟩⟩,
    _, readLiteral_colon_iff.mpr ⟨_, rfl, rfl⟩,
    _, _, readNumber_encode_iff.mpr ⟨_, _, rfl, minuteForm, rfl⟩,
    _, readLiteral_colon_iff.mpr ⟨_, rfl, rfl⟩,
    _, _, readNumber_encode_iff.mpr ⟨_, _, rfl, secondForm, rfl⟩,
    _, _, readFraction_encode fractionForm zoneForm.noFractionNext,
    _, _, readZone, rfl⟩

/-! ## The timestamp of the parts -/

theorem Written.date_eq_ok_iff {written : Written} {date : Date} :
    written.date = .ok date ↔
      date.year = written.year ∧ date.month = written.month ∧ date.day = written.day := by
  rw [Written.date, ← ofCalendar?_eq_some_iff]
  by_cases beyond : 12 < written.month
  · have notMade : Date.ofCalendar? written.year written.month written.day ≠ some date := by
      intro made
      rcases ofCalendar?_eq_some_iff.mp made with ⟨-, month_eq, -⟩
      rcases date.isDate with ⟨-, -, month_le, -⟩
      omega
    simp [beyond, notMade]
  · rw [if_neg beyond]
    cases Date.ofCalendar? written.year written.month written.day with
    | none => simp
    | some found => simp

theorem timeOfDay_eq_ok_iff {hour minute second : Nat} {time : TimeOfDay} :
    timeOfDay hour minute second nanosecond = .ok time ↔
      time.hour = hour ∧ time.minute = minute ∧ time.second = second ∧
        time.nanosecond = nanosecond := by
  rw [timeOfDay, ← timeOfParts?_eq_some_iff]
  by_cases inRange : hour < 24 ∧ minute < 60
  · rw [if_neg (by omega), if_neg (by omega)]
    cases TimeOfDay.ofParts? hour minute second nanosecond with
    | none => simp
    | some found => simp
  · have notMade : TimeOfDay.ofParts? hour minute second nanosecond ≠ some time := by
      intro made
      rcases timeOfParts?_eq_some_iff.mp made with ⟨rfl, rfl, -, -⟩
      exact inRange ⟨time.hour_lt, time.minute_lt⟩
    split
    · simp [notMade]
    · rw [if_pos (by omega)]
      simp [notMade]

/-- Unless the second is a leap second, the parts are those that are written. -/
theorem Written.timestamp_eq_ok_iff {written : Written} {timestamp : Timestamp}
    (notLeap : written.second ≠ 60) :
    written.timestamp = .ok timestamp ↔
      (timestamp.date.year = written.year ∧ timestamp.date.month = written.month ∧
        timestamp.date.day = written.day) ∧
      (timestamp.time.hour = written.hour ∧ timestamp.time.minute = written.minute ∧
        timestamp.time.second = written.second ∧
        timestamp.time.nanosecond = written.nanosecond) ∧
      timestamp.offset = written.offset := by
  simp only [Written.timestamp, bind_eq_ok_iff, notLeap, if_false]
  constructor
  · intro given
    rcases given with ⟨date, dateMade, time, timeMade, made⟩
    cases made
    exact ⟨date_eq_ok_iff.mp dateMade, timeOfDay_eq_ok_iff.mp timeMade, rfl⟩
  · intro given
    rcases given with ⟨dateParts, timeParts, offset_eq⟩
    refine ⟨_, date_eq_ok_iff.mpr dateParts, _, timeOfDay_eq_ok_iff.mpr timeParts, ?_⟩
    rw [← offset_eq]

end ScalarCell.Rfc3339
