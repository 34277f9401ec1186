import ScalarCell.Proofs.PatternList.Attempts
import ScalarCell.Proofs.PatternList.DefaultText

namespace ScalarCell.Pattern

/-! What each of the default patterns reads, and what the list of them reads. -/

open Digits

variable {defaultOffset : UtcOffset} {text : List Char} {timestamp : Timestamp}

theorem date_inRange (date : Date) :
    (1 ≤ date.month ∧ date.month ≤ 12) ∧ 1 ≤ date.day ∧ date.day ≤ 31 := by
  rcases date.isDate with ⟨-, month_pos, month_le, day_pos, day_le⟩
  have longest : daysInMonth date.year date.month ≤ 31 := by
    unfold daysInMonth
    split
    · split <;> omega
    all_goals omega
  exact ⟨⟨month_pos, month_le⟩, day_pos, day_le.trans longest⟩

/-- The meaning of a text that can be read: its offset has at most 23 whole hours. -/
def ReadsAs (defaultOffset : UtcOffset) (text : List Char) (timestamp : Timestamp) :
    Prop :=
  DefaultText defaultOffset text timestamp ∧ timestamp.offset.hourPart.natAbs ≤ 23

/-! ## What the items leave in the fields -/

theorem isSeparator_ascii {separator : Char} (isSeparator : IsSeparator separator) :
    separator.toNat < 128 := by
  rcases isSeparator with rfl | rfl <;> decide

theorem readList_minuteItems_iff {separator : Char} (isSeparator : IsSeparator separator)
    {progress : Progress} :
    readList (minuteItems separator) {} (Utf8.encode text) = .ok progress ↔
      ∃ dateText minuteText year month day hour minute rest,
        text = dateText ++ separator :: (minuteText ++ rest) ∧
        DateText dateText year month day ∧ (1 ≤ month ∧ month ≤ 12) ∧
        (1 ≤ day ∧ day ≤ 31) ∧
        MinuteText minuteText hour minute ∧ hour ≤ 23 ∧ minute ≤ 59 ∧
        progress = (localFields year month day (some hour) (some minute) none none,
          Utf8.encode rest) := by
  rw [minuteItems, readList_append_iff]
  constructor
  · intro given
    rcases given with ⟨_, readDate, read⟩
    rcases readList_dateItems_iff.mp readDate with
        ⟨dateText, year, month, day, _, rfl, dateForm, monthRange, dayRange, rfl⟩
    rcases (readList_minute_iff (isSeparator_ascii isSeparator)).mp read with
        ⟨minuteText, hour, minute, rest, rfl, minuteForm, hour_le, minute_le, rfl⟩
    exact ⟨dateText, minuteText, year, month, day, hour, minute, rest, rfl,
      dateForm, monthRange, dayRange, minuteForm, hour_le, minute_le, rfl⟩
  · intro given
    rcases given with
      ⟨dateText, minuteText, year, month, day, hour, minute, rest, rfl, dateForm,
      monthRange, dayRange, minuteForm, hour_le, minute_le, rfl⟩
    exact ⟨_, readList_dateItems_iff.mpr ⟨dateText, year, month, day, _, rfl, dateForm,
      monthRange, dayRange, rfl⟩,
      (readList_minute_iff (isSeparator_ascii isSeparator)).mpr
      ⟨minuteText, hour, minute, rest, rfl, minuteForm, hour_le, minute_le, rfl⟩⟩

theorem readList_secondItems_iff {separator : Char} (isSeparator : IsSeparator separator)
    {progress : Progress} :
    readList (secondItems separator) {} (Utf8.encode text) = .ok progress ↔
      ∃ dateText minuteText secondText year month day hour minute second rest,
        text = dateText ++ separator :: (minuteText ++ ':' :: (secondText ++ rest)) ∧
        DateText dateText year month day ∧ (1 ≤ month ∧ month ≤ 12) ∧
        (1 ≤ day ∧ day ≤ 31) ∧
        MinuteText minuteText hour minute ∧ hour ≤ 23 ∧ minute ≤ 59 ∧
        IsNumber 2 secondText second ∧ second ≤ 60 ∧
        progress = (localFields year month day (some hour) (some minute)
          (some second) none, Utf8.encode rest) := by
  rw [secondItems, readList_append_iff]
  constructor
  · intro given
    rcases given with ⟨_, readMinute, read⟩
    rcases (readList_minuteItems_iff isSeparator).mp readMinute with
        ⟨dateText, minuteText, year, month, day, hour, minute, _, rfl,
        dateForm, monthRange, dayRange, minuteForm, hour_le, minute_le, rfl⟩
    rcases readList_second_iff.mp read with
        ⟨secondText, second, rest, rfl, secondForm, second_le, rfl⟩
    exact ⟨dateText, minuteText, secondText, year, month, day, hour, minute,
      second, rest, rfl, dateForm, monthRange, dayRange, minuteForm, hour_le, minute_le,
      secondForm, second_le, rfl⟩
  · intro given
    rcases given with
      ⟨dateText, minuteText, secondText, year, month, day, hour, minute, second, rest,
      rfl, dateForm, monthRange, dayRange, minuteForm, hour_le, minute_le, secondForm,
      second_le, rfl⟩
    exact ⟨_, (readList_minuteItems_iff isSeparator).mpr ⟨dateText, minuteText,
      year, month, day, hour, minute, _, rfl, dateForm, monthRange, dayRange, minuteForm,
      hour_le, minute_le, rfl⟩, readList_second_iff.mpr ⟨secondText, second, rest, rfl,
      secondForm, second_le, rfl⟩⟩

theorem exists_of_readList_fractionItems {separator : Char}
    (isSeparator : IsSeparator separator) {progress : Progress}
    (read : readList (fractionItems separator) {} (Utf8.encode text) = .ok progress) :
    ∃ dateText secondText year month day hour minute second nanosecond rest,
      text = dateText ++ separator :: (secondText ++ rest) ∧
      DateText dateText year month day ∧
      SecondText secondText hour minute second (nanosecond.getD 0) ∧
      progress = (localFields year month day (some hour) (some minute)
        (some second) nanosecond, Utf8.encode rest) := by
  rw [fractionItems, readList_append_iff] at read
  rcases read with ⟨_, readSecond, read⟩
  rcases (readList_secondItems_iff isSeparator).mp readSecond with
      ⟨dateText, minuteText, secondText, year, month, day, hour, minute, second, _,
      rfl, dateForm, -, -, minuteForm, -, -, secondForm, -, rfl⟩
  rcases exists_fractionText_of_readList rfl read with
      ⟨fractionText, nanosecond, rest, rfl, fractionForm, rfl⟩
  exact ⟨dateText, _, year, month, day, hour, minute, second, nanosecond, rest,
    by simp, dateForm, .intro minuteForm secondForm fractionForm, rfl⟩

theorem exists_readList_fractionItems {separator : Char}
    (isSeparator : IsSeparator separator)
    {dateText secondText rest : List Char}
    (dateForm : DateText dateText timestamp.date.year timestamp.date.month
      timestamp.date.day)
    (secondForm : SecondText secondText timestamp.time.hour timestamp.time.minute
      timestamp.time.second timestamp.time.nanosecond) (stops : NoFractionNext rest) :
    ∃ nanosecond : Option Nat, nanosecond.getD 0 = timestamp.time.nanosecond ∧
      readList (fractionItems separator) {}
          (Utf8.encode (dateText ++ separator :: (secondText ++ rest))) =
        .ok (localFields timestamp.date.year timestamp.date.month timestamp.date.day
          (some timestamp.time.hour) (some timestamp.time.minute)
          (some timestamp.time.second)
          nanosecond, Utf8.encode rest) := by
  rcases date_inRange timestamp.date with ⟨monthRange, dayRange⟩
  have hour_lt := timestamp.time.hour_lt
  have minute_lt := timestamp.time.minute_lt
  have second_lt := timestamp.time.second_lt
  rcases secondForm with ⟨minuteForm, secondForm, fractionForm⟩
  have noNanosecond :
      (localFields timestamp.date.year timestamp.date.month timestamp.date.day
      (some timestamp.time.hour) (some timestamp.time.minute) (some timestamp.time.second)
      none).nanosecond = none := rfl
  rcases exists_readList_of_fractionText noNanosecond fractionForm stops with
      ⟨nanosecond, nanosecond_eq, readFraction⟩
  refine ⟨nanosecond, nanosecond_eq, ?_⟩
  rw [fractionItems, readList_append_iff]
  refine ⟨_, (readList_secondItems_iff isSeparator).mpr ⟨dateText, _, _, _, _,
    _, _, _, _, _, by simp, dateForm, monthRange, dayRange, minuteForm, by omega,
    by omega, secondForm, by omega, rfl⟩, readFraction⟩

/-! ## What the patterns read -/

theorem natAbs_hourPart_of_signed {offset : UtcOffset} {negative : Bool}
    {hour minute : Nat} (minute_le : minute ≤ 59)
    (seconds_eq : offset.seconds = signed (some negative) (hour * 3600 + minute * 60)) :
    offset.hourPart.natAbs = hour := by
  have distance : offset.seconds.natAbs = hour * 3600 + minute * 60 := by
    rw [seconds_eq, signed]
    split <;> omega
  rw [UtcOffset.natAbs_hourPart, distance]
  omega

theorem readsAs_of_dateItems
    (read : readItems (Items.ofList dateItems).relaxHours
      (Utf8.encode text) defaultOffset =
      .ok timestamp) : ReadsAs defaultOffset text timestamp := by
  rcases readItems_eq_ok_iff.mp read with ⟨fields, read, completed⟩
  rcases readList_dateItems_iff.mp read with
      ⟨dateText, year, month, day, rest, rfl, dateForm, -, -, progress_eq⟩
  rcases Prod.mk.inj progress_eq with ⟨rfl, rest_eq⟩
  rcases Utf8.encode_eq_nil_iff.mp rest_eq.symm with rfl
  change complete (localFields year month day none none none none) defaultOffset =
    _ at completed
  rw [complete_localFields_iff .absent] at completed
  rcases completed with
      ⟨settable, ⟨rfl, rfl, rfl⟩, ⟨hour_eq, minute_eq, second_eq, nanosecond_eq⟩, rfl⟩
  have midnight : timestamp.time = .midnight :=
    time_eq_of_parts hour_eq minute_eq second_eq nanosecond_eq
  have clockForm : ClockText [] timestamp.time none := midnight ▸ .absent
  exact ⟨.intro dateForm clockForm rfl, settable⟩

theorem readsAs_of_minuteItems {separator : Char} (isSeparator : IsSeparator separator)
    (read : readItems (Items.ofList (minuteItems separator)).relaxHours (Utf8.encode text)
      defaultOffset = .ok timestamp) : ReadsAs defaultOffset text timestamp := by
  rcases readItems_eq_ok_iff.mp read with ⟨fields, read, completed⟩
  rcases (readList_minuteItems_iff isSeparator).mp read with
      ⟨dateText, minuteText, year, month, day, hour, minute, rest, rfl, dateForm, -,
      -, minuteForm, -, -, progress_eq⟩
  rcases Prod.mk.inj progress_eq with ⟨rfl, rest_eq⟩
  rcases Utf8.encode_eq_nil_iff.mp rest_eq.symm with rfl
  rw [complete_localFields_iff (.minute hour minute)] at completed
  rcases completed with
    ⟨settable, ⟨rfl, rfl, rfl⟩, ⟨rfl, rfl, second_eq, nanosecond_eq⟩, rfl⟩
  rw [List.append_nil]
  exact ⟨.intro dateForm (.minute isSeparator minuteForm second_eq nanosecond_eq) rfl,
    settable⟩

theorem readsAs_of_secondItems {separator : Char} (isSeparator : IsSeparator separator)
    (read : readItems (Items.ofList (secondItems separator)).relaxHours (Utf8.encode text)
      defaultOffset = .ok timestamp) : ReadsAs defaultOffset text timestamp := by
  rcases readItems_eq_ok_iff.mp read with ⟨fields, read, completed⟩
  rcases (readList_secondItems_iff isSeparator).mp read with
      ⟨dateText, minuteText, secondText, year, month, day, hour, minute,
      second, rest, rfl, dateForm, -, -, minuteForm, -, -, secondForm, -, progress_eq⟩
  rcases Prod.mk.inj progress_eq with ⟨rfl, rest_eq⟩
  rcases Utf8.encode_eq_nil_iff.mp rest_eq.symm with rfl
  rw [complete_localFields_iff (.second hour minute second _)] at completed
  rcases completed with ⟨settable, ⟨rfl, rfl, rfl⟩, ⟨rfl, rfl, rfl, nanosecond_eq⟩, rfl⟩
  have fractionForm : FractionText [] timestamp.time.nanosecond := nanosecond_eq ▸ .absent
  exact ⟨.intro dateForm
    (.second isSeparator (.intro minuteForm secondForm fractionForm)) rfl,
    settable⟩

theorem readsAs_of_fractionItems {separator : Char} (isSeparator : IsSeparator separator)
    (read : readItems (Items.ofList (fractionItems separator)).relaxHours
      (Utf8.encode text)
      defaultOffset = .ok timestamp) : ReadsAs defaultOffset text timestamp := by
  rcases readItems_eq_ok_iff.mp read with ⟨fields, read, completed⟩
  rcases exists_of_readList_fractionItems isSeparator read with
      ⟨dateText, secondText, year, month, day, hour, minute, second,
      nanosecond, rest, rfl, dateForm, secondForm, progress_eq⟩
  rcases Prod.mk.inj progress_eq with ⟨rfl, rest_eq⟩
  rcases Utf8.encode_eq_nil_iff.mp rest_eq.symm with rfl
  rw [complete_localFields_iff (.second hour minute second _)] at completed
  rcases completed with ⟨settable, ⟨rfl, rfl, rfl⟩, ⟨rfl, rfl, rfl, nanosecond_eq⟩, rfl⟩
  rw [List.append_nil]
  rw [← nanosecond_eq] at secondForm
  exact ⟨.intro dateForm (.second isSeparator secondForm) rfl, settable⟩

theorem readsAs_of_offsetItems {separator : Char} (isSeparator : IsSeparator separator)
    (read : readItems (Items.ofList (offsetItems separator)).relaxHours (Utf8.encode text)
      defaultOffset = .ok timestamp) : ReadsAs defaultOffset text timestamp := by
  rcases readItems_eq_ok_iff.mp read with ⟨fields, read, completed⟩
  rw [offsetItems, readList_append_iff] at read
  rcases read with ⟨_, readFraction, read⟩
  rcases exists_of_readList_fractionItems isSeparator readFraction with
      ⟨dateText, secondText, year, month, day, hour, minute, second, nanosecond, _,
      rfl, dateForm, secondForm, rfl⟩
  rcases readList_offset_iff.mp read with
      ⟨offsetText, negative, offsetHour, offsetMinute, rest, rfl, offsetForm,
      offsetHour_le, offsetMinute_le, progress_eq⟩
  rcases Prod.mk.inj progress_eq with ⟨rfl, rest_eq⟩
  rcases Utf8.encode_eq_nil_iff.mp rest_eq.symm with rfl
  change complete
    (offsetFields year month day (some hour) (some minute) (some second) nanosecond
    negative offsetHour offsetMinute) defaultOffset = _ at completed
  rw [complete_offsetFields_iff (.second hour minute second _) offsetHour_le
    offsetMinute_le] at completed
  rcases completed with ⟨⟨rfl, rfl, rfl⟩, ⟨rfl, rfl, rfl, nanosecond_eq⟩, seconds_eq⟩
  rw [List.append_nil]
  rw [← nanosecond_eq] at secondForm
  refine ⟨.intro dateForm (.offset isSeparator secondForm offsetForm
    (by omega) offsetMinute_le
    seconds_eq) rfl, ?_⟩
  rw [natAbs_hourPart_of_signed offsetMinute_le seconds_eq]
  exact offsetHour_le

theorem readsAs_of_default {pattern : Pattern}
    (member : pattern ∈ PatternList.default.patterns)
    (read : pattern.read (Utf8.encode text) defaultOffset = .ok timestamp) :
    ReadsAs defaultOffset text timestamp := by
  have space : IsSeparator ' ' := .inl rfl
  have letter : IsSeparator 'T' := .inr rfl
  simp only [PatternList.default, List.mem_cons, List.not_mem_nil, or_false] at member
  rcases member with rfl | rfl | rfl | rfl | rfl | rfl | rfl | rfl | rfl
  · exact readsAs_of_offsetItems space read
  · exact readsAs_of_offsetItems letter read
  · exact readsAs_of_fractionItems space read
  · exact readsAs_of_fractionItems letter read
  · exact readsAs_of_secondItems space read
  · exact readsAs_of_secondItems letter read
  · exact readsAs_of_minuteItems space read
  · exact readsAs_of_minuteItems letter read
  · exact readsAs_of_dateItems read

/-! ## Some pattern reads every text that has a meaning -/

section Complete

variable {separator : Char} {dateText : List Char}
  (isSeparator : IsSeparator separator)
  (dateForm : DateText dateText timestamp.date.year timestamp.date.month
    timestamp.date.day)
  (offset_eq : timestamp.offset = defaultOffset)
  (settable : defaultOffset.hourPart.natAbs ≤ 23)

include dateForm offset_eq settable in
theorem readItems_dateItems (time_eq : timestamp.time = .midnight) :
    readItems (Items.ofList dateItems).relaxHours (Utf8.encode dateText) defaultOffset =
      .ok timestamp := by
  rcases date_inRange timestamp.date with ⟨monthRange, dayRange⟩
  rw [readItems_eq_ok_iff]
  refine ⟨localFields timestamp.date.year timestamp.date.month timestamp.date.day
    none none none none, readList_dateItems_iff.mpr ⟨dateText, _, _, _, [],
    (List.append_nil _).symm, dateForm, monthRange, dayRange, rfl⟩, ?_⟩
  rw [complete_localFields_iff .absent, time_eq]
  exact ⟨settable, ⟨rfl, rfl, rfl⟩, ⟨rfl, rfl, rfl, rfl⟩, offset_eq⟩

include isSeparator dateForm offset_eq settable in
theorem readItems_minuteItems {minuteText : List Char}
    (minuteForm : MinuteText minuteText timestamp.time.hour timestamp.time.minute)
    (second_eq : timestamp.time.second = 0)
    (nanosecond_eq : timestamp.time.nanosecond = 0) :
    readItems (Items.ofList (minuteItems separator)).relaxHours
        (Utf8.encode (dateText ++ separator :: minuteText)) defaultOffset =
          .ok timestamp := by
  rcases date_inRange timestamp.date with ⟨monthRange, dayRange⟩
  have hour_lt := timestamp.time.hour_lt
  have minute_lt := timestamp.time.minute_lt
  rw [readItems_eq_ok_iff]
  refine ⟨_, (readList_minuteItems_iff isSeparator).mpr ⟨dateText, minuteText, _, _,
    _, _, _, [], by rw [List.append_nil], dateForm, monthRange, dayRange, minuteForm,
    by omega, by omega, rfl⟩, ?_⟩
  rw [complete_localFields_iff (.minute _ _)]
  exact ⟨settable, ⟨rfl, rfl, rfl⟩, ⟨rfl, rfl, second_eq, nanosecond_eq⟩, offset_eq⟩

variable {secondText : List Char}
  (secondForm : SecondText secondText timestamp.time.hour timestamp.time.minute
    timestamp.time.second timestamp.time.nanosecond)

include isSeparator dateForm offset_eq settable secondForm in
theorem readItems_fractionItems :
    readItems (Items.ofList (fractionItems separator)).relaxHours
        (Utf8.encode (dateText ++ separator :: secondText)) defaultOffset =
          .ok timestamp := by
  rcases exists_readList_fractionItems isSeparator dateForm secondForm
    noFractionNext_nil with
      ⟨nanosecond, nanosecond_eq, read⟩
  rw [List.append_nil] at read
  rw [readItems_eq_ok_iff]
  refine ⟨_, read, ?_⟩
  rw [complete_localFields_iff (.second _ _ _ _)]
  exact ⟨settable, ⟨rfl, rfl, rfl⟩, ⟨rfl, rfl, rfl, nanosecond_eq.symm⟩, offset_eq⟩

include isSeparator dateForm secondForm in
theorem readItems_offsetItems {offsetText : List Char} {negative : Bool}
    {hour minute : Nat} (offsetForm : OffsetText offsetText negative hour minute)
    (hour_le : hour ≤ 23) (minute_le : minute ≤ 59)
    (seconds_eq : timestamp.offset.seconds =
      signed (some negative) (hour * 3600 + minute * 60)) :
    readItems (Items.ofList (offsetItems separator)).relaxHours
        (Utf8.encode (dateText ++ separator :: (secondText ++ offsetText)))
        defaultOffset =
      .ok timestamp := by
  rcases exists_readList_fractionItems isSeparator dateForm secondForm
    offsetForm.noFractionNext.1
      with
      ⟨nanosecond, nanosecond_eq, readFraction⟩
  have read : readList (offsetItems separator) {}
      (Utf8.encode (dateText ++ separator :: (secondText ++ offsetText))) =
        .ok (offsetFields timestamp.date.year timestamp.date.month timestamp.date.day
          (some timestamp.time.hour) (some timestamp.time.minute)
          (some timestamp.time.second)
          nanosecond negative hour minute, []) := by
    rw [offsetItems, readList_append_iff]
    exact ⟨_, readFraction, readList_offset_iff.mpr ⟨offsetText, negative,
      hour, minute, [], (List.append_nil _).symm, offsetForm, hour_le, minute_le, rfl⟩⟩
  rw [readItems_eq_ok_iff]
  refine ⟨_, read, ?_⟩
  rw [complete_offsetFields_iff (.second _ _ _ _) hour_le minute_le]
  exact ⟨⟨rfl, rfl, rfl⟩, ⟨rfl, rfl, rfl, nanosecond_eq.symm⟩, seconds_eq⟩

end Complete

theorem exists_default_of_readItems {items : List Item} {bytes : List UInt8}
    (known : items = dateItems ∨ ∃ separator, IsSeparator separator ∧
      (items = minuteItems separator ∨ items = fractionItems separator ∨
        items = offsetItems separator))
    (read : readItems (Items.ofList items).relaxHours bytes defaultOffset =
      .ok timestamp) :
    ∃ pattern ∈ PatternList.default.patterns,
      pattern.read bytes defaultOffset = .ok timestamp := by
  have found :
      ∃ pattern ∈ PatternList.default.patterns, pattern.items = Items.ofList items := by
    rcases known with rfl | ⟨_, rfl | rfl, rfl | rfl | rfl⟩
    all_goals simp [PatternList.default]
  rcases found with ⟨pattern, member, items_eq⟩
  refine ⟨pattern, member, ?_⟩
  rw [Pattern.read, items_eq]
  exact read

theorem exists_default_read (reads : ReadsAs defaultOffset text timestamp) :
    ∃ pattern ∈ PatternList.default.patterns,
      pattern.read (Utf8.encode text) defaultOffset = .ok timestamp := by
  rcases reads with ⟨⟨dateForm, clockForm, offset_eq⟩, settable⟩
  obtain ⟨time, time_eq⟩ : ∃ time, timestamp.time = time := ⟨_, rfl⟩
  rw [time_eq] at clockForm
  cases clockForm with
  | absent =>
      rw [offset_eq] at settable
      rw [List.append_nil]
      exact exists_default_of_readItems (.inl rfl)
        (readItems_dateItems dateForm offset_eq settable time_eq)
  | minute isSeparator minuteForm second_eq nanosecond_eq =>
      subst time_eq
      rw [offset_eq] at settable
      exact exists_default_of_readItems (.inr ⟨_, isSeparator, .inl rfl⟩)
        (readItems_minuteItems isSeparator dateForm offset_eq settable
          minuteForm second_eq
          nanosecond_eq)
  | second isSeparator secondForm =>
      subst time_eq
      rw [offset_eq] at settable
      exact exists_default_of_readItems (.inr ⟨_, isSeparator, .inr (.inl rfl)⟩)
        (readItems_fractionItems isSeparator dateForm offset_eq settable secondForm)
  | offset isSeparator secondForm offsetForm _ minute_le seconds_eq =>
      subst time_eq
      obtain rfl : timestamp.offset = _ := offset_eq
      rw [natAbs_hourPart_of_signed minute_le seconds_eq] at settable
      exact exists_default_of_readItems (.inr ⟨_, isSeparator, .inr (.inr rfl)⟩)
        (readItems_offsetItems isSeparator dateForm secondForm offsetForm
          settable minute_le
          seconds_eq)

end ScalarCell.Pattern

namespace ScalarCell.PatternList

/-! ## Reading with a list -/

open Pattern

variable {patterns : List Pattern} {last : Option (Pattern × Mismatch)}
    {bytes : List UInt8}
variable {defaultOffset : UtcOffset} {timestamp : Timestamp}

def Agree (patterns : List Pattern) (bytes : List UInt8) (defaultOffset : UtcOffset) :
    Prop :=
  ∀ pattern ∈ patterns, ∀ other ∈ patterns, ∀ timestamp otherTimestamp,
    pattern.read bytes defaultOffset = .ok timestamp →
      other.read bytes defaultOffset = .ok otherTimestamp → timestamp = otherTimestamp

theorem readFrom_eq_ok_iff (agree : Agree patterns bytes defaultOffset) :
    readFrom last bytes defaultOffset patterns = .ok timestamp ↔
      ∃ pattern ∈ patterns, pattern.read bytes defaultOffset = .ok timestamp := by
  constructor
  · exact exists_read_of_readFrom
  · intro given
    obtain ⟨pattern, member, readPattern⟩ := given
    have listed : ∃ found, readFrom last bytes defaultOffset patterns = .ok found :=
      exists_readFrom_of_read member readPattern
    obtain ⟨found, read⟩ := listed
    obtain ⟨other, otherMember, readOther⟩ := exists_read_of_readFrom read
    rw [read, agree other otherMember pattern member found timestamp readOther readPattern]

theorem default_agree (text : List Char) (defaultOffset : UtcOffset) :
    Agree PatternList.default.patterns (Utf8.encode text) defaultOffset := by
  intro pattern member other otherMember timestamp otherTimestamp read readOther
  obtain ⟨form, -⟩ := readsAs_of_default member read
  obtain ⟨otherForm, -⟩ := readsAs_of_default otherMember readOther
  exact form.unique otherForm rfl

/-- The default list reads exactly the texts that have a meaning it can take. The order of
its patterns does not matter, for no text has two meanings. -/
theorem readFrom_default_iff {text : List Char} :
    readFrom last (Utf8.encode text) defaultOffset PatternList.default.patterns =
      .ok timestamp ↔
      ReadsAs defaultOffset text timestamp := by
  rw [readFrom_eq_ok_iff (default_agree text defaultOffset)]
  constructor
  · intro given
    obtain ⟨pattern, member, read⟩ := given
    exact readsAs_of_default member read
  · exact exists_default_read

theorem dropZulu_of_endsWithDigit {text : List Char} (ends : EndsWithDigit text) :
    dropZulu text = text := by
  rcases ends with ⟨front, digit, rfl, isDigit⟩
  have notZulu : digit ≠ 'Z' := by
    intro same
    subst same
    exact absurd isDigit (by decide)
  simp [dropZulu, notZulu]

theorem default_read_iff_readsAs {text : String} :
    PatternList.default.read text defaultOffset = .ok timestamp ↔
      ReadsAs defaultOffset (dropZulu text.toList) timestamp := by
  rw [read_eq_ok_iff, readFrom_default_iff]

/-- The default list reads the texts that are a date, a date and a time to the minute or
to a fraction of a second, or both with an offset, each with one `Z` after it or not, and
gives them their one meaning. The one exception is an offset of 24 hours or more, be it
written or the default. -/
theorem default_read_iff {text : String} :
    PatternList.default.read text defaultOffset = .ok timestamp ↔
      ∃ written, (text.toList = written ∨ text.toList = written ++ ['Z']) ∧
        DefaultText defaultOffset written timestamp ∧
        timestamp.offset.hourPart.natAbs ≤ 23 := by
  rw [default_read_iff_readsAs, ReadsAs]
  constructor
  · intro given
    rcases given with ⟨form, settable⟩
    exact ⟨_, dropZulu_cases text.toList, form, settable⟩
  · intro given
    rcases given with ⟨written, whole | zulu, form, settable⟩
    · rw [whole, dropZulu_of_endsWithDigit form.endsWithDigit]
      exact ⟨form, settable⟩
    · rw [zulu, dropZulu_append_zulu]
      exact ⟨form, settable⟩

/-- With a default offset of a whole day even a plain date is refused. -/
theorem default_read_wholeDay :
    DefaultText ⟨86400, by decide⟩ "2021-03-04".toList
        ⟨⟨2021, 3, 4, by decide⟩, .midnight, ⟨86400, by decide⟩⟩ ∧
      ∀ timestamp,
        PatternList.default.read "2021-03-04" ⟨86400, by decide⟩ ≠ .ok timestamp := by
  have characters : "2021-03-04".toList =
      ([] ++ (['2', '0', '2', '1'] ++ '-' :: (['0', '3'] ++ '-' :: ['0', '4']))) ++
        [] := by
    decide
  have form : DefaultText ⟨86400, by decide⟩ "2021-03-04".toList
      ⟨⟨2021, 3, 4, by decide⟩, .midnight, ⟨86400, by decide⟩⟩ := by
    rw [characters]
    exact .intro (.intro .absent ⟨rfl, List.all_eq_true.mp rfl, rfl⟩
      ⟨rfl, List.all_eq_true.mp rfl, rfl⟩ ⟨rfl, List.all_eq_true.mp rfl, rfl⟩) .absent rfl
  refine ⟨form, fun timestamp read => ?_⟩
  rcases default_read_iff_readsAs.mp read with ⟨readForm, settable⟩
  rw [dropZulu_of_endsWithDigit form.endsWithDigit] at readForm
  rcases form.unique readForm rfl with rfl
  exact absurd settable (by decide)

end ScalarCell.PatternList
