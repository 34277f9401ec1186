import ScalarCell.Cell
import ScalarCell.Proofs.Pattern.Written
import ScalarCell.Proofs.PatternList.Default

namespace ScalarCell.PatternList

/-! Timestamps written as text with the default list and read again. -/

open Pattern Digits

/-! ## What is written

The first default pattern shows a date, a time to the nanosecond, and the offset to the
minute. -/

def writtenDate (date : Date) : List Char :=
  SignRule.automatic.write (decide (date.year < 0)) ++
    (Numeral.padded '0' 4 date.year.natAbs ++ '-' :: (Numeral.padded '0' 2 date.month ++
      '-' :: Numeral.padded '0' 2 date.day))

def writtenTime (time : TimeOfDay) : List Char :=
  (Numeral.padded '0' 2 time.hour ++ ':' :: Numeral.padded '0' 2 time.minute) ++
    ':' :: (Numeral.padded '0' 2 time.second ++
      '.' :: FractionDigits.oneOrMore.write time.nanosecond)

def writtenOffset (offset : UtcOffset) : List Char :=
  SignRule.mandatory.write offset.isNegative ++
    (Numeral.padded '0' 2 offset.hourPart.natAbs ++
      ':' :: Numeral.padded '0' 2 offset.minutePart.natAbs)

def written (timestamp : Timestamp) : List Char :=
  writtenDate timestamp.date ++
    ' ' :: (writtenTime timestamp.time ++ writtenOffset timestamp.offset)

theorem render_default (timestamp : Timestamp) :
    PatternList.default.render timestamp = .ok (String.ofList (written timestamp)) := by
  simp [PatternList.default, PatternList.render, Pattern.render, offsetItems,
    fractionItems, secondItems, minuteItems, dateItems, Items.ofList, Items.render,
    Item.render, Component.render, writeYear, Except.map, written, writtenDate,
    writtenTime, writtenOffset, Padding.write]

/-! ## What it means -/

theorem dateText_writtenDate (date : Date) :
    DateText (writtenDate date) date.year date.month date.day := by
  rcases date.isDate with ⟨⟨year_ge, year_le⟩, -⟩
  rcases date_inRange date with ⟨monthRange, dayRange⟩
  have form := DateText.intro (signText_automatic (decide (date.year < 0)))
    (isNumber_padded (by decide) (by omega : date.year.natAbs < 10 ^ 4))
    (isNumber_padded (by decide) (by omega : date.month < 10 ^ 2))
    (isNumber_padded (by decide) (by omega : date.day < 10 ^ 2))
  have year_eq : signed (if decide (date.year < 0) = true then some true else none)
      date.year.natAbs = date.year := by
    by_cases negative : date.year < 0
    · simp only [negative, decide_true, if_true, signed]
      omega
    · simp only [negative, decide_false, signed]
      simp
      omega
  rw [year_eq] at form
  exact form

theorem secondText_writtenTime (time : TimeOfDay) :
    SecondText (writtenTime time) time.hour time.minute time.second time.nanosecond := by
  have hour_lt := time.hour_lt
  have minute_lt := time.minute_lt
  have second_lt := time.second_lt
  have nanosecond_lt := time.nanosecond_lt
  rw [nanosecondsPerSecond] at nanosecond_lt
  exact .intro (.intro (.inr rfl)
    (isNumber_padded (by decide) (by omega)) (isNumber_padded (by decide) (by omega)))
    (isNumber_padded (by decide) (by omega)) (fractionText_write (by omega))

theorem offsetText_writtenOffset (offset : UtcOffset) :
    OffsetText (writtenOffset offset) offset.isNegative offset.hourPart.natAbs
      offset.minutePart.natAbs := by
  rcases offset.parts_bounds with ⟨hour_le, minute_le, -, -⟩
  exact .intro (signText_mandatory _) (isNumber_padded (by decide) (by omega))
    (isNumber_padded (by decide) (by omega))

theorem wholeMinutes_eq_signed (offset : UtcOffset) :
    offset.wholeMinutes.seconds = signed (some offset.isNegative)
      (offset.hourPart.natAbs * 3600 + offset.minutePart.natAbs * 60) := by
  rw [UtcOffset.wholeMinutes, UtcOffset.isNegative, signed]
  by_cases negative : offset.seconds < 0
  · rcases UtcOffset.parts_of_neg negative with ⟨hour, minute, -⟩
    simp only [negative, decide_true, if_true]
    omega
  · rcases UtcOffset.parts_of_nonneg (Int.not_lt.mp negative) with ⟨hour, minute, -⟩
    simp only [negative, decide_false, Option.some.injEq, Bool.false_eq_true, if_false]
    omega

theorem defaultText_written (defaultOffset : UtcOffset) (timestamp : Timestamp) :
    DefaultText defaultOffset (written timestamp)
      { timestamp with offset := timestamp.offset.wholeMinutes } := by
  rcases timestamp.offset.parts_bounds with ⟨hour_le, minute_le, -, -⟩
  have clockForm :
      ClockText (' ' :: (writtenTime timestamp.time ++ writtenOffset timestamp.offset))
      timestamp.time (some timestamp.offset.wholeMinutes) :=
    .offset (.inl rfl) (secondText_writtenTime timestamp.time)
      (offsetText_writtenOffset timestamp.offset) hour_le minute_le
      (wholeMinutes_eq_signed timestamp.offset)
  exact .intro (dateText_writtenDate timestamp.date) clockForm rfl

theorem natAbs_hourPart_wholeMinutes (offset : UtcOffset) :
    offset.wholeMinutes.hourPart.natAbs = offset.hourPart.natAbs := by
  rcases offset.parts_bounds with ⟨-, minute_le, -, -⟩
  exact natAbs_hourPart_of_signed minute_le (wholeMinutes_eq_signed offset)

/-- Reading what was written loses the seconds of the offset, and fails where the offset
has 24 hours or more. -/
theorem read_written_iff {defaultOffset : UtcOffset} {timestamp found : Timestamp} :
    PatternList.default.read
    (String.ofList (written timestamp)) defaultOffset = .ok found ↔
      found = { timestamp with offset := timestamp.offset.wholeMinutes } ∧
        timestamp.offset.hourPart.natAbs ≤ 23 := by
  have form := defaultText_written defaultOffset timestamp
  rw [default_read_iff_readsAs, String.toList_ofList,
    dropZulu_of_endsWithDigit form.endsWithDigit]
  constructor
  · intro given
    rcases given with ⟨readForm, settable⟩
    rcases form.unique readForm rfl with rfl
    rw [natAbs_hourPart_wholeMinutes] at settable
    exact ⟨rfl, settable⟩
  · intro given
    rcases given with ⟨rfl, settable⟩
    rw [← natAbs_hourPart_wholeMinutes] at settable
    exact ⟨form, settable⟩

end ScalarCell.PatternList

namespace ScalarCell.Cell

open PatternList

/-! ## Through a column of text -/

theorem toTextColumn_default (cell : Cell .time) :
    cell.toTextColumn .default = .ok (match cell.toOption with
      | some timestamp => .text (String.ofList (written timestamp))
      | none => .null) := by
  rw [toTextColumn]
  cases cell.toOption with
  | none => rfl
  | some timestamp => simp [render_default, Except.map]

theorem scan_text_iff {patterns : PatternList} {target scanned : Cell .time}
    {content : String} :
    target.scan patterns (.text content) = (.ok (), scanned) ↔
      ∃ timestamp, patterns.read content .utc = .ok timestamp ∧
        scanned = .ofValue timestamp := by
  simp only [scan, ScalarType.coerce, ColumnValue.toTimestamp]
  cases patterns.read content .utc with
  | ok timestamp => simp [Except.map, Except.mapError, assign, ofValue, eq_comm]
  | error error => simp [Except.map, Except.mapError]

theorem scan_written (target : Cell .time) (timestamp : Timestamp) :
    ((target.scan .default (.text (String.ofList (written timestamp)))).1 = .ok () ↔
        timestamp.offset.hourPart.natAbs ≤ 23) ∧
      (target.scan .default (.text (String.ofList (written timestamp)))).2.toOption =
        if timestamp.offset.hourPart.natAbs ≤ 23 then
          some { timestamp with offset := timestamp.offset.wholeMinutes }
        else none := by
  by_cases settable : timestamp.offset.hourPart.natAbs ≤ 23
  · have read : PatternList.default.read (String.ofList (written timestamp)) .utc =
        .ok { timestamp with offset := timestamp.offset.wholeMinutes } :=
      read_written_iff.mpr ⟨rfl, settable⟩
    have scans : target.scan .default (.text (String.ofList (written timestamp))) =
        (.ok (), _) := scan_text_iff.mpr ⟨_, read, rfl⟩
    rw [scans]
    simp [settable, toOption, ofValue]
  · cases read : PatternList.default.read (String.ofList (written timestamp)) .utc with
    | ok found => exact absurd (read_written_iff.mp read).2 settable
    | error error =>
        simp [scan, ScalarType.coerce, ColumnValue.toTimestamp, read, Except.map,
          Except.mapError, settable, assign, toOption]

/-- What a time cell holds can always be stored as text. Scanning that text gives it back
unless its offset has seconds, which are not written, or 24 hours or more, which are not
read. -/
theorem toTextColumn_scan_iff (cell target : Cell .time) :
    ∃ column, cell.toTextColumn .default = .ok column ∧
      ((target.scan .default column).1 = .ok () ∧
          (target.scan .default column).2.toOption = cell.toOption ↔
        ∀ timestamp ∈ cell.toOption, timestamp.offset.secondPart = 0 ∧
          timestamp.offset.hourPart.natAbs ≤ 23) := by
  refine ⟨_, cell.toTextColumn_default, ?_⟩
  cases cell.toOption with
  | none =>
      simp [scan, ScalarType.coerce, ColumnValue.toTimestamp, Except.mapError,
        assign, toOption]
  | some timestamp =>
      rcases scan_written target timestamp with ⟨succeeds, holds⟩
      simp only [succeeds, holds, Option.mem_some_iff, forall_eq']
      rw [← UtcOffset.wholeMinutes_eq_iff]
      rcases timestamp with ⟨date, time, offset⟩
      constructor
      · intro given
        rcases given with ⟨settable, same⟩
        rw [if_pos settable, Option.some.injEq, Timestamp.mk.injEq] at same
        exact ⟨same.2.2, settable⟩
      · intro given
        rcases given with ⟨whole, settable⟩
        refine ⟨settable, ?_⟩
        rw [if_pos settable, whole]

/-- An offset with seconds comes back without them, and with 24 hours not at all. -/
theorem toTextColumn_scan_loses :
    (∃ column,
      (ofValue ⟨.epoch, .midnight, ⟨3630, by decide⟩⟩ : Cell .time).toTextColumn
          .default = .ok column ∧
      ((Cell.null .time).scan .default column).2.toOption =
        some ⟨.epoch, .midnight, ⟨3600, by decide⟩⟩) ∧
    ∃ column,
      (ofValue ⟨.epoch, .midnight, ⟨86400, by decide⟩⟩ : Cell .time).toTextColumn
          .default = .ok column ∧
      ((Cell.null .time).scan .default column).2.toOption = none := by
  refine ⟨⟨_, toTextColumn_default _, ?_⟩, ⟨_, toTextColumn_default _, ?_⟩⟩
  · rw [show (ofValue ⟨.epoch, .midnight, ⟨3630, by decide⟩⟩ : Cell .time).toOption =
      some ⟨.epoch, .midnight, ⟨3630, by decide⟩⟩ from rfl]
    simp only [(scan_written _ _).2]
    decide
  · rw [show (ofValue ⟨.epoch, .midnight, ⟨86400, by decide⟩⟩ : Cell .time).toOption =
      some ⟨.epoch, .midnight, ⟨86400, by decide⟩⟩ from rfl]
    simp only [(scan_written _ _).2]
    decide

end ScalarCell.Cell
