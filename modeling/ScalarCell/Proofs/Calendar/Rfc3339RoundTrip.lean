import ScalarCell.Proofs.Calendar.Rfc3339
import ScalarCell.Proofs.PatternList.TextRoundTrip

namespace ScalarCell.Rfc3339

/-! Timestamps as RFC 3339 writes them, and read again from there. -/

open Digits Pattern PatternList

/-- Four digits are enough for the year, and hours up to 23 and minutes for the offset. -/
def Writable (timestamp : Timestamp) : Prop :=
  (0 ≤ timestamp.date.year ∧ timestamp.date.year ≤ 9999) ∧
    timestamp.offset.secondPart = 0 ∧ timestamp.offset.hourPart.natAbs ≤ 23

variable {timestamp : Timestamp} {text : String}

/-! ## The parts -/

theorem fractionText_writeFraction {nanosecond : Nat} (fits : nanosecond < 10 ^ 9) :
    FractionText (writeFraction nanosecond) nanosecond := by
  rw [writeFraction]
  split
  · rename_i isZero
    rw [isZero]
    exact .absent
  · rename_i notZero
    have isNumber := isNumber_padded (by decide) fits
    rcases exists_append_replicate_zero (Numeral.padded '0' 9 nanosecond) with
      ⟨count, padded_eq⟩
    change _ = trimZeros _ ++ _ at padded_eq
    generalize trimZeros (Numeral.padded '0' 9 nanosecond) = kept at padded_eq ⊢
    rw [padded_eq] at isNumber
    refine fractionText_of_append_zeros ?_ isNumber
    rintro rfl
    have value_eq := isNumber.value_eq
    rw [List.nil_append, Nat.ofDigitChars_replicate_zero, Nat.mul_zero] at value_eq
    exact notZero value_eq.symm

theorem zoneText_writeOffset {offset : UtcOffset} (whole : offset.secondPart = 0)
    (hour_le : offset.hourPart.natAbs ≤ 23) : ZoneText (writeOffset offset) offset := by
  by_cases isUtc : offset = .utc
  · rw [writeOffset, if_pos isUtc, isUtc]
    exact .zulu (.inl rfl)
  · have written : writeOffset offset = writtenOffset offset := by
      rw [writeOffset, if_neg isUtc, writtenOffset]
      cases offset.isNegative <;> rfl
    rcases offset.parts_bounds with ⟨-, minute_le, -, -⟩
    have seconds_eq := wholeMinutes_eq_signed offset
    rw [UtcOffset.wholeMinutes_eq_iff.mpr whole] at seconds_eq
    rw [written]
    exact .offset (offsetText_writtenOffset offset) hour_le minute_le seconds_eq

/-! ## The whole -/

def Written.ofTimestamp (timestamp : Timestamp) : Written where
  year := timestamp.date.year.natAbs
  month := timestamp.date.month
  day := timestamp.date.day
  hour := timestamp.time.hour
  minute := timestamp.time.minute
  second := timestamp.time.second
  nanosecond := timestamp.time.nanosecond
  offset := timestamp.offset

theorem writable_of_write (written : write timestamp = .ok text) : Writable timestamp := by
  rcases timestamp.date.isDate with ⟨⟨-, year_le⟩, -⟩
  rw [write] at written
  split at written
  · cases written
  · rename_i notNegative
    split at written
    · cases written
    · rename_i hour_le
      split at written
      · cases written
      · rename_i whole
        exact ⟨⟨Int.not_lt.mp notNegative, year_le⟩, Decidable.not_not.mp whole,
          Nat.not_lt.mp hour_le⟩

def characters (timestamp : Timestamp) : List Char :=
  Numeral.padded '0' 4 timestamp.date.year.natAbs ++
    '-' :: (Numeral.padded '0' 2 timestamp.date.month ++
    '-' :: (Numeral.padded '0' 2 timestamp.date.day ++
    'T' :: (Numeral.padded '0' 2 timestamp.time.hour ++
    ':' :: (Numeral.padded '0' 2 timestamp.time.minute ++
    ':' :: (Numeral.padded '0' 2 timestamp.time.second ++
      (writeFraction timestamp.time.nanosecond ++ writeOffset timestamp.offset))))))

theorem write_of_writable (writable : Writable timestamp) :
    write timestamp = .ok (String.ofList (characters timestamp)) := by
  rcases writable with ⟨⟨year_nonneg, -⟩, whole, hour_le⟩
  rw [write, if_neg (Int.not_lt.mpr year_nonneg), if_neg (Nat.not_lt.mpr hour_le),
    if_neg (Decidable.not_not.mpr whole)]
  simp only [characters, List.append_assoc, List.cons_append]

theorem writtenText_characters (writable : Writable timestamp) :
    WrittenText 'T' (writeOffset timestamp.offset) (characters timestamp)
      (.ofTimestamp timestamp) := by
  rcases writable with ⟨⟨year_nonneg, year_le⟩, whole, hour_le⟩
  rcases date_inRange timestamp.date with ⟨⟨month_pos, month_le⟩, -, day_le⟩
  have year_lt : timestamp.date.year.natAbs < 10 ^ 4 := by omega
  have nanosecond_lt := timestamp.time.nanosecond_lt
  rw [nanosecondsPerSecond] at nanosecond_lt
  have twoDigits {number : Nat} (small : number < 60) :
      IsNumber 2 (Numeral.padded '0' 2 number) number :=
    isNumber_padded (by decide) (small.trans (by decide))
  exact .intro (isNumber_padded (by decide) year_lt) (twoDigits (by omega))
    (Nat.ne_of_gt month_pos) (twoDigits (by omega))
    (twoDigits (timestamp.time.hour_lt.trans (by decide)))
    (twoDigits timestamp.time.minute_lt) (twoDigits timestamp.time.second_lt)
    (fractionText_writeFraction nanosecond_lt) (zoneText_writeOffset whole hour_le)

theorem timestamp_ofTimestamp (year_nonneg : 0 ≤ timestamp.date.year) :
    (Written.ofTimestamp timestamp).timestamp = .ok timestamp := by
  have second_lt := timestamp.time.second_lt
  have notLeap : (Written.ofTimestamp timestamp).second ≠ 60 := Nat.ne_of_lt second_lt
  have year_eq : timestamp.date.year = timestamp.date.year.natAbs :=
    (Int.natAbs_of_nonneg year_nonneg).symm
  exact (Written.timestamp_eq_ok_iff notLeap).mpr
    ⟨⟨year_eq, rfl, rfl⟩, ⟨rfl, rfl, rfl, rfl⟩, rfl⟩

theorem read_characters (writable : Writable timestamp) :
    read (String.ofList (characters timestamp)) = .ok timestamp := by
  rw [read, bind_eq_ok_iff, String.toList_ofList]
  exact ⟨_, readWritten_encode (by decide) (writtenText_characters writable),
    timestamp_ofTimestamp writable.1.1⟩

end ScalarCell.Rfc3339
