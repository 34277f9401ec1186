import ScalarCell.Proofs.Pattern.Completion

namespace ScalarCell.Pattern

/-! The texts that the default list is for. A text has at most one reading, whichever of
the patterns takes it. -/

open Digits

/-! ## Forms -/

inductive SecondText : List Char → Nat → Nat → Nat → Nat → Prop
  | intro {minuteText secondText fractionText : List Char}
      {hour minute second nanosecond : Nat}
      (minuteForm : MinuteText minuteText hour minute)
      (secondForm : IsNumber 2 secondText second)
      (fractionForm : FractionText fractionText nanosecond) :
      SecondText (minuteText ++ ':' :: (secondText ++ fractionText))
        hour minute second nanosecond

def IsSeparator (separator : Char) : Prop :=
  separator = ' ' ∨ separator = 'T'

/-- What may follow a date: a time to the minute or to a fraction of a second, and after
seconds an offset of whole minutes. Parts that are not written are zero. -/
inductive ClockText : List Char → TimeOfDay → Option UtcOffset → Prop
  | absent : ClockText [] .midnight none
  | minute {separator : Char} {minuteText : List Char} {time : TimeOfDay}
      (isSeparator : IsSeparator separator)
      (form : MinuteText minuteText time.hour time.minute)
      (second_eq : time.second = 0) (nanosecond_eq : time.nanosecond = 0) :
      ClockText (separator :: minuteText) time none
  | second {separator : Char} {secondText : List Char} {time : TimeOfDay}
      (isSeparator : IsSeparator separator)
      (form : SecondText secondText time.hour time.minute time.second time.nanosecond) :
      ClockText (separator :: secondText) time none
  | offset {separator : Char} {secondText offsetText : List Char} {time : TimeOfDay}
      {negative : Bool} {hour minute : Nat} {offset : UtcOffset}
      (isSeparator : IsSeparator separator)
      (form : SecondText secondText time.hour time.minute time.second time.nanosecond)
      (offsetForm : OffsetText offsetText negative hour minute) (hour_le : hour ≤ 25)
      (minute_le : minute ≤ 59)
      (seconds_eq : offset.seconds = signed (some negative) (hour * 3600 + minute * 60)) :
      ClockText (separator :: (secondText ++ offsetText)) time (some offset)

/-- A date that exists and what follows it. A default stands in for an offset that is not
written. -/
inductive DefaultText (defaultOffset : UtcOffset) : List Char → Timestamp → Prop
  | intro {dateText clockText : List Char} {timestamp : Timestamp}
      {written : Option UtcOffset}
      (dateForm : DateText dateText timestamp.date.year timestamp.date.month
        timestamp.date.day)
      (clockForm : ClockText clockText timestamp.time written)
      (offset_eq : timestamp.offset = written.getD defaultOffset) :
      DefaultText defaultOffset (dateText ++ clockText) timestamp

/-! ## One reading

Two readings of one text agree part by part, and leave the same rest. -/

section Unique

variable {left right front back : List Char}

theorem SignText.append_unique {sign other : Option Bool} (written : SignText left sign)
    (isOther : SignText right other)
    (noSign : ∀ character ∈ front.head?, character ≠ '-' ∧ character ≠ '+')
    (noOther : ∀ character ∈ back.head?, character ≠ '-' ∧ character ≠ '+')
    (same : left ++ front = right ++ back) : sign = other ∧ front = back := by
  cases written with
  | absent =>
      cases isOther with
      | absent => exact ⟨rfl, same⟩
      | plus =>
          exact absurd rfl (noSign '+' (by simp [List.nil_append] at same; simp [same])).2
      | minus =>
          exact absurd rfl (noSign '-' (by simp [List.nil_append] at same; simp [same])).1
  | plus =>
      cases isOther with
      | absent => exact absurd rfl (noOther '+' (by simp at same; simp [← same])).2
      | plus => exact ⟨rfl, List.append_cancel_left same⟩
      | minus => simp at same
  | minus =>
      cases isOther with
      | absent => exact absurd rfl (noOther '-' (by simp at same; simp [← same])).1
      | plus => simp at same
      | minus => exact ⟨rfl, List.append_cancel_left same⟩

theorem DateText.append_unique {year otherYear : Int}
    {month otherMonth day otherDay : Nat}
    (form : DateText left year month day)
    (other : DateText right otherYear otherMonth otherDay)
    (same : left ++ front = right ++ back) :
    (year = otherYear ∧ month = otherMonth ∧ day = otherDay) ∧ front = back := by
  rcases form with ⟨signForm, yearForm, monthForm, dayForm⟩
  rcases other with ⟨otherSign, otherYear, otherMonth, otherDay⟩
  simp only [List.append_assoc, List.cons_append] at same
  rcases signForm.append_unique otherSign (not_sign_of_isNumber yearForm)
      (not_sign_of_isNumber otherYear) same with
    ⟨rfl, same⟩
  rcases yearForm.append_unique otherYear same with ⟨rfl, same⟩
  rcases monthForm.append_unique otherMonth (List.cons.inj same).2 with ⟨rfl, same⟩
  rcases dayForm.append_unique otherDay (List.cons.inj same).2 with ⟨rfl, same⟩
  exact ⟨⟨rfl, rfl, rfl⟩, same⟩

theorem MinuteText.append_unique {hour otherHour minute otherMinute : Nat}
    (form : MinuteText left hour minute) (other : MinuteText right otherHour otherMinute)
    (same : left ++ front = right ++ back) :
    (hour = otherHour ∧ minute = otherMinute) ∧ front = back := by
  rcases form with ⟨-, hourForm, minuteForm⟩
  rcases other with ⟨-, otherHour, otherMinute⟩
  simp only [List.append_assoc, List.cons_append] at same
  obtain ⟨rfl, afterHour⟩ :=
    append_unique_of_noDigitNext hourForm.isDigit otherHour.isDigit
    (by simp [NoDigitNext]) (by simp [NoDigitNext]) same
  rcases hourForm.value_eq.symm.trans otherHour.value_eq with rfl
  rcases minuteForm.append_unique otherMinute (List.cons.inj afterHour).2 with
    ⟨rfl, rest_eq⟩
  exact ⟨⟨rfl, rfl⟩, rest_eq⟩

def NoFractionNext (text : List Char) : Prop :=
  ∀ character ∈ text.head?, character ≠ '.' ∧ character.isDigit = false

theorem FractionText.append_unique {nanosecond other : Nat}
    (form : FractionText left nanosecond)
    (isOther : FractionText right other) (stops : NoFractionNext front)
    (otherStops : NoFractionNext back) (same : left ++ front = right ++ back) :
    nanosecond = other ∧ front = back := by
  cases form with
  | absent =>
      cases isOther with
      | absent => exact ⟨rfl, same⟩
      | digits =>
          obtain rfl : front = _ := same
          exact absurd rfl (stops '.' rfl).1
  | digits nonempty isDigit =>
      cases isOther with
      | absent =>
          obtain rfl : _ = back := same
          exact absurd rfl (otherStops '.' rfl).1
      | digits otherNonempty otherDigits =>
          rcases append_unique_of_noDigitNext isDigit otherDigits
              (fun character first => (stops character first).2)
              (fun character first => (otherStops character first).2)
              (List.cons.inj same).2 with
            ⟨rfl, rest_eq⟩
          exact ⟨rfl, rest_eq⟩

theorem SecondText.append_unique
    {hour otherHour minute otherMinute second otherSecond : Nat}
    {nanosecond otherNanosecond : Nat}
    (form : SecondText left hour minute second nanosecond)
    (other : SecondText right otherHour otherMinute otherSecond otherNanosecond)
    (stops : NoFractionNext front) (otherStops : NoFractionNext back)
    (same : left ++ front = right ++ back) :
    (hour = otherHour ∧ minute = otherMinute ∧ second = otherSecond ∧
      nanosecond = otherNanosecond) ∧ front = back := by
  rcases form with ⟨minuteForm, secondForm, fractionForm⟩
  rcases other with ⟨otherMinute, otherSecond, otherFraction⟩
  simp only [List.append_assoc, List.cons_append] at same
  rcases minuteForm.append_unique otherMinute same with ⟨⟨rfl, rfl⟩, same⟩
  rcases secondForm.append_unique otherSecond (List.cons.inj same).2 with ⟨rfl, same⟩
  rcases fractionForm.append_unique otherFraction stops otherStops same with ⟨rfl, same⟩
  exact ⟨⟨rfl, rfl, rfl, rfl⟩, same⟩

theorem OffsetText.append_unique {negative otherNegative : Bool}
    {hour otherHour minute otherMinute : Nat}
    (form : OffsetText left negative hour minute)
    (other : OffsetText right otherNegative otherHour otherMinute)
    (same : left ++ front = right ++ back) :
    (negative = otherNegative ∧ hour = otherHour ∧ minute = otherMinute) ∧
    front = back := by
  rcases form with ⟨signForm, hourForm, minuteForm⟩
  rcases other with ⟨otherSign, otherHour, otherMinute⟩
  simp only [List.append_assoc, List.cons_append] at same
  rcases signForm.append_unique otherSign (not_sign_of_isNumber hourForm)
      (not_sign_of_isNumber otherHour) same with
    ⟨⟨rfl⟩, same⟩
  rcases hourForm.append_unique otherHour same with ⟨rfl, same⟩
  rcases minuteForm.append_unique otherMinute (List.cons.inj same).2 with ⟨rfl, same⟩
  exact ⟨⟨rfl, rfl, rfl⟩, same⟩

end Unique

theorem OffsetText.noFractionNext {text : List Char} {negative : Bool} {hour minute : Nat}
    (form : OffsetText text negative hour minute) : NoFractionNext text ∧ text ≠ [] := by
  rcases form with ⟨signForm, -, -⟩
  cases signForm with
  | plus => simp [NoFractionNext]
  | minus => simp [NoFractionNext]

theorem noFractionNext_nil : NoFractionNext [] := by
  simp [NoFractionNext]

theorem SecondText.append_ne_minuteText {secondText minuteText : List Char}
    {hour minute second nanosecond otherHour otherMinute : Nat}
    (form : SecondText secondText hour minute second nanosecond)
    (other : MinuteText minuteText otherHour otherMinute) (rest : List Char) :
    secondText ++ rest ≠ minuteText := by
  intro same
  rcases form with ⟨minuteForm, -, -⟩
  rw [← List.append_nil minuteText] at same
  simp only [List.append_assoc, List.cons_append] at same
  rcases minuteForm.append_unique other same with ⟨-, same⟩
  cases same

theorem time_eq_of_parts {time other : TimeOfDay} (hour_eq : time.hour = other.hour)
    (minute_eq : time.minute = other.minute) (second_eq : time.second = other.second)
    (nanosecond_eq : time.nanosecond = other.nanosecond) : time = other := by
  have made := timeOfParts?_eq_some_iff.mpr ⟨hour_eq, minute_eq, second_eq, nanosecond_eq⟩
  have otherMade :=
    timeOfParts?_eq_some_iff.mpr ⟨rfl, rfl, rfl, (rfl : other.nanosecond = _)⟩
  exact Option.some.inj (made.symm.trans otherMade)

theorem date_eq_of_parts {date other : Date} (year_eq : date.year = other.year)
    (month_eq : date.month = other.month) (day_eq : date.day = other.day) :
    date = other := by
  have made := ofCalendar?_eq_some_iff.mpr ⟨year_eq, month_eq, day_eq⟩
  have otherMade := ofCalendar?_eq_some_iff.mpr ⟨rfl, rfl, (rfl : other.day = _)⟩
  exact Option.some.inj (made.symm.trans otherMade)

theorem signed_offset_eq {offset other : UtcOffset} {negative : Bool} {number : Nat}
    (seconds_eq : offset.seconds = signed (some negative) number)
    (other_eq : other.seconds = signed (some negative) number) : offset = other := by
  rcases offset with ⟨seconds, inRange⟩
  rcases other with ⟨otherSeconds, otherRange⟩
  obtain rfl : seconds = otherSeconds := seconds_eq.trans other_eq.symm
  rfl

theorem SecondText.time_unique {left right front back : List Char}
    {time other : TimeOfDay}
    (form : SecondText left time.hour time.minute time.second time.nanosecond)
    (otherForm : SecondText right other.hour other.minute other.second other.nanosecond)
    (stops : NoFractionNext front) (otherStops : NoFractionNext back)
    (same : left ++ front = right ++ back) : time = other ∧ front = back := by
  rcases form.append_unique otherForm stops otherStops same with
      ⟨⟨hour_eq, minute_eq, second_eq, nanosecond_eq⟩, rest_eq⟩
  exact ⟨time_eq_of_parts hour_eq minute_eq second_eq nanosecond_eq, rest_eq⟩

theorem ClockText.unique {text otherText : List Char} {time otherTime : TimeOfDay}
    {written otherWritten : Option UtcOffset} (form : ClockText text time written)
    (other : ClockText otherText otherTime otherWritten) (same : text = otherText) :
    time = otherTime ∧ written = otherWritten := by
  cases form with
  | absent =>
      cases other with
      | absent => exact ⟨rfl, rfl⟩
      | minute | second | offset => cases same
  | @minute _ minuteText _ _ minuteForm second_eq nanosecond_eq =>
      cases other with
      | absent => cases same
      | @minute _ otherText _ _ otherForm otherSecond otherNanosecond =>
          obtain rfl : minuteText = otherText := (List.cons.inj same).2
          rcases minuteForm.append_unique otherForm (rfl : minuteText ++ [] = _) with
              ⟨⟨hour_eq, minute_eq⟩, -⟩
          exact ⟨time_eq_of_parts hour_eq minute_eq (second_eq.trans otherSecond.symm)
            (nanosecond_eq.trans otherNanosecond.symm), rfl⟩
      | second _ otherForm =>
          have different := otherForm.append_ne_minuteText minuteForm []
          rw [List.append_nil] at different
          exact absurd (List.cons.inj same).2.symm different
      | offset _ otherForm =>
          exact absurd (List.cons.inj same).2.symm
            (otherForm.append_ne_minuteText minuteForm _)
  | @second _ secondText _ _ secondForm =>
      have secondText_eq := (List.append_nil secondText).symm
      cases other with
      | absent => cases same
      | minute _ otherForm =>
          exact absurd (secondText_eq.symm.trans (List.cons.inj same).2)
            (secondForm.append_ne_minuteText otherForm [])
      | @second _ otherText _ _ otherForm =>
          obtain rfl : secondText = otherText := (List.cons.inj same).2
          exact ⟨(secondForm.time_unique otherForm noFractionNext_nil
            noFractionNext_nil rfl).1, rfl⟩
      | offset _ otherForm offsetForm =>
          have rest_eq := (secondForm.time_unique otherForm noFractionNext_nil
            offsetForm.noFractionNext.1
            (secondText_eq.symm.trans (List.cons.inj same).2)).2
          exact absurd rest_eq.symm offsetForm.noFractionNext.2
  | offset _ secondForm offsetForm _ _ seconds_eq =>
      cases other with
      | absent => cases same
      | minute _ otherForm =>
          exact absurd (List.cons.inj same).2
            (secondForm.append_ne_minuteText otherForm _)
      | @second _ otherText _ _ otherForm =>
          have otherText_eq := (List.append_nil otherText).symm
          have rest_eq := (secondForm.time_unique otherForm offsetForm.noFractionNext.1
            noFractionNext_nil ((List.cons.inj same).2.trans otherText_eq)).2
          exact absurd rest_eq offsetForm.noFractionNext.2
      | @offset _ _ otherOffset _ _ _ _ _ _ otherForm otherOffsetForm _ _ other_eq =>
          rcases secondForm.time_unique otherForm offsetForm.noFractionNext.1
              otherOffsetForm.noFractionNext.1 (List.cons.inj same).2 with
              ⟨time_eq, rest_eq⟩
          have ended := congrArg (· ++ []) rest_eq
          rcases offsetForm.append_unique otherOffsetForm ended with ⟨⟨rfl, rfl, rfl⟩, -⟩
          exact ⟨time_eq, congrArg some (signed_offset_eq seconds_eq other_eq)⟩

theorem DefaultText.unique {defaultOffset : UtcOffset} {text otherText : List Char}
    {timestamp other : Timestamp} (form : DefaultText defaultOffset text timestamp)
    (otherForm : DefaultText defaultOffset otherText other) (same : text = otherText) :
    timestamp = other := by
  rcases form with ⟨dateForm, clockForm, offset_eq⟩
  rcases otherForm with ⟨otherDateForm, otherClockForm, otherOffset_eq⟩
  rcases dateForm.append_unique otherDateForm same with
    ⟨⟨year_eq, month_eq, day_eq⟩, rest_eq⟩
  rcases clockForm.unique otherClockForm rest_eq with ⟨time_eq, rfl⟩
  rcases timestamp with ⟨date, time, offset⟩
  rcases other with ⟨otherDate, otherTime, otherOffset⟩
  obtain rfl : date = otherDate := date_eq_of_parts year_eq month_eq day_eq
  obtain rfl : time = otherTime := time_eq
  obtain rfl : offset = otherOffset := offset_eq.trans otherOffset_eq.symm
  rfl

/-! ## The last character -/

def EndsWithDigit (text : List Char) : Prop :=
  ∃ front digit, text = front ++ [digit] ∧ digit.isDigit = true

theorem endsWithDigit_of_isDigit {digits : List Char} (nonempty : digits ≠ [])
    (isDigit : ∀ character ∈ digits, character.isDigit = true) : EndsWithDigit digits :=
  ⟨digits.dropLast, digits.getLast nonempty, (List.dropLast_concat_getLast nonempty).symm,
    isDigit _ (List.getLast_mem nonempty)⟩

theorem endsWithDigit_of_isNumber {count number : Nat} {text : List Char}
    (isNumber : IsNumber (count + 1) text number) : EndsWithDigit text :=
  endsWithDigit_of_isDigit (List.ne_nil_of_length_eq_add_one isNumber.length_eq)
  isNumber.isDigit

theorem EndsWithDigit.append_left {text : List Char} (ends : EndsWithDigit text)
    (before : List Char) : EndsWithDigit (before ++ text) := by
  rcases ends with ⟨front, digit, rfl, isDigit⟩
  exact ⟨before ++ front, digit, by simp, isDigit⟩

theorem EndsWithDigit.cons {text : List Char} (ends : EndsWithDigit text) (first : Char) :
    EndsWithDigit (first :: text) :=
  ends.append_left [first]

theorem DateText.endsWithDigit {text : List Char} {year : Int} {month day : Nat}
    (form : DateText text year month day) : EndsWithDigit text := by
  rcases form with ⟨-, -, -, dayForm⟩
  have ends := endsWithDigit_of_isNumber dayForm
  exact (((((ends.cons '-').append_left _).cons '-').append_left _).append_left _)

theorem MinuteText.endsWithDigit {text : List Char} {hour minute : Nat}
    (form : MinuteText text hour minute) : EndsWithDigit text := by
  rcases form with ⟨-, -, minuteForm⟩
  exact ((endsWithDigit_of_isNumber minuteForm).cons ':').append_left _

theorem SecondText.endsWithDigit {text : List Char} {hour minute second nanosecond : Nat}
    (form : SecondText text hour minute second nanosecond) : EndsWithDigit text := by
  rcases form with ⟨-, secondForm, fractionForm⟩
  cases fractionForm with
  | absent =>
      rw [List.append_nil]
      exact ((endsWithDigit_of_isNumber secondForm).cons ':').append_left _
  | digits nonempty isDigit =>
      have ends := endsWithDigit_of_isDigit nonempty isDigit
      exact (((ends.cons '.').append_left _).cons ':').append_left _

theorem OffsetText.endsWithDigit {text : List Char} {negative : Bool} {hour minute : Nat}
    (form : OffsetText text negative hour minute) : EndsWithDigit text := by
  rcases form with ⟨-, -, minuteForm⟩
  exact (((endsWithDigit_of_isNumber minuteForm).cons ':').append_left _).append_left _

theorem ClockText.endsWithDigit {text : List Char} {time : TimeOfDay}
    {written : Option UtcOffset} (form : ClockText text time written)
    : text = [] ∨ EndsWithDigit text := by
  cases form with
  | absent => exact .inl rfl
  | minute _ minuteForm => exact .inr (minuteForm.endsWithDigit.cons _)
  | second _ secondForm => exact .inr (secondForm.endsWithDigit.cons _)
  | offset _ _ offsetForm => exact .inr ((offsetForm.endsWithDigit.append_left _).cons _)

theorem DefaultText.endsWithDigit {defaultOffset : UtcOffset} {text : List Char}
    {timestamp : Timestamp} (form : DefaultText defaultOffset text timestamp) :
    EndsWithDigit text := by
  rcases form with ⟨dateForm, clockForm, -⟩
  rcases clockForm.endsWithDigit with rfl | ends
  · rw [List.append_nil]
    exact dateForm.endsWithDigit
  · exact ends.append_left _

end ScalarCell.Pattern
