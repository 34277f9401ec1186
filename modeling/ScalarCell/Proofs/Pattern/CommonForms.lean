import ScalarCell.PatternList
import ScalarCell.Proofs.Pattern.Component

namespace ScalarCell.Pattern

/-! The written forms that the items of the default patterns take: a date, hours and
minutes, seconds with a fraction, and an offset. -/

open Digits

/-! ## Forms -/

inductive DateText : List Char → Int → Nat → Nat → Prop
  | intro {signText yearText monthText dayText : List Char} {sign : Option Bool}
      {number month day : Nat}
      (signForm : SignText signText sign) (yearForm : IsNumber 4 yearText number)
      (monthForm : IsNumber 2 monthText month) (dayForm : IsNumber 2 dayText day) :
      DateText (signText ++ (yearText ++ '-' :: (monthText ++ '-' :: dayText)))
        (signed sign number) month day

inductive MinuteText : List Char → Nat → Nat → Prop
  | intro {hourText minuteText : List Char} {count hour minute : Nat}
      (oneOrTwo : count = 1 ∨ count = 2) (hourForm : IsNumber count hourText hour)
      (minuteForm : IsNumber 2 minuteText minute) :
      MinuteText (hourText ++ ':' :: minuteText) hour minute

/-- A point and digits, of which the first nine count, or nothing. -/
inductive FractionText : List Char → Nat → Prop
  | absent : FractionText [] 0
  | digits {digits : List Char} (nonempty : digits ≠ [])
      (isDigit : ∀ character ∈ digits, character.isDigit = true) :
      FractionText ('.' :: digits)
        (Nat.ofDigitChars 10 ((digits ++ List.replicate 9 '0').take 9) 0)

inductive OffsetText : List Char → Bool → Nat → Nat → Prop
  | intro {signText hourText minuteText : List Char} {negative : Bool} {hour minute : Nat}
      (signForm : SignText signText (some negative)) (hourForm : IsNumber 2 hourText hour)
      (minuteForm : IsNumber 2 minuteText minute) :
      OffsetText (signText ++ (hourText ++ ':' :: minuteText)) negative hour minute

/-! ## Sequences of items -/

def readList (items : List Item) (fields : Fields) (bytes : List UInt8) :
    Except ReadError Progress :=
  (Items.ofList items).relaxHours.read fields bytes

theorem readNext_eq_ok_iff {outcome : Except ReadError Progress} {progress : Progress}
    {next : Fields → List UInt8 → Except ReadError Progress} :
    (match outcome with
      | .ok (fields, bytes) => next fields bytes
      | .error error => .error error) = .ok progress ↔
      ∃ middle, outcome = .ok middle ∧ next middle.1 middle.2 = .ok progress := by
  cases outcome with
  | ok middle =>
      constructor
      · intro read
        exact ⟨middle, rfl, read⟩
      · intro given
        rcases given with ⟨_, ⟨⟩, read⟩
        exact read
  | error error =>
      constructor
      · intro impossible
        cases impossible
      · intro given
        rcases given with ⟨_, impossible, -⟩
        cases impossible

theorem readList_cons (head : Item) (tail : List Item) (fields : Fields)
    (bytes : List UInt8) :
    readList (head :: tail) fields bytes =
      match head.relaxHours.read fields bytes with
      | .ok (fields, bytes) => readList tail fields bytes
      | .error error => .error error := rfl

theorem readList_cons_iff {head : Item} {tail : List Item} {fields : Fields}
    {bytes : List UInt8} {progress : Progress} :
    readList (head :: tail) fields bytes = .ok progress ↔
      ∃ middle, head.relaxHours.read fields bytes = .ok middle ∧
        readList tail middle.1 middle.2 = .ok progress := by
  rw [readList_cons]
  exact readNext_eq_ok_iff

theorem readList_append (front back : List Item) (fields : Fields) (bytes : List UInt8) :
    readList (front ++ back) fields bytes =
      match readList front fields bytes with
      | .ok (fields, bytes) => readList back fields bytes
      | .error error => .error error := by
  induction front generalizing fields bytes with
  | nil => rfl
  | cons head tail induction =>
      rw [List.cons_append, readList_cons, readList_cons]
      cases head.relaxHours.read fields bytes with
      | ok middle => exact induction middle.1 middle.2
      | error error => rfl

theorem readList_append_iff {front back : List Item} {fields : Fields}
    {bytes : List UInt8} {progress : Progress} :
    readList (front ++ back) fields bytes = .ok progress ↔
      ∃ middle, readList front fields bytes = .ok middle ∧
        readList back middle.1 middle.2 = .ok progress := by
  rw [readList_append]
  exact readNext_eq_ok_iff

theorem readList_literal_cons_iff {character : Char} (ascii : character.toNat < 128)
    {tail : List Item} {fields : Fields} {text : List Char} {progress : Progress} :
    readList (.literal [character] :: tail) fields (Utf8.encode text) = .ok progress ↔
      ∃ rest, text = character :: rest ∧
        readList tail fields (Utf8.encode rest) = .ok progress := by
  rw [readList_cons_iff]
  simp only [Item.relaxHours, Item.read_literal_iff ascii]
  constructor
  · intro given
    rcases given with ⟨_, ⟨rest, rfl, rfl⟩, read⟩
    exact ⟨rest, rfl, read⟩
  · intro given
    rcases given with ⟨rest, rfl, read⟩
    exact ⟨_, ⟨rest, rfl, rfl⟩, read⟩

/-! ## What the parts of the default patterns take -/

variable {fields : Fields} {text : List Char} {progress : Progress}

theorem readList_dateItems_iff :
    readList dateItems fields (Utf8.encode text) = .ok progress ↔
      ∃ dateText year month day rest, text = dateText ++ rest ∧
        DateText dateText year month day ∧ (1 ≤ month ∧ month ≤ 12) ∧
        (1 ≤ day ∧ day ≤ 31) ∧
        progress = ({ fields with
          year := some year, month := some month, day := some day },
          Utf8.encode rest) := by
  have dash : ('-' : Char).toNat < 128 := by decide
  rw [dateItems, readList_cons_iff]
  constructor
  · intro given
    rcases given with ⟨_, readYear, read⟩
    rcases read_year_iff.mp readYear with
        ⟨signText, sign, yearText, number, _, rfl, signForm, yearForm, rfl⟩
    rcases (readList_literal_cons_iff dash).mp read with ⟨_, rfl, read⟩
    rcases readList_cons_iff.mp read with ⟨_, readMonth, read⟩
    rcases read_month_iff.mp readMonth with
        ⟨monthText, month, _, rfl, monthForm, month_pos, month_le, rfl⟩
    rcases (readList_literal_cons_iff dash).mp read with ⟨_, rfl, read⟩
    rcases readList_cons_iff.mp read with ⟨_, readDay, read⟩
    rcases read_day_iff.mp readDay with
      ⟨dayText, day, rest, rfl, dayForm, day_pos, day_le, rfl⟩
    cases read
    exact ⟨_, _, month, day, rest, by simp, .intro signForm yearForm monthForm dayForm,
      ⟨month_pos, month_le⟩, ⟨day_pos, day_le⟩, rfl⟩
  · intro given
    rcases given with
      ⟨_, _, month, day, rest, rfl, form, ⟨month_pos, month_le⟩, ⟨day_pos, day_le⟩, rfl⟩
    obtain @⟨_, _, monthText, dayText, _, _, _, _, signForm, yearForm, monthForm,
      dayForm⟩ := form
    refine ⟨_, read_year_iff.mpr ⟨_, _, _, _,
      '-' :: (monthText ++ '-' :: (dayText ++ rest)), by simp, signForm,
      yearForm, rfl⟩, ?_⟩
    refine (readList_literal_cons_iff dash).mpr ⟨_, rfl, readList_cons_iff.mpr ⟨_,
      read_month_iff.mpr ⟨_, month, _, rfl, monthForm, month_pos, month_le, rfl⟩, ?_⟩⟩
    refine (readList_literal_cons_iff dash).mpr ⟨_, rfl, readList_cons_iff.mpr ⟨_,
      read_day_iff.mpr ⟨_, day, rest, rfl, dayForm, day_pos, day_le, rfl⟩, ?_⟩⟩
    rfl

theorem colon_ascii : (':' : Char).toNat < 128 := by decide

theorem readList_minute_iff {separator : Char} (ascii : separator.toNat < 128) :
    readList [.literal [separator], .component (.hour .zero .twentyFour), .literal [':'],
        .component (.minute .zero)] fields (Utf8.encode text) = .ok progress ↔
      ∃ minuteText hour minute rest, text = separator :: (minuteText ++ rest) ∧
        MinuteText minuteText hour minute ∧ hour ≤ 23 ∧ minute ≤ 59 ∧
        progress = ({ fields with hour := some hour, minute := some minute },
          Utf8.encode rest) := by
  rw [readList_literal_cons_iff ascii]
  constructor
  · intro given
    rcases given with ⟨_, rfl, read⟩
    rcases readList_cons_iff.mp read with ⟨_, readHour, read⟩
    rcases read_hour_iff.mp readHour with
        ⟨hourText, hour, _, rfl, nonempty, short, -, hourForm, hour_le, rfl⟩
    rcases (readList_literal_cons_iff colon_ascii).mp read with ⟨_, rfl, read⟩
    rcases readList_cons_iff.mp read with ⟨_, readMinute, read⟩
    rcases read_minute_iff.mp readMinute with
        ⟨minuteText, minute, rest, rfl, minuteForm, -, minute_le, rfl⟩
    have oneOrTwo : hourText.length = 1 ∨ hourText.length = 2 := by
      have := List.length_pos_iff.mpr nonempty
      omega
    cases read
    exact ⟨_, hour, minute, rest, by simp, .intro oneOrTwo hourForm minuteForm, hour_le,
      minute_le, rfl⟩
  · intro given
    rcases given with ⟨_, hour, minute, rest, rfl, form, hour_le, minute_le, rfl⟩
    obtain @⟨hourText, minuteText, count, _, _, oneOrTwo, hourForm, minuteForm⟩ := form
    obtain rfl : hourText.length = count := hourForm.length_eq
    have nonempty : hourText ≠ [] := by
      intro same
      subst same
      simp at oneOrTwo
    have short : hourText.length ≤ 2 := by omega
    refine ⟨_, rfl, readList_cons_iff.mpr ⟨_, read_hour_iff.mpr ⟨hourText, hour,
      ':' :: (minuteText ++ rest), by simp, nonempty, short, .inr ?_, hourForm,
      hour_le, rfl⟩, ?_⟩⟩
    · simp [NoDigitNext]
    refine (readList_literal_cons_iff colon_ascii).mpr ⟨_, rfl, readList_cons_iff.mpr ⟨_,
      read_minute_iff.mpr ⟨_, minute, rest, rfl, minuteForm, Nat.zero_le _,
        minute_le, rfl⟩, ?_⟩⟩
    rfl

theorem readList_second_iff :
    readList [.literal [':'], .component (.second .zero)] fields (Utf8.encode text) =
        .ok progress ↔
      ∃ secondText second rest, text = ':' :: (secondText ++ rest) ∧
        IsNumber 2 secondText second ∧ second ≤ 60 ∧
        progress = ({ fields with second := some second }, Utf8.encode rest) := by
  rw [readList_literal_cons_iff colon_ascii]
  constructor
  · intro given
    rcases given with ⟨_, rfl, read⟩
    rcases readList_cons_iff.mp read with ⟨_, readSecond, read⟩
    rcases read_second_iff.mp readSecond with
        ⟨secondText, second, rest, rfl, secondForm, -, second_le, rfl⟩
    cases read
    exact ⟨secondText, second, rest, rfl, secondForm, second_le, rfl⟩
  · intro given
    rcases given with ⟨secondText, second, rest, rfl, secondForm, second_le, rfl⟩
    refine ⟨_, rfl, readList_cons_iff.mpr ⟨_, read_second_iff.mpr ⟨secondText,
      second, rest, rfl, secondForm, Nat.zero_le _, second_le, rfl⟩, rfl⟩⟩

theorem readList_offset_iff :
    readList [.component (.offsetHour .zero .mandatory), .literal [':'],
        .component (.offsetMinute .zero)] fields (Utf8.encode text) = .ok progress ↔
      ∃ offsetText negative hour minute rest, text = offsetText ++ rest ∧
        OffsetText offsetText negative hour minute ∧ hour ≤ 23 ∧ minute ≤ 59 ∧
        progress = ({ fields with
          offsetHour := some (signed (some negative) hour)
          offsetNegative := negative
          offsetMinute := some (minute : Int) }, Utf8.encode rest) := by
  rw [readList_cons_iff]
  constructor
  · intro given
    rcases given with ⟨_, readHour, read⟩
    rcases read_offsetHour_iff.mp readHour with
        ⟨signText, negative, hourText, hour, _, rfl, signForm, hourForm, hour_le, rfl⟩
    rcases (readList_literal_cons_iff colon_ascii).mp read with ⟨_, rfl, read⟩
    rcases readList_cons_iff.mp read with ⟨_, readMinute, read⟩
    rcases read_offsetMinute_iff.mp readMinute with
        ⟨minuteText, minute, rest, rfl, minuteForm, -, minute_le, rfl⟩
    cases read
    exact ⟨_, negative, hour, minute, rest, by simp, .intro signForm hourForm minuteForm,
      hour_le, minute_le, rfl⟩
  · intro given
    rcases given with
      ⟨_, negative, hour, minute, rest, rfl, form, hour_le, minute_le, rfl⟩
    obtain @⟨signText, hourText, minuteText, _, _, _, signForm, hourForm, minuteForm⟩ :=
      form
    refine ⟨_, read_offsetHour_iff.mpr ⟨signText, negative, hourText, hour,
      ':' :: (minuteText ++ rest), by simp, signForm, hourForm, hour_le, rfl⟩, ?_⟩
    refine (readList_literal_cons_iff colon_ascii).mpr ⟨_, rfl, readList_cons_iff.mpr ⟨_,
      read_offsetMinute_iff.mpr ⟨_, minute, rest, rfl, minuteForm,
        Nat.zero_le _, minute_le, rfl⟩, ?_⟩⟩
    rfl

/-! ### The fraction -/

def fractionItem : Item :=
  .optional (.cons (.literal ['.']) (.cons (.component (.subsecond .oneOrMore)) .nil))

theorem read_fraction_inner_iff :
    (Items.cons (.literal ['.']) (.cons (.component (.subsecond .oneOrMore)) .nil)).read
        fields (Utf8.encode text) = .ok progress ↔
      ∃ digits rest, text = '.' :: (digits ++ rest) ∧ digits ≠ [] ∧
        (∀ character ∈ digits, character.isDigit = true) ∧ NoDigitNext rest ∧
        progress = ({ fields with
          nanosecond :=
            some (Nat.ofDigitChars 10 ((digits ++ List.replicate 9 '0').take 9) 0) },
          Utf8.encode rest) := by
  have asList :
      (Items.cons (.literal ['.']) (.cons (.component (.subsecond .oneOrMore)) .nil)) =
        (Items.ofList [.literal ['.'], .component (.subsecond .oneOrMore)]).relaxHours :=
    rfl
  have point_ascii : ('.' : Char).toNat < 128 := by decide
  rw [asList]
  change readList _ fields (Utf8.encode text) = _ ↔ _
  rw [readList_literal_cons_iff point_ascii]
  constructor
  · intro given
    rcases given with ⟨_, rfl, read⟩
    rcases readList_cons_iff.mp read with ⟨_, readFraction, read⟩
    rcases read_subsecond_iff.mp readFraction with
        ⟨digits, rest, rfl, nonempty, isDigit, noDigit, rfl⟩
    cases read
    exact ⟨digits, rest, rfl, nonempty, isDigit, noDigit, rfl⟩
  · intro given
    rcases given with ⟨digits, rest, rfl, nonempty, isDigit, noDigit, rfl⟩
    exact ⟨_, rfl, readList_cons_iff.mpr ⟨_,
      read_subsecond_iff.mpr ⟨digits, rest, rfl, nonempty, isDigit, noDigit, rfl⟩, rfl⟩⟩

theorem exists_fractionText_of_readList (noNanosecond : fields.nanosecond = none)
    (read : readList [fractionItem] fields (Utf8.encode text) = .ok progress) :
    ∃ fractionText nanosecond rest, text = fractionText ++ rest ∧
      FractionText fractionText (nanosecond.getD 0) ∧
      progress = ({ fields with nanosecond := nanosecond }, Utf8.encode rest) := by
  rcases readList_cons_iff.mp read with ⟨middle, readItem, read⟩
  cases read
  simp only [fractionItem, Item.relaxHours, Items.relaxHours, Component.relaxHour,
    Item.read] at readItem
  split at readItem
  · rename_i inner readInner
    cases readItem
    rcases read_fraction_inner_iff.mp readInner with
      ⟨digits, rest, rfl, nonempty, isDigit, -, rfl⟩
    exact ⟨_, some _, rest, by simp, .digits nonempty isDigit, rfl⟩
  · cases readItem
    refine ⟨[], none, text, rfl, .absent, ?_⟩
    rw [← noNanosecond]

theorem exists_readList_of_fractionText (noNanosecond : fields.nanosecond = none)
    {fractionText rest : List Char} {nanosecond : Nat}
    (form : FractionText fractionText nanosecond)
    (stops : ∀ character ∈ rest.head?, character ≠ '.' ∧ character.isDigit = false) :
    ∃ found : Option Nat, found.getD 0 = nanosecond ∧
      readList [fractionItem] fields (Utf8.encode (fractionText ++ rest)) =
        .ok ({ fields with nanosecond := found }, Utf8.encode rest) := by
  cases form with
  | absent =>
      refine ⟨none, rfl, readList_cons_iff.mpr ⟨(fields, Utf8.encode rest), ?_, ?_⟩⟩
      · simp only [fractionItem, Item.relaxHours, Items.relaxHours, Component.relaxHour,
          Item.read]
        split
        · rename_i inner readInner
          rcases read_fraction_inner_iff.mp readInner with ⟨digits, _, rfl, -⟩
          exact absurd rfl (stops '.' rfl).1
        · rfl
      · rw [← noNanosecond]
        rfl
  | @digits digits nonempty isDigit =>
      have noDigit : NoDigitNext rest := fun character first => (stops character first).2
      refine ⟨some (Nat.ofDigitChars 10 ((digits ++ List.replicate 9 '0').take 9) 0), rfl,
        readList_cons_iff.mpr ⟨(_, Utf8.encode rest), ?_, rfl⟩⟩
      simp only [fractionItem, Item.relaxHours, Items.relaxHours,
        Component.relaxHour, Item.read]
      rw [List.cons_append,
        read_fraction_inner_iff.mpr ⟨_, rest, rfl, nonempty, isDigit, noDigit, rfl⟩]

end ScalarCell.Pattern
