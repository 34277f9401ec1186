import ScalarCell.Pattern.Read
import ScalarCell.Proofs.Text.Digits

namespace ScalarCell.Pattern

/-! What single components take from the front of a text. Each lemma gives all texts on
which a component succeeds, with the field it sets and what it leaves. -/

open Digits

inductive SignText : List Char → Option Bool → Prop
  | absent : SignText [] none
  | plus : SignText ['+'] (some false)
  | minus : SignText ['-'] (some true)

def signed (sign : Option Bool) (number : Nat) : Int :=
  if sign = some true then -(number : Int) else number

/-! ## Literals and signs -/

theorem dropPrefix?_singleton (expected : UInt8) (bytes rest : List UInt8) :
    dropPrefix? [expected] bytes = some rest ↔ bytes = expected :: rest := by
  cases bytes with
  | nil => simp [dropPrefix?]
  | cons byte others =>
      by_cases same : byte = expected
      · simp [dropPrefix?, same]
      · simp [dropPrefix?, same]

theorem Item.read_literal_iff {character : Char} (ascii : character.toNat < 128)
    {fields : Fields} {text : List Char} {progress : Progress} :
    (Item.literal [character]).read fields (Utf8.encode text) = .ok progress ↔
      ∃ rest, text = character :: rest ∧ progress = (fields, Utf8.encode rest) := by
  have byte_eq : (UInt8.ofNat character.toNat).toNat = character.toNat := by
    rw [UInt8.toNat_ofNat', Nat.mod_eq_of_lt (by omega)]
  have encoded : Utf8.encode [character] = [UInt8.ofNat character.toNat] := by
    simp [Utf8.utf8EncodeChar_of_lt ascii]
  rw [Item.read, encoded]
  constructor
  · intro read
    split at read
    · rename_i rest dropped
      rw [dropPrefix?_singleton, Utf8.encode_eq_cons_iff (by omega), byte_eq] at dropped
      rcases dropped with ⟨first, others, rfl, same, rfl⟩
      rw [Char.toNat_inj] at same
      subst same
      exact ⟨others, rfl, (Except.ok.inj read).symm⟩
    · cases read
  · intro given
    rcases given with ⟨rest, rfl, rfl⟩
    have dropped :
        dropPrefix? [UInt8.ofNat character.toNat] (Utf8.encode (character :: rest)) =
        some (Utf8.encode rest) := by
      rw [dropPrefix?_singleton, Utf8.encode_cons, Utf8.utf8EncodeChar_of_lt ascii,
        List.singleton_append]
    rw [dropped]

theorem takeSign_encode_cons (character : Char) (rest : List Char) :
    takeSign (Utf8.encode (character :: rest)) =
      if character = '-' then (some true, Utf8.encode rest)
      else if character = '+' then (some false, Utf8.encode rest)
      else (none, Utf8.encode (character :: rest)) := by
  by_cases small : character.toNat < 128
  · have byte_eq : (UInt8.ofNat character.toNat).toNat = character.toNat := by
      rw [UInt8.toNat_ofNat', Nat.mod_eq_of_lt (by omega)]
    have minus : UInt8.ofNat character.toNat = 0x2D ↔ character = '-' := by
      rw [← UInt8.toNat_inj, byte_eq, ← Char.toNat_inj]
      rfl
    have plus : UInt8.ofNat character.toNat = 0x2B ↔ character = '+' := by
      rw [← UInt8.toNat_inj, byte_eq, ← Char.toNat_inj]
      rfl
    rw [Utf8.encode_cons, Utf8.utf8EncodeChar_of_lt small,
      List.singleton_append, takeSign]
    simp only [minus, plus]
  · rcases Utf8.utf8EncodeChar_of_le (Nat.le_of_not_lt small) with
      ⟨first, _, _, encoded, wide, -⟩
    have notMinus : character ≠ '-' := by
      intro same
      subst same
      exact small (by decide)
    have notPlus : character ≠ '+' := by
      intro same
      subst same
      exact small (by decide)
    have firstNotMinus : first ≠ 0x2D := by
      intro same
      subst same
      exact absurd wide (by decide)
    have firstNotPlus : first ≠ 0x2B := by
      intro same
      subst same
      exact absurd wide (by decide)
    rw [Utf8.encode_cons, encoded, List.cons_append, takeSign, if_neg firstNotMinus,
      if_neg firstNotPlus, if_neg notMinus, if_neg notPlus]

theorem takeSign_encode_iff {text : List Char} {outcome : Option Bool × List UInt8} :
    takeSign (Utf8.encode text) = outcome ↔
      ∃ signText sign rest, text = signText ++ rest ∧ SignText signText sign ∧
        (sign = none → ∀ character ∈ rest.head?, character ≠ '-' ∧ character ≠ '+') ∧
        outcome = (sign, Utf8.encode rest) := by
  constructor
  · intro same
    subst same
    cases text with
    | nil => exact ⟨[], none, [], rfl, .absent, by simp, rfl⟩
    | cons character rest =>
        rw [takeSign_encode_cons]
        by_cases minus : character = '-'
        · subst minus
          exact ⟨['-'], some true, rest, rfl, .minus, by simp, rfl⟩
        · by_cases plus : character = '+'
          · subst plus
            exact ⟨['+'], some false, rest, rfl, .plus, by simp, rfl⟩
          · refine ⟨[], none, character :: rest, rfl, .absent, by simp [minus, plus], ?_⟩
            rw [if_neg minus, if_neg plus]
  · intro given
    rcases given with ⟨signText, sign, rest, rfl, written, noSign, rfl⟩
    cases written with
    | absent =>
        cases rest with
        | nil => rfl
        | cons character rest =>
            rcases noSign rfl character rfl with ⟨notMinus, notPlus⟩
            rw [List.nil_append, takeSign_encode_cons, if_neg notMinus, if_neg notPlus]
    | plus => rfl
    | minus => rfl

theorem not_sign_of_isNumber {count number : Nat} {digits rest : List Char}
    (isNumber : IsNumber (count + 1) digits number) :
    ∀ character ∈ (digits ++ rest).head?, character ≠ '-' ∧ character ≠ '+' := by
  cases digits with
  | nil => cases isNumber.length_eq
  | cons first digits =>
      have digit := isDigit_iff.mp (isNumber.isDigit first (by simp))
      intro character first_eq
      cases first_eq
      constructor
      · intro same
        subst same
        exact absurd digit (by decide)
      · intro same
        subst same
        exact absurd digit (by decide)

/-! ## Numbers -/

theorem within?_eq_some_iff {low high : Nat} {outcome : Option (Nat × List UInt8)}
    {progress : Nat × List UInt8} :
    within? low high outcome = some progress ↔
      outcome = some progress ∧ low ≤ progress.1 ∧ progress.1 ≤ high := by
  rcases outcome with _ | ⟨number, rest⟩
  · simp [within?]
  · simp only [within?]
    split
    · rename_i inside
      constructor
      · intro given
        rcases given with ⟨rfl⟩
        exact ⟨rfl, inside⟩
      · intro given
        rcases given with ⟨equal, -⟩
        exact equal
    · rename_i outside
      constructor
      · intro impossible
        cases impossible
      · intro given
        rcases given with ⟨⟨rfl⟩, inside⟩
        exact absurd inside outside

theorem orMalformed_eq_ok_iff {part : WrittenPart} {outcome : Option Progress}
    {progress : Progress} :
    Component.read.orMalformed part outcome = .ok progress ↔ outcome = some progress := by
  cases outcome with
  | none => simp [Component.read.orMalformed]
  | some found => simp [Component.read.orMalformed]

theorem put_within?_iff {low high count : Nat} {text : List Char} {assign : Nat → Fields}
    {progress : Progress} :
    Component.read.put (within? low high (exactly? count (Utf8.encode text))) assign =
        some progress ↔
      ∃ digits number rest, text = digits ++ rest ∧ IsNumber count digits number ∧
        low ≤ number ∧ number ≤ high ∧ progress = (assign number, Utf8.encode rest) := by
  rw [Component.read.put, Option.map_eq_some_iff]
  constructor
  · intro given
    rcases given with ⟨⟨number, bytes⟩, read, rfl⟩
    rw [within?_eq_some_iff, exactly?_encode_iff] at read
    rcases read with ⟨⟨digits, _, rest, rfl, isNumber, ⟨⟩⟩, low_le, le_high⟩
    exact ⟨digits, number, rest, rfl, isNumber, low_le, le_high, rfl⟩
  · intro given
    rcases given with ⟨digits, number, rest, rfl, isNumber, low_le, le_high, rfl⟩
    refine ⟨(number, Utf8.encode rest), ?_, rfl⟩
    rw [within?_eq_some_iff, exactly?_encode_iff]
    exact ⟨⟨digits, number, rest, rfl, isNumber, rfl⟩, low_le, le_high⟩

variable {fields : Fields} {text : List Char} {progress : Progress}

theorem read_day_iff :
    (Component.day .zero).read fields (Utf8.encode text) = .ok progress ↔
      ∃ digits number rest, text = digits ++ rest ∧ IsNumber 2 digits number ∧
        1 ≤ number ∧ number ≤ 31 ∧
        progress = ({ fields with day := some number }, Utf8.encode rest) := by
  apply orMalformed_eq_ok_iff.trans
  exact put_within?_iff

theorem read_minute_iff :
    (Component.minute .zero).read fields (Utf8.encode text) = .ok progress ↔
      ∃ digits number rest, text = digits ++ rest ∧ IsNumber 2 digits number ∧
        0 ≤ number ∧ number ≤ 59 ∧
        progress = ({ fields with minute := some number }, Utf8.encode rest) := by
  apply orMalformed_eq_ok_iff.trans
  exact put_within?_iff

theorem read_second_iff :
    (Component.second .zero).read fields (Utf8.encode text) = .ok progress ↔
      ∃ digits number rest, text = digits ++ rest ∧ IsNumber 2 digits number ∧
        0 ≤ number ∧ number ≤ 60 ∧
        progress = ({ fields with second := some number }, Utf8.encode rest) := by
  apply orMalformed_eq_ok_iff.trans
  exact put_within?_iff

theorem read_offsetMinute_iff :
    (Component.offsetMinute .zero).read fields (Utf8.encode text) = .ok progress ↔
      ∃ digits number rest, text = digits ++ rest ∧ IsNumber 2 digits number ∧
        0 ≤ number ∧ number ≤ 59 ∧
        progress = ({ fields with offsetMinute := some (number : Int) },
          Utf8.encode rest) := by
  apply orMalformed_eq_ok_iff.trans
  exact put_within?_iff

theorem read_month_iff {caseSensitive : Bool} :
    (Component.month .zero .number caseSensitive).read fields (Utf8.encode text) =
        .ok progress ↔
      ∃ digits number rest, text = digits ++ rest ∧ IsNumber 2 digits number ∧
        1 ≤ number ∧ number ≤ 12 ∧
        progress = ({ fields with month := some number }, Utf8.encode rest) := by
  apply orMalformed_eq_ok_iff.trans
  have asPut : readMonth? .zero .number caseSensitive fields (Utf8.encode text) =
      Component.read.put (within? 1 12 (exactly? 2 (Utf8.encode text)))
        fun number => { fields with month := some number } := by
    simp only [readMonth?, Component.read.put, Padding.read?]
    cases within? 1 12 (exactly? 2 (Utf8.encode text)) with
    | none => rfl
    | some found => rfl
  rw [asPut]
  exact put_within?_iff

theorem read_hour_iff :
    (Component.hour .unpadded .twentyFour).read fields (Utf8.encode text) = .ok progress ↔
      ∃ digits number rest, text = digits ++ rest ∧ digits ≠ [] ∧ digits.length ≤ 2 ∧
        (digits.length = 2 ∨ NoDigitNext rest) ∧ IsNumber digits.length digits number ∧
        number ≤ 23 ∧ progress = ({ fields with hour := some number },
          Utf8.encode rest) := by
  apply orMalformed_eq_ok_iff.trans
  have asPut : readHour? .unpadded .twentyFour fields (Utf8.encode text) =
      Component.read.put (within? 0 23 (upTo? 2 (Utf8.encode text)))
        fun number => { fields with hour := some number } := by
    simp only [readHour?, Component.read.put, Padding.read?]
    cases within? 0 23 (upTo? 2 (Utf8.encode text)) with
    | none => rfl
    | some found => rfl
  rw [asPut, Component.read.put, Option.map_eq_some_iff]
  constructor
  · intro given
    rcases given with ⟨⟨number, bytes⟩, read, rfl⟩
    rw [within?_eq_some_iff, upTo?_encode_iff] at read
    rcases read with
      ⟨⟨digits, _, rest, rfl, nonempty, short, stops, isNumber, ⟨⟩⟩, -, le_high⟩
    exact ⟨digits, number, rest, rfl, nonempty, short, stops, isNumber, le_high, rfl⟩
  · intro given
    rcases given with
      ⟨digits, number, rest, rfl, nonempty, short, stops, isNumber, le_high, rfl⟩
    refine ⟨(number, Utf8.encode rest), ?_, rfl⟩
    rw [within?_eq_some_iff, upTo?_encode_iff]
    exact ⟨⟨digits, number, rest, rfl, nonempty, short, stops, isNumber, rfl⟩,
      Nat.zero_le _, le_high⟩

theorem read_subsecond_iff :
    (Component.subsecond .oneOrMore).read fields (Utf8.encode text) = .ok progress ↔
      ∃ digits rest, text = digits ++ rest ∧ digits ≠ [] ∧
        (∀ character ∈ digits, character.isDigit = true) ∧ NoDigitNext rest ∧
        progress = ({ fields with
          nanosecond :=
            some (Nat.ofDigitChars 10 ((digits ++ List.replicate 9 '0').take 9) 0) },
          Utf8.encode rest) := by
  apply orMalformed_eq_ok_iff.trans
  have asMap : readSubsecond? .oneOrMore fields (Utf8.encode text) =
      (fraction? (Utf8.encode text)).map fun found =>
        ({ fields with nanosecond := some found.1 }, found.2) := by
    simp only [readSubsecond?]
    cases fraction? (Utf8.encode text) with
    | none => rfl
    | some found => rfl
  rw [asMap, Option.map_eq_some_iff]
  constructor
  · intro given
    rcases given with ⟨found, read, rfl⟩
    rcases fraction?_encode_iff.mp read with
      ⟨digits, rest, rfl, nonempty, isDigit, noDigit, rfl⟩
    exact ⟨digits, rest, rfl, nonempty, isDigit, noDigit, rfl⟩
  · intro given
    rcases given with ⟨digits, rest, rfl, nonempty, isDigit, noDigit, rfl⟩
    exact ⟨_, fraction?_encode_iff.mpr ⟨digits, rest, rfl, nonempty, isDigit,
      noDigit, rfl⟩, rfl⟩

theorem takeSign_exactly?_iff {count number : Nat} {sign : Option Bool}
    {bytes : List UInt8} :
    ((takeSign (Utf8.encode text)).1 = sign ∧
        exactly? (count + 1) (takeSign (Utf8.encode text)).2 = some (number, bytes)) ↔
      ∃ signText digits rest, text = signText ++ (digits ++ rest) ∧
      SignText signText sign ∧
        IsNumber (count + 1) digits number ∧ bytes = Utf8.encode rest := by
  constructor
  · intro given
    rcases given with ⟨rfl, read⟩
    rcases takeSign_encode_iff.mp
      (rfl : takeSign (Utf8.encode text) = takeSign (Utf8.encode text))
        with
        ⟨signText, sign, tail, rfl, written, -, taken⟩
    rw [taken] at read ⊢
    rcases exactly?_encode_iff.mp read with ⟨digits, _, rest, rfl, isNumber, ⟨⟩⟩
    exact ⟨signText, digits, rest, rfl, written, isNumber, rfl⟩
  · intro given
    rcases given with ⟨signText, digits, rest, rfl, written, isNumber, rfl⟩
    have taken : takeSign (Utf8.encode (signText ++ (digits ++ rest))) =
        (sign, Utf8.encode (digits ++ rest)) :=
      takeSign_encode_iff.mpr ⟨signText, sign, digits ++ rest, rfl, written,
        fun _ => not_sign_of_isNumber isNumber, rfl⟩
    rw [taken]
    exact ⟨rfl, exactly?_encode_iff.mpr ⟨digits, number, rest, rfl, isNumber, rfl⟩⟩

theorem read_year_iff :
    (Component.year .zero .full .extended .calendar .automatic).read fields
    (Utf8.encode text) =
        .ok progress ↔
      ∃ signText sign digits number rest, text = signText ++ (digits ++ rest) ∧
        SignText signText sign ∧ IsNumber 4 digits number ∧
        progress = ({ fields with year := some (signed sign number) },
          Utf8.encode rest) := by
  apply orMalformed_eq_ok_iff.trans
  have asBind : readYear? .zero .full .calendar .automatic fields (Utf8.encode text) =
      (exactly? 4 (takeSign (Utf8.encode text)).2).map fun found =>
        ({ fields with year := some (signed (takeSign (Utf8.encode text)).1 found.1) },
          found.2) := by
    simp only [readYear?, Padding.read?, signed]
    cases exactly? 4 (takeSign (Utf8.encode text)).2 with
    | none => rfl
    | some found => rfl
  rw [asBind, Option.map_eq_some_iff]
  constructor
  · intro given
    rcases given with ⟨⟨number, bytes⟩, read, rfl⟩
    rcases takeSign_exactly?_iff.mp ⟨rfl, read⟩ with
        ⟨signText, digits, rest, text_eq, written, isNumber, rfl⟩
    exact ⟨signText, _, digits, number, rest, text_eq, written, isNumber, rfl⟩
  · intro given
    rcases given with
      ⟨signText, sign, digits, number, rest, text_eq, written, isNumber, rfl⟩
    rcases takeSign_exactly?_iff.mpr ⟨signText, digits, rest, text_eq, written,
      isNumber, rfl⟩ with
        ⟨rfl, read⟩
    exact ⟨_, read, rfl⟩

theorem read_offsetHour_iff :
    (Component.offsetHour .zero .mandatory).read fields
    (Utf8.encode text) = .ok progress ↔
      ∃ signText negative digits number rest, text = signText ++ (digits ++ rest) ∧
        SignText signText (some negative) ∧ IsNumber 2 digits number ∧ number ≤ 23 ∧
        progress = ({ fields with
          offsetHour := some (signed (some negative) number)
          offsetNegative := negative }, Utf8.encode rest) := by
  apply orMalformed_eq_ok_iff.trans
  constructor
  · intro read
    obtain ⟨sign, sign_eq⟩ : ∃ sign, (takeSign (Utf8.encode text)).1 = sign := ⟨_, rfl⟩
    simp only [readOffsetHour?, Padding.read?, sign_eq] at read
    cases found : within? 0 23 (exactly? 2 (takeSign (Utf8.encode text)).2) with
    | none => simp [found] at read
    | some outcome =>
        rcases outcome with ⟨number, bytes⟩
        rcases within?_eq_some_iff.mp found with ⟨digitsRead, -, le_high⟩
        rcases takeSign_exactly?_iff.mp ⟨sign_eq, digitsRead⟩ with
            ⟨signText, digits, rest, text_eq, written, isNumber, rfl⟩
        cases sign with
        | none => simp [found, SignRule.missing] at read
        | some negative =>
            refine ⟨signText, negative, digits, number, rest, text_eq, written, isNumber,
              le_high, ?_⟩
            simp [found, SignRule.missing, signed] at read ⊢
            exact read.symm
  · intro given
    rcases given with
      ⟨signText, negative, digits, number, rest, text_eq, written, isNumber, le_high, rfl⟩
    rcases takeSign_exactly?_iff.mpr ⟨signText, digits, rest, text_eq, written,
      isNumber, rfl⟩ with
        ⟨sign_eq, digitsRead⟩
    have found : within? 0 23 (exactly? 2 (takeSign (Utf8.encode text)).2) =
        some (number, Utf8.encode rest) :=
      within?_eq_some_iff.mpr ⟨digitsRead, Nat.zero_le _, le_high⟩
    simp [readOffsetHour?, Padding.read?, sign_eq, found, SignRule.missing, signed]

end ScalarCell.Pattern
