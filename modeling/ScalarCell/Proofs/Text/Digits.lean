import Mathlib.Data.List.TakeWhile
import ScalarCell.Proofs.Text.Encoding
import ScalarCell.Text.Digits

namespace ScalarCell.Digits

/-! Scanning digits in an encoded text, in terms of its characters. -/

def digitValue (character : Char) : Nat :=
  character.toNat - '0'.toNat

theorem isDigit_iff {character : Char} :
    character.isDigit = true ↔ 48 ≤ character.toNat ∧ character.toNat ≤ 57 := by
  simp [Char.isDigit, UInt32.le_iff_toNat_le]

theorem digit?_ofNat {character : Char} (ascii : character.toNat < 128) :
    digit? (UInt8.ofNat character.toNat) =
      if character.isDigit then some (digitValue character) else none := by
  have toNat_byte : (UInt8.ofNat character.toNat).toNat = character.toNat := by
    rw [UInt8.toNat_ofNat', Nat.mod_eq_of_lt (by omega)]
  simp [digit?, UInt8.le_iff_toNat_le, toNat_byte, isDigit_iff, digitValue]

theorem exists_digit?_encode (character : Char) (rest : List Char) :
    ∃ byte bytes, Utf8.encode (character :: rest) = byte :: bytes ∧
      digit? byte = (if character.isDigit then some (digitValue character) else none) ∧
      (character.isDigit = true → bytes = Utf8.encode rest) := by
  by_cases small : character.toNat < 128
  · refine ⟨UInt8.ofNat character.toNat, Utf8.encode rest, ?_, digit?_ofNat small,
      fun _ => rfl⟩
    rw [Utf8.encode_cons, Utf8.utf8EncodeChar_of_lt small, List.singleton_append]
  · have notDigit : ¬ character.isDigit = true := by
      rw [isDigit_iff]
      omega
    rcases Utf8.utf8EncodeChar_of_le (Nat.le_of_not_lt small) with
      ⟨first, second, others, encoded, wide, -⟩
    refine ⟨first, second :: others ++ Utf8.encode rest, ?_, ?_,
      fun digit => absurd digit notDigit⟩
    · rw [Utf8.encode_cons, encoded, List.cons_append]
    · simp [digit?, UInt8.le_iff_toNat_le, notDigit]
      omega

theorem takeUpTo_encode (limit : Nat) (text : List Char) :
    takeUpTo limit (Utf8.encode text) =
      (((text.take limit).takeWhile Char.isDigit).map digitValue,
        Utf8.encode (text.drop ((text.take limit).takeWhile Char.isDigit).length)) := by
  induction limit generalizing text with
  | zero => simp [takeUpTo]
  | succ limit induction =>
      cases text with
      | nil => simp [takeUpTo]
      | cons character rest =>
          rcases exists_digit?_encode character rest with
            ⟨byte, bytes, encoded, first, others⟩
          rw [encoded, takeUpTo, first]
          cases digit : character.isDigit with
          | true => simp [others digit, induction, digit]
          | false => simp [digit, ← encoded]

theorem takeAll_encode (text : List Char) :
    takeAll (Utf8.encode text) =
      ((text.takeWhile Char.isDigit).map digitValue,
        Utf8.encode (text.dropWhile Char.isDigit)) := by
  induction text with
  | nil => simp [takeAll]
  | cons character rest induction =>
      rcases exists_digit?_encode character rest with
        ⟨byte, bytes, encoded, first, others⟩
      rw [encoded, takeAll, first]
      cases digit : character.isDigit with
      | true => simp [others digit, induction, digit]
      | false => simp [digit, ← encoded]

theorem value_map_digitValue (digits : List Char) :
    value (digits.map digitValue) = Nat.ofDigitChars 10 digits 0 := by
  simp only [value, List.foldl_map, Nat.ofDigitChars_eq_foldl, digitValue, Nat.mul_comm]

/-! ## Numbers in a text -/

structure IsNumber (count : Nat) (text : List Char) (number : Nat) : Prop where
  length_eq : text.length = count
  isDigit : ∀ character ∈ text, character.isDigit = true
  value_eq : Nat.ofDigitChars 10 text 0 = number

theorem IsNumber.takeWhile_eq {count number : Nat} {text : List Char}
    (isNumber : IsNumber count text number) : text.takeWhile Char.isDigit = text :=
  List.takeWhile_eq_self_iff.mpr isNumber.isDigit

theorem isNumber_takeWhile (text : List Char) :
    IsNumber (text.takeWhile Char.isDigit).length (text.takeWhile Char.isDigit)
      (Nat.ofDigitChars 10 (text.takeWhile Char.isDigit) 0) :=
  ⟨rfl, fun _ member => List.mem_takeWhile_imp member, rfl⟩

def NoDigitNext (text : List Char) : Prop :=
  ∀ character ∈ text.head?, character.isDigit = false

theorem takeWhile_isDigit_append {digits rest : List Char}
    (isDigit : ∀ character ∈ digits, character.isDigit = true)
    (noDigit : NoDigitNext rest) :
    (digits ++ rest).takeWhile Char.isDigit = digits := by
  rw [List.takeWhile_append_of_pos isDigit]
  cases rest with
  | nil => simp
  | cons character rest =>
      have notDigit : character.isDigit = false := noDigit character rfl
      simp [notDigit]

theorem IsNumber.append_unique {count number other : Nat}
    {left right front back : List Char} (isNumber : IsNumber count left number)
    (isOther : IsNumber count right other)
    (same : left ++ front = right ++ back) : number = other ∧ front = back := by
  have lengths : left.length = right.length :=
    isNumber.length_eq.trans isOther.length_eq.symm
  rcases List.append_inj same lengths with ⟨rfl, rest_eq⟩
  exact ⟨isNumber.value_eq.symm.trans isOther.value_eq, rest_eq⟩

theorem append_unique_of_noDigitNext {left right front back : List Char}
    (leftDigits : ∀ character ∈ left, character.isDigit = true)
    (rightDigits : ∀ character ∈ right, character.isDigit = true)
    (noDigit : NoDigitNext front) (noOther : NoDigitNext back)
    (same : left ++ front = right ++ back) : left = right ∧ front = back := by
  have left_eq := takeWhile_isDigit_append leftDigits noDigit
  rw [same, takeWhile_isDigit_append rightDigits noOther] at left_eq
  subst left_eq
  exact ⟨rfl, List.append_cancel_left same⟩

theorem exactly?_encode_iff {count : Nat} {text : List Char}
    {progress : Nat × List UInt8} :
    exactly? count (Utf8.encode text) = some progress ↔
      ∃ digits number rest, text = digits ++ rest ∧ IsNumber count digits number ∧
        progress = (number, Utf8.encode rest) := by
  rw [exactly?, takeUpTo_encode]
  simp only [List.length_map, value_map_digitValue]
  constructor
  · intro read
    split at read
    · rename_i length_eq
      have prefixed : (text.take count).takeWhile Char.isDigit <+: text :=
        (List.takeWhile_prefix _).trans (List.take_prefix _ _)
      have isNumber := isNumber_takeWhile (text.take count)
      rw [length_eq] at isNumber
      exact ⟨_, _, _, (List.prefix_iff_eq_append.mp prefixed).symm, isNumber,
        (Option.some.inj read).symm⟩
    · cases read
  · intro given
    rcases given with ⟨digits, number, rest, rfl, isNumber, rfl⟩
    have taken : ((digits ++ rest).take count).takeWhile Char.isDigit = digits := by
      rw [← isNumber.length_eq, List.take_left]
      exact isNumber.takeWhile_eq
    rw [taken, isNumber.length_eq, isNumber.value_eq, if_pos rfl, ← isNumber.length_eq,
      List.drop_left]

theorem exactly?_drop_encode_iff {count : Nat} {text : List Char}
    {progress : Nat × List UInt8} :
    exactly? (count + 1) ((Utf8.encode text).drop 1) = some progress ↔
      ∃ first rest, text = first :: rest ∧ first.toNat < 128 ∧
        exactly? (count + 1) (Utf8.encode rest) = some progress := by
  cases text with
  | nil => simp [exactly?, takeUpTo]
  | cons first rest =>
      by_cases small : first.toNat < 128
      · rw [Utf8.encode_cons, Utf8.utf8EncodeChar_of_lt small, List.singleton_append,
          List.drop_one, List.tail_cons]
        constructor
        · intro read
          exact ⟨first, rest, rfl, small, read⟩
        · rintro ⟨_, _, ⟨⟩, -, read⟩
          exact read
      · rcases Utf8.utf8EncodeChar_of_le (Nat.le_of_not_lt small) with
          ⟨lead, second, others, encoded, -, wide⟩
        have notDigit : digit? second = none := by
          simp [digit?, UInt8.le_iff_toNat_le]
          omega
        rw [Utf8.encode_cons, encoded, List.cons_append, List.drop_one, List.tail_cons]
        simp [exactly?, takeUpTo, notDigit, small]

theorem noDigitNext_drop (limit : Nat) (text : List Char) :
    ((text.take limit).takeWhile Char.isDigit).length = limit ∨
      NoDigitNext (text.drop ((text.take limit).takeWhile Char.isDigit).length) := by
  induction limit generalizing text with
  | zero => simp
  | succ limit induction =>
      cases text with
      | nil => simp [NoDigitNext]
      | cons character rest =>
          cases digit : character.isDigit with
          | true => simpa [digit] using induction rest
          | false => simp [digit, NoDigitNext]

theorem NoDigitNext.take {text : List Char} (noDigit : NoDigitNext text) (count : Nat) :
    NoDigitNext (text.take count) := by
  intro character first
  rw [List.head?_take] at first
  split at first
  · cases first
  · exact noDigit character first

theorem upTo?_encode_iff {limit : Nat} {text : List Char} {progress : Nat × List UInt8} :
    upTo? limit (Utf8.encode text) = some progress ↔
      ∃ digits number rest, text = digits ++ rest ∧ digits ≠ [] ∧ digits.length ≤ limit ∧
        (digits.length = limit ∨ NoDigitNext rest) ∧
        IsNumber digits.length digits number ∧
        progress = (number, Utf8.encode rest) := by
  rw [upTo?, takeUpTo_encode]
  simp only [value_map_digitValue, List.isEmpty_map]
  constructor
  · intro read
    split at read
    · cases read
    · rename_i nonempty
      have prefixed : (text.take limit).takeWhile Char.isDigit <+: text :=
        (List.takeWhile_prefix _).trans (List.take_prefix _ _)
      have bounded : ((text.take limit).takeWhile Char.isDigit).length ≤ limit :=
        (List.takeWhile_prefix _).length_le.trans (List.length_take_le _ _)
      exact ⟨_, _, _, (List.prefix_iff_eq_append.mp prefixed).symm,
        fun empty => nonempty (by simp [empty]), bounded, noDigitNext_drop limit text,
        isNumber_takeWhile _, (Option.some.inj read).symm⟩
  · intro given
    rcases given with ⟨digits, number, rest, rfl, nonempty, bounded, stops, isNumber, rfl⟩
    have taken : ((digits ++ rest).take limit).takeWhile Char.isDigit = digits := by
      rw [List.take_append, List.take_of_length_le bounded]
      rcases stops with full | noDigit
      · simpa [full] using isNumber.takeWhile_eq
      · exact takeWhile_isDigit_append isNumber.isDigit (noDigit.take _)
    simp [taken, nonempty, isNumber.value_eq]

theorem noDigitNext_dropWhile (text : List Char) :
    NoDigitNext (text.dropWhile Char.isDigit) := by
  induction text with
  | nil => simp [NoDigitNext]
  | cons character rest induction =>
      cases digit : character.isDigit with
      | true => simpa [digit] using induction
      | false => simp [digit, NoDigitNext]

theorem dropWhile_isDigit_append {digits rest : List Char}
    (isDigit : ∀ character ∈ digits, character.isDigit = true)
    (noDigit : NoDigitNext rest) :
    (digits ++ rest).dropWhile Char.isDigit = rest := by
  have split : (digits ++ rest).takeWhile Char.isDigit ++
      (digits ++ rest).dropWhile Char.isDigit = digits ++ rest :=
    List.takeWhile_append_dropWhile
  rw [takeWhile_isDigit_append isDigit noDigit] at split
  exact List.append_cancel_left split

theorem nanoseconds_map_digitValue (digits : List Char) :
    nanoseconds (digits.map digitValue) =
      Nat.ofDigitChars 10 ((digits ++ List.replicate 9 '0').take 9) 0 := by
  have zeros : List.replicate 9 0 = (List.replicate 9 '0').map digitValue := by decide
  rw [nanoseconds, zeros, ← List.map_append, ← List.map_take, value_map_digitValue]

theorem fraction?_encode_iff {text : List Char} {progress : Nat × List UInt8} :
    fraction? (Utf8.encode text) = some progress ↔
      ∃ digits rest, text = digits ++ rest ∧ digits ≠ [] ∧
        (∀ character ∈ digits, character.isDigit = true) ∧ NoDigitNext rest ∧
        progress = (Nat.ofDigitChars 10 ((digits ++ List.replicate 9 '0').take 9) 0,
          Utf8.encode rest) := by
  rw [fraction?, takeAll_encode]
  simp only [nanoseconds_map_digitValue, List.isEmpty_map]
  constructor
  · intro read
    split at read
    · cases read
    · rename_i nonempty
      exact ⟨_, _, List.takeWhile_append_dropWhile.symm,
        fun empty => nonempty (by simp [empty]),
        fun _ member => List.mem_takeWhile_imp member, noDigitNext_dropWhile text,
        (Option.some.inj read).symm⟩
  · intro given
    rcases given with ⟨digits, rest, rfl, nonempty, isDigit, noDigit, rfl⟩
    simp [takeWhile_isDigit_append isDigit noDigit,
      dropWhile_isDigit_append isDigit noDigit, nonempty]

end ScalarCell.Digits
