import ScalarCell.Proofs.PatternList.Default
import ScalarCell.Proofs.Text.Decoding

namespace ScalarCell

/-! The default list reads ASCII texts alone. So it refuses every text in which broken bytes
were replaced. -/

def IsAscii (text : List Char) : Prop :=
  ∀ character ∈ text, character.toNat < 128

theorem isAscii_append_iff {left right : List Char} :
    IsAscii (left ++ right) ↔ IsAscii left ∧ IsAscii right :=
  List.forall_mem_append

theorem isAscii_cons_iff {first : Char} {rest : List Char} :
    IsAscii (first :: rest) ↔ first.toNat < 128 ∧ IsAscii rest :=
  List.forall_mem_cons

namespace Pattern

open Digits

variable {text : List Char}

theorem isAscii_of_isDigit (isDigit : ∀ character ∈ text, character.isDigit = true) :
    IsAscii text := by
  intro character member
  have inRange := isDigit_iff.mp (isDigit character member)
  omega

theorem isAscii_of_isNumber {count number : Nat} (isNumber : IsNumber count text number) :
    IsAscii text :=
  isAscii_of_isDigit isNumber.isDigit

theorem SignText.isAscii {sign : Option Bool} (form : SignText text sign) : IsAscii text := by
  cases form with
  | absent => exact List.forall_mem_nil _
  | plus | minus => simp [IsAscii]

theorem DateText.isAscii {year : Int} {month day : Nat} (form : DateText text year month day) :
    IsAscii text := by
  rcases form with ⟨signForm, yearForm, monthForm, dayForm⟩
  simp only [isAscii_append_iff, isAscii_cons_iff]
  exact ⟨signForm.isAscii, isAscii_of_isNumber yearForm, by decide,
    isAscii_of_isNumber monthForm, by decide, isAscii_of_isNumber dayForm⟩

theorem MinuteText.isAscii {hour minute : Nat} (form : MinuteText text hour minute) :
    IsAscii text := by
  rcases form with ⟨-, hourForm, minuteForm⟩
  rw [isAscii_append_iff, isAscii_cons_iff]
  exact ⟨isAscii_of_isNumber hourForm, by decide, isAscii_of_isNumber minuteForm⟩

theorem FractionText.isAscii {nanosecond : Nat} (form : FractionText text nanosecond) :
    IsAscii text := by
  cases form with
  | absent => exact List.forall_mem_nil _
  | digits _ isDigit => exact isAscii_cons_iff.mpr ⟨by decide, isAscii_of_isDigit isDigit⟩

theorem SecondText.isAscii {hour minute second nanosecond : Nat}
    (form : SecondText text hour minute second nanosecond) : IsAscii text := by
  rcases form with ⟨minuteForm, secondForm, fractionForm⟩
  simp only [isAscii_append_iff, isAscii_cons_iff]
  exact ⟨minuteForm.isAscii, by decide, isAscii_of_isNumber secondForm, fractionForm.isAscii⟩

theorem OffsetText.isAscii {negative : Bool} {hour minute : Nat}
    (form : OffsetText text negative hour minute) : IsAscii text := by
  rcases form with ⟨signForm, hourForm, minuteForm⟩
  simp only [isAscii_append_iff, isAscii_cons_iff]
  exact ⟨signForm.isAscii, isAscii_of_isNumber hourForm, by decide,
    isAscii_of_isNumber minuteForm⟩

theorem isAscii_separator {separator : Char} (isSeparator : IsSeparator separator) :
    separator.toNat < 128 := by
  rcases isSeparator with rfl | rfl
  · decide
  · decide

theorem ClockText.isAscii {time : TimeOfDay} {written : Option UtcOffset}
    (form : ClockText text time written) : IsAscii text := by
  cases form with
  | absent => exact List.forall_mem_nil _
  | minute isSeparator minuteForm =>
      exact isAscii_cons_iff.mpr ⟨isAscii_separator isSeparator, minuteForm.isAscii⟩
  | second isSeparator secondForm =>
      exact isAscii_cons_iff.mpr ⟨isAscii_separator isSeparator, secondForm.isAscii⟩
  | offset isSeparator secondForm offsetForm =>
      rw [isAscii_cons_iff, isAscii_append_iff]
      exact ⟨isAscii_separator isSeparator, secondForm.isAscii, offsetForm.isAscii⟩

theorem DefaultText.isAscii {defaultOffset : UtcOffset} {timestamp : Timestamp}
    (form : DefaultText defaultOffset text timestamp) : IsAscii text := by
  rcases form with ⟨dateForm, clockForm, -⟩
  exact isAscii_append_iff.mpr ⟨dateForm.isAscii, clockForm.isAscii⟩

end Pattern

namespace PatternList

variable {text : String} {defaultOffset : UtcOffset}

theorem isAscii_of_default_read {timestamp : Timestamp}
    (read : PatternList.default.read text defaultOffset = .ok timestamp) :
    IsAscii text.toList := by
  rcases default_read_iff_readsAs.mp read with ⟨form, -⟩
  rcases dropZulu_cases text.toList with whole | zulu
  · rw [whole]
    exact form.isAscii
  · rw [zulu]
    exact isAscii_append_iff.mpr ⟨form.isAscii, by simp [IsAscii]⟩

theorem input_of_read {list : PatternList} {error : TimestampTextError}
    (refused : list.read text defaultOffset = .error error) : error.input = text := by
  obtain ⟨failure, rfl, -⟩ := read_eq_error_iff.mp refused
  rfl

theorem exists_default_read_error (replaced : Utf8.replacement ∈ text.toList) :
    ∃ error, PatternList.default.read text defaultOffset = .error error := by
  cases outcome : PatternList.default.read text defaultOffset with
  | error error => exact ⟨error, rfl⟩
  | ok timestamp =>
      exact absurd (isAscii_of_default_read outcome Utf8.replacement replaced) (by decide)

end PatternList

end ScalarCell
