import ScalarCell.Json.Skip
import ScalarCell.Proofs.Json.CellText
import ScalarCell.Proofs.Json.Grammar

namespace ScalarCell.Json

/-! Every value that has the notation of JSON is passed over, and no further than to its end. -/

open Digits

variable {text rest : List Char}

/-! ## Numbers -/

theorem skipExponent_append {sign digits : List Char}
    (isSign : sign = [] ∨ sign = ['+'] ∨ sign = ['-']) (isDigits : DigitText digits)
    (noDigit : NoDigitNext rest) : skipExponent (sign ++ (digits ++ rest)) = .ok rest := by
  have starts := isDigits.startsWithDigit rest
  have drops := isDigits.dropWhile_append noDigit
  rcases isSign with rfl | rfl | rfl
  · rw [List.nil_append, skipExponent, if_pos starts, drops]
    · exact isDigits.append_ne_cons rfl
    · exact isDigits.append_ne_cons rfl
  · rw [List.singleton_append, skipExponent, if_pos starts, drops]
  · rw [List.singleton_append, skipExponent, if_pos starts, drops]

theorem skipOptionalExponent_append {exponent : List Char}
    (isExponent : ExponentText exponent) (ends : EndsValue rest) :
    skipOptionalExponent (exponent ++ rest) = .ok rest := by
  cases isExponent with
  | none =>
      rw [List.nil_append, skipOptionalExponent, ends.startsWithExponent_eq_false]
      rfl
  | digits isMark isSign isDigits =>
      have marked (text : List Char) : startsWithExponent (_ :: text) = true :=
        startsWithExponent_cons isMark text
      rw [List.cons_append, skipOptionalExponent, if_pos (marked _), List.drop_one,
        List.tail_cons, List.append_assoc]
      exact skipExponent_append isSign isDigits ends.noDigitNext

theorem skipNumberTail_append {point exponent : List Char} (isPoint : PointText point)
    (isExponent : ExponentText exponent) (ends : EndsValue rest) :
    skipNumberTail (point ++ (exponent ++ rest)) = .ok rest := by
  have tail := skipOptionalExponent_append isExponent ends
  cases isPoint with
  | none =>
      rw [List.nil_append, skipNumberTail, tail]
      exact isExponent.append_ne_point ends
  | digits isDigits =>
      rw [List.cons_append, skipNumberTail, if_pos (isDigits.startsWithDigit _),
        isDigits.dropWhile_append (isExponent.noDigitNext ends), tail]

theorem skipNumber_append (isUnsigned : UnsignedText text) (ends : EndsValue rest) :
    skipNumber (text ++ rest) = .ok rest := by
  cases isUnsigned with
  | number isDigits canonical isPoint isExponent =>
      have noDigit := isPoint.noDigitNext isExponent ends
      have tail := skipNumberTail_append isPoint isExponent ends
      rw [List.append_assoc, List.append_assoc]
      rcases canonical with rfl | ⟨first, others, rfl, notZero⟩
      · rw [List.singleton_append, skipNumber, startsWithDigit_eq_false noDigit, tail]
        rfl
      · have starts := isDigits.startsWithDigit
        have drops := isDigits.dropWhile_append noDigit
        rw [skipNumber, if_pos (starts _), drops, tail]
        rintro others ⟨⟩
        exact notZero rfl

/-! ## Strings -/

theorem skipText_append (isString : StringText text) (rest : List Char) :
    skipText (text ++ '"' :: rest) = .ok rest := by
  induction isString with
  | nil =>
      rw [List.nil_append, skipText.eq_def]
      rfl
  | plain notQuote notBackslash printable others induction =>
      rw [List.cons_append, skipText.eq_def]
      simp only [notQuote, notBackslash, printable, if_false, induction]
  | short isShort others induction =>
      rename_i mark character text
      have notUnit : mark ≠ 'u' := by
        rintro rfl
        cases isShort
      have notQuote : ('\\' : Char) ≠ '"' := by decide
      rw [List.cons_append, List.cons_append, skipText.eq_def]
      simp only [notQuote, notUnit, if_false, if_true, isShort, induction]
  | unit isUnit others induction =>
      have notQuote : ('\\' : Char) ≠ '"' := by decide
      simp only [List.cons_append]
      rw [skipText.eq_def]
      simp only [notQuote, if_false, if_true, isUnit, induction]

/-! ## Values by their first character -/

section FirstCharacter

variable (fuel : Nat) (rest : List Char)

theorem skipValueWith_word {word : String}
    (isWord : word = "null" ∨ word = "true" ∨ word = "false") :
    skipValueWith (fuel + 1) (word.toList ++ rest) = .ok rest := by
  rcases isWord with rfl | rfl | rfl
  · rfl
  · rfl
  · rfl

theorem skipValueWith_quote : skipValueWith (fuel + 1) ('"' :: rest) = skipText rest := rfl

theorem skipValueWith_openList :
    skipValueWith (fuel + 1) ('[' :: rest) = skipElements fuel true rest := rfl

theorem skipValueWith_openObject :
    skipValueWith (fuel + 1) ('\x7b' :: rest) = skipMembers fuel true rest := rfl

theorem skipValueWith_signedText (negative : Bool) {text : List Char}
    (starts : startsWithDigit text = true) :
    skipValueWith (fuel + 1) (signedText negative text) = skipNumber text := by
  rw [skipValueWith, skipBlank_signedText negative starts]
  cases negative with
  | true => rfl
  | false =>
      cases text with
      | nil => cases starts
      | cons first others =>
          have isDigit : first.isDigit = true := starts
          have other (other : Char) (notDigit : other.isDigit = false) :=
            ne_of_isDigit isDigit notDigit
          simp [signedText, other, isDigit]

end FirstCharacter

theorem signedText_append (negative : Bool) (text rest : List Char) :
    signedText negative text ++ rest = signedText negative (text ++ rest) := by
  cases negative with
  | true => rfl
  | false => rfl

/-! ## Containers step by step -/

theorem skipBlank_of_not_mem {character : Char} (notDelimiter : character ∉ delimiters)
    (rest : List Char) : skipBlank (character :: rest) = character :: rest :=
  List.dropWhile_cons_of_neg fun blank => notDelimiter (mem_delimiters_of_isBlank blank)

variable {before value after : List Char} {fuel : Nat}

theorem skipValueWith_blank (blankBefore : AllBlank before) (text : List Char) :
    skipValueWith (fuel + 1) (before ++ text) = skipValueWith (fuel + 1) text := by
  rw [skipValueWith, skipBlank_append blankBefore, skipValueWith]

theorem skipElements_blank {first : Bool} (blankBefore : AllBlank before) (text : List Char) :
    skipElements (fuel + 1) first (before ++ text) = skipElements (fuel + 1) first text := by
  rw [skipElements, skipBlank_append blankBefore, skipElements]

theorem skipMembers_blank {first : Bool} (blankBefore : AllBlank before) (text : List Char) :
    skipMembers (fuel + 1) first (before ++ text) = skipMembers (fuel + 1) first text := by
  rw [skipMembers, skipBlank_append blankBefore, skipMembers]

theorem skipElements_end (first : Bool) (rest : List Char) :
    skipElements (fuel + 1) first (']' :: rest) = .ok rest := rfl

theorem skipMembers_end (first : Bool) (rest : List Char) :
    skipMembers (fuel + 1) first ('\x7d' :: rest) = .ok rest := rfl

theorem skipElements_element (first : Bool) (blankBefore : AllBlank before)
    (isValue : ValueText value)
    (skips : skipValueWith (fuel + 1) (value ++ rest) = .ok rest) :
    skipElements (fuel + 2) first (asElement first (before ++ (value ++ rest))) =
      skipElements (fuel + 1) false rest := by
  rcases isValue.exists_cons with ⟨character, others, rfl, notDelimiter⟩
  rw [skipElements]
  cases first with
  | true =>
      have notEnd : character ≠ ']' := by
        rintro rfl
        exact notDelimiter (by decide)
      rw [List.cons_append] at skips
      simp only [asElement, if_true, skipBlank_append blankBefore, List.cons_append,
        skipBlank_of_not_mem notDelimiter, notEnd, if_false, Bool.true_or, skips]
  | false =>
      have comma (text : List Char) : skipBlank (',' :: text) = ',' :: text := rfl
      have notEnd : (',' : Char) ≠ ']' := by decide
      simp only [asElement, Bool.false_eq_true, if_false, comma, notEnd, Bool.false_or,
        decide_true, if_true, skipValueWith_blank blankBefore, skips]

theorem skipMember_blank (blankBefore : AllBlank before) (text : List Char) :
    skipMember (fuel + 1) (before ++ text) = skipMember (fuel + 1) text := by
  rw [skipMember, skipBlank_append blankBefore, skipMember]

theorem readColon_append (blankBefore : AllBlank before) (text : List Char) :
    readColon (before ++ ':' :: text) = .ok text := by
  rw [readColon, skipBlank_append blankBefore]
  rfl

theorem skipMember_key {key : List Char} (isString : StringText key)
    (blankAfter : AllBlank after) (text : List Char) :
    skipMember (fuel + 1) ('"' :: (key ++ '"' :: (after ++ ':' :: text))) =
      skipValueWith fuel text := by
  have quote (text : List Char) : skipBlank ('"' :: text) = '"' :: text := rfl
  rw [skipMember, quote]
  simp only [if_true, skipText_append isString, readColon_append blankAfter]

theorem skipMembers_member (first : Bool) (blankBefore : AllBlank before)
    (skips : skipMember (fuel + 1) ('"' :: text) = .ok rest) :
    skipMembers (fuel + 2) first (asElement first (before ++ '"' :: text)) =
      skipMembers (fuel + 1) false rest := by
  rw [skipMembers]
  cases first with
  | true =>
      have quote : skipBlank ('"' :: text) = '"' :: text := rfl
      have notEnd : ('"' : Char) ≠ '\x7d' := by decide
      simp only [asElement, if_true, skipBlank_append blankBefore, quote, notEnd, if_false,
        Bool.true_or, skips]
  | false =>
      have comma (text : List Char) : skipBlank (',' :: text) = ',' :: text := rfl
      have notEnd : (',' : Char) ≠ '\x7d' := by decide
      simp only [asElement, Bool.false_eq_true, if_false, comma, notEnd, Bool.false_or,
        decide_true, if_true, skipMember_blank blankBefore, skips]

/-! ## Values of any depth -/

theorem asElement_append (first : Bool) (text rest : List Char) :
    asElement first text ++ rest = asElement first (text ++ rest) := by
  cases first with
  | true => rfl
  | false => rfl

mutual
/-- A value of any depth is passed over with at most three calls for each of its
characters. -/
theorem ValueText.skipValueWith_append : ∀ {text : List Char}, ValueText text →
    ∀ {fuel : Nat} {rest : List Char}, EndsValue rest → 3 * text.length ≤ fuel + 1 →
      skipValueWith (fuel + 1) (text ++ rest) = .ok rest
  | _, .word isWord, fuel, rest, _, _ => skipValueWith_word fuel rest isWord
  | _, .number negative isUnsigned, fuel, rest, ends, _ => by
      rw [signedText_append,
        skipValueWith_signedText fuel negative (isUnsigned.startsWithDigit rest)]
      exact skipNumber_append isUnsigned ends
  | _, .string isString, fuel, rest, _, _ => by
      rw [List.cons_append, skipValueWith_quote, List.append_assoc]
      exact skipText_append isString rest
  | _, .emptyList isBlank, fuel, rest, _, enough => by
      simp only [List.length_cons, List.length_append] at enough
      obtain ⟨fuel, rfl⟩ := Nat.exists_eq_add_of_le' (show 1 ≤ fuel by omega)
      rw [List.cons_append, skipValueWith_openList, List.append_assoc,
        skipElements_blank isBlank]
      exact skipElements_end true rest
  | _, .list areElements, fuel, rest, _, enough => by
      simp only [List.length_cons, List.length_append] at enough
      rw [List.cons_append, skipValueWith_openList, List.append_assoc]
      exact areElements.skipElements_append true (by omega)
  | _, .emptyObject isBlank, fuel, rest, _, enough => by
      simp only [List.length_cons, List.length_append] at enough
      obtain ⟨fuel, rfl⟩ := Nat.exists_eq_add_of_le' (show 1 ≤ fuel by omega)
      rw [List.cons_append, skipValueWith_openObject, List.append_assoc,
        skipMembers_blank isBlank]
      exact skipMembers_end true rest
  | _, .object areMembers, fuel, rest, _, enough => by
      simp only [List.length_cons, List.length_append] at enough
      rw [List.cons_append, skipValueWith_openObject, List.append_assoc]
      exact areMembers.skipMembers_append true (by omega)

theorem ElementsText.skipElements_append : ∀ {text : List Char}, ElementsText text →
    ∀ {fuel : Nat} {rest : List Char} (first : Bool), 3 * text.length + 2 ≤ fuel →
      skipElements fuel first (asElement first (text ++ ']' :: rest)) = .ok rest
  | _, .last blankBefore isValue blankAfter, fuel, rest, first, enough => by
      simp only [List.length_append] at enough
      obtain ⟨fuel, rfl⟩ := Nat.exists_eq_add_of_le' (show 2 ≤ fuel by omega)
      have skips : skipValueWith (fuel + 1) _ = .ok _ :=
        isValue.skipValueWith_append ((endsValue_listEnd rest).append blankAfter) (by omega)
      rw [List.append_assoc, List.append_assoc,
        skipElements_element first blankBefore isValue skips, skipElements_blank blankAfter]
      exact skipElements_end false rest
  | _, .more blankBefore isValue blankAfter areElements, fuel, rest, first, enough => by
      simp only [List.length_append, List.length_cons] at enough
      obtain ⟨fuel, rfl⟩ := Nat.exists_eq_add_of_le' (show 2 ≤ fuel by omega)
      have skips (others : List Char) : skipValueWith (fuel + 1) _ = .ok _ :=
        isValue.skipValueWith_append ((endsValue_comma others).append blankAfter) (by omega)
      rw [List.append_assoc, List.append_assoc, List.append_assoc, List.cons_append,
        skipElements_element first blankBefore isValue (skips _),
        skipElements_blank blankAfter]
      exact areElements.skipElements_append false (by omega)

theorem MembersText.skipMembers_append : ∀ {text : List Char}, MembersText text →
    ∀ {fuel : Nat} {rest : List Char} (first : Bool), 3 * text.length + 2 ≤ fuel →
      skipMembers fuel first (asElement first (text ++ '\x7d' :: rest)) = .ok rest
  | _, .last isMember, fuel, rest, first, enough => by
      obtain ⟨fuel, rfl⟩ := Nat.exists_eq_add_of_le' (show 2 ≤ fuel by omega)
      rw [isMember.skipMembers_append first (endsValue_objectEnd rest) (by omega)]
      exact skipMembers_end false rest
  | _, .more isMember areMembers, fuel, rest, first, enough => by
      simp only [List.length_append, List.length_cons] at enough
      obtain ⟨fuel, rfl⟩ := Nat.exists_eq_add_of_le' (show 1 ≤ fuel by omega)
      rw [List.append_assoc, List.cons_append,
        isMember.skipMembers_append first (endsValue_comma _) (by omega)]
      exact areMembers.skipMembers_append false (by omega)

theorem MemberText.skipMembers_append : ∀ {text : List Char}, MemberText text →
    ∀ {fuel : Nat} {rest : List Char} (first : Bool), EndsValue rest →
      3 * text.length ≤ fuel →
      skipMembers (fuel + 1) first (asElement first (text ++ rest)) =
        skipMembers fuel false rest
  | _, .member blankBefore isString blankAfterKey blankBeforeValue isValue blankAfter,
      fuel, rest, first, ends, enough => by
      simp only [List.length_append, List.length_cons] at enough
      obtain ⟨fuel, rfl⟩ := Nat.exists_eq_add_of_le' (show 2 ≤ fuel by omega)
      have skips : skipValueWith (fuel + 1) _ = .ok _ :=
        isValue.skipValueWith_append (ends.append blankAfter) (by omega)
      rw [← skipValueWith_blank blankBeforeValue,
        ← skipMember_key isString blankAfterKey] at skips
      simp only [List.append_assoc, List.cons_append]
      rw [skipMembers_member first blankBefore skips, skipMembers_blank blankAfter]
end

theorem ValueText.skipValue_append {value : List Char} (isValue : ValueText value)
    (blankBefore : AllBlank before) (ends : EndsValue rest) :
    skipValue (before ++ (value ++ rest)) = .ok rest := by
  rw [skipValue, skipValueWith_blank blankBefore]
  exact isValue.skipValueWith_append ends (by simp only [List.length_append]; omega)

end ScalarCell.Json
