import ScalarCell.Proofs.Json.Skip

namespace ScalarCell.Json

/-! A value among others is read as it is alone. What comes of it does not depend on what
follows, and what follows is left for others. -/

open Digits

/-- A text is read up to its end and no further, or refused, whatever follows it. -/
def ReadsAlone {α : Type} (reader : List Char → Except Failure (α × List Char))
    (text : List Char) : Prop :=
  ∃ outcome : Option α, ∀ rest, EndsValue rest →
    (reader (text ++ rest)).toOption = outcome.map fun value => (value, rest)

theorem ReadsAlone.map {α β : Type} {reader : List Char → Except Failure (α × List Char)}
    {text : List Char} (alone : ReadsAlone reader text) (change : α → β) :
    ReadsAlone (fun text => (reader text).map fun (value, rest) => (change value, rest))
      text := by
  rcases alone with ⟨outcome, alone⟩
  refine ⟨outcome.map change, fun rest ends => ?_⟩
  rw [toOption_map, alone rest ends, Option.map_map, Option.map_map]
  rfl

/-! ## Numbers -/

theorem exists_takeDigits {digits : List Char}
    (isDigit : ∀ character ∈ digits, character.isDigit = true) (limit total : Nat) :
    ∃ outcome count left, (∀ character ∈ left, character.isDigit = true) ∧
      (digits ≠ [] → left = [] → count ≠ 0) ∧
      ∀ rest, NoDigitNext rest →
        takeDigits limit total (digits ++ rest) = (outcome, count, left ++ rest) := by
  induction digits generalizing total with
  | nil =>
      refine ⟨total, 0, [], fun _ member => absurd member List.not_mem_nil,
        fun nonempty _ => absurd rfl nonempty, fun rest noDigit => ?_⟩
      cases rest with
      | nil => rfl
      | cons character rest =>
          rw [List.nil_append, takeDigits, digit?_eq_none (noDigit character rfl)]
  | cons first digits induction =>
      rcases List.forall_mem_cons.mp isDigit with ⟨firstDigit, othersDigit⟩
      by_cases fits : total * 10 + digitValue first < limit
      · rcases induction othersDigit (total * 10 + digitValue first) with
          ⟨outcome, count, left, leftDigit, -, taken⟩
        refine ⟨outcome, count + 1, left, leftDigit, fun _ _ => Nat.succ_ne_zero count,
          fun rest noDigit => ?_⟩
        rw [List.cons_append, takeDigits, digit?_eq_some firstDigit]
        simp only [fits, if_true, taken rest noDigit]
      · refine ⟨total, 0, first :: digits, isDigit,
          fun _ empty => absurd empty (List.cons_ne_nil first digits), fun rest _ => ?_⟩
        rw [List.cons_append, takeDigits, digit?_eq_some firstDigit]
        simp only [fits, if_false]

theorem toOption_scaled (significand : Nat) (exponent : Int) (rest : List Char) :
    (scaled significand exponent rest).toOption =
      (scale? significand exponent).map fun magnitude => (magnitude, rest) := by
  rw [scaled]
  cases scale? significand exponent with
  | none => rfl
  | some magnitude => rfl

variable {significand : Nat} {start : Int} {point exponent : List Char}

theorem readsAlone_exponentDigits {digits : List Char} (isDigits : DigitText digits)
    (positive : Bool) :
    ReadsAlone (readExponentDigits significand start positive) digits := by
  rcases exists_takeDigits isDigits.isDigit exponentLimit 0 with
    ⟨number, count, left, leftDigit, -, taken⟩
  by_cases all : left = []
  · subst all
    refine ⟨scale? significand (if positive then start + number else start - number),
      fun rest ends => ?_⟩
    rw [readExponentDigits, if_pos (isDigits.startsWithDigit rest),
      taken rest ends.noDigitNext]
    · simp only [List.nil_append, startsWithDigit_eq_false ends.noDigitNext,
        Bool.false_eq_true, if_false, toOption_scaled]
    · exact List.append_ne_nil_of_left_ne_nil isDigits.nonempty rest
  · have leftDigits : DigitText left := ⟨all, leftDigit⟩
    refine ⟨if significand ≠ 0 ∧ positive then none else some .zero, fun rest ends => ?_⟩
    rw [readExponentDigits, if_pos (isDigits.startsWithDigit rest),
      taken rest ends.noDigitNext]
    · simp only [leftDigits.startsWithDigit rest, if_true,
        leftDigits.dropWhile_append ends.noDigitNext]
      split_ifs with tooLarge
      · rfl
      · rfl
    · exact List.append_ne_nil_of_left_ne_nil isDigits.nonempty rest

theorem exists_readExponent {sign digits : List Char}
    (isSign : sign = [] ∨ sign = ['+'] ∨ sign = ['-']) (isDigits : DigitText digits) :
    ∃ positive, ∀ rest, readExponent significand start (sign ++ (digits ++ rest)) =
      readExponentDigits significand start positive (digits ++ rest) := by
  rcases isSign with rfl | rfl | rfl
  · refine ⟨true, fun rest => ?_⟩
    rw [List.nil_append, readExponent]
    · exact isDigits.append_ne_cons rfl
    · exact isDigits.append_ne_cons rfl
  · exact ⟨true, fun rest => by rw [List.singleton_append, readExponent]⟩
  · exact ⟨false, fun rest => by rw [List.singleton_append, readExponent]⟩

theorem readsAlone_optionalExponent (isExponent : ExponentText exponent)
    (significand : Nat) (start : Int) :
    ReadsAlone (readOptionalExponent significand start) exponent := by
  cases isExponent with
  | none =>
      refine ⟨scale? significand start, fun rest ends => ?_⟩
      rw [List.nil_append, readOptionalExponent, ends.startsWithExponent_eq_false]
      exact toOption_scaled significand start rest
  | digits isMark isSign isDigits =>
      rcases exists_readExponent isSign isDigits with ⟨positive, signed⟩
      rcases readsAlone_exponentDigits isDigits positive with ⟨outcome, alone⟩
      refine ⟨outcome, fun rest ends => ?_⟩
      have marked (text : List Char) : startsWithExponent (_ :: text) = true :=
        startsWithExponent_cons isMark text
      rw [List.cons_append, readOptionalExponent, if_pos (marked _), List.drop_one,
        List.tail_cons, List.append_assoc, signed, alone rest ends]

theorem readsAlone_floatTail (isPoint : PointText point) (isExponent : ExponentText exponent)
    (significand : Nat) (start : Int) :
    ReadsAlone (readFloatTail significand start) (point ++ exponent) := by
  cases isPoint with
  | none =>
      rcases readsAlone_optionalExponent isExponent significand start with ⟨outcome, alone⟩
      refine ⟨outcome, fun rest ends => ?_⟩
      rw [List.nil_append, readFloatTail, alone rest ends]
      exact isExponent.append_ne_point ends
  | digits isDigits =>
      rcases exists_takeDigits isDigits.isDigit (2 ^ 64) significand with
        ⟨number, count, left, leftDigit, some_taken, taken⟩
      rcases readsAlone_optionalExponent isExponent number (start - count) with
        ⟨outcome, alone⟩
      refine ⟨outcome, fun rest ends => ?_⟩
      have noDigit := isExponent.noDigitNext ends
      rw [List.append_assoc, List.cons_append, readFloatTail, readFraction,
        taken _ noDigit, ← alone rest ends]
      by_cases all : left = []
      · subst all
        simp only [List.nil_append, startsWithDigit_eq_false noDigit, Bool.false_eq_true,
          if_false, some_taken isDigits.nonempty rfl]
      · have leftDigits : DigitText left := ⟨all, leftDigit⟩
        simp only [leftDigits.startsWithDigit, if_true, leftDigits.dropWhile_append noDigit]

theorem readsAlone_afterInteger (isPoint : PointText point)
    (isExponent : ExponentText exponent) (negative : Bool) (significand : Nat) :
    ReadsAlone (readAfterInteger negative significand) (point ++ exponent) := by
  rcases (readsAlone_floatTail isPoint isExponent significand 0).map
    fun magnitude => Number.float (.finite negative magnitude) with ⟨outcome, alone⟩
  cases isPoint with
  | digits isDigits =>
      refine ⟨outcome, fun rest ends => ?_⟩
      rw [← alone rest ends, readAfterInteger, if_pos (.inl rfl)]
  | none =>
      cases isExponent with
      | digits isMark isSign isDigits =>
          refine ⟨outcome, fun rest ends => ?_⟩
          rw [← alone rest ends, readAfterInteger,
            if_pos (.inr (startsWithExponent_cons isMark _))]
      | none =>
          refine ⟨some (integer negative significand), fun rest ends => ?_⟩
          have noPoint : rest.head? ≠ some '.' := ends.head?_ne (by decide)
          simp only [List.append_nil, List.nil_append, readAfterInteger, noPoint,
            ends.startsWithExponent_eq_false, Bool.false_eq_true, or_self, if_false]
          rfl

theorem readNumber_taken {first : Char} {others left rest : List Char} {number count : Nat}
    (notZero : first ≠ '0') (isDigits : DigitText (first :: others)) (negative : Bool)
    (taken : takeDigits (2 ^ 64) 0 (first :: others ++ rest) = (number, count, left)) :
    readNumber negative (first :: others ++ rest) =
      if startsWithDigit left then
        (readFloatTail number (left.takeWhile Char.isDigit).length
          (left.dropWhile Char.isDigit)).map fun (magnitude, rest) =>
            (.float (.finite negative magnitude), rest)
      else readAfterInteger negative number left := by
  have starts := isDigits.startsWithDigit rest
  rw [List.cons_append] at taken starts ⊢
  rw [readNumber]
  · simp only [starts, if_true, taken]
  · exact List.cons_ne_nil _ _
  · rintro others ⟨⟩
    exact notZero rfl

theorem UnsignedText.readsAlone {text : List Char} (isUnsigned : UnsignedText text)
    (negative : Bool) : ReadsAlone (readNumber negative) text := by
  cases isUnsigned with
  | number isDigits canonical isPoint isExponent =>
      rcases canonical with rfl | ⟨first, others, rfl, notZero⟩
      · rcases readsAlone_afterInteger isPoint isExponent negative 0 with ⟨outcome, alone⟩
        refine ⟨outcome, fun rest ends => ?_⟩
        have noDigit := isPoint.noDigitNext isExponent ends
        rw [← alone rest ends, List.append_assoc, List.append_assoc, List.singleton_append,
          readNumber, startsWithDigit_eq_false noDigit]
        rfl
      · rcases exists_takeDigits isDigits.isDigit (2 ^ 64) 0 with
          ⟨number, count, left, leftDigit, -, taken⟩
        by_cases all : left = []
        · subst all
          rcases readsAlone_afterInteger isPoint isExponent negative number with
            ⟨outcome, alone⟩
          refine ⟨outcome, fun rest ends => ?_⟩
          have noDigit := isPoint.noDigitNext isExponent ends
          rw [← alone rest ends, List.append_assoc, List.append_assoc,
            readNumber_taken notZero isDigits negative (taken _ noDigit), List.nil_append,
            startsWithDigit_eq_false noDigit]
          rfl
        · have leftDigits : DigitText left := ⟨all, leftDigit⟩
          rcases (readsAlone_floatTail isPoint isExponent number left.length).map
            fun magnitude => Number.float (.finite negative magnitude) with ⟨outcome, alone⟩
          refine ⟨outcome, fun rest ends => ?_⟩
          have noDigit := isPoint.noDigitNext isExponent ends
          rw [← alone rest ends, List.append_assoc, List.append_assoc,
            readNumber_taken notZero isDigits negative (taken _ noDigit),
            if_pos (leftDigits.startsWithDigit _), leftDigits.dropWhile_append noDigit,
            takeWhile_isDigit_append leftDigit noDigit]

/-! ## Strings -/

theorem toOption_prepend (character : Char)
    (outcome : Except Failure (List Char × List Char)) :
    (prepend character outcome).toOption =
      outcome.toOption.map fun (characters, rest) => (character :: characters, rest) := by
  cases outcome with
  | ok read => rfl
  | error failure => rfl

theorem isTrailingSurrogate_of_isLeading {unit : Nat}
    (isLeading : isLeadingSurrogate unit = true) : isTrailingSurrogate unit = false := by
  simp only [isLeadingSurrogate, Bool.and_eq_true, decide_eq_true_eq] at isLeading
  simp [isTrailingSurrogate]
  omega

section Units

variable {first second third fourth : Char} {unit : Nat}
  (isUnit : hexUnit? first second third fourth = some unit)

include isUnit

theorem readText_trailing (isTrailing : isTrailingSurrogate unit = true) (rest : List Char) :
    (readText
      ('\\' :: 'u' :: first :: second :: third :: fourth :: rest)).toOption = none := by
  have notQuote : ('\\' : Char) ≠ '"' := by decide
  rw [readText.eq_def]
  simp only [notQuote, if_false, if_true, isUnit, isTrailing]
  rfl

variable (isLeading : isLeadingSurrogate unit = true)

include isLeading

theorem readText_pair {fifth sixth seventh eighth : Char} {trailing : Nat}
    (isTrailingUnit : hexUnit? fifth sixth seventh eighth = some trailing)
    (rest : List Char) :
    readText
      ('\\' :: 'u' :: first :: second :: third :: fourth ::
        '\\' :: 'u' :: fifth :: sixth :: seventh :: eighth :: rest) =
      if isTrailingSurrogate trailing then
        prepend (joinSurrogates unit trailing) (readText rest)
      else failBefore .loneLeadingSurrogate rest := by
  have notQuote : ('\\' : Char) ≠ '"' := by decide
  rw [readText.eq_def]
  simp only [notQuote, if_false, if_true, isUnit, isTrailingUnit,
    isTrailingSurrogate_of_isLeading isLeading, isLeading, Bool.false_eq_true]

theorem readText_unpaired {rest : List Char}
    (unpaired : ∀ text, rest ≠ '\\' :: 'u' :: text) :
    (readText
      ('\\' :: 'u' :: first :: second :: third :: fourth :: rest)).toOption = none := by
  have notQuote : ('\\' : Char) ≠ '"' := by decide
  rw [readText.eq_def]
  simp only [notQuote, if_false, if_true, isUnit,
    isTrailingSurrogate_of_isLeading isLeading, isLeading, Bool.false_eq_true]
  split
  · exact absurd rfl (unpaired _)
  · exact absurd rfl (unpaired _)
  · rfl
  · rfl
  · rfl
  · rfl

end Units

section Prepending

variable {text more : List Char} {character : Char}

theorem ReadsAlone.prepend (alone : ReadsAlone readText text)
    (read : ∀ rest, readText (more ++ rest) =
      Json.prepend character (readText (text ++ rest))) : ReadsAlone readText more := by
  rcases alone with ⟨outcome, alone⟩
  refine ⟨outcome.map (character :: ·), fun rest ends => ?_⟩
  rw [read, toOption_prepend, alone rest ends, Option.map_map, Option.map_map]
  rfl

theorem readsAlone_of_refused {α : Type}
    {reader : List Char → Except Failure (α × List Char)}
    (refused : ∀ rest, (reader (text ++ rest)).toOption = none) : ReadsAlone reader text :=
  ⟨none, fun rest _ => refused rest⟩

end Prepending

/-- A string is read up to its closing quote, also after the first one of two surrogates. -/
theorem StringText.readsAlone_and_leading {text : List Char} (isString : StringText text) :
    ReadsAlone readText (text ++ ['"']) ∧
      ∀ {first second third fourth : Char} {unit : Nat},
        hexUnit? first second third fourth = some unit → isLeadingSurrogate unit = true →
          ReadsAlone readText
            ('\\' :: 'u' :: first :: second :: third :: fourth :: (text ++ ['"'])) := by
  -- After a leading surrogate two escapes are read at once, so the induction says of every
  -- text also what it is behind one.
  induction isString with
  | nil =>
      refine ⟨⟨some [], fun rest _ => ?_⟩, fun isUnit isLeading =>
        readsAlone_of_refused fun rest => readText_unpaired isUnit isLeading nofun⟩
      rw [List.nil_append, List.singleton_append, readText.eq_def]
      rfl
  | plain notQuote notBackslash printable others induction =>
      refine ⟨induction.1.prepend fun rest =>
        readText_plain notQuote notBackslash printable _, fun isUnit isLeading =>
          readsAlone_of_refused fun rest => readText_unpaired isUnit isLeading ?_⟩
      exact fun text begins => notBackslash (List.cons.inj begins).1
  | short isShort others induction =>
      refine ⟨induction.1.prepend fun rest => readText_shortEscape isShort _,
        fun isUnit isLeading =>
          readsAlone_of_refused fun rest => readText_unpaired isUnit isLeading ?_⟩
      intro text begins
      rw [(List.cons.inj (List.cons.inj begins).2).1] at isShort
      cases isShort
  | @unit _ _ _ _ unit text isUnit others induction =>
      constructor
      · cases isTrailing : isTrailingSurrogate unit with
        | true => exact readsAlone_of_refused fun rest => readText_trailing isUnit isTrailing _
        | false =>
            cases isLeading : isLeadingSurrogate unit with
            | true => exact induction.2 isUnit isLeading
            | false =>
                exact induction.1.prepend fun rest =>
                  readText_unitEscape isUnit isLeading isTrailing _
      · intro _ _ _ _ _ isLeadingUnit isLeading
        cases isTrailing : isTrailingSurrogate unit with
        | true =>
            exact induction.1.prepend fun rest =>
              (readText_pair isLeadingUnit isLeading isUnit _).trans (if_pos isTrailing)
        | false =>
            refine readsAlone_of_refused fun rest => ?_
            have failed := readText_pair isLeadingUnit isLeading isUnit (text ++ ['"'] ++ rest)
            rw [if_neg (by simp [isTrailing])] at failed
            exact congrArg Except.toOption failed

theorem spells_self {text : List Char} (plain : ∀ character ∈ text,
      character ≠ '"' ∧ character ≠ '\\' ∧ ¬ character.toNat < 0x20) : Spells text text := by
  induction text with
  | nil => exact .nil
  | cons first others induction =>
      rcases List.forall_mem_cons.mp plain with
        ⟨⟨notQuote, notBackslash, printable⟩, plainOthers⟩
      exact .plain notQuote notBackslash printable (induction plainOthers)

theorem readText_of_spells {text characters : List Char} (spells : Spells text characters)
    (rest : List Char) : readText (text ++ '"' :: rest) = .ok (characters, rest) := by
  induction spells with
  | nil =>
      rw [List.nil_append, readText.eq_def]
      rfl
  | plain notQuote notBackslash printable others induction =>
      rw [List.cons_append, readText_plain notQuote notBackslash printable, induction]
      rfl
  | short isShort others induction =>
      rw [List.cons_append, List.cons_append, readText_shortEscape isShort, induction]
      rfl
  | unit isUnit noLeading noTrailing others induction =>
      simp only [List.cons_append]
      rw [readText_unitEscape isUnit noLeading noTrailing, induction]
      rfl
  | pair isLeadingUnit isLeading isTrailingUnit isTrailing others induction =>
      simp only [List.cons_append]
      rw [readText_pair isLeadingUnit isLeading isTrailingUnit, if_pos isTrailing, induction]
      rfl

/-! ## Whole values -/

def ReadsAsScalar (text : List Char) (outcome : Option Scalar) : Prop :=
  ∀ rest, EndsValue rest → ∀ value after,
    readLexeme (text ++ rest) = .ok (.scalar value, after) ↔
      outcome = some value ∧ after = rest

variable {text : List Char}

theorem readsAsScalar_of_eq (scalar : Scalar)
    (read : ∀ rest, readLexeme (text ++ rest) = .ok (.scalar scalar, rest)) :
    ReadsAsScalar text (some scalar) := by
  intro rest ends value after
  rw [read]
  simp [eq_comm]

theorem readsAsScalar_list (content : List Char) : ReadsAsScalar ('[' :: content) none := by
  intro rest ends value after
  have opened : readLexeme ('[' :: content ++ rest) = .ok (.openList, content ++ rest) := rfl
  rw [opened]
  simp

theorem readsAsScalar_object (content : List Char) :
    ReadsAsScalar ('\x7b' :: content) none := by
  intro rest ends value after
  have opened : readLexeme ('\x7b' :: content ++ rest) = .ok (.openObject, content ++ rest) :=
    rfl
  rw [opened]
  simp

theorem ReadsAlone.exists_readsAsScalar {α : Type}
    {reader : List Char → Except Failure (α × List Char)} {content : List Char}
    (alone : ReadsAlone reader content) (scalar : α → Scalar)
    (read : ∀ rest, readLexeme (text ++ rest) =
      (reader (content ++ rest)).map fun (value, rest) => (.scalar (scalar value), rest)) :
    ∃ outcome, ReadsAsScalar text outcome := by
  rcases alone with ⟨outcome, alone⟩
  refine ⟨outcome.map scalar, fun rest ends value after => ?_⟩
  rw [read, ← toOption_eq_some_iff, toOption_map, alone rest ends]
  cases outcome with
  | none => simp
  | some result => simp [eq_comm]

theorem ValueText.exists_readsAsScalar (isValue : ValueText text) :
    ∃ outcome, ReadsAsScalar text outcome := by
  cases isValue with
  | word isWord =>
      rcases isWord with rfl | rfl | rfl
      · exact ⟨_, readsAsScalar_of_eq .null fun rest => rfl⟩
      · exact ⟨_, readsAsScalar_of_eq (.bool true) fun rest => rfl⟩
      · exact ⟨_, readsAsScalar_of_eq (.bool false) fun rest => rfl⟩
  | number negative isUnsigned =>
      refine (isUnsigned.readsAlone negative).exists_readsAsScalar .number fun rest => ?_
      rw [signedText_append, readLexeme_signedText negative (isUnsigned.startsWithDigit rest)]
  | string isString =>
      exact isString.readsAlone_and_leading.1.exists_readsAsScalar
        (fun characters => .text (String.ofList characters)) fun rest => rfl
  | emptyList => exact ⟨none, readsAsScalar_list _⟩
  | list => exact ⟨none, readsAsScalar_list _⟩
  | emptyObject => exact ⟨none, readsAsScalar_object _⟩
  | object => exact ⟨none, readsAsScalar_object _⟩

/-! ## Cells -/

variable {type : ScalarType} {cell : Cell type} {before rest after : List Char}

theorem ReadsAsScalar.readCell_append_iff {outcome : Option Scalar}
    (reads : ReadsAsScalar text outcome) (ends : EndsValue rest) :
    readCell type (text ++ rest) = .ok (cell, after) ↔
      (∃ value, outcome = some value ∧ Cell.ofToken type value.token = .ok cell) ∧
        after = rest := by
  simp only [readCell_eq_ok_iff, reads rest ends]
  constructor
  · rintro ⟨value, ⟨is, rfl⟩, decodes⟩
    exact ⟨⟨value, is, decodes⟩, rfl⟩
  · rintro ⟨⟨value, is, decodes⟩, rfl⟩
    exact ⟨value, ⟨is, rfl⟩, decodes⟩

theorem ReadsAsScalar.decodeCell_iff {outcome : Option Scalar}
    (reads : ReadsAsScalar text outcome) :
    decodeCell type (String.ofList text) = .ok cell ↔
      ∃ value, outcome = some value ∧ Cell.ofToken type value.token = .ok cell := by
  have alone (after : List Char) :=
    @ReadsAsScalar.readCell_append_iff _ type cell [] after _ reads endsValue_nil
  simp only [List.append_nil] at alone
  rw [decodeCell, decodeText_eq_ok_iff, String.toList_ofList]
  constructor
  · rintro ⟨after, read, -⟩
    exact ((alone after).mp read).1
  · intro decodes
    exact ⟨[], (alone []).mpr ⟨decodes, rfl⟩, rfl⟩

/-- A cell is read from a value among others exactly where it is decoded from the value as a
document of its own. -/
theorem ValueText.readCell_append_iff (isValue : ValueText text) (ends : EndsValue rest) :
    readCell type (text ++ rest) = .ok (cell, after) ↔
      decodeCell type (String.ofList text) = .ok cell ∧ after = rest := by
  rcases isValue.exists_readsAsScalar with ⟨outcome, reads⟩
  rw [reads.readCell_append_iff ends, reads.decodeCell_iff]

theorem readCell_blank (blankBefore : AllBlank before) (text : List Char) :
    readCell type (before ++ text) = readCell type text := by
  rw [← readCell_skipBlank, skipBlank_append blankBefore, readCell_skipBlank]

end ScalarCell.Json
