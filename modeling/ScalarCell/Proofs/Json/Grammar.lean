import ScalarCell.Proofs.Json.Lexeme

namespace ScalarCell.Json

/-! The notation of JSON: which texts are numbers, strings, values and members, apart from
what the readers make of them. -/

open Digits

def AllBlank (text : List Char) : Prop :=
  ∀ character ∈ text, isBlank character = true

/-! ## Numbers -/

structure DigitText (text : List Char) : Prop where
  nonempty : text ≠ []
  isDigit : ∀ character ∈ text, character.isDigit = true

inductive PointText : List Char → Prop
  | none : PointText []
  | digits {digits : List Char} (isDigits : DigitText digits) : PointText ('.' :: digits)

inductive ExponentText : List Char → Prop
  | none : ExponentText []
  | digits {mark : Char} {sign digits : List Char} (isMark : mark = 'e' ∨ mark = 'E')
      (isSign : sign = [] ∨ sign = ['+'] ∨ sign = ['-']) (isDigits : DigitText digits) :
      ExponentText (mark :: (sign ++ digits))

inductive UnsignedText : List Char → Prop
  | number {whole point exponent : List Char} (isDigits : DigitText whole)
      (canonical : Canonical whole) (isPoint : PointText point)
      (isExponent : ExponentText exponent) :
      UnsignedText (whole ++ (point ++ exponent))

/-! ## Strings -/

/-- What may stand between the quotes of a string: characters and escapes. Surrogates need
not be paired. -/
inductive StringText : List Char → Prop
  | nil : StringText []
  | plain {character : Char} {text : List Char} (notQuote : character ≠ '"')
      (notBackslash : character ≠ '\\') (printable : ¬ character.toNat < 0x20)
      (others : StringText text) : StringText (character :: text)
  | short {mark character : Char} {text : List Char}
      (isShort : shortEscape? mark = some character) (others : StringText text) :
      StringText ('\\' :: mark :: text)
  | unit {first second third fourth : Char} {unit : Nat} {text : List Char}
      (isUnit : hexUnit? first second third fourth = some unit) (others : StringText text) :
      StringText ('\\' :: 'u' :: first :: second :: third :: fourth :: text)

/-- The characters that a text between quotes stands for. There are none for surrogates out
of place. -/
inductive Spells : List Char → List Char → Prop
  | nil : Spells [] []
  | plain {character : Char} {text characters : List Char} (notQuote : character ≠ '"')
      (notBackslash : character ≠ '\\') (printable : ¬ character.toNat < 0x20)
      (others : Spells text characters) : Spells (character :: text) (character :: characters)
  | short {mark character : Char} {text characters : List Char}
      (isShort : shortEscape? mark = some character) (others : Spells text characters) :
      Spells ('\\' :: mark :: text) (character :: characters)
  | unit {first second third fourth : Char} {unit : Nat} {text characters : List Char}
      (isUnit : hexUnit? first second third fourth = some unit)
      (noLeading : isLeadingSurrogate unit = false)
      (noTrailing : isTrailingSurrogate unit = false) (others : Spells text characters) :
      Spells ('\\' :: 'u' :: first :: second :: third :: fourth :: text)
        (Char.ofNat unit :: characters)
  | pair {first second third fourth fifth sixth seventh eighth : Char}
      {leading trailing : Nat} {text characters : List Char}
      (isLeadingUnit : hexUnit? first second third fourth = some leading)
      (isLeading : isLeadingSurrogate leading = true)
      (isTrailingUnit : hexUnit? fifth sixth seventh eighth = some trailing)
      (isTrailing : isTrailingSurrogate trailing = true) (others : Spells text characters) :
      Spells
        ('\\' :: 'u' :: first :: second :: third :: fourth ::
          '\\' :: 'u' :: fifth :: sixth :: seventh :: eighth :: text)
        (joinSurrogates leading trailing :: characters)

/-! ## Values -/

mutual
inductive ValueText : List Char → Prop
  | word {word : String} (isWord : word = "null" ∨ word = "true" ∨ word = "false") :
      ValueText word.toList
  | number (negative : Bool) {text : List Char} (isUnsigned : UnsignedText text) :
      ValueText (signedText negative text)
  | string {text : List Char} (isString : StringText text) :
      ValueText ('"' :: (text ++ ['"']))
  | emptyList {blank : List Char} (isBlank : AllBlank blank) :
      ValueText ('[' :: (blank ++ [']']))
  | list {text : List Char} (areElements : ElementsText text) :
      ValueText ('[' :: (text ++ [']']))
  | emptyObject {blank : List Char} (isBlank : AllBlank blank) :
      ValueText ('\x7b' :: (blank ++ ['\x7d']))
  | object {text : List Char} (areMembers : MembersText text) :
      ValueText ('\x7b' :: (text ++ ['\x7d']))

inductive ElementsText : List Char → Prop
  | last {before value after : List Char} (blankBefore : AllBlank before)
      (isValue : ValueText value) (blankAfter : AllBlank after) :
      ElementsText (before ++ (value ++ after))
  | more {before value after others : List Char} (blankBefore : AllBlank before)
      (isValue : ValueText value) (blankAfter : AllBlank after)
      (areElements : ElementsText others) :
      ElementsText (before ++ (value ++ (after ++ ',' :: others)))

inductive MembersText : List Char → Prop
  | last {text : List Char} (isMember : MemberText text) : MembersText text
  | more {text others : List Char} (isMember : MemberText text)
      (areMembers : MembersText others) : MembersText (text ++ ',' :: others)

inductive MemberText : List Char → Prop
  | member {before key afterKey beforeValue value after : List Char}
      (blankBefore : AllBlank before) (isString : StringText key)
      (blankAfterKey : AllBlank afterKey) (blankBeforeValue : AllBlank beforeValue)
      (isValue : ValueText value) (blankAfter : AllBlank after) :
      MemberText (before ++
        '"' :: (key ++ '"' :: (afterKey ++ ':' :: (beforeValue ++ (value ++ after)))))
end

inductive DocumentText : List Char → Prop
  | document {before value after : List Char} (blankBefore : AllBlank before)
      (isValue : ValueText value) (blankAfter : AllBlank after) :
      DocumentText (before ++ (value ++ after))

theorem allBlank_nil : AllBlank [] := nofun

theorem skipBlank_append {blank : List Char} (allBlank : AllBlank blank) (text : List Char) :
    skipBlank (blank ++ text) = skipBlank text :=
  List.dropWhile_append_of_pos allBlank

theorem ValueText.integer (negative : Bool) {digits : List Char} (isDigits : DigitText digits)
    (canonical : Canonical digits) : ValueText (signedText negative digits) := by
  have isUnsigned := UnsignedText.number isDigits canonical .none .none
  rw [List.append_nil, List.append_nil] at isUnsigned
  exact .number negative isUnsigned

/-! ## What may follow

A value goes up to blank space, the next piece of punctuation or the end of the text. -/

def delimiters : List Char :=
  [' ', '\n', '\t', '\r', ',', ']', '\x7d']

def EndsValue (text : List Char) : Prop :=
  ∀ character ∈ text.head?, character ∈ delimiters

variable {rest : List Char}

theorem endsValue_cons {character : Char} (isDelimiter : character ∈ delimiters) :
    EndsValue (character :: rest) := by
  rintro first ⟨⟩
  exact isDelimiter

theorem endsValue_nil : EndsValue [] := nofun

theorem endsValue_comma (rest : List Char) : EndsValue (',' :: rest) :=
  endsValue_cons (by decide)

theorem endsValue_listEnd (rest : List Char) : EndsValue (']' :: rest) :=
  endsValue_cons (by decide)

theorem endsValue_objectEnd (rest : List Char) : EndsValue ('\x7d' :: rest) :=
  endsValue_cons (by decide)

theorem mem_delimiters_of_isBlank {character : Char} (blank : isBlank character = true) :
    character ∈ delimiters := by
  have listed : character ∈ [' ', '\n', '\t', '\r'] := by
    simpa [isBlank, or_assoc] using blank
  exact List.mem_append_left [',', ']', '\x7d'] listed

theorem EndsValue.append {blank : List Char} (allBlank : AllBlank blank)
    (ends : EndsValue rest) : EndsValue (blank ++ rest) := by
  cases blank with
  | nil => exact ends
  | cons character others =>
      exact endsValue_cons
        (mem_delimiters_of_isBlank (allBlank character List.mem_cons_self))

namespace EndsValue

variable (ends : EndsValue rest)

include ends

theorem head?_ne {character : Char} (other : character ∉ delimiters) :
    rest.head? ≠ some character :=
  fun found => other (ends character found)

theorem noDigitNext : NoDigitNext rest := by
  have noDigits : ∀ character ∈ delimiters, character.isDigit = false := by
    simp [delimiters]
  exact fun character found => noDigits character (ends character found)

theorem startsWithExponent_eq_false : startsWithExponent rest = false := by
  cases rest with
  | nil => rfl
  | cons character others =>
      have noMarks : ∀ character ∈ delimiters, startsWithExponent [character] = false := by
        simp [delimiters, startsWithExponent]
      exact noMarks character (ends character rfl)

end EndsValue

/-! ## What follows the digits of a number -/

namespace DigitText

variable {digits : List Char} (isDigits : DigitText digits)

include isDigits

theorem startsWithDigit (rest : List Char) : startsWithDigit (digits ++ rest) = true :=
  startsWithDigit_append isDigits.nonempty isDigits.isDigit rest

theorem dropWhile_append (noDigit : NoDigitNext rest) :
    (digits ++ rest).dropWhile Char.isDigit = rest :=
  dropWhile_isDigit_append isDigits.isDigit noDigit

theorem append_ne_cons {character : Char} (notDigit : character.isDigit = false)
    (others : List Char) : digits ++ rest ≠ character :: others := by
  cases digits with
  | nil => exact absurd rfl isDigits.nonempty
  | cons first digits =>
      intro begins
      have firstDigit := isDigits.isDigit first List.mem_cons_self
      rw [(List.cons.inj begins).1, notDigit] at firstDigit
      cases firstDigit

end DigitText

theorem startsWithExponent_cons {mark : Char} (isMark : mark = 'e' ∨ mark = 'E')
    (text : List Char) : startsWithExponent (mark :: text) = true := by
  rcases isMark with rfl | rfl
  · rfl
  · rfl

section Tail

variable {point exponent : List Char} (isExponent : ExponentText exponent)
  (ends : EndsValue rest)

include isExponent ends

theorem ExponentText.noDigitNext : NoDigitNext (exponent ++ rest) := by
  cases isExponent with
  | none => exact ends.noDigitNext
  | digits isMark isSign isDigits =>
      rintro character ⟨⟩
      rcases isMark with rfl | rfl <;> rfl

theorem ExponentText.append_ne_point (others : List Char) :
    exponent ++ rest ≠ '.' :: others := by
  have noPoint : rest.head? ≠ some '.' := ends.head?_ne (by decide)
  intro begins
  cases isExponent with
  | none => exact noPoint (congrArg List.head? begins)
  | digits isMark isSign isDigits =>
      rcases isMark with rfl | rfl <;> cases begins

theorem PointText.noDigitNext (isPoint : PointText point) :
    NoDigitNext (point ++ (exponent ++ rest)) := by
  cases isPoint with
  | none => exact isExponent.noDigitNext ends
  | digits isDigits =>
      rintro character ⟨⟩
      rfl

end Tail

/-! ## What a value begins with -/

variable {text : List Char}

theorem UnsignedText.startsWithDigit (isUnsigned : UnsignedText text) (rest : List Char) :
    startsWithDigit (text ++ rest) = true := by
  cases isUnsigned with
  | number isDigits canonical isPoint isExponent =>
      rw [List.append_assoc]
      exact isDigits.startsWithDigit _

theorem not_mem_delimiters_of_isDigit {character : Char} (isDigit : character.isDigit = true) :
    character ∉ delimiters := by
  have noDigits : ∀ character ∈ delimiters, ¬ character.isDigit = true := by
    simp [delimiters]
  exact fun isDelimiter => noDigits character isDelimiter isDigit

theorem ValueText.exists_cons (isValue : ValueText text) :
    ∃ character others, text = character :: others ∧ character ∉ delimiters := by
  cases isValue with
  | word isWord =>
      rcases isWord with rfl | rfl | rfl
      · exact ⟨_, _, rfl, by decide⟩
      · exact ⟨_, _, rfl, by decide⟩
      · exact ⟨_, _, rfl, by decide⟩
  | @number negative text isUnsigned =>
      have starts := isUnsigned.startsWithDigit []
      rw [List.append_nil] at starts
      cases negative with
      | true => exact ⟨_, _, rfl, by decide⟩
      | false =>
          cases text with
          | nil => cases starts
          | cons first others =>
              exact ⟨first, others, rfl, not_mem_delimiters_of_isDigit starts⟩
  | string => exact ⟨_, _, rfl, by decide⟩
  | emptyList => exact ⟨_, _, rfl, by decide⟩
  | list => exact ⟨_, _, rfl, by decide⟩
  | emptyObject => exact ⟨_, _, rfl, by decide⟩
  | object => exact ⟨_, _, rfl, by decide⟩

end ScalarCell.Json
