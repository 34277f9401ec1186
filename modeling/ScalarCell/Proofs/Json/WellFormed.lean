import ScalarCell.Json.Value
import ScalarCell.Proofs.Cell.Scan
import ScalarCell.Proofs.Json.Grammar

namespace ScalarCell.Json

/-! What is read is well-formed: whatever a reader takes from the front of a text has the
notation of JSON. -/

open Digits

def BeginsWith (Form : List Char → Prop) (text rest : List Char) : Prop :=
  ∃ front, Form front ∧ text = front ++ rest

variable {text left rest : List Char}

/-! ## Blank space -/

theorem beginsWith_skipBlank (text : List Char) :
    BeginsWith AllBlank text (skipBlank text) :=
  ⟨text.takeWhile isBlank, fun _ member => List.mem_takeWhile_imp member,
    List.takeWhile_append_dropWhile.symm⟩

theorem readEnd_eq_ok_iff : readEnd text = .ok () ↔ AllBlank text := by
  constructor
  · intro ends
    rcases beginsWith_skipBlank text with ⟨blank, allBlank, text_eq⟩
    rw [readEnd] at ends
    split at ends
    · rename_i skipped
      rw [text_eq, skipped, List.append_nil]
      exact allBlank
    · cases ends
  · intro allBlank
    have skipped : skipBlank text = [] := List.dropWhile_eq_nil_iff.mpr allBlank
    rw [readEnd, skipped]

/-! ## Numbers

The digits of a number are those that are taken as long as they fit, and those after them that
are passed over. -/

theorem startsWithDigit_dropWhile (text : List Char) :
    startsWithDigit (text.dropWhile Char.isDigit) = false :=
  startsWithDigit_eq_false (noDigitNext_dropWhile text)

theorem dropWhile_isDigit_eq_self (ends : ¬ startsWithDigit text = true) :
    text.dropWhile Char.isDigit = text := by
  cases text with
  | nil => rfl
  | cons character others => exact List.dropWhile_cons_of_neg ends

theorem exists_digits_of_takeDigits {limit total outcome count : Nat}
    (taken : takeDigits limit total text = (outcome, count, left)) :
    ∃ digits, (∀ character ∈ digits, character.isDigit = true) ∧ digits.length = count ∧
      text = digits ++ left := by
  induction text generalizing total outcome count with
  | nil =>
      cases taken
      exact ⟨[], nofun, rfl, rfl⟩
  | cons character others induction =>
      cases isDigit : character.isDigit with
      | false =>
          rw [takeDigits, digit?_eq_none isDigit] at taken
          cases taken
          exact ⟨[], nofun, rfl, rfl⟩
      | true =>
          rw [takeDigits, digit?_eq_some isDigit] at taken
          simp only at taken
          split_ifs at taken with fits
          · rcases again : takeDigits limit (total * 10 + digitValue character) others with
              ⟨_, _, _⟩
            rw [again] at taken
            cases taken
            rcases induction again with ⟨digits, areDigits, rfl, rfl⟩
            exact ⟨character :: digits, List.forall_mem_cons.mpr ⟨isDigit, areDigits⟩, rfl, rfl⟩
          · cases taken
            exact ⟨[], nofun, rfl, rfl⟩

theorem beginsWith_digitText {limit total outcome count : Nat}
    (starts : startsWithDigit text = true)
    (taken : takeDigits limit total text = (outcome, count, left)) :
    BeginsWith DigitText text (left.dropWhile Char.isDigit) := by
  rcases exists_digits_of_takeDigits taken with ⟨digits, areDigits, -, text_eq⟩
  have all : text = digits ++ left.takeWhile Char.isDigit ++ left.dropWhile Char.isDigit := by
    rw [List.append_assoc, List.takeWhile_append_dropWhile, text_eq]
  refine ⟨digits ++ left.takeWhile Char.isDigit, ⟨?_, ?_⟩, all⟩
  · intro empty
    rw [all, empty, List.nil_append, startsWithDigit_dropWhile] at starts
    cases starts
  · exact List.forall_mem_append.mpr ⟨areDigits, fun _ member => List.mem_takeWhile_imp member⟩

theorem startsWithDigit_of_someTaken {limit total outcome count : Nat}
    (taken : takeDigits limit total text = (outcome, count, left))
    (someDigit : startsWithDigit left = true ∨ count ≠ 0) : startsWithDigit text = true := by
  rcases exists_digits_of_takeDigits taken with ⟨digits, areDigits, rfl, rfl⟩
  cases digits with
  | nil => exact someDigit.resolve_right fun nonzero => nonzero rfl
  | cons first digits => exact areDigits first List.mem_cons_self

variable {significand : Nat} {start : Int} {magnitude : Magnitude}

theorem scaled_rest (read : scaled significand start left = .ok (magnitude, rest)) :
    left = rest := by
  rw [scaled] at read
  cases found : scale? significand start with
  | none =>
      rw [found] at read
      cases read
  | some magnitude =>
      rw [found] at read
      cases read
      rfl

theorem digitText_of_readExponentDigits {positive : Bool}
    (read : readExponentDigits significand start positive text = .ok (magnitude, rest)) :
    BeginsWith DigitText text rest := by
  rw [readExponentDigits.eq_def] at read
  rcases taken : takeDigits exponentLimit 0 text with ⟨exponent, count, left⟩
  rw [taken] at read
  simp only at read
  by_cases starts : startsWithDigit text = true
  · have digits := beginsWith_digitText starts taken
    rw [if_pos starts] at read
    by_cases more : startsWithDigit left = true
    · rw [if_pos more] at read
      split at read
      · cases read
      · cases read
        exact digits
    · rw [if_neg more] at read
      rw [dropWhile_isDigit_eq_self more, scaled_rest read] at digits
      exact digits
  · rw [if_neg starts] at read
    split at read
    · cases read
    · cases read

theorem exponentText_of_readOptionalExponent
    (read : readOptionalExponent significand start text = .ok (magnitude, rest)) :
    BeginsWith ExponentText text rest := by
  rw [readOptionalExponent] at read
  split_ifs at read with marked
  · cases text with
    | nil => cases marked
    | cons mark others =>
        have isMark : mark = 'e' ∨ mark = 'E' := by simpa [startsWithExponent] using marked
        rw [List.drop_one, List.tail_cons, readExponent.eq_def] at read
        split at read
        · rcases digitText_of_readExponentDigits read with ⟨digits, isDigits, rfl⟩
          exact ⟨_, .digits isMark (.inr (.inl rfl)) isDigits, rfl⟩
        · rcases digitText_of_readExponentDigits read with ⟨digits, isDigits, rfl⟩
          exact ⟨_, .digits isMark (.inr (.inr rfl)) isDigits, rfl⟩
        · rcases digitText_of_readExponentDigits read with ⟨digits, isDigits, rfl⟩
          exact ⟨_, .digits isMark (.inl rfl) isDigits, rfl⟩
  · cases scaled_rest read
    exact ⟨[], .none, rfl⟩

theorem digitText_of_readFraction
    (read : readFraction significand start text = .ok (magnitude, rest)) :
    ∃ left, BeginsWith DigitText text left ∧ BeginsWith ExponentText left rest := by
  rw [readFraction] at read
  rcases taken : takeDigits (2 ^ 64) significand text with ⟨outcome, count, left⟩
  rw [taken] at read
  simp only at read
  refine ⟨left.dropWhile Char.isDigit, ?_⟩
  by_cases more : startsWithDigit left = true
  · rw [if_pos more] at read
    exact ⟨beginsWith_digitText (startsWithDigit_of_someTaken taken (.inl more)) taken,
      exponentText_of_readOptionalExponent read⟩
  · rw [if_neg more] at read
    by_cases noDigit : count = 0
    · rw [if_pos noDigit] at read
      cases read
    · rw [if_neg noDigit] at read
      rw [← dropWhile_isDigit_eq_self more] at read
      exact ⟨beginsWith_digitText (startsWithDigit_of_someTaken taken (.inr noDigit)) taken,
        exponentText_of_readOptionalExponent read⟩

def TailText (text : List Char) : Prop :=
  ∃ point exponent, PointText point ∧ ExponentText exponent ∧ text = point ++ exponent

theorem tailText_of_readFloatTail
    (read : readFloatTail significand start text = .ok (magnitude, rest)) :
    BeginsWith TailText text rest := by
  rw [readFloatTail.eq_def] at read
  split at read
  · rcases digitText_of_readFraction read with
      ⟨left, ⟨digits, isDigits, rfl⟩, exponent, isExponent, rfl⟩
    exact ⟨_, ⟨'.' :: digits, exponent, .digits isDigits, isExponent, rfl⟩,
      by rw [List.append_assoc, List.cons_append]⟩
  · rcases exponentText_of_readOptionalExponent read with ⟨exponent, isExponent, rfl⟩
    exact ⟨exponent, ⟨[], exponent, .none, isExponent, rfl⟩, rfl⟩

variable {number : Number} {negative : Bool}

theorem tailText_of_readAfterInteger
    (read : readAfterInteger negative significand text = .ok (number, rest)) :
    BeginsWith TailText text rest := by
  rw [readAfterInteger] at read
  split at read
  · rcases map_eq_ok_iff.mp read with ⟨⟨magnitude, after⟩, tail, equal⟩
    cases equal
    exact tailText_of_readFloatTail tail
  · cases read
    exact ⟨[], ⟨[], [], .none, .none, rfl⟩, rfl⟩

theorem unsignedText_append {whole : List Char} (isDigits : DigitText whole)
    (canonical : Canonical whole) (tail : BeginsWith TailText text rest) :
    BeginsWith UnsignedText (whole ++ text) rest := by
  rcases tail with ⟨_, ⟨point, exponent, isPoint, isExponent, rfl⟩, rfl⟩
  exact ⟨_, .number isDigits canonical isPoint isExponent, (List.append_assoc _ _ _).symm⟩

theorem unsignedText_of_readNumber
    (read : readNumber negative text = .ok (number, rest)) :
    BeginsWith UnsignedText text rest := by
  rw [readNumber.eq_def] at read
  split at read
  · cases read
  · rename_i others
    split at read
    · cases read
    · exact unsignedText_append ⟨List.cons_ne_nil _ _, by simp⟩ (.inl rfl)
        (tailText_of_readAfterInteger read)
  · rename_i notZero
    by_cases starts : startsWithDigit text = true
    · rcases taken : takeDigits (2 ^ 64) 0 text with ⟨significand, count, left⟩
      rw [if_pos starts, taken] at read
      simp only at read
      rcases beginsWith_digitText starts taken with ⟨digits, isDigits, text_eq⟩
      have canonical : Canonical digits := by
        cases digits with
        | nil => exact absurd rfl isDigits.nonempty
        | cons first digits =>
            refine .inr ⟨first, digits, rfl, ?_⟩
            rintro rfl
            exact notZero _ text_eq
      rw [text_eq]
      apply unsignedText_append isDigits canonical
      split at read
      · rcases map_eq_ok_iff.mp read with ⟨⟨magnitude, after⟩, tail, equal⟩
        cases equal
        exact tailText_of_readFloatTail tail
      · rename_i noMore
        rw [dropWhile_isDigit_eq_self noMore]
        exact tailText_of_readAfterInteger read
    · rw [if_neg starts] at read
      cases read

/-! ## Strings and words -/

variable {characters : List Char}

theorem failHex_ne_ok {α : Type} {outcome : α} : failHex text ≠ .ok outcome := by
  rw [failHex]
  split
  · nofun
  · nofun

theorem prepend_eq_ok_iff {character : Char}
    {outcome : Except Failure (List Char × List Char)} :
    prepend character outcome = .ok (characters, rest) ↔
      ∃ others, outcome = .ok (others, rest) ∧ character :: others = characters := by
  cases outcome with
  | error failure => simp [prepend]
  | ok read => simp [prepend, Prod.ext_iff, and_comm]

theorem spells_of_readText (read : readText text = .ok (characters, rest)) :
    ∃ front, Spells front characters ∧ text = front ++ '"' :: rest := by
  -- A closing quote ends the string, and a pair of surrogates, another unit, a short escape and
  -- a plain character go on with it. All other cases are refused.
  fun_induction readText text generalizing characters with
  | case2 =>
      cases read
      exact ⟨[], .nil, rfl⟩
  | case7 _ _ _ _ _ isUnit _ isLeading _ _ _ _ _ _ isTrailingUnit isTrailing _ induction =>
      rcases prepend_eq_ok_iff.mp read with ⟨_, others, rfl⟩
      rcases induction others with ⟨_, spells, rfl⟩
      exact ⟨_, .pair isUnit isLeading isTrailingUnit isTrailing spells, rfl⟩
  | case14 _ _ _ _ _ _ isUnit noTrailing noLeading _ induction =>
      rcases prepend_eq_ok_iff.mp read with ⟨_, others, rfl⟩
      rcases induction others with ⟨_, spells, rfl⟩
      exact ⟨_, .unit isUnit (Bool.eq_false_iff.mpr noLeading)
        (Bool.eq_false_iff.mpr noTrailing) spells, rfl⟩
  | case16 _ _ _ _ isShort _ induction =>
      rcases prepend_eq_ok_iff.mp read with ⟨_, others, rfl⟩
      rcases induction others with ⟨_, spells, rfl⟩
      exact ⟨_, .short isShort spells, rfl⟩
  | case19 _ _ notQuote notBackslash printable induction =>
      rcases prepend_eq_ok_iff.mp read with ⟨_, others, rfl⟩
      rcases induction others with ⟨_, spells, rfl⟩
      exact ⟨_, .plain notQuote notBackslash printable spells, rfl⟩
  | case4 | case6 | case9 | case15 => exact absurd read failHex_ne_ok
  | _ => cases read

theorem Spells.stringText (spells : Spells text characters) : StringText text := by
  induction spells with
  | nil => exact .nil
  | plain notQuote notBackslash printable _ others =>
      exact .plain notQuote notBackslash printable others
  | short isShort _ others => exact .short isShort others
  | unit isUnit _ _ _ others => exact .unit isUnit others
  | pair isLeadingUnit _ isTrailingUnit _ _ others =>
      exact .unit isLeadingUnit (.unit isTrailingUnit others)

theorem readWord_eq_ok_iff {word : List Char} :
    readWord word text = .ok rest ↔ text = word ++ rest := by
  fun_induction readWord word text with
  | case1 rest => simp
  | case2 expected word => simp [failBefore]
  | case3 expected word rest induction => simp [induction]
  | case4 expected word character rest differs => simp [failAtNext, differs]

/-! ## The first piece -/

inductive LexemeText : Lexeme → List Char → Prop
  | scalar {value : Scalar} {text : List Char} (isValue : ValueText text) :
      LexemeText (.scalar value) text
  | openList : LexemeText .openList ['[']
  | openObject : LexemeText .openObject ['\x7b']

theorem lexemeText_of_readLexeme {lexeme : Lexeme}
    (read : readLexeme text = .ok (lexeme, rest)) :
    BeginsWith (LexemeText lexeme) (skipBlank text) rest := by
  rw [readLexeme] at read
  split at read
  · cases read
  · rename_i character letters begins
    rw [begins]
    split_ifs at read with isNull isTrue isFalse isMinus isDigit isQuote isList isObject
    · rcases map_eq_ok_iff.mp read with ⟨after, word, equal⟩
      cases equal
      rw [isNull, readWord_eq_ok_iff.mp word]
      exact ⟨"null".toList, .scalar (.word (.inl rfl)), rfl⟩
    · rcases map_eq_ok_iff.mp read with ⟨after, word, equal⟩
      cases equal
      rw [isTrue, readWord_eq_ok_iff.mp word]
      exact ⟨"true".toList, .scalar (.word (.inr (.inl rfl))), rfl⟩
    · rcases map_eq_ok_iff.mp read with ⟨after, word, equal⟩
      cases equal
      rw [isFalse, readWord_eq_ok_iff.mp word]
      exact ⟨"false".toList, .scalar (.word (.inr (.inr rfl))), rfl⟩
    · rcases map_eq_ok_iff.mp read with ⟨⟨number, after⟩, number_read, equal⟩
      cases equal
      rcases unsignedText_of_readNumber number_read with ⟨front, isUnsigned, rfl⟩
      rw [isMinus]
      exact ⟨_, .scalar (.number true isUnsigned), rfl⟩
    · rcases map_eq_ok_iff.mp read with ⟨⟨number, after⟩, number_read, equal⟩
      cases equal
      rcases unsignedText_of_readNumber number_read with ⟨front, isUnsigned, text_eq⟩
      exact ⟨_, .scalar (.number false isUnsigned), text_eq⟩
    · rcases map_eq_ok_iff.mp read with ⟨⟨characters, after⟩, string, equal⟩
      cases equal
      rcases spells_of_readText string with ⟨front, spells, rfl⟩
      rw [isQuote]
      exact ⟨_, .scalar (.string spells.stringText), by simp⟩
    · cases read
      rw [isList]
      exact ⟨['['], .openList, rfl⟩
    · cases read
      rw [isObject]
      exact ⟨['\x7b'], .openObject, rfl⟩
    · cases read

/-! ## Containers

From any place in a container up to its end there is nothing but blank space, or there are
members, after a comma unless they are the first. -/

/-- What stands in front of the end of a container, or of its next member, which begins with
a mark. -/
inductive NextText (close : Char) (mark : List Char) : Bool → List Char → Next → Prop
  | finish {first : Bool} {before rest : List Char} (blankBefore : AllBlank before) :
      NextText close mark first (before ++ close :: rest) (.finish (close :: rest))
  | first {before rest : List Char} (blankBefore : AllBlank before) :
      NextText close mark true (before ++ (mark ++ rest)) (.member rest)
  | later {before after rest : List Char} (blankBefore : AllBlank before)
      (blankAfter : AllBlank after) :
      NextText close mark false (before ++ ',' :: (after ++ (mark ++ rest))) (.member rest)

theorem nextText_of_nextElement {first : Bool} {next : Next}
    (found : nextElement first text = .ok next) : NextText ']' [] first text next := by
  rcases beginsWith_skipBlank text with ⟨before, blankBefore, text_eq⟩
  rw [nextElement] at found
  split at found
  · cases found
  · rename_i character letters begins
    rw [begins] at text_eq
    subst text_eq
    split_ifs at found with isEnd isFirst isComma
    · cases found
      rw [isEnd]
      exact .finish blankBefore
    · cases found
      rw [isFirst]
      exact .first blankBefore
    · rcases beginsWith_skipBlank letters with ⟨after, blankAfter, letters_eq⟩
      rw [isComma, letters_eq, Bool.eq_false_iff.mpr isFirst]
      split at found
      · cases found
      · rename_i other others skipped
        split_ifs at found
        · cases found
        · cases found
          rw [skipped]
          exact .later blankBefore blankAfter
    · cases found

theorem begins_of_nextQuote {next : Next} (found : nextQuote text = .ok next) :
    ∃ rest, next = .member rest ∧ text = '"' :: rest := by
  rw [nextQuote.eq_def] at found
  split at found
  · cases found
  · split_ifs at found with isQuote
    · cases found
      exact ⟨_, rfl, by rw [isQuote]⟩
    · cases found
    · cases found

theorem nextText_of_nextKey {first : Bool} {next : Next}
    (found : nextKey first text = .ok next) : NextText '\x7d' ['"'] first text next := by
  rcases beginsWith_skipBlank text with ⟨before, blankBefore, text_eq⟩
  rw [nextKey] at found
  split at found
  · cases found
  · rename_i character letters begins
    rw [begins] at text_eq
    subst text_eq
    split_ifs at found with isEnd isFirst isComma
    · cases found
      rw [isEnd]
      exact .finish blankBefore
    · rcases begins_of_nextQuote found with ⟨rest, rfl, quoted⟩
      rw [quoted, isFirst]
      exact .first blankBefore
    · rcases beginsWith_skipBlank letters with ⟨after, blankAfter, letters_eq⟩
      rcases begins_of_nextQuote found with ⟨rest, rfl, quoted⟩
      rw [isComma, letters_eq, quoted, Bool.eq_false_iff.mpr isFirst]
      exact .later blankBefore blankAfter
    · cases found

theorem beginsWith_of_readColon (read : readColon text = .ok rest) :
    BeginsWith AllBlank text (':' :: rest) := by
  rcases beginsWith_skipBlank text with ⟨before, blankBefore, text_eq⟩
  rw [readColon] at read
  split at read
  · cases read
  · rename_i character letters begins
    split_ifs at read with isColon
    · cases read
      exact ⟨before, blankBefore, by rw [text_eq, begins, isColon]⟩
    · cases read

inductive Content (Members : List Char → Prop) : Bool → List Char → Prop
  | blank {first : Bool} {text : List Char} (isBlank : AllBlank text) :
      Content Members first text
  | first {text : List Char} (areMembers : Members text) : Content Members true text
  | later {before others : List Char} (blankBefore : AllBlank before)
      (areMembers : Members others) : Content Members false (before ++ ',' :: others)

section Steps

variable {Members : List Char → Prop} {close : Char} {mark after : List Char} {first : Bool}

theorem NextText.exists_end (next : NextText close mark first text (.finish after)) :
    BeginsWith (Content Members first) text (close :: after.drop 1) := by
  cases next with
  | finish blankBefore => exact ⟨_, .blank blankBefore, rfl⟩

theorem NextText.content (next : NextText close mark first text (.member after))
    (members : ∀ blank, AllBlank blank →
      BeginsWith Members (blank ++ (mark ++ after)) rest) :
    BeginsWith (Content Members first) text rest := by
  cases next with
  | first blankBefore =>
      rcases members _ blankBefore with ⟨front, areMembers, text_eq⟩
      exact ⟨front, .first areMembers, text_eq⟩
  | later blankBefore blankAfter =>
      rcases members _ blankAfter with ⟨front, areMembers, text_eq⟩
      exact ⟨_, .later blankBefore areMembers, by simp [text_eq]⟩

end Steps

theorem AllBlank.append {before after : List Char} (blankBefore : AllBlank before)
    (blankAfter : AllBlank after) : AllBlank (before ++ after) :=
  List.forall_mem_append.mpr ⟨blankBefore, blankAfter⟩

theorem elementsText_append {before value : List Char} (blankBefore : AllBlank before)
    (isValue : ValueText value) (others : BeginsWith (Content ElementsText false) left rest) :
    BeginsWith ElementsText (before ++ (value ++ left)) rest := by
  rcases others with ⟨front, content, rfl⟩
  cases content with
  | blank blankAfter => exact ⟨_, .last blankBefore isValue blankAfter, by simp⟩
  | later blankAfter areElements =>
      exact ⟨_, .more blankBefore isValue blankAfter areElements, by simp⟩

theorem membersText_append {before key afterKey beforeValue value : List Char}
    (blankBefore : AllBlank before) (isString : StringText key)
    (blankAfterKey : AllBlank afterKey) (blankBeforeValue : AllBlank beforeValue)
    (isValue : ValueText value) (others : BeginsWith (Content MembersText false) left rest) :
    BeginsWith MembersText
      (before ++
        '"' :: (key ++ '"' :: (afterKey ++ ':' :: (beforeValue ++ (value ++ left))))) rest := by
  rcases others with ⟨front, content, rfl⟩
  cases content with
  | blank blankAfter =>
      exact ⟨_, .last (.member blankBefore isString blankAfterKey blankBeforeValue isValue
        blankAfter), by simp⟩
  | later blankAfter areMembers =>
      exact ⟨_, .more (.member blankBefore isString blankAfterKey blankBeforeValue isValue
        blankAfter) areMembers, by simp⟩

/-! ## Values of any depth -/

def PaddedText (text : List Char) : Prop :=
  ∃ before value, AllBlank before ∧ ValueText value ∧ text = before ++ value

theorem paddedText_skipBlank {value : List Char} (isValue : ValueText value)
    (text_eq : skipBlank text = value ++ rest) : BeginsWith PaddedText text rest := by
  rcases beginsWith_skipBlank text with ⟨before, blankBefore, padded⟩
  exact ⟨_, ⟨before, value, blankBefore, isValue, rfl⟩, by
    rw [padded, text_eq, List.append_assoc]⟩

theorem valueText_list (content : BeginsWith (Content ElementsText true) text (']' :: rest)) :
    BeginsWith ValueText ('[' :: text) rest := by
  rcases content with ⟨front, content, rfl⟩
  cases content with
  | blank isBlank => exact ⟨_, .emptyList isBlank, by simp⟩
  | first areElements => exact ⟨_, .list areElements, by simp⟩

theorem valueText_object
    (content : BeginsWith (Content MembersText true) text ('\x7d' :: rest)) :
    BeginsWith ValueText ('\x7b' :: text) rest := by
  rcases content with ⟨front, content, rfl⟩
  cases content with
  | blank isBlank => exact ⟨_, .emptyObject isBlank, by simp⟩
  | first areMembers => exact ⟨_, .object areMembers, by simp⟩

-- The fuel goes down with every call, whichever of the three functions is called.
mutual
theorem paddedText_of_readValueWith : ∀ {fuel depth : Nat} {text rest : List Char}
    {value : Value}, readValueWith fuel depth text = .ok (value, rest) →
      BeginsWith PaddedText text rest
  | 0, depth, text, rest, value, read => by cases read
  | fuel + 1, depth, text, rest, value, read => by
      rw [readValueWith] at read
      split at read
      · cases read
      · rename_i lexeme
        cases read
        rcases lexemeText_of_readLexeme lexeme with ⟨_, ⟨isValue⟩, text_eq⟩
        exact paddedText_skipBlank isValue text_eq
      · rename_i inside lexeme
        rcases lexemeText_of_readLexeme lexeme with ⟨_, ⟨⟩, text_eq⟩
        split at read
        · cases read
        · rcases map_eq_ok_iff.mp read with ⟨⟨elements, after⟩, elementsRead, equal⟩
          cases equal
          rcases valueText_list (content_of_readElements elementsRead) with
            ⟨value, isValue, value_eq⟩
          exact paddedText_skipBlank isValue (text_eq.trans value_eq)
      · rename_i inside lexeme
        rcases lexemeText_of_readLexeme lexeme with ⟨_, ⟨⟩, text_eq⟩
        split at read
        · cases read
        · rcases map_eq_ok_iff.mp read with ⟨⟨members, after⟩, membersRead, equal⟩
          cases equal
          rcases valueText_object (content_of_readMembers membersRead) with
            ⟨value, isValue, value_eq⟩
          exact paddedText_skipBlank isValue (text_eq.trans value_eq)

theorem content_of_readElements : ∀ {fuel depth : Nat} {first : Bool} {text rest : List Char}
    {elements : Elements}, readElements fuel depth first text = .ok (elements, rest) →
      BeginsWith (Content ElementsText first) text (']' :: rest)
  | 0, depth, first, text, rest, elements, read => by cases read
  | fuel + 1, depth, first, text, rest, elements, read => by
      rw [readElements] at read
      split at read
      · cases read
      · rename_i found
        cases read
        exact (nextText_of_nextElement found).exists_end
      · rename_i after found
        split at read
        · cases read
        · rename_i head left headRead
          rcases map_eq_ok_iff.mp read with ⟨⟨tail, after⟩, tailRead, equal⟩
          cases equal
          rcases paddedText_of_readValueWith headRead with
            ⟨_, ⟨before, value, blankBefore, isValue, rfl⟩, rfl⟩
          apply (nextText_of_nextElement found).content
          intro blank allBlank
          have elements := elementsText_append (allBlank.append blankBefore) isValue
            (content_of_readElements tailRead)
          simpa using elements

theorem content_of_readMembers : ∀ {fuel depth : Nat} {first : Bool} {text rest : List Char}
    {members : Members}, readMembers fuel depth first text = .ok (members, rest) →
      BeginsWith (Content MembersText first) text ('\x7d' :: rest)
  | 0, depth, first, text, rest, members, read => by cases read
  | fuel + 1, depth, first, text, rest, members, read => by
      rw [readMembers] at read
      split at read
      · cases read
      · rename_i found
        cases read
        exact (nextText_of_nextKey found).exists_end
      · rename_i after found
        split at read
        · cases read
        · rename_i key afterKey keyRead
          split at read
          · cases read
          · rename_i afterColon colonRead
            split at read
            · cases read
            · rename_i value left valueRead
              rcases map_eq_ok_iff.mp read with ⟨⟨tail, after⟩, tailRead, equal⟩
              cases equal
              rcases spells_of_readText keyRead with ⟨keyText, spells, rfl⟩
              rcases beginsWith_of_readColon colonRead with ⟨blankKey, blankAfterKey, rfl⟩
              rcases paddedText_of_readValueWith valueRead with
                ⟨_, ⟨before, value, blankBefore, isValue, rfl⟩, rfl⟩
              apply (nextText_of_nextKey found).content
              intro blank allBlank
              have members := membersText_append allBlank spells.stringText blankAfterKey
                blankBefore isValue (content_of_readMembers tailRead)
              simpa using members
end

/-- A text that is read to its end is a document: one value, with nothing but blank space
around it. -/
theorem documentText_of_readValue {value : Value} (read : readValue text = .ok (value, rest))
    (ends : readEnd rest = .ok ()) : DocumentText text := by
  rcases paddedText_of_readValueWith read with
    ⟨_, ⟨before, value, blankBefore, isValue, rfl⟩, rfl⟩
  rw [List.append_assoc]
  exact .document blankBefore isValue (readEnd_eq_ok_iff.mp ends)

end ScalarCell.Json
