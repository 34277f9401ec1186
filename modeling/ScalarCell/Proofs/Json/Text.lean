import Mathlib.Tactic.SplitIfs
import ScalarCell.Json.Text

namespace ScalarCell.Json

/-! A string as it is written is read back. Every character is written in a way of its own,
and what that leads to is what reading puts in front of the rest. -/

/-! ## Escapes -/

theorem hexValue?_digitChar {digit : Nat} (small : digit < 16) :
    hexValue? (Nat.digitChar digit) = some digit := by
  have all : ∀ digit : Fin 16, hexValue? (Nat.digitChar digit) = some digit.val := by decide
  exact all ⟨digit, small⟩

theorem hexUnit?_digitChar {number : Nat} (small : number < 256) :
    hexUnit? '0' '0' (Nat.digitChar (number / 16)) (Nat.digitChar (number % 16)) =
      some number := by
  have zero : hexValue? '0' = some 0 := by decide
  have high : hexValue? (Nat.digitChar (number / 16)) = some (number / 16) :=
    hexValue?_digitChar (by omega)
  have low : hexValue? (Nat.digitChar (number % 16)) = some (number % 16) :=
    hexValue?_digitChar (by omega)
  have sum : ((0 * 16 + 0) * 16 + number / 16) * 16 + number % 16 = number := by omega
  simp only [hexUnit?, zero, high, low, Option.bind_eq_bind, Option.bind_some, sum]
  rfl

/-! ## One character -/

theorem readText_shortEscape {mark character : Char}
    (short : shortEscape? mark = some character) (rest : List Char) :
    readText ('\\' :: mark :: rest) = prepend character (readText rest) := by
  have notUnit : mark ≠ 'u' := by
    intro same
    subst same
    cases short
  have notQuote : ('\\' : Char) ≠ '"' := by decide
  rw [readText.eq_def]
  simp only [notQuote, notUnit, if_false, if_true, short]

theorem readText_unitEscape {first second third fourth : Char} {unit : Nat}
    (hexadecimal : hexUnit? first second third fourth = some unit)
    (noLeading : isLeadingSurrogate unit = false)
    (noTrailing : isTrailingSurrogate unit = false) (rest : List Char) :
    readText ('\\' :: 'u' :: first :: second :: third :: fourth :: rest) =
      prepend (Char.ofNat unit) (readText rest) := by
  have notQuote : ('\\' : Char) ≠ '"' := by decide
  rw [readText.eq_def]
  simp only [notQuote, if_false, if_true, hexadecimal, noLeading, noTrailing,
    Bool.false_eq_true]

theorem readText_plain {character : Char} (notQuote : character ≠ '"')
    (notBackslash : character ≠ '\\') (printable : ¬ character.toNat < 0x20)
    (rest : List Char) :
    readText (character :: rest) = prepend character (readText rest) := by
  rw [readText.eq_def]
  simp only [notQuote, notBackslash, printable, if_false]

theorem readText_escape (character : Char) (rest : List Char) :
    readText (escape character ++ rest) = prepend character (readText rest) := by
  rw [escape]
  split_ifs with quote backslash backspace formFeed lineFeed carriageReturn tab control
  · subst quote
    exact readText_shortEscape rfl rest
  · subst backslash
    exact readText_shortEscape rfl rest
  · subst backspace
    exact readText_shortEscape rfl rest
  · subst formFeed
    exact readText_shortEscape rfl rest
  · subst lineFeed
    exact readText_shortEscape rfl rest
  · subst carriageReturn
    exact readText_shortEscape rfl rest
  · subst tab
    exact readText_shortEscape rfl rest
  · have noLeading : isLeadingSurrogate character.toNat = false := by
      simp [isLeadingSurrogate]
      omega
    have noTrailing : isTrailingSurrogate character.toNat = false := by
      simp [isTrailingSurrogate]
      omega
    have read := readText_unitEscape (hexUnit?_digitChar (by omega)) noLeading noTrailing
      rest
    rw [Char.ofNat_toNat] at read
    exact read
  · exact readText_plain quote backslash control rest

/-! ## Whole strings -/

theorem readText_flatMap_escape (characters rest : List Char) :
    readText (characters.flatMap escape ++ '"' :: rest) = .ok (characters, rest) := by
  induction characters with
  | nil =>
      rw [List.flatMap_nil, List.nil_append, readText.eq_def]
      rfl
  | cons character others induction =>
      rw [List.flatMap_cons, List.append_assoc, readText_escape, induction]
      rfl

end ScalarCell.Json
