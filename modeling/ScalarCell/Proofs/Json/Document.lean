import ScalarCell.Proofs.Cell.Token
import ScalarCell.Proofs.Json.WellFormed
import ScalarCell.Json.Decode

namespace ScalarCell.Json

/-! Whole documents. A column value or a cell is decoded from those that are one scalar, with
nothing but blank space around it, and from it alone. -/

variable {document : String} {text rest : List Char}

/-! ## To the end -/

theorem decodeText_eq_ok_iff {α : Type} {outcome : α}
    {reader : List Char → Except Failure (α × List Char)} :
    decodeText reader document = .ok outcome ↔
      ∃ rest, reader document.toList = .ok (outcome, rest) ∧ readEnd rest = .ok () := by
  constructor
  · intro decoded
    rw [decodeText] at decoded
    split at decoded
    · cases decoded
    · rename_i found rest read
      split at decoded
      · cases decoded
      · rename_i ends
        cases decoded
        exact ⟨rest, read, ends⟩
  · rintro ⟨rest, read, ends⟩
    rw [decodeText, read]
    simp only [ends]

/-! ## Scalars -/

theorem Scalar.eq_null_of_absent {value : Scalar} (absent : value.token.present? = none) :
    value = .null := by
  cases value with
  | null => rfl
  | bool | text => cases absent
  | number value => cases value <;> cases absent

theorem eq_null_of_letter {value : Scalar} {letters : List Char}
    (begins : skipBlank text = 'n' :: letters)
    (lexeme : readLexeme text = .ok (.scalar value, rest)) : value = .null := by
  rw [readLexeme, begins] at lexeme
  rcases map_eq_ok_iff.mp lexeme with ⟨after, -, equal⟩
  cases equal
  rfl

theorem readLexeme_null_iff :
    readLexeme text = .ok (.scalar .null, rest) ↔
      ∃ letters, skipBlank text = 'n' :: letters ∧
        readWord ['u', 'l', 'l'] letters = .ok rest := by
  constructor
  · intro lexeme
    rw [readLexeme] at lexeme
    split at lexeme
    · cases lexeme
    · rename_i character letters begins
      split_ifs at lexeme with isNull isTrue isFalse isMinus isDigit isQuote isList isObject
      · rcases map_eq_ok_iff.mp lexeme with ⟨after, word, equal⟩
        cases equal
        exact ⟨letters, isNull ▸ begins, word⟩
      -- Every other character begins another scalar, a container or nothing at all.
      · exact absurd lexeme (map_ne_ok (by rintro after ⟨⟩))
      · exact absurd lexeme (map_ne_ok (by rintro after ⟨⟩))
      · exact absurd lexeme (map_ne_ok (by rintro ⟨number, after⟩ ⟨⟩))
      · exact absurd lexeme (map_ne_ok (by rintro ⟨number, after⟩ ⟨⟩))
      · exact absurd lexeme (map_ne_ok (by rintro ⟨characters, after⟩ ⟨⟩))
      · cases lexeme
      · cases lexeme
      · cases lexeme
  · rintro ⟨letters, begins, word⟩
    rw [readLexeme, begins]
    simp only [if_true, word]
    rfl

theorem readValue_scalar_iff {value : Scalar} :
    readValue text = .ok (.scalar value, rest) ↔
      readLexeme text = .ok (.scalar value, rest) := by
  rw [readValue, readValueWith]
  rcases readLexeme text with failure | ⟨lexeme, after⟩
  · simp
  · cases lexeme with
    | scalar found => simp
    | openList =>
        simp only [Except.ok.injEq, Prod.mk.injEq, reduceCtorEq, false_and, iff_false]
        split
        · nofun
        · exact map_ne_ok nofun
    | openObject =>
        simp only [Except.ok.injEq, Prod.mk.injEq, reduceCtorEq, false_and, iff_false]
        split
        · nofun
        · exact map_ne_ok nofun

theorem decodeValue_scalar_iff {value : Scalar} :
    decodeValue document = .ok (.scalar value) ↔
      ∃ rest, readLexeme document.toList = .ok (.scalar value, rest) ∧
        readEnd rest = .ok () := by
  simp only [decodeValue, decodeText_eq_ok_iff, readValue_scalar_iff]

theorem readTaken_eq_ok_iff {rule : TokenRule} {taken : ColumnValue} :
    readTaken rule text = .ok (taken, rest) ↔
      ∃ value, readLexeme text = .ok (.scalar value, rest) ∧
        rule.take value.token = .ok taken := by
  constructor
  · intro read
    rw [readTaken] at read
    split at read
    · cases read
    · rename_i value after lexeme
      split at read
      · rename_i takes
        cases read
        exact ⟨value, lexeme, takes⟩
      · cases read
    · cases rule <;> cases read
    · cases rule <;> cases read
  · rintro ⟨value, lexeme, takes⟩
    rw [readTaken, lexeme]
    simp only [takes]

/-! ## Column values and cells -/

theorem decodeColumn_eq_ok_iff {taken : ColumnValue} :
    decodeColumn document = .ok taken ↔
      ∃ value, decodeValue document = .ok (.scalar value) ∧
        TokenRule.columnValue.take value.token = .ok taken := by
  simp only [decodeColumn, decodeText_eq_ok_iff, readTaken_eq_ok_iff, decodeValue_scalar_iff]
  constructor
  · rintro ⟨rest, ⟨value, lexeme, takes⟩, ends⟩
    exact ⟨value, ⟨rest, lexeme, ends⟩, takes⟩
  · rintro ⟨value, ⟨rest, lexeme, ends⟩, takes⟩
    exact ⟨rest, ⟨value, lexeme, takes⟩, ends⟩

variable {type : ScalarType} {cell : Cell type}

/-- A cell is read from a scalar as it is decoded from the token that the scalar is. -/
theorem readCell_eq_ok_iff :
    readCell type text = .ok (cell, rest) ↔
      ∃ value, readLexeme text = .ok (.scalar value, rest) ∧
        Cell.ofToken type value.token = .ok cell := by
  constructor
  · intro read
    rw [readCell] at read
    split at read
    · rename_i letters begins
      rcases map_eq_ok_iff.mp read with ⟨after, word, equal⟩
      cases equal
      exact ⟨.null, readLexeme_null_iff.mpr ⟨letters, begins, word⟩, rfl⟩
    · split at read
      · cases read
      · rename_i taken after readTaken
        rcases readTaken_eq_ok_iff.mp readTaken with ⟨value, lexeme, takes⟩
        rw [readLexeme_skipBlank] at lexeme
        split at read
        · rename_i coerces
          cases read
          exact ⟨value, lexeme, Cell.ofToken_eq_ok_iff.mpr (.inr ⟨taken, takes, coerces⟩)⟩
        · cases read
  · rintro ⟨value, lexeme, decodes⟩
    -- Null is read before the rule is asked, which may not take it.
    by_cases isNull : value = .null
    · subst isNull
      rcases readLexeme_null_iff.mp lexeme with ⟨letters, begins, word⟩
      cases decodes
      rw [readCell, begins]
      simp only [word]
      rfl
    · rcases Cell.ofToken_eq_ok_iff.mp decodes with ⟨absent, -⟩ | ⟨taken, takes, coerces⟩
      · exact absurd (Scalar.eq_null_of_absent absent) isNull
      · rw [readCell]
        split
        · rename_i letters begins
          exact absurd (eq_null_of_letter begins lexeme) isNull
        · rw [← readLexeme_skipBlank] at lexeme
          rw [readTaken_eq_ok_iff.mpr ⟨value, lexeme, takes⟩]
          simp only [coerces]

theorem decodeCell_eq_ok_iff :
    decodeCell type document = .ok cell ↔
      ∃ value, decodeValue document = .ok (.scalar value) ∧
        Cell.ofToken type value.token = .ok cell := by
  simp only [decodeCell, decodeText_eq_ok_iff, readCell_eq_ok_iff,
    decodeValue_scalar_iff]
  constructor
  · rintro ⟨rest, ⟨value, lexeme, decodes⟩, ends⟩
    exact ⟨value, ⟨rest, lexeme, ends⟩, decodes⟩
  · rintro ⟨value, ⟨rest, lexeme, ends⟩, decodes⟩
    exact ⟨rest, ⟨value, lexeme, decodes⟩, ends⟩

/-! ## Decoding as scanning -/

theorem tokenRule_eq_columnValue (shares : type = .string ∨ type = .float64 ∨ type = .bool) :
    type.tokenRule = .columnValue := by
  rcases shares with rfl | rfl | rfl <;> rfl

theorem ne_time (shares : type = .string ∨ type = .float64 ∨ type = .bool) :
    type ≠ .time := by
  rcases shares with rfl | rfl | rfl <;> nofun

theorem decodeCell_eq_ok_iff_scan (shares : type = .string ∨ type = .float64 ∨ type = .bool)
    (patterns : PatternList) :
    decodeCell type document = .ok cell ↔
      ∃ value, decodeColumn document = .ok value ∧
        (Cell.null type).scan patterns value = (.ok (), cell) := by
  simp only [decodeCell_eq_ok_iff, decodeColumn_eq_ok_iff,
    Cell.ofToken_eq_ok_iff_scan (tokenRule_eq_columnValue shares) patterns]
  constructor
  · rintro ⟨value, decodes, taken, takes, scans⟩
    exact ⟨taken, ⟨value, decodes, takes⟩, scans⟩
  · rintro ⟨taken, ⟨value, decodes, takes⟩, scans⟩
    exact ⟨value, decodes, taken, takes, scans⟩

theorem decodeCell_of_null (isNull : decodeValue document = .ok (.scalar .null)) :
    decodeCell type document = .ok (.null type) :=
  decodeCell_eq_ok_iff.mpr ⟨.null, isNull, rfl⟩

/-! ## Texts without a cell -/

theorem documentText_of_decodeValue {value : Value}
    (decoded : decodeValue document = .ok value) : DocumentText document.toList := by
  rcases decodeText_eq_ok_iff.mp decoded with ⟨rest, read, ends⟩
  exact documentText_of_readValue read ends

theorem decodeValue_ne_scalar_of_bracket {before content : List Char} {value : Scalar}
    (blankBefore : AllBlank before)
    (opens : document.toList = before ++ '[' :: content ∨
      document.toList = before ++ '\x7b' :: content) :
    decodeValue document ≠ .ok (.scalar value) := by
  intro decoded
  rcases decodeValue_scalar_iff.mp decoded with ⟨rest, lexeme, -⟩
  rw [← readLexeme_skipBlank] at lexeme
  rcases opens with isList | isObject
  · rw [isList, skipBlank_append blankBefore] at lexeme
    cases lexeme
  · rw [isObject, skipBlank_append blankBefore] at lexeme
    cases lexeme

def Refused (type : ScalarType) (document : String) : Prop :=
  (∃ error, decodeCell type document = .error error) ∧
    ∃ error, decodeColumn document = .error error

theorem refused_of_not_scalar
    (notScalar : ∀ value, decodeValue document ≠ .ok (.scalar value)) :
    Refused type document := by
  constructor
  · refine exists_error_of_ne_ok fun cell decoded => ?_
    rcases decodeCell_eq_ok_iff.mp decoded with ⟨value, decodes, -⟩
    exact notScalar value decodes
  · refine exists_error_of_ne_ok fun taken decoded => ?_
    rcases decodeColumn_eq_ok_iff.mp decoded with ⟨value, decodes, -⟩
    exact notScalar value decodes

/-- Strings, floats and booleans are decoded as they are scanned: from the same tokens and
the same texts, and to the same cells. What has no value is null. What is no column value is
refused both ways: a wide integer, a text that does not have the notation of one JSON value,
a list or an object, and whatever else is not read as a scalar. -/
theorem decodes_iff_scans (shares : type = .string ∨ type = .float64 ∨ type = .bool)
    (patterns : PatternList) :
    (∀ (token : Token) (cell : Cell type), Cell.ofToken type token = .ok cell ↔
        ∃ value, TokenRule.columnValue.take token = .ok value ∧
          (Cell.null type).scan patterns value = (.ok (), cell)) ∧
      (∀ (document : String) (cell : Cell type), decodeCell type document = .ok cell ↔
        ∃ value, decodeColumn document = .ok value ∧
          (Cell.null type).scan patterns value = (.ok (), cell)) ∧
      (∀ token : Token, token.core = .unit ∨ token.core = .none →
        Cell.ofToken type token = .ok (.null type)) ∧
      (∀ document, decodeValue document = .ok (.scalar .null) →
        decodeCell type document = .ok (.null type)) ∧
      (∀ token : Token, token.core.IsWide →
        (∃ problem, Cell.ofToken type token = .error problem) ∧
          ∃ problem, TokenRule.columnValue.take token = .error problem) ∧
      (∀ document : String, ¬ DocumentText document.toList → Refused type document) ∧
      (∀ (document : String) (before content : List Char), AllBlank before →
        document.toList = before ++ '[' :: content ∨
          document.toList = before ++ '\x7b' :: content → Refused type document) ∧
      (∀ document, (∀ value, decodeValue document ≠ .ok (.scalar value)) →
        Refused type document) := by
  have notTime := ne_time shares
  have rule := tokenRule_eq_columnValue shares
  refine ⟨fun token cell => Cell.ofToken_eq_ok_iff_scan rule patterns,
    fun document cell => decodeCell_eq_ok_iff_scan shares patterns, ?_,
    fun document isNull => decodeCell_of_null isNull, ?_,
    fun document malformed => refused_of_not_scalar fun value decoded =>
      malformed (documentText_of_decodeValue decoded),
    fun document before content blankBefore opens => refused_of_not_scalar fun value =>
      decodeValue_ne_scalar_of_bracket blankBefore opens,
    fun document notScalar => refused_of_not_scalar notScalar⟩
  · intro token valueless
    exact (Cell.ofToken_eq_ok_iff_take notTime).mpr
      ⟨.null, ScalarType.tokenRule_take_null notTime valueless, Cell.ofTaken_null type⟩
  · intro token wide
    rcases ScalarType.exists_tokenRule_take_error notTime wide with ⟨problem, refused⟩
    refine ⟨exists_error_of_ne_ok fun cell decoded => ?_, problem, rule ▸ refused⟩
    rcases (Cell.ofToken_eq_ok_iff_take notTime).mp decoded with ⟨value, takes, -⟩
    rw [refused] at takes
    cases takes

theorem decodes_iff_scans_bool :
    (ScalarType.bool = .string ∨ ScalarType.bool = .float64 ∨ ScalarType.bool = .bool) ∧
      decodeCell .bool " 1 " = .ok (.ofValue true) ∧
      Cell.ofToken .bool (.some .none) = .ok (.null .bool) ∧
      ∃ error, decodeCell .bool "[true]" = .error error := by
  have shares :
      ScalarType.bool = .string ∨ ScalarType.bool = .float64 ∨ ScalarType.bool = .bool :=
    .inr (.inr rfl)
  rcases decodes_iff_scans shares .default with ⟨-, texts, valueless, -, -, -, containers, -⟩
  exact ⟨shares, (texts " 1 " _).mpr ⟨.int 1, rfl, rfl⟩, valueless _ (.inr rfl),
    (containers "[true]" [] "true]".toList allBlank_nil (.inl rfl)).1⟩

end ScalarCell.Json
