import ScalarCell.Proofs.Cell.Scan
import ScalarCell.Proofs.Text.Integer

namespace ScalarCell

/-! Cells from tokens, beside column values from tokens that are then scanned. Integers have
a rule of their own for what they take, and the other scalars share one with the column
values. -/

open Digits

namespace Token

/-- What is left of a token when every `some` around it is taken away. -/
def core : Token → Token
  | .some token => token.core
  | token => token

inductive IsFloat : Token → Prop
  | float32 (value : Binary32) : IsFloat (.float32 value)
  | float64 (value : Binary64) : IsFloat (.float64 value)

inductive IsBytes : Token → Prop
  | bytes (value : List UInt8) : IsBytes (.bytes value)

inductive IsWide : Token → Prop
  | int128 (value : Int) : IsWide (.int128 value)
  | uint128 (value : Nat) : IsWide (.uint128 value)

theorem present?_cases (token : Token) :
    ((token = .unit ∨ token = .none) ∧ token.present? = Option.none) ∨
      token.present? = Option.some token := by
  cases token with
  | unit => exact .inl ⟨.inl rfl, rfl⟩
  | none => exact .inl ⟨.inr rfl, rfl⟩
  | _ => exact .inr rfl

end Token

/-! ## From a token to a cell -/

/-- The rules look through every `some`; only that of timestamps looks at it. -/
theorem TokenRule.take_core {rule : TokenRule} (notTime : rule ≠ .timestampText)
    (token : Token) : rule.take token.core = rule.take token := by
  induction token with
  | some token induction =>
      cases rule with
      | columnValue | numberLiteral => exact induction
      | timestampText => exact absurd rfl notTime
  | _ => rfl

theorem ScalarType.tokenRule_ne {type : ScalarType} (notTime : type ≠ .time) :
    type.tokenRule ≠ .timestampText := by
  cases type with
  | time => exact absurd rfl notTime
  | string | int64 | float64 | bool => nofun

theorem ScalarType.tokenRule_take_null {type : ScalarType} (notTime : type ≠ .time)
    {token : Token} (valueless : token.core = .unit ∨ token.core = .none) :
    type.tokenRule.take token = .ok .null := by
  rw [← TokenRule.take_core (tokenRule_ne notTime)]
  cases type with
  | time => exact absurd rfl notTime
  | string | int64 | float64 | bool =>
      rcases valueless with isUnit | isNone
      · rw [isUnit]
        rfl
      · rw [isNone]
        rfl

theorem ScalarType.exists_tokenRule_take_error {type : ScalarType} (notTime : type ≠ .time)
    {token : Token} (wide : token.core.IsWide) :
    ∃ problem, type.tokenRule.take token = .error problem := by
  rw [← TokenRule.take_core (tokenRule_ne notTime)]
  generalize token.core = core at wide
  cases type with
  | time => exact absurd rfl notTime
  | string | int64 | float64 | bool =>
      cases wide with
      | int128 | uint128 => exact ⟨_, rfl⟩

namespace Cell

variable {type : ScalarType}

theorem ofTaken_null (type : ScalarType) : ofTaken type .null = .ok (null type) := by
  cases type with
  | string | int64 | float64 | bool | time => rfl

theorem ofToken_eq_ok_iff {token : Token} {cell : Cell type} :
    ofToken type token = .ok cell ↔
      (token.present? = none ∧ cell = null type) ∨
        ∃ value, type.tokenRule.take token = .ok value ∧ ofTaken type value = .ok cell := by
  rw [ofToken]
  rcases token.present?_cases with ⟨valueless, present⟩ | present
  · rw [present]
    constructor
    · rintro ⟨⟩
      exact .inl ⟨rfl, rfl⟩
    · rintro (⟨-, rfl⟩ | ⟨value, takes, coerces⟩)
      · rfl
      · cases type with
        | time => rcases valueless with rfl | rfl <;> cases takes
        | string | int64 | float64 | bool =>
            rcases valueless with rfl | rfl <;> cases takes <;> exact coerces
  · cases taken : type.tokenRule.take token with
    | ok value => simp [present, taken]
    | error problem => simp [present, taken]

theorem ofToken_eq_ok_iff_take {token : Token} {cell : Cell type} (notTime : type ≠ .time) :
    ofToken type token = .ok cell ↔
      ∃ value, type.tokenRule.take token = .ok value ∧ ofTaken type value = .ok cell := by
  rw [ofToken_eq_ok_iff]
  constructor
  · rintro (⟨absent, rfl⟩ | taken)
    · rcases token.present?_cases with ⟨valueless, -⟩ | present
      · have takesNull := ScalarType.tokenRule_take_null notTime
          (valueless.imp (congrArg Token.core) (congrArg Token.core))
        exact ⟨.null, takesNull, ofTaken_null type⟩
      · rw [absent] at present
        cases present
    · exact taken
  · exact .inr

end Cell

theorem Cell.ofToken_eq_ok_iff_scan {type : ScalarType} {token : Token} {cell : Cell type}
    (shares : type.tokenRule = .columnValue) (patterns : PatternList) :
    ofToken type token = .ok cell ↔
      ∃ value, TokenRule.columnValue.take token = .ok value ∧
        (null type).scan patterns value = (.ok (), cell) := by
  have notTime : type ≠ .time := by
    rintro rfl
    cases shares
  simp only [ofToken_eq_ok_iff_take notTime, ofTaken_eq_ok_iff notTime patterns, shares]

/-! ## Integers through either rule -/

namespace TokenRule

/-- What a token is coerced to as an integer, if the rule takes it and it is one. -/
def int64? (rule : TokenRule) (token : Token) : Option (Option Int64) :=
  match rule.take token with
  | .ok value => value.toInt64.toOption
  | .error _ => none

theorem int64?_eq_some_iff {rule : TokenRule} {token : Token} {outcome : Option Int64} :
    rule.int64? token = some outcome ↔
      ∃ value, rule.take token = .ok value ∧ value.toInt64 = .ok outcome := by
  rw [int64?]
  cases rule.take token with
  | error problem => simp
  | ok value => cases coerced : value.toInt64 <;> simp [coerced, Except.toOption]

theorem int64?_core {rule : TokenRule} (notTime : rule ≠ .timestampText) (token : Token) :
    rule.int64? token.core = rule.int64? token := by
  rw [int64?, int64?, take_core notTime]

theorem numberLiteral_int64?_eq_none {token : Token}
    (refused : token.core.IsFloat ∨ token.core.IsBytes) :
    numberLiteral.int64? token = none := by
  rw [← int64?_core (by decide) token]
  generalize token.core = core at refused
  rcases refused with isFloat | isBytes
  · cases isFloat with
    | float32 | float64 => rfl
  · cases isBytes with
    | bytes => rfl

theorem int64?_empty {token : Token} (empty : token.core = .text "") :
    numberLiteral.int64? token = some none ∧ columnValue.int64? token = none := by
  rw [← int64?_core (by decide) token, ← int64?_core (by decide) token, empty]
  exact ⟨rfl, rfl⟩

theorem toInt64_digits {number : Nat} (fits : number < 2 ^ 63) :
    (ColumnValue.text (String.ofList (Numeral.digits number))).toInt64 =
      .ok (some (Int64.ofNat number)) := by
  simp only [ColumnValue.toInt64, ColumnValue.integerOfText, String.toList_ofList,
    readInt64_digits fits]
  rfl

theorem literalText_of_ne {content : String} (notEmpty : content ≠ "") :
    literalText content = .text content := by
  rw [literalText, if_neg (by simpa using notEmpty)]

/-- A token that is neither a float nor bytes nor an empty string is the same integer
through either rule, or through neither. Unsigned integers take different ways, as digits
and as signed ones, but for those that are too large to be signed. -/
theorem int64?_numberLiteral {token : Token} (notFloat : ¬ token.core.IsFloat)
    (notBytes : ¬ token.core.IsBytes) (notEmpty : token.core ≠ .text "") :
    numberLiteral.int64? token = columnValue.int64? token := by
  induction token with
  | some token induction => exact induction notFloat notBytes notEmpty
  | float32 value => exact absurd (.float32 value) notFloat
  | float64 value => exact absurd (.float64 value) notFloat
  | bytes value => exact absurd (.bytes value) notBytes
  | uint8 value | uint16 value | uint32 value =>
      have fits : value.toNat < 2 ^ 63 := Nat.lt_trans value.toNat_lt (by decide)
      simp only [int64?, take, takeNumberLiteral, toInt64_digits fits]
      rfl
  | uint64 value =>
      by_cases fits : value.toNat < 2 ^ 63
      · simp only [int64?, take, takeNumberLiteral, takeColumnValue, toInt64_digits fits,
          if_pos fits]
        rfl
      · simp only [int64?, take, takeNumberLiteral, takeColumnValue, if_neg fits]
  | char value =>
      have notEmptyText : literalText (String.ofList [value]) = .text (String.ofList [value]) :=
        literalText_of_ne (by simp)
      simp only [int64?, take, takeNumberLiteral, takeColumnValue, notEmptyText]
  | text value =>
      have notEmptyText : literalText value = .text value :=
        literalText_of_ne fun empty => notEmpty (congrArg Token.text empty)
      simp only [int64?, take, takeNumberLiteral, takeColumnValue, notEmptyText]
  | _ => rfl

end TokenRule

namespace Cell

theorem ofToken_int64_eq_ok_iff {token : Token} {cell : Cell .int64} :
    ofToken .int64 token = .ok cell ↔
      ∃ outcome, TokenRule.numberLiteral.int64? token = some outcome ∧
        cell = ofOption outcome := by
  rw [ofToken_eq_ok_iff_take (by decide)]
  simp only [TokenRule.int64?_eq_some_iff, ScalarType.tokenRule, ofTaken, map_eq_ok_iff,
    mapError_eq_ok_iff]
  constructor
  · rintro ⟨value, taken, outcome, coerced, rfl⟩
    exact ⟨outcome, ⟨value, taken, coerced⟩, rfl⟩
  · rintro ⟨outcome, ⟨value, taken, coerced⟩, rfl⟩
    exact ⟨value, taken, outcome, coerced, rfl⟩

theorem exists_scan_int64_iff {patterns : PatternList} {token : Token} {cell : Cell .int64} :
    (∃ value, TokenRule.columnValue.take token = .ok value ∧
        (null .int64).scan patterns value = (.ok (), cell)) ↔
      ∃ outcome, TokenRule.columnValue.int64? token = some outcome ∧
        cell = ofOption outcome := by
  simp only [TokenRule.int64?_eq_some_iff, scan_eq_ok_iff, ScalarType.coerce,
    mapError_eq_ok_iff]
  constructor
  · rintro ⟨value, taken, outcome, coerced, rfl⟩
    exact ⟨outcome, ⟨value, taken, coerced⟩, rfl⟩
  · rintro ⟨outcome, ⟨value, taken, coerced⟩, rfl⟩
    exact ⟨value, taken, outcome, coerced, rfl⟩

/-- An integer is decoded from a token exactly where the token, taken as a column value, is
scanned as one, and it is the same one. There are three exceptions: no float is decoded,
no byte string is, and the empty string is decoded as null. -/
theorem ofToken_int64_iff (patterns : PatternList) (token : Token) (cell : Cell .int64) :
    ofToken .int64 token = .ok cell ↔
      (token.core = .text "" ∧ cell = null .int64) ∨
        (¬ token.core.IsFloat ∧ ¬ token.core.IsBytes ∧
          ∃ value, TokenRule.columnValue.take token = .ok value ∧
            (null .int64).scan patterns value = (.ok (), cell)) := by
  rw [ofToken_int64_eq_ok_iff, exists_scan_int64_iff]
  by_cases empty : token.core = .text ""
  · have notFloat : ¬ (Token.text "").IsFloat := nofun
    simp [TokenRule.int64?_empty empty, empty, ofOption, notFloat]
  · by_cases refused : token.core.IsFloat ∨ token.core.IsBytes
    · rw [TokenRule.numberLiteral_int64?_eq_none refused]
      rcases refused with isFloat | isBytes
      · simp [isFloat, empty]
      · simp [isBytes, empty]
    · rcases not_or.mp refused with ⟨notFloat, notBytes⟩
      rw [TokenRule.int64?_numberLiteral notFloat notBytes empty]
      simp [notFloat, notBytes, empty]

/-- The bytes of `42` are scanned as an integer, but they are not decoded as one. -/
theorem ofToken_int64_bytes :
    (∀ cell, ofToken .int64 (.bytes [0x34, 0x32]) ≠ .ok cell) ∧
      ∃ value, TokenRule.columnValue.take (.bytes [0x34, 0x32]) = .ok value ∧
        (null .int64).scan .default value = (.ok (), ofValue 42) :=
  ⟨nofun, _, rfl, rfl⟩

end Cell

end ScalarCell
