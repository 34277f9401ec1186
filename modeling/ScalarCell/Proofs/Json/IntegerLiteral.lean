import ScalarCell.Proofs.Cell.Agreement
import ScalarCell.Proofs.Json.Document

namespace ScalarCell.Json

/-! Integers in JSON text. Beyond 64 bits and for zero with a minus sign the scanner makes them
floats; everything else it keeps exactly. -/

open Digits

/-! ## Digits beyond 64 bits -/

variable {digits rest : List Char}

theorem startsWithDigit_of_takeDigits {limit total : Nat}
    (isDigit : ∀ character ∈ digits, character.isDigit = true) (within : total < limit)
    (beyond : limit ≤ Nat.ofDigitChars 10 digits total) :
    startsWithDigit (takeDigits limit total digits).2.2 = true := by
  induction digits generalizing total with
  | nil => exact absurd within (Nat.not_lt.mpr beyond)
  | cons first digits induction =>
      rcases List.forall_mem_cons.mp isDigit with ⟨firstDigit, othersDigit⟩
      rw [ofDigitChars_cons_digitValue] at beyond
      rw [takeDigits, digit?_eq_some firstDigit]
      by_cases fits : total * 10 + digitValue first < limit
      · simp only [fits, if_true]
        exact induction othersDigit fits beyond
      · simp only [fits, if_false]
        exact firstDigit

theorem exists_float_of_readNumber {negative : Bool} {number : Number}
    (isDigit : ∀ character ∈ digits, character.isDigit = true)
    (canonical : Canonical digits) (beyond : 2 ^ 64 ≤ Nat.ofDigitChars 10 digits 0)
    (read : readNumber negative digits = .ok (number, rest)) :
    ∃ value, number = .float value := by
  rcases canonical with rfl | ⟨first, others, rfl, notZero⟩
  · exact absurd beyond (by decide)
  · have starts := startsWithDigit_of_takeDigits isDigit (by decide) beyond
    have firstDigit : startsWithDigit (first :: others) = true :=
      isDigit first List.mem_cons_self
    rw [readNumber] at read
    · simp only [firstDigit, if_true, starts] at read
      rcases map_eq_ok_iff.mp read with ⟨outcome, -, equal⟩
      cases equal
      exact ⟨_, rfl⟩
    · exact List.cons_ne_nil _ _
    · intro _ first
      cases first
      exact notZero rfl

/-! ## Integers in a text -/

/-- An integer as JSON writes it: digits without a zero in front of others, and a minus sign
or none. -/
structure IntegerLiteral where
  negative : Bool
  digits : List Char
  isDigit : ∀ character ∈ digits, character.isDigit = true
  canonical : Canonical digits

namespace IntegerLiteral

def text (literal : IntegerLiteral) : String :=
  String.ofList (signedText literal.negative literal.digits)

def magnitude (literal : IntegerLiteral) : Nat :=
  Nat.ofDigitChars 10 literal.digits 0

def value (literal : IntegerLiteral) : Int :=
  if literal.negative then -(literal.magnitude : Int) else literal.magnitude

def ofNat (negative : Bool) (number : Nat) : IntegerLiteral where
  negative := negative
  digits := Numeral.digits number
  isDigit := (isNumber_digits number).isDigit
  canonical := canonical_digits number

variable (literal : IntegerLiteral)

theorem digits_eq : literal.digits = Numeral.digits literal.magnitude :=
  (digits_ofDigitChars literal.canonical literal.isDigit).symm

theorem natAbs_value : literal.value.natAbs = literal.magnitude := by
  rw [value]
  split <;> omega

theorem value_of_unsigned (unsigned : literal.negative = false) :
    literal.value = literal.magnitude := by
  rw [value, unsigned]
  rfl

theorem value_of_negative (negative : literal.negative = true) :
    literal.value = -(literal.magnitude : Int) := by
  rw [value, negative]
  rfl

theorem nonempty : literal.digits ≠ [] := by
  rw [digits_eq]
  exact Nat.toDigits_ne_nil

theorem isInteger : IsInteger literal.text.toList literal.value := by
  have isNumber : IsNumber literal.digits.length literal.digits literal.magnitude :=
    ⟨rfl, literal.isDigit, rfl⟩
  rw [text, String.toList_ofList, signedText, value]
  split
  · exact .minus literal.nonempty isNumber
  · exact .unsigned literal.nonempty isNumber

theorem text_eq_minusZero_iff :
    literal.text = "-0" ↔ literal.negative = true ∧ literal.magnitude = 0 := by
  constructor
  · intro text_eq
    have characters := congrArg String.toList text_eq
    rw [text, String.toList_ofList] at characters
    cases sign : literal.negative with
    | true =>
        rw [sign] at characters
        have digits_eq : literal.digits = ['0'] := (List.cons.inj characters).2
        exact ⟨rfl, by rw [magnitude, digits_eq]; rfl⟩
    | false =>
        rw [sign] at characters
        have minus : '-' ∈ literal.digits := by
          rw [show literal.digits = ['-', '0'] from characters]
          exact List.mem_cons_self
        exact absurd (literal.isDigit '-' minus) (by decide)
  · rintro ⟨negative, zero⟩
    rw [text, negative, digits_eq, zero]
    rfl

theorem value_of_minusZero (isMinusZero : literal.text = "-0") : literal.value = 0 := by
  rcases literal.text_eq_minusZero_iff.mp isMinusZero with ⟨negative, zero⟩
  rw [literal.value_of_negative negative, zero]
  rfl

theorem text_eq_signed (notMinusZero : literal.text ≠ "-0") :
    literal.text = String.ofList (Numeral.signed literal.value) := by
  rw [Ne, text_eq_minusZero_iff, not_and] at notMinusZero
  rw [Numeral.signed, natAbs_value, text, signedText, ← digits_eq]
  cases sign : literal.negative with
  | true =>
      have nonzero := notMinusZero sign
      rw [literal.value_of_negative sign, if_pos rfl, if_pos (by omega)]
  | false =>
      rw [literal.value_of_unsigned sign, if_neg Bool.false_ne_true, if_neg (by omega)]

/-! ## Scanning -/

inductive IsScanned : Number → Prop
  | natural {value : UInt64} (notMinusZero : literal.text ≠ "-0")
      (same : (value.toNat : Int) = literal.value) : IsScanned (.natural value)
  | negative {value : Int64} (notMinusZero : literal.text ≠ "-0")
      (same : value.toInt = literal.value) : IsScanned (.negative value)
  | minusZero (isMinusZero : literal.text = "-0") :
      IsScanned (.float (.finite true .zero))
  | outOfRange {value : Binary64}
      (outside : literal.value < -2 ^ 63 ∨ 2 ^ 64 ≤ literal.value) :
      IsScanned (.float value)

theorem isScanned_integer (fits : literal.magnitude < 2 ^ 64) :
    literal.IsScanned (integer literal.negative literal.magnitude) := by
  cases sign : literal.negative with
  | false =>
      have notMinusZero : literal.text ≠ "-0" := by
        simp [text_eq_minusZero_iff, sign]
      refine .natural notMinusZero ?_
      rw [UInt64.toNat_ofNat_of_lt' fits, literal.value_of_unsigned sign]
  | true =>
      have value_eq := literal.value_of_negative sign
      by_cases zero : literal.magnitude = 0
      · have scanned : integer true 0 = .float (.finite true .zero) := by
          simp [integer, Magnitude.ofNat?, Magnitude.nearest?_zero, Binary64.ofMagnitude?]
        rw [zero, scanned]
        exact .minusZero (literal.text_eq_minusZero_iff.mpr ⟨sign, zero⟩)
      · have notMinusZero : literal.text ≠ "-0" := by
          simp [text_eq_minusZero_iff, zero]
        rw [integer, Bool.not_true, if_neg Bool.false_ne_true]
        split
        · refine .negative notMinusZero ?_
          rw [Int64.toInt_ofInt_of_le (by omega) (by omega), value_eq]
        · exact .outOfRange (.inl (by omega))

theorem decodeValue_text (fits : literal.magnitude < 2 ^ 64) :
    decodeValue literal.text =
      .ok (.scalar (.number (integer literal.negative literal.magnitude))) := by
  have read := readNumber_integer literal.negative fits endsNumber_nil
  rw [List.append_nil, ← digits_eq] at read
  refine decodeValue_scalar_iff.mpr ⟨[], ?_, rfl⟩
  rw [text, String.toList_ofList]
  exact readLexeme_number read

theorem isScanned_of_decodeValue {scalar : Scalar}
    (decoded : decodeValue literal.text = .ok (.scalar scalar)) :
    ∃ number, scalar = .number number ∧ literal.IsScanned number := by
  by_cases fits : literal.magnitude < 2 ^ 64
  · rw [literal.decodeValue_text fits] at decoded
    cases decoded
    exact ⟨_, rfl, literal.isScanned_integer fits⟩
  · rcases decodeValue_scalar_iff.mp decoded with ⟨rest, lexeme, -⟩
    have starts := startsWithDigit_append literal.nonempty literal.isDigit []
    rw [List.append_nil] at starts
    rw [text, String.toList_ofList, readLexeme_signedText _ starts] at lexeme
    rcases map_eq_ok_iff.mp lexeme with ⟨⟨number, _⟩, read, equal⟩
    cases equal
    rcases exists_float_of_readNumber literal.isDigit literal.canonical
      (Nat.le_of_not_lt fits) read with ⟨value, rfl⟩
    refine ⟨_, rfl, .outOfRange ?_⟩
    have natAbs_eq := literal.natAbs_value
    omega

/-! ## Integers of 64 bits -/

section Int64

variable {cell : Cell .int64}

theorem ofToken_uint64_iff {value : UInt64} :
    Cell.ofToken .int64 (.uint64 value) = .ok cell ↔
      value.toNat < 2 ^ 63 ∧ cell = .ofValue (Int64.ofNat value.toNat) := by
  have int64?_eq : TokenRule.numberLiteral.int64? (.uint64 value) =
      (ColumnValue.text (String.ofList (Numeral.digits value.toNat))).toInt64.toOption := rfl
  rw [Cell.ofToken_int64_eq_ok_iff, int64?_eq]
  by_cases fits : value.toNat < 2 ^ 63
  · rw [TokenRule.toInt64_digits fits]
    simp [fits, Except.toOption, Cell.ofOption]
  · have refused : ∃ error,
        (ColumnValue.text (String.ofList (Numeral.digits value.toNat))).toInt64 =
          .error error := by
      rw [ColumnValue.toInt64, String.toList_ofList, ColumnValue.integerOfText]
      cases read : Numeral.readInt64 (Numeral.digits value.toNat) with
      | error error => exact ⟨_, rfl⟩
      | ok integer =>
          rcases readInt64_eq_ok_iff.mp read with ⟨isInteger, -, below⟩
          have digits : IsInteger (Numeral.digits value.toNat) value.toNat :=
            .unsigned Nat.toDigits_ne_nil (isNumber_digits value.toNat)
          have same := isInteger.unique digits
          omega
    rcases refused with ⟨error, refused⟩
    rw [refused]
    simp [fits, Except.toOption]

variable {literal} in
theorem IsScanned.ofToken_iff {number : Number} (scanned : literal.IsScanned number) :
    Cell.ofToken .int64 number.token = .ok cell ↔
      literal.text ≠ "-0" ∧ (-2 ^ 63 ≤ literal.value ∧ literal.value < 2 ^ 63) ∧
        cell = .ofValue (Int64.ofInt literal.value) := by
  cases scanned with
  | natural notMinusZero same =>
      rw [Number.token, ofToken_uint64_iff, ← same, Int64.ofInt_eq_ofNat]
      constructor
      · rintro ⟨fits, cell_eq⟩
        exact ⟨notMinusZero, by omega, cell_eq⟩
      · rintro ⟨-, inRange, cell_eq⟩
        exact ⟨by omega, cell_eq⟩
  | @negative value notMinusZero same =>
      have decoded : Cell.ofToken .int64 (Number.negative value).token =
          .ok (.ofValue value) := rfl
      rw [decoded, Except.ok.injEq, ← same, Int64.ofInt_toInt]
      constructor
      · rintro rfl
        exact ⟨notMinusZero, ⟨value.le_toInt, value.toInt_lt⟩, rfl⟩
      · rintro ⟨-, -, rfl⟩
        rfl
  | minusZero isMinusZero => exact ⟨nofun, fun accepted => absurd isMinusZero accepted.1⟩
  | outOfRange outside => exact ⟨nofun, fun accepted => by omega⟩

theorem decodeCell_int64_eq_ok_iff :
    decodeCell .int64 literal.text = .ok cell ↔
      literal.text ≠ "-0" ∧ (-2 ^ 63 ≤ literal.value ∧ literal.value < 2 ^ 63) ∧
        cell = .ofValue (Int64.ofInt literal.value) := by
  rw [decodeCell_eq_ok_iff]
  constructor
  · rintro ⟨scalar, decoded, token⟩
    rcases literal.isScanned_of_decodeValue decoded with ⟨number, rfl, scanned⟩
    exact scanned.ofToken_iff.mp token
  · intro accepted
    have fits : literal.magnitude < 2 ^ 64 := by
      rw [← natAbs_value]
      omega
    exact ⟨_, literal.decodeValue_text fits,
      (literal.isScanned_integer fits).ofToken_iff.mpr accepted⟩

/-- An integer of any length is read exactly or refused. It is refused where it does not fit
into 64 bits, and where it is zero with a minus sign. -/
theorem decodeCell_int64_exact :
    (∀ cell, decodeCell .int64 literal.text = .ok cell ↔
      literal.text ≠ "-0" ∧ (-2 ^ 63 ≤ literal.value ∧ literal.value < 2 ^ 63) ∧
        cell = .ofValue (Int64.ofInt literal.value)) ∧
    ((∃ error, decodeCell .int64 literal.text = .error error) ↔
      literal.text = "-0" ∨ literal.value < -2 ^ 63 ∨ 2 ^ 63 ≤ literal.value) := by
  refine ⟨fun cell => literal.decodeCell_int64_eq_ok_iff, ?_⟩
  constructor
  · rintro ⟨error, refused⟩
    apply Classical.byContradiction
    intro accepted
    rw [not_or, not_or, Int.not_lt, Int.not_le] at accepted
    have decoded := literal.decodeCell_int64_eq_ok_iff.mpr ⟨accepted.1, accepted.2, rfl⟩
    rw [refused] at decoded
    cases decoded
  · intro refused
    refine exists_error_of_ne_ok fun cell decoded => ?_
    rcases literal.decodeCell_int64_eq_ok_iff.mp decoded with ⟨notMinusZero, inRange, -⟩
    rcases refused with isMinusZero | outOfRange
    · exact notMinusZero isMinusZero
    · omega

/-- Zero with a minus sign is zero, but it comes as a float and is refused. -/
theorem decodeCell_int64_minusZero :
    (ofNat true 0).text = "-0" ∧ (ofNat true 0).value = 0 ∧
      ∃ error, decodeCell .int64 "-0" = .error error :=
  ⟨rfl, rfl, _, rfl⟩

end Int64

/-! ## Texts and floats

On its way into a cell, an integer is a column value of one of three kinds. -/

inductive CarriedBy : ColumnValue → Prop
  | int {integer : Int64} (notMinusZero : literal.text ≠ "-0")
      (same : integer.toInt = literal.value) : CarriedBy (.int integer)
  | text (beyond : 2 ^ 63 ≤ literal.value) : CarriedBy (.text literal.text)
  | float (isMinusZero : literal.text = "-0") : CarriedBy (.float (.finite true .zero))

variable {literal}

theorem IsScanned.exists_carriedBy {number : Number} (scanned : literal.IsScanned number)
    (low : -2 ^ 63 ≤ literal.value) (high : literal.value < 2 ^ 64) :
    ∃ carrier, TokenRule.columnValue.take number.token = .ok carrier ∧
      literal.CarriedBy carrier := by
  cases scanned with
  | @natural value notMinusZero same =>
      have taken : TokenRule.columnValue.take (Number.natural value).token =
          .ok (if value.toNat < 2 ^ 63 then .int (Int64.ofNat value.toNat)
            else .text (String.ofList (Numeral.digits value.toNat))) := rfl
      rw [taken]
      split
      · rename_i fits
        refine ⟨_, rfl, .int notMinusZero ?_⟩
        rw [← Int64.ofInt_eq_ofNat, Int64.toInt_ofInt_of_le (by omega) (by omega), same]
      · rename_i beyond
        have text_eq := literal.text_eq_signed notMinusZero
        rw [← same, Numeral.signed, if_neg (by omega), Int.natAbs_natCast] at text_eq
        rw [← text_eq]
        exact ⟨_, rfl, .text (by omega)⟩
  | negative notMinusZero same => exact ⟨_, rfl, .int notMinusZero same⟩
  | minusZero isMinusZero => exact ⟨_, rfl, .float isMinusZero⟩
  | outOfRange outside => omega

variable {carrier : ColumnValue}

theorem CarriedBy.toText (carried : literal.CarriedBy carrier) :
    carrier.toText = .ok (some literal.text) := by
  cases carried with
  | int notMinusZero same =>
      rw [ColumnValue.toText, same, ← literal.text_eq_signed notMinusZero]
  | text beyond => rfl
  | float isMinusZero =>
      rw [isMinusZero]
      rfl

theorem CarriedBy.exists_toFloat64 (carried : literal.CarriedBy carrier)
    (fits : literal.value.natAbs ≤ 2 ^ 64) :
    ∃ number, carrier.toFloat64 = .ok (some number) ∧ number.IsNearestTo literal.value := by
  cases carried with
  | int notMinusZero same =>
      rw [← same] at fits ⊢
      exact ⟨_, rfl, Binary64.isNearestTo_ofInt fits⟩
  | text beyond =>
      rcases Binary64.read_of_isInteger literal.isInteger fits with ⟨number, read, nearest⟩
      refine ⟨number, ?_, nearest⟩
      rw [ColumnValue.toFloat64, ColumnValue.floatOfText, read]
  | float isMinusZero =>
      rw [literal.value_of_minusZero isMinusZero]
      exact ⟨_, rfl, Binary64.isNearestTo_of_toInt? (by decide +kernel)⟩

theorem exists_decodeColumn (low : -2 ^ 63 ≤ literal.value) (high : literal.value < 2 ^ 64) :
    ∃ carrier, decodeColumn literal.text = .ok carrier ∧ literal.CarriedBy carrier := by
  have fits : literal.magnitude < 2 ^ 64 := by
    rw [← natAbs_value]
    omega
  rcases (literal.isScanned_integer fits).exists_carriedBy low high with
    ⟨carrier, taken, carried⟩
  exact ⟨carrier, decodeColumn_eq_ok_iff.mpr ⟨_, literal.decodeValue_text fits, taken⟩,
    carried⟩

/-- An integer of 64 bits, with or without a sign, keeps its value in cells of other types:
as text it is the same character for character, and as a number it is the one nearest to it,
whichever kind of column value carries it. -/
theorem decodeCell_keepsInteger (low : -2 ^ 63 ≤ literal.value)
    (high : literal.value < 2 ^ 64) :
    (∃ carrier, decodeColumn literal.text = .ok carrier ∧ literal.CarriedBy carrier) ∧
      decodeCell .string literal.text = .ok (.ofValue literal.text) ∧
      ∃ number, decodeCell .float64 literal.text = .ok (.ofValue number) ∧
        number.IsNearestTo literal.value := by
  rcases exists_decodeColumn low high with ⟨carrier, decoded, carried⟩
  refine ⟨⟨carrier, decoded, carried⟩, ?_, ?_⟩
  · rw [decodeCell_eq_ok_iff_scan (.inl rfl) .default]
    refine ⟨carrier, decoded, Cell.scan_of_coerce ?_ _⟩
    rw [ScalarType.coerce, carried.toText]
    rfl
  · rcases carried.exists_toFloat64 (by omega) with ⟨number, coerced, nearest⟩
    refine ⟨number, ?_, nearest⟩
    rw [decodeCell_eq_ok_iff_scan (.inr (.inl rfl)) .default]
    refine ⟨carrier, decoded, Cell.scan_of_coerce ?_ _⟩
    rw [ScalarType.coerce, coerced]
    rfl

/-- The greatest integer of 64 bits has no signed form, and is no number itself. -/
theorem decodeCell_keepsInteger_greatest :
    (-2 ^ 63 ≤ (ofNat false (2 ^ 64 - 1)).value ∧
        (ofNat false (2 ^ 64 - 1)).value < 2 ^ 64) ∧
      decodeCell .string "18446744073709551615" =
        .ok (.ofValue "18446744073709551615") ∧
      ∃ number, decodeCell .float64 "18446744073709551615" = .ok (.ofValue number) ∧
        number.IsNearestTo 18446744073709551615 := by
  have low : -2 ^ 63 ≤ (ofNat false (2 ^ 64 - 1)).value := by decide +kernel
  have high : (ofNat false (2 ^ 64 - 1)).value < 2 ^ 64 := by decide +kernel
  exact ⟨⟨low, high⟩, (decodeCell_keepsInteger low high).2⟩

end IntegerLiteral

end ScalarCell.Json
