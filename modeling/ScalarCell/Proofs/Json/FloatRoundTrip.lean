import ScalarCell.Proofs.Json.CellText
import ScalarCell.Proofs.Json.FloatText
import ScalarCell.Proofs.Json.Scaling

namespace ScalarCell

/-! A cell with a number as JSON and back. The text is that of the shortest digits, and
always read; but it is computed from these digits in steps that are rounded each, so that
it is not always the same number that comes back. -/

open Digits Json

namespace Magnitude

/-- The digits and the power of ten that the text of a magnitude stands for. -/
def written (magnitude : Magnitude) : Decimal :=
  let decimal := magnitude.shortest .toEven
  if Layout.json.positionalFrom ≤ decimal.leadingExponent
      ∧ decimal.leadingExponent ≤ Layout.json.positionalTo then
    decimal.withPoint
  else
    decimal

def reread? (magnitude : Magnitude) : Option Magnitude :=
  scale? magnitude.written.coefficient magnitude.written.exponent

theorem shortest_range (magnitude : Magnitude) (tie : Tie) :
    ((magnitude.shortest tie).coefficient = 0 → (magnitude.shortest tie).exponent = 0) ∧
      (magnitude.shortest tie).coefficient ≤ 10 ^ 17 ∧
      -342 ≤ (magnitude.shortest tie).exponent ∧
      (magnitude.shortest tie).exponent ≤ 326 := by
  by_cases nonzero : magnitude = .zero
  · rw [nonzero, shortest_zero]
    exact ⟨fun _ => rfl, by decide, by decide, by decide⟩
  · rcases shortest_bounds nonzero tie with ⟨positive, short, low, high⟩
    refine ⟨?_, short, low, high⟩
    intro coefficient_zero
    omega

end Magnitude

namespace Decimal

theorem withPoint_coefficient_le {decimal : Decimal}
    (short : decimal.coefficient ≤ 10 ^ 17)
    (leading : decimal.leadingExponent ≤ 15) :
    decimal.withPoint.coefficient ≤ 10 ^ 17 := by
  have leading_eq := decimal.leadingExponent_eq
  rcases decimal with ⟨coefficient, exponent⟩
  cases exponent with
  | negSucc exponent => exact short
  | ofNat exponent =>
      simp only [withPoint, Int.ofNat_eq_natCast] at leading leading_eq ⊢
      calc coefficient * 10 ^ (exponent + 1)
          ≤ 10 ^ (Numeral.digits coefficient).length * 10 ^ (exponent + 1) :=
            Nat.mul_le_mul_right _ (Nat.le_of_lt (lt_pow_length_digits coefficient))
        _ = 10 ^ ((Numeral.digits coefficient).length + (exponent + 1)) :=
          (Nat.pow_add _ _ _).symm
        _ ≤ 10 ^ 17 := Nat.pow_le_pow_right (by decide) (by omega)

theorem withPoint_coefficient_pos {decimal : Decimal}
    (positive : 0 < decimal.coefficient) :
    0 < decimal.withPoint.coefficient := by
  rcases decimal with ⟨coefficient, exponent⟩
  cases exponent with
  | ofNat exponent => exact Nat.mul_pos positive (Nat.pow_pos (by decide))
  | negSucc exponent => exact positive

theorem nearest?_withPoint {decimal : Decimal} (positive : 0 < decimal.coefficient)
    (low : -342 ≤ decimal.exponent) (high : decimal.exponent ≤ 400) :
    decimal.withPoint.nearest? = decimal.nearest? := by
  have withPointPositive := withPoint_coefficient_pos positive
  rcases decimal with ⟨coefficient, exponent⟩
  cases exponent with
  | ofNat exponent =>
      have exponent_eq : Int.ofNat exponent = -1 + (exponent + 1 : Nat) := by
        rw [Int.ofNat_eq_natCast]
        omega
      exact (nearest?_eq_of_moved exponent_eq rfl withPointPositive
        (show (-342 : Int) ≤ -1 by decide) high).symm
  | negSucc exponent => rfl

theorem leadingExponent_natAbs_lt {decimal : Decimal}
    (short : decimal.coefficient ≤ 10 ^ 17)
    (low : -342 ≤ decimal.exponent) (high : decimal.exponent ≤ 326) :
    decimal.leadingExponent.natAbs < exponentLimit := by
  have leading_eq := decimal.leadingExponent_eq
  have digits_le : (Numeral.digits decimal.coefficient).length ≤ 19 :=
    (Nat.length_toDigits_le_iff (by decide) (by decide)).mpr
      (Nat.lt_of_le_of_lt short (by decide))
  have digits_pos : 0 < (Numeral.digits decimal.coefficient).length :=
    Nat.length_toDigits_pos
  have limit : 1000 < exponentLimit := by decide
  omega

end Decimal

namespace Magnitude

theorem readNumber_json (negative : Bool) (magnitude : Magnitude) :
    readNumber negative (Layout.json.magnitude magnitude) =
      scaledNumber negative magnitude.written.coefficient magnitude.written.exponent := by
  rcases magnitude.shortest_range .toEven with ⟨zero, short, low, high⟩
  have limit : 10 ^ 17 < 2 ^ 64 := by decide
  rw [Layout.magnitude, written]
  have toEven : Layout.json.tie = .toEven := rfl
  rw [toEven]
  generalize magnitude.shortest .toEven = decimal at zero short low high ⊢
  split
  · rename_i positional
    have fits := Decimal.withPoint_coefficient_le short positional.2
    exact readNumber_positional negative zero (Nat.lt_of_le_of_lt fits limit)
  · exact readNumber_scientific negative (Nat.lt_of_le_of_lt short limit)
      (Decimal.leadingExponent_natAbs_lt short low high)

theorem reread?_greatest : greatest.reread? = some greatest := by
  rw [reread?, written, shortest_greatest]
  decide +kernel

theorem exists_reread? (magnitude : Magnitude) :
    ∃ back, magnitude.reread? = some back := by
  by_cases isGreatest : magnitude = greatest
  · rw [isGreatest, reread?_greatest]
    exact ⟨greatest, rfl⟩
  rcases magnitude.shortest_range .toEven with ⟨-, short, -, -⟩
  by_cases isZero : magnitude = .zero
  · rw [reread?, written, isZero, shortest_zero]
    exact exists_scale?_negSucc (by decide) 0
  have bounded (power : Nat)
      (exponent_eq : (magnitude.shortest .toEven).exponent = .ofNat power) :=
    shortest_lt_bound isZero isGreatest .toEven exponent_eq
  rcases shortest_bounds isZero .toEven with ⟨positive, -⟩
  rw [reread?, written]
  generalize magnitude.shortest .toEven = decimal at short bounded positive ⊢
  split
  · rename_i positional
    have fits := Decimal.withPoint_coefficient_le short positional.2
    rcases decimal with ⟨coefficient, exponent⟩
    cases exponent with
    | ofNat exponent => exact exists_scale?_negSucc fits 0
    | negSucc exponent => exact exists_scale?_negSucc short exponent
  · rcases decimal with ⟨coefficient, exponent⟩
    cases exponent with
    | ofNat exponent => exact exists_scale?_ofNat positive short (bounded exponent rfl)
    | negSucc exponent => exact exists_scale?_negSucc short exponent

theorem written_coefficient_pos {magnitude : Magnitude} (nonzero : magnitude ≠ .zero) :
    0 < magnitude.written.coefficient := by
  rcases shortest_bounds nonzero .toEven with ⟨positive, -⟩
  rw [written]
  generalize magnitude.shortest .toEven = decimal at positive ⊢
  split
  · exact Decimal.withPoint_coefficient_pos positive
  · exact positive

theorem nearest?_written {magnitude : Magnitude} (nonzero : magnitude ≠ .zero) :
    magnitude.written.nearest? = some magnitude := by
  rcases shortest_bounds nonzero .toEven with ⟨positive, -, low, high⟩
  rw [← magnitude.nearest?_shortest .toEven, written]
  generalize magnitude.shortest .toEven = decimal at positive low high ⊢
  split
  · exact Decimal.nearest?_withPoint positive low (by omega)
  · rfl

/-- A magnitude comes back where the digits of its text have at most 53 bits and the power of
ten is small: only one rounding is left then. -/
theorem reread?_eq_some_of_short {magnitude : Magnitude}
    (fits : magnitude.written.coefficient < 2 ^ 53)
    (small : magnitude.written.exponent.natAbs ≤ 22) :
    magnitude.reread? = some magnitude := by
  by_cases nonzero : magnitude = .zero
  · rw [nonzero, reread?, written, shortest_zero]
    decide +kernel
  · rw [reread?, scale?_eq_nearest? (written_coefficient_pos nonzero) fits small]
    exact nearest?_written nonzero

end Magnitude

namespace Json

/-! ## Whole texts -/

theorem decodeCell_number {negative : Bool} {text : List Char} {value : Binary64}
    (read : readNumber negative text = .ok (.float value, [])) :
    decodeCell .float64 (String.ofList (signedText negative text)) =
      .ok (Cell.ofValue value) := by
  have cell :
      readCell .float64 (signedText negative text) = .ok (Cell.ofValue value, []) :=
    readCell_scalar (readLexeme_number read) rfl rfl
  rw [decodeCell, decodeText, String.toList_ofList, cell]
  rfl

/-! ## The round trip -/

theorem decodeCell_null : decodeCell .float64 "null" = .ok (Cell.null .float64) := by
  rfl

theorem decodeCell_json (negative : Bool) {magnitude back : Magnitude}
    (reread : magnitude.reread? = some back) :
    decodeCell .float64 (String.ofList (Layout.json.write (.finite negative magnitude))) =
      .ok (Cell.ofValue (.finite negative back)) := by
  have read : readNumber negative (Layout.json.magnitude magnitude) =
      .ok (.float (.finite negative back), []) := by
    rw [Magnitude.readNumber_json]
    exact scaledNumber_eq negative reread
  have written : Layout.json.write (.finite negative magnitude) =
      signedText negative (Layout.json.magnitude magnitude) := by
    cases negative with
    | true => rfl
    | false => rfl
  rw [written]
  exact decodeCell_number read

theorem encodeCell_finite {cell : Cell .float64} {negative : Bool} {magnitude : Magnitude}
    (holds : cell.toOption = some (.finite negative magnitude)) :
    encodeCell cell =
      .ok (String.ofList (Layout.json.write (.finite negative magnitude))) := by
  rw [encodeCell, writeCell, holds]
  rfl

theorem encodeCell_notFinite {cell : Cell .float64} {value : Binary64}
    (holds : cell.toOption = some value) (notFinite : value.isFinite = false) :
    encodeCell cell = .error (.unsupported value) := by
  rw [encodeCell, writeCell, holds]
  simp only [scalarOf, notFinite]
  rfl

theorem encodeCell_null {cell : Cell .float64} (holds : cell.toOption = none) :
    encodeCell cell = .ok "null" := by
  rw [encodeCell, writeCell, holds]
  rfl

/-- Only a number that is not finite cannot be written. Every other cell is read back, null
exactly where it was null, and with the same number exactly where the steps of computing it
from its digits come out at it. They do where the digits have at most 53 bits and the power of
ten is small. -/
theorem decodeCell_encodeCell_iff (cell : Cell .float64) :
    (∀ value, cell.toOption = some value → value.isFinite = false →
        encodeCell cell = .error (.unsupported value)) ∧
      ((∀ value, cell.toOption = some value → value.isFinite = true) →
        ∃ text back, encodeCell cell = .ok text ∧ decodeCell .float64 text = .ok back ∧
          back.isNull = cell.isNull ∧
          (back.toOption = cell.toOption ↔
            ∀ negative magnitude, cell.toOption = some (.finite negative magnitude) →
              magnitude.reread? = some magnitude)) ∧
      ∀ negative magnitude, cell.toOption = some (.finite negative magnitude) →
        magnitude.written.coefficient < 2 ^ 53 → magnitude.written.exponent.natAbs ≤ 22 →
          ∃ text, encodeCell cell = .ok text ∧
            decodeCell .float64 text = .ok (.ofValue (.finite negative magnitude)) := by
  refine ⟨fun value holds notFinite => encodeCell_notFinite holds notFinite, ?_,
    fun negative magnitude holds fits small => ⟨_, encodeCell_finite holds,
      decodeCell_json negative (Magnitude.reread?_eq_some_of_short fits small)⟩⟩
  intro finite
  cases holds : cell.toOption with
  | none =>
      refine ⟨"null", Cell.null .float64, encodeCell_null holds, decodeCell_null,
                by rw [isNull_eq, isNull_eq, holds]; rfl, ?_, fun _ => rfl⟩
      rintro - _ _ ⟨⟩
  | some value =>
      cases value with
      | nan => cases finite _ holds
      | infinite negative => cases finite _ holds
      | finite negative magnitude =>
          rcases magnitude.exists_reread? with ⟨back, reread⟩
          refine ⟨_, _, encodeCell_finite holds, decodeCell_json negative reread,
            by rw [isNull_eq, isNull_eq, holds]; rfl, ?_, ?_⟩
          · rintro same _ _ ⟨⟩
            cases same
            exact reread
          · intro same
            rw [same negative magnitude rfl] at reread
            cases reread
            rfl

/-- A number that comes back as the one below it: the product of its digits and the power
of ten, both rounded, lies nearer to that. -/
theorem decodeCell_encodeCell_loses :
    encodeCell (Cell.ofValue (Binary64.ofBits 0x49257b39bda513bd) : Cell .float64) =
        .ok "2.395250542574423e+44" ∧
      decodeCell .float64 "2.395250542574423e+44" =
        .ok (Cell.ofValue (Binary64.ofBits 0x49257b39bda513bc)) ∧
      Binary64.ofBits 0x49257b39bda513bc ≠ Binary64.ofBits 0x49257b39bda513bd := by
  have before : Binary64.ofBits 0x49257b39bda513bd =
      .finite false ⟨0x49257b39bda513bd, by decide⟩ := by decide +kernel
  have after : Binary64.ofBits 0x49257b39bda513bc =
      .finite false ⟨0x49257b39bda513bc, by decide⟩ := by decide +kernel
  have reread : Magnitude.reread? ⟨0x49257b39bda513bd, by decide⟩ =
      some ⟨0x49257b39bda513bc, by decide⟩ := by decide +kernel
  have text : Layout.json.write (.finite false ⟨0x49257b39bda513bd, by decide⟩) =
      "2.395250542574423e+44".toList := by decide +kernel
  have written :
      encodeCell (Cell.ofValue (Binary64.ofBits 0x49257b39bda513bd) : Cell .float64) =
      .ok "2.395250542574423e+44" := by
    rw [before, encodeCell_finite rfl, text, String.ofList_toList]
  have read := decodeCell_json false reread
  rw [text, String.ofList_toList] at read
  refine ⟨written, ?_, ?_⟩
  · rw [after]
    exact read
  · rw [before, after]
    decide +kernel

end Json

end ScalarCell
