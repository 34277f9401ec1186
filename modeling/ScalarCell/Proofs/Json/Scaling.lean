import ScalarCell.Json.Number
import ScalarCell.Proofs.Numeric.Shortest

namespace ScalarCell.Json

/-! Scaling digits by a power of ten cannot fail where digits and power come from the
shortest digits of a number. It rounds only once where both are numbers themselves. -/

open Magnitude

theorem ofNat?_mono {number other : Nat} {greater : Magnitude} (le : number ≤ other)
    (found : ofNat? other = some greater) :
    ∃ less, ofNat? number = some less ∧ less.units ≤ greater.units :=
  nearest?_mono (by decide) (by decide)
    (Nat.mul_le_mul_right 1 (Nat.mul_le_mul_right unitsPerOne le)) found

theorem multiply?_mono {left right otherLeft otherRight greater : Magnitude}
    (left_le : left.units ≤ otherLeft.units) (right_le : right.units ≤ otherRight.units)
    (found : otherLeft.multiply? otherRight = some greater) :
    ∃ less, left.multiply? right = some less ∧ less.units ≤ greater.units :=
  nearest?_mono unitsPerOne_pos unitsPerOne_pos
    (Nat.mul_le_mul_right _ (Nat.mul_le_mul left_le right_le)) found

theorem exists_divide? {left right : Magnitude} (atLeastOne : unitsPerOne ≤ right.units) :
    ∃ quotient, left.divide? right = some quotient ∧ quotient.units ≤ left.units := by
  apply nearest?_mono (Nat.lt_of_lt_of_le unitsPerOne_pos atLeastOne) (by decide) _
    (nearest?_units left)
  rw [Nat.mul_one]
  exact Nat.mul_le_mul_left _ atLeastOne

theorem powerOfTen?_mono {exponent other : Nat} {greater : Magnitude}
    (le : exponent ≤ other) (found : powerOfTen? other = some greater) :
    ∃ less, powerOfTen? exponent = some less ∧ less.units ≤ greater.units := by
  rw [powerOfTen?] at found ⊢
  exact ofNat?_mono (Nat.pow_le_pow_right (by decide) le) found

theorem powerOfTen?_exact :
    ((List.range 23).all fun exponent => (powerOfTen? exponent).any fun power =>
      power.units = 10 ^ exponent * unitsPerOne) = true := by
  decide +kernel

theorem exists_powerOfTen?_eq {exponent : Nat} (small : exponent ≤ 22) :
    ∃ power, powerOfTen? exponent = some power ∧
    power.units = 10 ^ exponent * unitsPerOne := by
  have member : exponent ∈ List.range 23 := List.mem_range.mpr (Nat.lt_succ_of_le small)
  have checked := List.all_eq_true.mp powerOfTen?_exact exponent member
  rcases (Option.any_eq_true _ _).mp checked with ⟨power, power_eq, units_eq⟩
  exact ⟨power, power_eq, of_decide_eq_true units_eq⟩

theorem powerOfTen?_zero : ∃ one, powerOfTen? 0 = some one ∧ one.units = unitsPerOne := by
  rcases exists_powerOfTen?_eq (Nat.zero_le 22) with ⟨one, one_eq, units_eq⟩
  rw [Nat.pow_zero, Nat.one_mul] at units_eq
  exact ⟨one, one_eq, units_eq⟩

/-- The greatest digits for a power of ten, at most 17 and below the bound. -/
def greatestDigits (exponent : Nat) : Nat :=
  min (10 ^ 17) ((decimalBound - 1) / 10 ^ exponent)

/-- The greatest digits are in range for every power of ten where the bound matters. -/
theorem scale?_greatestDigits :
    ((List.range 19).all fun index =>
      (scale? (greatestDigits (290 + index)) (.ofNat (290 + index))).isSome) = true := by
  decide +kernel

theorem scale?_ofNat {significand exponent : Nat} {left : Magnitude}
    (le : exponent ≤ greatestPower) (left_eq : ofNat? significand = some left) :
    scale? significand (.ofNat exponent) =
      (powerOfTen? exponent).bind left.multiply? := by
  rw [scale?, left_eq]
  exact if_pos le

theorem exists_of_scale?_ofNat {significand exponent : Nat} {product : Magnitude}
    (le : exponent ≤ greatestPower)
    (found : scale? significand (.ofNat exponent) = some product) :
    ∃ left right, ofNat? significand = some left ∧ powerOfTen? exponent = some right ∧
      left.multiply? right = some product := by
  rcases Option.bind_eq_some_iff.mp found with ⟨left, left_eq, -⟩
  rw [scale?_ofNat le left_eq] at found
  rcases Option.bind_eq_some_iff.mp found with ⟨right, right_eq, product_eq⟩
  exact ⟨left, right, left_eq, right_eq, product_eq⟩

theorem exists_powerOfTen?_greatest : ∃ greatest, powerOfTen? greatestPower = some greatest := by
  have checked := List.all_eq_true.mp scale?_greatestDigits 18 (by decide)
  rcases Option.isSome_iff_exists.mp checked with ⟨product, found⟩
  rcases exists_of_scale?_ofNat (Nat.le_refl greatestPower) found with
    ⟨left, greatest, -, greatest_eq, -⟩
  exact ⟨greatest, greatest_eq⟩

theorem exists_powerOfTen? {exponent : Nat} (le : exponent ≤ greatestPower) :
    ∃ power, powerOfTen? exponent = some power ∧ unitsPerOne ≤ power.units := by
  rcases exists_powerOfTen?_greatest with ⟨greatest, greatest_eq⟩
  rcases powerOfTen?_mono le greatest_eq with ⟨power, power_eq, -⟩
  rcases powerOfTen?_mono (Nat.zero_le exponent) power_eq with ⟨one, one_eq, atLeastOne⟩
  rcases powerOfTen?_zero with ⟨_, same, units_eq⟩
  rcases Option.some.inj (one_eq.symm.trans same) with rfl
  rw [units_eq] at atLeastOne
  exact ⟨power, power_eq, atLeastOne⟩

theorem exists_divideInSteps? (steps : Nat) (magnitude : Magnitude) {last : Nat}
    (le : last ≤ greatestPower) :
    ∃ quotient, divideInSteps? steps magnitude last = some quotient := by
  induction steps generalizing magnitude with
  | zero =>
      rcases exists_powerOfTen? le with ⟨power, power_eq, atLeastOne⟩
      rcases exists_divide? atLeastOne with ⟨quotient, quotient_eq, -⟩
      exact ⟨quotient, by rw [divideInSteps?, power_eq, Option.bind_some, quotient_eq]⟩
  | succ steps induction =>
      rw [divideInSteps?]
      split
      · exact ⟨.zero, rfl⟩
      · rcases exists_powerOfTen? (Nat.le_refl greatestPower) with
          ⟨power, power_eq, atLeastOne⟩
        rcases exists_divide? atLeastOne with ⟨quotient, quotient_eq, -⟩
        rw [power_eq, Option.bind_some, quotient_eq, Option.bind_some]
        exact induction quotient

theorem exists_scale?_of_le {significand other exponent otherExponent : Nat}
    (significand_le : significand ≤ other) (exponent_le : exponent ≤ otherExponent)
    (le : otherExponent ≤ greatestPower)
    (found : (scale? other (.ofNat otherExponent)).isSome = true) :
    ∃ magnitude, scale? significand (.ofNat exponent) = some magnitude := by
  rcases Option.isSome_iff_exists.mp found with ⟨greater, found⟩
  rcases exists_of_scale?_ofNat le found with
      ⟨otherLeft, otherRight, otherLeft_eq, otherRight_eq, product⟩
  rcases ofNat?_mono significand_le otherLeft_eq with ⟨left, left_eq, left_le⟩
  rcases powerOfTen?_mono exponent_le otherRight_eq with ⟨right, right_eq, right_le⟩
  rcases multiply?_mono left_le right_le product with ⟨less, less_eq, -⟩
  refine ⟨less, ?_⟩
  rw [scale?_ofNat (Nat.le_trans exponent_le le) left_eq, right_eq,
    Option.bind_some, less_eq]

theorem exists_scale?_ofNat {significand exponent : Nat} (positive : 0 < significand)
    (short : significand ≤ 10 ^ 17)
    (bounded : significand * 10 ^ exponent < decimalBound) :
    ∃ magnitude, scale? significand (.ofNat exponent) = some magnitude := by
  have power_lt : 10 ^ exponent < 10 ^ (greatestPower + 1) :=
    calc 10 ^ exponent ≤ significand * 10 ^ exponent := Nat.le_mul_of_pos_left _ positive
      _ < decimalBound := bounded
      _ ≤ 10 ^ (greatestPower + 1) := decimalBound_le (Nat.lt_succ_self greatestPower)
  have exponent_lt : exponent < greatestPower + 1 :=
    (Nat.pow_lt_pow_iff_right (by decide)).mp power_lt
  have checked := List.all_eq_true.mp scale?_greatestDigits
  by_cases early : exponent ≤ 290
  · have greatest : significand ≤ greatestDigits 290 := by
      have digits_eq : greatestDigits 290 = 10 ^ 17 := by decide +kernel
      rw [digits_eq]
      exact short
    exact exists_scale?_of_le greatest early (by decide) (checked 0 (by decide))
  · rcases Nat.exists_eq_add_of_le (Nat.le_of_not_le early) with ⟨index, rfl⟩
    have greatest : significand ≤ greatestDigits (290 + index) := by
      apply Nat.le_min.mpr ⟨short, _⟩
      rw [Nat.le_div_iff_mul_le (Nat.pow_pos (by decide))]
      exact Nat.le_sub_one_of_lt bounded
    have power_le : 290 + index ≤ greatestPower := Nat.le_of_lt_succ exponent_lt
    have member : index ∈ List.range 19 := by
      rw [greatestPower] at power_le
      exact List.mem_range.mpr (by omega)
    exact exists_scale?_of_le greatest (Nat.le_refl _) power_le (checked index member)

theorem exists_scale?_negSucc {significand : Nat} (short : significand ≤ 10 ^ 17)
    (exponent : Nat) :
    ∃ magnitude, scale? significand (.negSucc exponent) = some magnitude := by
  rcases exists_powerOfTen? (show 17 ≤ greatestPower by decide) with ⟨greater, found, -⟩
  rw [powerOfTen?] at found
  rcases ofNat?_mono short found with ⟨magnitude, magnitude_eq, -⟩
  rw [scale?, magnitude_eq, Option.bind_some]
  apply exists_divideInSteps?
  have remainder := Nat.div_add_mod' exponent greatestPower
  have remainder_lt : exponent % greatestPower < greatestPower := Nat.mod_lt _ (by decide)
  omega

/-! ## Scaling in one rounding

Where the power of ten is a number itself, only the product or the quotient is rounded. -/

/-- Digits that are a number are scaled by a small power of ten to the nearest number. -/
theorem scale?_eq_nearest? {significand : Nat} {exponent : Int}
    (positive : 0 < significand) (fits : significand < 2 ^ 53)
    (small : exponent.natAbs ≤ 22) :
    scale? significand exponent = Decimal.nearest? ⟨significand, exponent⟩ := by
  rcases exists_ofNat?_eq fits with ⟨left, left_eq, leftUnits_eq⟩
  rw [Decimal.nearest?_eq positive (by simp only; omega) (by simp only; omega)]
  cases exponent with
  | ofNat exponent =>
      have small : exponent ≤ 22 := small
      rcases exists_powerOfTen?_eq small with ⟨right, right_eq, rightUnits_eq⟩
      have inRange : exponent ≤ greatestPower := Nat.le_trans small (by decide)
      rw [scale?_ofNat inRange left_eq, right_eq, Option.bind_some, multiply?,
        leftUnits_eq, rightUnits_eq]
      simp only [powerUnits]
      apply nearest?_congr unitsPerOne_pos Nat.one_pos
      generalize unitsPerOne = one
      ac_rfl
  | negSucc exponent =>
      have small : exponent + 1 ≤ 22 := small
      rcases exists_powerOfTen?_eq small with ⟨right, right_eq, rightUnits_eq⟩
      have noSteps : exponent / greatestPower = 0 :=
        Nat.div_eq_of_lt (Nat.lt_of_lt_of_le small (by decide))
      have power_pos : 0 < 10 ^ (exponent + 1) := Nat.pow_pos (by decide)
      have divisor_pos := Nat.mul_pos power_pos unitsPerOne_pos
      rw [scale?, left_eq, Option.bind_some]
      simp only [noSteps, Nat.zero_mul, Nat.sub_zero, powerUnits]
      rw [divideInSteps?, right_eq, Option.bind_some, divide?, leftUnits_eq,
        rightUnits_eq]
      apply nearest?_congr divisor_pos power_pos
      generalize unitsPerOne = one
      ac_rfl

end ScalarCell.Json
