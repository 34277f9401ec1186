import ScalarCell.Proofs.Numeric.DecimalText
import ScalarCell.Proofs.Numeric.FewestDigits

namespace ScalarCell

/-! The decimal exponent of a magnitude. The shortest digits stand for another number, whose
first digit may have another exponent: what is just below a power of ten can be written as that
power. It makes no difference at a power that is written so only for a magnitude that is not
below it. -/

open Digits

namespace Decimal

variable {decimal : Decimal} {exponent : Int}

theorem length_digits {number : Nat} (positive : 0 < number) :
    (Numeral.digits number).length = decimalLength number :=
  (if_neg (Nat.ne_of_gt positive)).symm

theorem pow_leadingExponent_le (positive : 0 < decimal.coefficient)
    (le : exponent ≤ decimal.leadingExponent) :
    (powerUnits exponent).1 * (powerUnits decimal.exponent).2 ≤
      decimal.coefficient * (powerUnits decimal.exponent).1 * (powerUnits exponent).2 := by
  rcases Int.le_total exponent decimal.exponent with above | below
  · obtain ⟨moved, exponent_eq⟩ := Int.le.dest above
    have shifted := powerUnits_add exponent moved
    rw [exponent_eq] at shifted
    rw [Nat.mul_assoc decimal.coefficient, ← shifted, Nat.mul_assoc, ← Nat.mul_assoc]
    exact Nat.le_mul_of_pos_left _ (Nat.mul_pos positive (Nat.pow_pos (by decide)))
  · obtain ⟨moved, exponent_eq⟩ := Int.le.dest below
    have shifted := powerUnits_add decimal.exponent moved
    rw [exponent_eq] at shifted
    rw [← shifted]
    apply Nat.mul_le_mul_right
    apply Nat.mul_le_mul_right
    have leading_eq := decimal.leadingExponent_eq
    rw [length_digits positive] at leading_eq
    exact Nat.le_trans (Nat.pow_le_pow_right (by decide) (by omega))
      (pow_pred_decimalLength_le positive)

theorem le_pow_of_leadingExponent_lt (lt : decimal.leadingExponent < exponent) :
    decimal.coefficient * (powerUnits decimal.exponent).1 * (powerUnits exponent).2 ≤
      (powerUnits exponent).1 * (powerUnits decimal.exponent).2 := by
  have leading_eq := decimal.leadingExponent_eq
  obtain ⟨moved, exponent_eq⟩ := Int.le.dest (show decimal.exponent ≤ exponent by omega)
  have shifted := powerUnits_add decimal.exponent moved
  rw [exponent_eq] at shifted
  rw [← shifted]
  apply Nat.mul_le_mul_right
  apply Nat.mul_le_mul_right
  exact Nat.le_trans (Nat.le_of_lt (lt_pow_length_digits decimal.coefficient))
    (Nat.pow_le_pow_right (by decide) (by omega))

end Decimal

namespace Magnitude

variable {magnitude : Magnitude} {exponent : Int}

def Reaches (magnitude : Magnitude) (exponent : Int) : Prop :=
  (powerUnits exponent).1 ≤ magnitude.units * (powerUnits exponent).2

def HasDecimalExponent (magnitude : Magnitude) (exponent : Int) : Prop :=
  magnitude.Reaches exponent ∧ ¬ magnitude.Reaches (exponent + 1)

theorem Reaches.of_le {lower : Int} (reaches : magnitude.Reaches exponent)
    (le : lower ≤ exponent) : magnitude.Reaches lower := by
  obtain ⟨moved, exponent_eq⟩ := Int.le.dest le
  have shifted := powerUnits_add lower moved
  rw [exponent_eq] at shifted
  rw [Reaches] at reaches ⊢
  apply Nat.le_of_mul_le_mul_right _ (powerUnits_pos exponent).2
  calc (powerUnits lower).1 * (powerUnits exponent).2
      ≤ 10 ^ moved * ((powerUnits lower).1 * (powerUnits exponent).2) :=
        Nat.le_mul_of_pos_left _ (Nat.pow_pos (by decide))
    _ = (powerUnits exponent).1 * (powerUnits lower).2 := by rw [← Nat.mul_assoc, shifted]
    _ ≤ magnitude.units * (powerUnits exponent).2 * (powerUnits lower).2 :=
        Nat.mul_le_mul_right _ reaches
    _ = magnitude.units * (powerUnits lower).2 * (powerUnits exponent).2 :=
        Nat.mul_right_comm _ _ _

theorem exists_decimalExponent_iff {low high : Int} :
    (∃ exponent, low ≤ exponent ∧ exponent < high ∧ magnitude.HasDecimalExponent exponent) ↔
      magnitude.Reaches low ∧ ¬ magnitude.Reaches high := by
  constructor
  · rintro ⟨exponent, above, below, reaches, stops⟩
    exact ⟨reaches.of_le above, fun further => stops (further.of_le below)⟩
  · rintro ⟨reaches, stops⟩
    have low_le : low ≤ high := by
      apply Int.le_of_not_gt
      intro high_lt
      exact stops (reaches.of_le (Int.le_of_lt high_lt))
    obtain ⟨steps, rfl⟩ := Int.le.dest low_le
    induction steps with
    | zero => exact absurd reaches (by simpa using stops)
    | succ steps induction =>
        by_cases last : magnitude.Reaches (low + steps)
        · refine ⟨low + steps, by omega, by omega, last, ?_⟩
          rwa [Int.add_assoc]
        · rcases induction last (by omega) with ⟨exponent, above, below, isExponent⟩
          exact ⟨exponent, above, by omega, isExponent⟩

/-! ## The exponent of the shortest digits -/

variable {tie : Tie}

/-- The shortest digits reach a power of ten from the magnitude on that has this power for its
own shortest digits. -/
theorem le_leadingExponent_shortest {power : Magnitude} (nonzero : magnitude ≠ .zero)
    (written : power.shortest tie = ⟨1, exponent⟩) :
    exponent ≤ (magnitude.shortest tie).leadingExponent ↔ power.code ≤ magnitude.code := by
  have power_nonzero : power ≠ .zero := by
    rintro rfl
    rw [shortest_zero] at written
    cases written
  have read := nearest?_eq_some_iff.mp
    (Decimal.nearest?_units_of_reads (magnitude.nearest?_shortest tie) nonzero)
  have powerRead := nearest?_eq_some_iff.mp
    (Decimal.nearest?_units_of_reads (power.nearest?_shortest tie) power_nonzero)
  rw [written, Nat.one_mul] at powerRead
  have parts_pos := (powerUnits_pos (magnitude.shortest tie).exponent).2
  have powerParts_pos := (powerUnits_pos exponent).2
  constructor
  · intro above
    rw [← read, ← powerRead]
    exact nearestCode_mono powerParts_pos parts_pos
      (Decimal.pow_leadingExponent_le (shortest_bounds nonzero tie).1 above)
  · intro code_le
    apply Int.le_of_not_gt
    intro below
    have le_code := nearestCode_mono parts_pos powerParts_pos
      (Decimal.le_pow_of_leadingExponent_lt below)
    rw [read, powerRead] at le_code
    have leading_eq := Decimal.leadingExponent_eq ⟨1, exponent⟩
    rw [show (Numeral.digits 1).length = 1 from rfl] at leading_eq
    rw [eq_of_code_eq (Nat.le_antisymm le_code code_le), written] at below
    simp only at leading_eq
    omega

theorem le_leadingExponent_shortest_iff (power previous : Magnitude)
    (nonzero : magnitude ≠ .zero) (written : power.shortest tie = ⟨1, exponent⟩) (reaches : power.Reaches exponent)
    (next : power.code = previous.code + 1) (first : ¬ previous.Reaches exponent) :
    exponent ≤ (magnitude.shortest tie).leadingExponent ↔ magnitude.Reaches exponent := by
  rw [le_leadingExponent_shortest nonzero written]
  constructor
  · intro code_le
    exact Nat.le_trans reaches (Nat.mul_le_mul_right _ (units_mono code_le))
  · intro magnitudeReaches
    apply Nat.le_of_not_lt
    intro below
    apply first
    exact Nat.le_trans magnitudeReaches
      (Nat.mul_le_mul_right _ (units_mono (show magnitude.code ≤ previous.code by omega)))

instance (magnitude : Magnitude) (exponent : Int) : Decidable (magnitude.Reaches exponent) :=
  inferInstanceAs (Decidable (_ ≤ _))

def tenThousandth : Magnitude := ⟨0x3F1A36E2EB1C432D, by decide⟩

def million : Magnitude := ⟨0x412E848000000000, by decide⟩

theorem leadingExponent_shortest_iff (nonzero : magnitude ≠ .zero) (tie : Tie) :
    (-4 ≤ (magnitude.shortest tie).leadingExponent ∧
      (magnitude.shortest tie).leadingExponent < 6) ↔
      ∃ exponent, -4 ≤ exponent ∧ exponent < 6 ∧ magnitude.HasDecimalExponent exponent := by
  have low : -4 ≤ (magnitude.shortest tie).leadingExponent ↔ magnitude.Reaches (-4) :=
    le_leadingExponent_shortest_iff tenThousandth ⟨0x3F1A36E2EB1C432C, by decide⟩ nonzero
      (by cases tie <;> decide +kernel) (by decide +kernel) (by decide) (by decide +kernel)
  have high : 6 ≤ (magnitude.shortest tie).leadingExponent ↔ magnitude.Reaches 6 :=
    le_leadingExponent_shortest_iff million ⟨0x412E847FFFFFFFFF, by decide⟩ nonzero
      (by cases tie <;> decide +kernel) (by decide +kernel) (by decide) (by decide +kernel)
  rw [exists_decimalExponent_iff, low, ← high, Int.not_le]

end Magnitude

end ScalarCell
