import ScalarCell.Proofs.Numeric.Shortest

namespace ScalarCell

/-! The shortest decimal number of a magnitude has the fewest digits of all that read back as
it. The search tries grids of more and more digits; between two neighbours on a grid there is
no decimal number with as few digits, so a grid that is passed over rules all of them out. -/

theorem decimalLength_le {number length : Nat} (short : number < 10 ^ length) :
    decimalLength number ≤ length := by
  rcases Nat.eq_zero_or_pos number with rfl | positive
  · exact Nat.zero_le _
  · have power_lt := Nat.lt_of_le_of_lt (pow_pred_decimalLength_le positive) short
    have pred_lt := (Nat.pow_lt_pow_iff_right (by decide)).mp power_lt
    omega

namespace Decimal

theorem nearest?_of_coefficient_zero {decimal : Decimal} (zero : decimal.coefficient = 0) :
    decimal.nearest? = some .zero := by
  rcases decimal with ⟨coefficient, exponent⟩
  obtain rfl : coefficient = 0 := zero
  cases exponent with
  | ofNat exponent => rfl
  | negSucc exponent =>
      rw [nearest?]
      simp only [Nat.zero_mul, Magnitude.nearest?_zero, ite_self]

theorem nearest?_units_of_reads {decimal : Decimal} {magnitude : Magnitude}
    (reads : decimal.nearest? = some magnitude) (nonzero : magnitude ≠ .zero) :
    Magnitude.nearest? (decimal.coefficient * (powerUnits decimal.exponent).1)
      (powerUnits decimal.exponent).2 = some magnitude := by
  have coefficient_ne : decimal.coefficient ≠ 0 := by
    intro zero
    rw [nearest?_of_coefficient_zero zero] at reads
    exact nonzero (Option.some.inj reads).symm
  rcases decimal with ⟨coefficient, exponent⟩
  cases exponent with
  | ofNat exponent =>
      rw [nearest?] at reads
      simp only [coefficient_ne, if_false] at reads
      split at reads
      · cases reads
      · rw [powerUnits, Nat.mul_comm unitsPerOne, ← Nat.mul_assoc]
        exact reads
  | negSucc exponent =>
      rw [nearest?] at reads
      simp only at reads
      split at reads
      · exact absurd (Option.some.inj reads).symm nonzero
      · simpa only [powerUnits] using reads

theorem trim_pow (exponent : Int) {power fuel : Nat} (enough : power ≤ fuel) :
    (trim fuel ⟨10 ^ power, exponent⟩).coefficient = 1 := by
  induction power generalizing fuel exponent with
  | zero => cases fuel <;> rfl
  | succ power induction =>
      obtain ⟨fuel, rfl⟩ := Nat.exists_eq_add_one.mpr (Nat.lt_of_lt_of_le power.succ_pos enough)
      have divisible : 10 ^ (power + 1) % 10 = 0 := by omega
      rw [trim, if_pos divisible]
      simp only [Nat.pow_succ, Nat.mul_div_cancel _ (show 0 < 10 by decide)]
      exact induction _ (Nat.le_of_succ_le_succ enough)

end Decimal

namespace Magnitude

variable {magnitude : Magnitude} {decimal : Decimal} {count : Nat} {exponent : Int}

theorem le_or_succ_le_of_short (exponent other : Int) {steps coefficient : Nat}
    (digits : 10 ^ count ≤ steps) (short : coefficient < 10 ^ (count + 1)) :
    coefficient * (powerUnits other).1 * (powerUnits exponent).2 ≤
        steps * (powerUnits exponent).1 * (powerUnits other).2 ∨
      (steps + 1) * (powerUnits exponent).1 * (powerUnits other).2 ≤
        coefficient * (powerUnits other).1 * (powerUnits exponent).2 := by
  by_cases coarser : exponent ≤ other
  · obtain ⟨moved, rfl⟩ : ∃ moved : Nat, other = exponent + moved :=
      ⟨(other - exponent).toNat, by omega⟩
    have onGrid : coefficient * (powerUnits (exponent + moved)).1 * (powerUnits exponent).2 =
        coefficient * 10 ^ moved * (powerUnits exponent).1 *
          (powerUnits (exponent + moved)).2 := by
      rw [Nat.mul_assoc, ← powerUnits_add]
      simp only [Nat.mul_assoc]
    rw [onGrid]
    rcases Nat.lt_or_ge steps (coefficient * 10 ^ moved) with above | below
    · right
      exact Nat.mul_le_mul_right _ (Nat.mul_le_mul_right _ above)
    · left
      exact Nat.mul_le_mul_right _ (Nat.mul_le_mul_right _ below)
  · obtain ⟨moved, rfl⟩ : ∃ moved : Nat, exponent = other + (moved + 1 : Nat) :=
      ⟨(exponent - other - 1).toNat, by omega⟩
    left
    have coefficient_le : coefficient ≤ steps * 10 ^ (moved + 1) := by
      calc coefficient ≤ 10 ^ count * 10 ^ 1 := by
            rw [← Nat.pow_add]
            exact Nat.le_of_lt short
        _ ≤ steps * 10 ^ (moved + 1) :=
            Nat.mul_le_mul digits (Nat.pow_le_pow_right (by decide) (by omega))
    rw [Nat.mul_assoc steps, ← powerUnits_add, ← Nat.mul_assoc, ← Nat.mul_assoc]
    exact Nat.mul_le_mul_right _ (Nat.mul_le_mul_right _ coefficient_le)

/-- Where a decimal number of few digits reads back, a neighbour on the grid of as many
digits does so, for it is nearer or equal. -/
theorem exists_closestOnGrid?_of_short (nonzero : magnitude ≠ .zero) (tie : Tie)
    (reads : decimal.nearest? = some magnitude)
    (short : decimal.coefficient < 10 ^ (count + 1))
    (scale_eq : exponent + (count + 1 : Nat) = magnitude.decimalScale)
    (low : -342 ≤ exponent) (high : exponent ≤ 400) :
    ∃ found, magnitude.closestOnGrid? tie exponent = some found := by
  rcases magnitude.closestOnGrid?_cases tie exponent with
    ⟨found, onGrid, -⟩ | ⟨-, lowerMisses, upperMisses⟩
  · exact ⟨found, onGrid⟩
  exfalso
  have steps_ge := (wholeSteps_bounds nonzero scale_eq).1
  have steps_pos : 0 < magnitude.wholeSteps exponent :=
    Nat.lt_of_lt_of_le (Nat.pow_pos (by decide)) steps_ge
  rw [Decimal.nearest?_eq steps_pos low high] at lowerMisses
  rw [Decimal.nearest?_eq (Nat.succ_pos _) low high] at upperMisses
  have reads := nearest?_eq_some_iff.mp (Decimal.nearest?_units_of_reads reads nonzero)
  rcases powerUnits_pos exponent with ⟨power_pos, parts_pos⟩
  have otherParts_pos := (powerUnits_pos decimal.exponent).2
  have own := nearestCode_units magnitude
  rcases le_or_succ_le_of_short exponent decimal.exponent steps_ge short with
    below | above
  · -- The decimal number is at most the lower neighbour, and that at most the magnitude.
    apply lowerMisses
    rw [nearest?_eq_some_iff]
    apply Nat.le_antisymm
    · rw [← own]
      apply nearestCode_mono parts_pos Nat.one_pos
      rw [Nat.mul_one]
      exact (magnitude.wholeSteps_neighbours exponent).1
    · rw [← reads]
      exact nearestCode_mono otherParts_pos parts_pos below
  · apply upperMisses
    rw [nearest?_eq_some_iff]
    apply Nat.le_antisymm
    · rw [← reads]
      exact nearestCode_mono parts_pos otherParts_pos above
    · rw [← own]
      apply nearestCode_mono Nat.one_pos parts_pos
      rw [Nat.mul_one]
      exact Nat.le_of_lt (magnitude.wholeSteps_neighbours exponent).2

/-- The search goes no further than to the grid of as many digits as some decimal number has
that reads back. -/
theorem le_exponent_shortestFrom (nonzero : magnitude ≠ .zero) (tie : Tie)
    (reads : decimal.nearest? = some magnitude) {most : Nat}
    (short : decimal.coefficient < 10 ^ most) {left : Nat}
    (scale_eq : exponent + (count + 1 : Nat) = magnitude.decimalScale)
    (early : count + 1 ≤ most) (enough : most ≤ count + 1 + left)
    (low : -342 ≤ exponent - left) (high : exponent ≤ 400) :
    magnitude.decimalScale ≤
      (magnitude.shortestFrom tie (left + 1) exponent).exponent + most := by
  have stops {left : Nat} {exponent : Int} {found : Decimal}
      (onGrid : magnitude.closestOnGrid? tie exponent = some found) :
      (magnitude.shortestFrom tie (left + 1) exponent).exponent = exponent := by
    rw [shortestFrom, onGrid]
    exact exponent_of_closestOnGrid? onGrid
  induction left generalizing exponent count with
  | zero =>
      obtain rfl : most = count + 1 := by omega
      rcases exists_closestOnGrid?_of_short nonzero tie reads short scale_eq (by omega) high
        with ⟨found, onGrid⟩
      rw [stops onGrid]
      omega
  | succ left induction =>
      cases onGrid : magnitude.closestOnGrid? tie exponent with
      | some found =>
          rw [stops onGrid]
          omega
      | none =>
          have further : count + 1 ≠ most := by
            rintro rfl
            rcases exists_closestOnGrid?_of_short nonzero tie reads short scale_eq
              (by omega) high with ⟨found, isOnGrid⟩
            rw [onGrid] at isOnGrid
            cases isOnGrid
          rw [shortestFrom, onGrid]
          have nextScale :
              exponent - 1 + (count + 1 + 1 : Nat) = magnitude.decimalScale := by omega
          exact induction nextScale (by omega) (by omega) (by omega) (by omega)

/-- No decimal number that reads back has fewer digits than the shortest one. -/
theorem shortest_fewest (magnitude : Magnitude) (tie : Tie) {decimal : Decimal}
    (reads : decimal.nearest? = some magnitude) :
    decimalLength (magnitude.shortest tie).coefficient ≤
      decimalLength decimal.coefficient := by
  by_cases nonzero : magnitude = .zero
  · rw [nonzero, shortest_zero]
    exact Nat.zero_le _
  have positive : 0 < decimal.coefficient := by
    apply Nat.pos_of_ne_zero
    intro zero
    rw [Decimal.nearest?_of_coefficient_zero zero] at reads
    exact nonzero (Option.some.inj reads).symm
  have short := lt_pow_decimalLength decimal.coefficient
  have some_digits := decimalLength_pos positive
  generalize decimalLength decimal.coefficient = most at short some_digits ⊢
  by_cases many : 18 ≤ most
  · apply decimalLength_le
    calc (magnitude.shortest tie).coefficient ≤ 10 ^ 17 := (shortest_bounds nonzero tie).2.1
      _ < 10 ^ 18 := by decide
      _ ≤ 10 ^ most := Nat.pow_le_pow_right (by decide) many
  · have scale_ge : -324 ≤ magnitude.decimalScale := by
      rw [decimalScale]
      omega
    have scale_le := decimalScale_le nonzero
    have oneDigit :
        magnitude.decimalScale - 1 + (0 + 1 : Nat) = magnitude.decimalScale := by omega
    have least : magnitude.decimalScale ≤
        (magnitude.shortestFrom tie (16 + 1) (magnitude.decimalScale - 1)).exponent + most :=
      le_exponent_shortestFrom nonzero tie reads short oneDigit some_digits (by omega)
        (by omega) (by omega)
    rw [shortest, if_neg nonzero]
    generalize outcome : magnitude.shortestFrom tie 17 (magnitude.decimalScale - 1) = found
      at least ⊢
    rcases shortestFrom_grid nonzero tie outcome with ⟨tried, -, onGrid, -, -, found_le⟩
    have found_le : found.coefficient ≤ 10 ^ most :=
      Nat.le_trans found_le (Nat.pow_le_pow_right (by decide) (by omega))
    rcases Nat.lt_or_eq_of_le found_le with below | power
    · rcases found.exists_trim 18 with ⟨moved, -, -, coefficient_eq⟩
      apply decimalLength_le
      apply Nat.lt_of_le_of_lt _ below
      rw [coefficient_eq]
      exact Nat.le_mul_of_pos_right _ (Nat.pow_pos (by decide))
    · rcases found with ⟨coefficient, exponent⟩
      obtain rfl : coefficient = 10 ^ most := power
      rw [Decimal.trim_pow exponent (by omega)]
      exact some_digits

end Magnitude

end ScalarCell
