import ScalarCell.Numeric.Binary64.Shortest
import ScalarCell.Proofs.Numeric.Rounding

namespace ScalarCell

/-! The shortest decimal number of a magnitude: how many digits it has, how great it can
be, and that rounding takes it back to the magnitude. -/

theorem lt_pow_decimalLength (number : Nat) : number < 10 ^ decimalLength number := by
  rw [decimalLength]
  split
  · rename_i zero
    rw [zero]
    decide
  · exact (Nat.length_toDigits_le_iff (by decide) Nat.length_toDigits_pos).mp
      (Nat.le_refl _)

theorem pow_pred_decimalLength_le {number : Nat} (positive : 0 < number) :
    10 ^ (decimalLength number - 1) ≤ number := by
  rw [decimalLength, if_neg (Nat.ne_of_gt positive)]
  by_cases single : (Nat.toDigits 10 number).length - 1 = 0
  · rw [single]
    exact positive
  · apply Nat.le_of_not_lt
    intro fewer
    have shorter :=
      (Nat.length_toDigits_le_iff (by decide) (Nat.pos_of_ne_zero single)).mpr fewer
    omega

theorem decimalLength_pos {number : Nat} (positive : 0 < number) :
    0 < decimalLength number := by
  rw [decimalLength, if_neg (Nat.ne_of_gt positive)]
  exact Nat.length_toDigits_pos

/-! ## Powers of ten in units -/

def powerUnits : (exponent : Int) → Nat × Nat
  | .ofNat exponent => (unitsPerOne * 10 ^ exponent, 1)
  | .negSucc exponent => (unitsPerOne, 10 ^ (exponent + 1))

theorem powerUnits_pos (exponent : Int) :
    0 < (powerUnits exponent).1 ∧ 0 < (powerUnits exponent).2 := by
  cases exponent with
  | ofNat exponent =>
      have power_pos : 0 < 10 ^ exponent := Nat.pow_pos (by decide)
      have units_pos := Nat.mul_pos unitsPerOne_pos power_pos
      simp only [powerUnits]
      exact ⟨units_pos, Nat.one_pos⟩
  | negSucc exponent =>
      have power_pos : 0 < 10 ^ (exponent + 1) := Nat.pow_pos (by decide)
      simp only [powerUnits]
      exact ⟨unitsPerOne_pos, power_pos⟩

theorem powerUnits_add (exponent : Int) (moved : Nat) :
    10 ^ moved * (powerUnits exponent).1 * (powerUnits (exponent + moved)).2 =
      (powerUnits (exponent + moved)).1 * (powerUnits exponent).2 := by
  cases exponent with
  | ofNat exponent =>
      have sum_eq : Int.ofNat exponent + moved = .ofNat (exponent + moved) := rfl
      rw [sum_eq, powerUnits, powerUnits]
      simp only [Nat.mul_one]
      generalize unitsPerOne = one
      rw [Nat.pow_add, Nat.mul_left_comm, Nat.mul_comm (10 ^ moved)]
  | negSucc exponent =>
      by_cases whole : exponent + 1 ≤ moved
      · rcases Nat.exists_eq_add_of_le whole with ⟨rest, rfl⟩
        have sum_eq :
            Int.negSucc exponent + (exponent + 1 + rest : Nat) = .ofNat rest := by
          rw [Int.negSucc_eq, Int.ofNat_eq_natCast]
          omega
        rw [sum_eq, powerUnits, powerUnits]
        simp only [Nat.mul_one]
        generalize unitsPerOne = one
        rw [Nat.pow_add, Nat.mul_comm, Nat.mul_comm (10 ^ (exponent + 1)), Nat.mul_assoc]
      · have sum_eq : Int.negSucc exponent + moved = .negSucc (exponent - moved) := by
          rw [Int.negSucc_eq, Int.negSucc_eq]
          omega
        rw [sum_eq, powerUnits, powerUnits]
        simp only
        generalize unitsPerOne = one
        rw [Nat.mul_comm (10 ^ moved), Nat.mul_assoc, ← Nat.pow_add]
        congr 2
        omega

theorem Decimal.nearest?_eq {decimal : Decimal} (positive : 0 < decimal.coefficient)
    (low : -342 ≤ decimal.exponent) (high : decimal.exponent ≤ 400) :
    decimal.nearest? =
      Magnitude.nearest? (decimal.coefficient * (powerUnits decimal.exponent).1)
        (powerUnits decimal.exponent).2 := by
  rcases decimal with ⟨coefficient, exponent⟩
  have nonzero : coefficient ≠ 0 := Nat.ne_of_gt positive
  cases exponent with
  | ofNat exponent =>
      have inRange : ¬ 400 < exponent := by
        simp only [Int.ofNat_eq_natCast] at high
        omega
      rw [Decimal.nearest?, powerUnits]
      simp only [nonzero, inRange, if_false, Nat.mul_assoc, Nat.mul_comm unitsPerOne]
  | negSucc exponent =>
      have inRange : ¬ coefficient.log2 + 1100 < exponent := by
        simp only [Int.negSucc_eq] at low
        omega
      rw [Decimal.nearest?, powerUnits]
      simp only [inRange, if_false]

theorem Decimal.nearest?_eq_of_moved {decimal other : Decimal} {moved : Nat}
    (exponent_eq : other.exponent = decimal.exponent + moved)
    (coefficient_eq : decimal.coefficient = other.coefficient * 10 ^ moved)
    (positive : 0 < decimal.coefficient) (low : -342 ≤ decimal.exponent)
    (high : other.exponent ≤ 400) : other.nearest? = decimal.nearest? := by
  have otherPositive : 0 < other.coefficient := by
    rw [coefficient_eq] at positive
    exact Nat.pos_of_mul_pos_right positive
  rw [nearest?_eq otherPositive (by omega) high, nearest?_eq positive low (by omega)]
  apply Magnitude.nearest?_congr (powerUnits_pos _).2 (powerUnits_pos _).2
  rw [exponent_eq, coefficient_eq, Nat.mul_assoc, ← powerUnits_add]
  simp only [Nat.mul_assoc]

namespace Magnitude

def wholeSteps (magnitude : Magnitude) (exponent : Int) : Nat :=
  (magnitude.stepsOfTen exponent).1 / (magnitude.stepsOfTen exponent).2

theorem units_bounds {magnitude : Magnitude} (nonzero : magnitude ≠ .zero) :
    ∃ length places : Nat, magnitude.decimalScale = length + 1 - places ∧
      unitsPerOne * 10 ^ length ≤ magnitude.units * 10 ^ places ∧
      magnitude.units * 10 ^ places < unitsPerOne * 10 ^ (length + 1) := by
  obtain ⟨places, scale, unitsPerOne_le⟩ : ∃ places : Nat,
      magnitude.decimalScale =
        decimalLength (magnitude.units * 10 ^ places / unitsPerOne) - places ∧
      unitsPerOne ≤ 10 ^ places := ⟨324, rfl, by decide +kernel⟩
  have least : 0 < magnitude.units * 10 ^ places / unitsPerOne :=
    Nat.div_pos (Nat.le_trans unitsPerOne_le
      (Nat.le_mul_of_pos_left _ (units_pos nonzero))) unitsPerOne_pos
  have lower := pow_pred_decimalLength_le least
  have upper := lt_pow_decimalLength (magnitude.units * 10 ^ places / unitsPerOne)
  rcases Nat.exists_eq_add_one.mpr (decimalLength_pos least) with ⟨length, length_eq⟩
  rw [length_eq] at lower upper scale
  refine ⟨length, places, scale, ?_, ?_⟩
  · rw [Nat.le_div_iff_mul_le unitsPerOne_pos] at lower
    rw [Nat.mul_comm]
    exact lower
  · rw [Nat.div_lt_iff_lt_mul unitsPerOne_pos] at upper
    rw [Nat.mul_comm unitsPerOne]
    exact upper

theorem stepsOfTen_eq (magnitude : Magnitude) (exponent : Int) :
    magnitude.stepsOfTen exponent =
      (magnitude.units * (powerUnits exponent).2, (powerUnits exponent).1) := by
  cases exponent with
  | ofNat exponent =>
      rw [stepsOfTen, powerUnits]
      simp only [Nat.mul_one]
  | negSucc exponent => rw [stepsOfTen, powerUnits]

theorem stepsOfTen_pos (magnitude : Magnitude) (exponent : Int) :
    0 < (magnitude.stepsOfTen exponent).2 := by
  rw [stepsOfTen_eq]
  exact (powerUnits_pos exponent).1

theorem wholeSteps_neighbours (magnitude : Magnitude) (exponent : Int) :
    magnitude.wholeSteps exponent * (powerUnits exponent).1 ≤
        magnitude.units * (powerUnits exponent).2 ∧
      magnitude.units * (powerUnits exponent).2 <
        (magnitude.wholeSteps exponent + 1) * (powerUnits exponent).1 := by
  rw [wholeSteps, stepsOfTen_eq]
  refine ⟨Nat.div_mul_le_self _ _, ?_⟩
  rw [← Nat.div_lt_iff_lt_mul (powerUnits_pos exponent).1]
  exact Nat.lt_succ_self _

theorem wholeSteps_bounds {magnitude : Magnitude} (nonzero : magnitude ≠ .zero)
    {exponent : Int} {count : Nat}
    (scale_eq : exponent + (count + 1 : Nat) = magnitude.decimalScale) :
    10 ^ count ≤ magnitude.wholeSteps exponent ∧
      magnitude.wholeSteps exponent < 10 ^ (count + 1) := by
  rcases units_bounds nonzero with ⟨length, places, scale, lower, upper⟩
  rw [scale] at scale_eq
  have places_pos : 0 < 10 ^ places := Nat.pow_pos (by decide)
  rw [wholeSteps, Nat.le_div_iff_mul_le (stepsOfTen_pos _ _),
    Nat.div_lt_iff_lt_mul (stepsOfTen_pos _ _)]
  cases exponent with
  | ofNat exponent =>
      obtain rfl : length = exponent + count + places := by
        simp only [Int.ofNat_eq_natCast] at scale_eq
        omega
      simp only [stepsOfTen]
      generalize unitsPerOne = one at lower upper ⊢
      constructor
      · apply Nat.le_of_mul_le_mul_right _ places_pos
        rw [Nat.mul_left_comm, Nat.mul_assoc, ← Nat.pow_add, ← Nat.pow_add]
        rw [show exponent + count + places = count + exponent + places by omega] at lower
        exact lower
      · apply Nat.lt_of_mul_lt_mul_right (a := 10 ^ places)
        rw [Nat.mul_left_comm, Nat.mul_assoc, ← Nat.pow_add, ← Nat.pow_add]
        rw [show exponent + count + places + 1 = count + 1 + exponent + places
          by omega] at upper
        exact upper
  | negSucc exponent =>
      have lengthPower :
          10 ^ length * 10 ^ (exponent + 1) = 10 ^ count * 10 ^ places := by
        rw [← Nat.pow_add, ← Nat.pow_add]
        congr 1
        simp only [Int.negSucc_eq] at scale_eq
        omega
      simp only [stepsOfTen]
      generalize unitsPerOne = one at lower upper ⊢
      constructor
      · apply Nat.le_of_mul_le_mul_right _ places_pos
        calc 10 ^ count * one * 10 ^ places
            = one * 10 ^ length * 10 ^ (exponent + 1) := by
              rw [Nat.mul_right_comm, ← lengthPower, Nat.mul_comm _ one, Nat.mul_assoc]
          _ ≤ magnitude.units * 10 ^ places * 10 ^ (exponent + 1) :=
              Nat.mul_le_mul_right _ lower
          _ = magnitude.units * 10 ^ (exponent + 1) * 10 ^ places :=
            Nat.mul_right_comm _ _ _
      · apply Nat.lt_of_mul_lt_mul_right (a := 10 ^ places)
        calc magnitude.units * 10 ^ (exponent + 1) * 10 ^ places
            = magnitude.units * 10 ^ places * 10 ^ (exponent + 1) :=
            Nat.mul_right_comm _ _ _
          _ < one * 10 ^ (length + 1) * 10 ^ (exponent + 1) :=
              Nat.mul_lt_mul_of_pos_right upper (Nat.pow_pos (by decide))
          _ = 10 ^ (count + 1) * one * 10 ^ places := by
              rw [Nat.mul_assoc, Nat.pow_succ, Nat.mul_right_comm (10 ^ length),
                lengthPower, Nat.pow_succ]
              simp only [Nat.mul_assoc, Nat.mul_comm]

/-! ## Grids -/

/-- Of two decimal numbers of seventeen digits around a magnitude one reads back as it: if
both did not, their distance would be more than half of the gaps on both sides. -/
theorem nearest?_neighbours {magnitude : Magnitude} {power parts steps : Nat}
    (parts_pos : 0 < parts) (lower : steps * power ≤ magnitude.units * parts)
    (upper : magnitude.units * parts < (steps + 1) * power) (digits : 10 ^ 16 ≤ steps) :
    nearest? (steps * power) parts = some magnitude ∨
      nearest? ((steps + 1) * power) parts = some magnitude := by
  rw [nearest?_eq_some_iff, nearest?_eq_some_iff]
  have code_le : nearestCode (steps * power) parts ≤ magnitude.code := by
    rw [← nearestCode_units magnitude]
    apply nearestCode_mono parts_pos (by decide)
    rw [Nat.mul_one]
    exact lower
  rcases Nat.lt_or_eq_of_le code_le with below | reads
  · right
    obtain ⟨previous, next_eq⟩ :
        ∃ previous : Magnitude, magnitude.code = previous.code + 1 :=
      ⟨⟨magnitude.code - 1, Nat.lt_of_le_of_lt (Nat.sub_le _ _) magnitude.code_lt⟩,
        by simp only; omega⟩
    have units_eq := units_succ next_eq
    have beforeMiddle :
        2 * (steps * power) ≤ (2 * previous.units + previous.gap) * parts := by
      apply Nat.le_of_not_lt
      intro beyond
      have code_gt := code_lt_nearestCode next_eq parts_pos beyond
      omega
    apply nearestCode_of_lt_middle parts_pos (Nat.le_of_lt upper)
    apply Nat.lt_of_not_le
    intro beyondMiddle
    have gap_le := Nat.mul_le_mul_right parts magnitude.units_add_gap_le
    have previousGap_le := Nat.mul_le_mul_right parts previous.units_add_gap_le
    have many := Nat.mul_le_mul_right power digits
    rw [← units_eq] at previousGap_le
    have previous_mul :
        magnitude.units * parts = previous.units * parts + previous.gap * parts := by
      rw [units_eq, Nat.add_mul]
    rw [Nat.add_mul, Nat.mul_assoc] at beforeMiddle beyondMiddle gap_le
    rw [Nat.mul_assoc] at previousGap_le
    have next_mul : (steps + 1) * power = steps * power + power :=
      Nat.succ_mul steps power
    omega
  · exact .inl reads

/-- What a search comes out with: the whole steps below a magnitude, or one more, whichever
reads back as it. -/
structure Candidate (magnitude : Magnitude) (decimal : Decimal) : Prop where
  neighbour : decimal.coefficient = magnitude.wholeSteps decimal.exponent ∨
    decimal.coefficient = magnitude.wholeSteps decimal.exponent + 1
  reads : decimal.nearest? = some magnitude

theorem closestOnGrid?_cases (magnitude : Magnitude) (tie : Tie) (exponent : Int) :
    (∃ decimal, magnitude.closestOnGrid? tie exponent = some decimal ∧
      decimal.exponent = exponent ∧ magnitude.Candidate decimal) ∨
    (magnitude.closestOnGrid? tie exponent = none ∧
      Decimal.nearest? ⟨magnitude.wholeSteps exponent, exponent⟩ ≠ some magnitude ∧
      Decimal.nearest? ⟨magnitude.wholeSteps exponent + 1, exponent⟩ ≠
        some magnitude) := by
  have lowerCandidate
    (reads : Decimal.nearest? ⟨magnitude.wholeSteps exponent, exponent⟩ =
      some magnitude) : magnitude.Candidate ⟨magnitude.wholeSteps exponent, exponent⟩ :=
    ⟨.inl rfl, reads⟩
  have upperCandidate
    (reads : Decimal.nearest? ⟨magnitude.wholeSteps exponent + 1, exponent⟩ =
      some magnitude) :
      magnitude.Candidate ⟨magnitude.wholeSteps exponent + 1, exponent⟩ :=
    ⟨.inr rfl, reads⟩
  rw [closestOnGrid?]
  rw [wholeSteps] at lowerCandidate upperCandidate ⊢
  generalize magnitude.stepsOfTen exponent = steps at lowerCandidate upperCandidate ⊢
  rcases steps with ⟨numerator, denominator⟩
  simp only at lowerCandidate upperCandidate ⊢
  split
  · rename_i lowerReads upperReads
    left
    have lowerCandidate := lowerCandidate (eq_of_beq lowerReads)
    have upperCandidate := upperCandidate (eq_of_beq upperReads)
    split
    · exact ⟨_, rfl, rfl, lowerCandidate⟩
    · split
      · exact ⟨_, rfl, rfl, upperCandidate⟩
      · cases tie with
        | upward => exact ⟨_, rfl, rfl, upperCandidate⟩
        | toEven =>
            simp only
            split
            · exact ⟨_, rfl, rfl, lowerCandidate⟩
            · exact ⟨_, rfl, rfl, upperCandidate⟩
  · rename_i lowerReads upperReads
    exact .inl ⟨_, rfl, rfl, lowerCandidate (eq_of_beq lowerReads)⟩
  · rename_i lowerReads upperReads
    exact .inl ⟨_, rfl, rfl, upperCandidate (eq_of_beq upperReads)⟩
  · rename_i lowerReads upperReads
    exact .inr ⟨rfl, ne_of_beq_false lowerReads, ne_of_beq_false upperReads⟩

theorem exponent_of_closestOnGrid? {magnitude : Magnitude} {tie : Tie} {exponent : Int}
    {decimal : Decimal} (found : magnitude.closestOnGrid? tie exponent = some decimal) :
    decimal.exponent = exponent := by
  rcases magnitude.closestOnGrid?_cases tie exponent with
    ⟨other, otherFound, exponent_eq, -⟩ | ⟨missed, -, -⟩
  · rw [found] at otherFound
    cases otherFound
    exact exponent_eq
  · rw [found] at missed
    cases missed

theorem exists_closestOnGrid? {magnitude : Magnitude} {exponent : Int} (tie : Tie)
    (digits : 10 ^ 16 ≤ magnitude.wholeSteps exponent) (low : -342 ≤ exponent)
    (high : exponent ≤ 400) :
    ∃ decimal, magnitude.closestOnGrid? tie exponent = some decimal := by
  rcases magnitude.closestOnGrid?_cases tie exponent with
    ⟨decimal, found, -⟩ | ⟨-, lowerMisses, upperMisses⟩
  · exact ⟨decimal, found⟩
  · exfalso
    have some_digits : 0 < 10 ^ 16 := by decide
    rw [Decimal.nearest?_eq (Nat.lt_of_lt_of_le some_digits digits) low high]
      at lowerMisses
    rw [Decimal.nearest?_eq (Nat.succ_pos _) low high] at upperMisses
    rcases magnitude.wholeSteps_neighbours exponent with ⟨lower, upper⟩
    have reads := nearest?_neighbours (powerUnits_pos exponent).2 lower upper digits
    exact reads.elim lowerMisses upperMisses

/-! ## The search -/

/-- The search ends on one of the grids it may try, at the latest on that of seventeen
digits. -/
theorem candidate_shortestFrom {magnitude : Magnitude} (tie : Tie) {left : Nat}
    {exponent : Int}
    (digits : 10 ^ 16 ≤ magnitude.wholeSteps (exponent - left))
    (low : -342 ≤ exponent - left) (high : exponent ≤ 400) :
    ∃ tried ≤ left,
      (magnitude.shortestFrom tie (left + 1) exponent).exponent = exponent - tried ∧
      magnitude.Candidate (magnitude.shortestFrom tie (left + 1) exponent) := by
  induction left generalizing exponent with
  | zero =>
      rw [Int.natCast_zero, Int.sub_zero] at digits low
      rcases magnitude.closestOnGrid?_cases tie exponent with
        ⟨decimal, found, exponent_eq, candidate⟩ | ⟨missed, -, -⟩
      · rw [shortestFrom, found]
        exact ⟨0, Nat.le_refl 0, by simpa using exponent_eq, candidate⟩
      · rcases exists_closestOnGrid? tie digits low high with ⟨decimal, found⟩
        rw [missed] at found
        cases found
  | succ left induction =>
      rcases magnitude.closestOnGrid?_cases tie exponent with
        ⟨decimal, found, exponent_eq, candidate⟩ | ⟨missed, -, -⟩
      · rw [shortestFrom, found]
        exact ⟨0, Nat.zero_le _, by simpa using exponent_eq, candidate⟩
      · have finer : exponent - (left + 1 : Nat) = exponent - 1 - left := by omega
        rw [finer] at digits low
        rcases induction digits low (by omega) with
          ⟨tried, tried_le, exponent_eq, candidate⟩
        rw [shortestFrom, missed]
        refine ⟨tried + 1, by omega, ?_, candidate⟩
        simp only [exponent_eq]
        omega

end Magnitude

namespace Decimal

theorem exists_trim (fuel : Nat) (decimal : Decimal) :
    ∃ moved ≤ fuel, (decimal.trim fuel).exponent = decimal.exponent + moved ∧
      decimal.coefficient = (decimal.trim fuel).coefficient * 10 ^ moved := by
  induction fuel generalizing decimal with
  | zero => exact ⟨0, Nat.le_refl 0, by simp [trim], by simp [trim]⟩
  | succ fuel induction =>
      rw [trim]
      split
      · rename_i divisible
        rcases induction ⟨decimal.coefficient / 10, decimal.exponent + 1⟩ with
            ⟨moved, moved_le, exponent_eq, coefficient_eq⟩
        refine ⟨moved + 1, by omega, by simp only [exponent_eq]; omega, ?_⟩
        rw [Nat.pow_succ, ← Nat.mul_assoc, ← coefficient_eq]
        simp only
        omega
      · exact ⟨0, Nat.zero_le _, by simp, by simp⟩

end Decimal

/-! ## The greatest magnitude -/

/-- A bound for the decimal numbers that read back as less than the greatest magnitude,
which itself has these digits but for the last one. -/
def decimalBound : Nat := 17976931348623158 * 10 ^ 292

theorem decimalBound_le {power : Nat} (beyond : 308 < power) : decimalBound ≤ 10 ^ power := by
  obtain ⟨scale, scale_eq⟩ : ∃ scale, scale = 292 := ⟨292, rfl⟩
  obtain ⟨rest, rfl⟩ := Nat.exists_eq_add_of_le (show 17 ≤ power by omega)
  rw [decimalBound, Nat.pow_add, ← scale_eq]
  exact Nat.mul_le_mul (by decide) (Nat.pow_le_pow_right (by decide) (by omega))

namespace Magnitude

def greatest : Magnitude := ⟨codeLimit - 1, by decide⟩

theorem shortest_greatest (tie : Tie) :
    greatest.shortest tie = ⟨17976931348623157, 292⟩ := by
  cases tie <;> decide +kernel

theorem code_le_greatest (magnitude : Magnitude) : magnitude.code ≤ greatest.code :=
  Nat.le_sub_one_of_lt magnitude.code_lt

theorem units_lt_bound (magnitude : Magnitude) :
    magnitude.units < decimalBound * unitsPerOne := by
  have greatest_lt : greatest.units < decimalBound * unitsPerOne := by decide +kernel
  exact Nat.lt_of_le_of_lt (units_mono magnitude.code_le_greatest) greatest_lt

theorem lt_bound_of_nearest? {magnitude : Magnitude} (notGreatest : magnitude ≠ greatest)
    {number : Nat} (reads : nearest? (number * unitsPerOne) 1 = some magnitude) :
    number < decimalBound := by
  apply Nat.lt_of_not_le
  intro beyond
  apply notGreatest
  have atBound :
      nearestCode (decimalBound * unitsPerOne) 1 = greatest.code := by decide +kernel
  have code_le := nearestCode_mono (by decide) (by decide)
    (Nat.mul_le_mul_right 1 (Nat.mul_le_mul_right unitsPerOne beyond))
  rw [atBound, nearest?_eq_some_iff.mp reads] at code_le
  exact eq_of_code_eq (Nat.le_antisymm magnitude.code_le_greatest code_le)

theorem exponent_le_of_wholeSteps {magnitude : Magnitude} {exponent : Int}
    (steps : 1 ≤ magnitude.wholeSteps exponent) : exponent ≤ 308 := by
  cases exponent with
  | ofNat power =>
      obtain ⟨top, top_eq, bound_le⟩ : ∃ top, top = 308 ∧ decimalBound ≤ 10 ^ (top + 1) :=
        ⟨308, rfl, decimalBound_le (Nat.lt_succ_self 308)⟩
      rw [wholeSteps, Nat.le_div_iff_mul_le (stepsOfTen_pos _ _), Nat.one_mul] at steps
      have power_lt : 10 ^ power < decimalBound := by
        apply Nat.lt_of_mul_lt_mul_right (a := unitsPerOne)
        apply Nat.lt_of_le_of_lt _ magnitude.units_lt_bound
        rw [Nat.mul_comm]
        exact steps
      have power_le : power < top + 1 :=
        (Nat.pow_lt_pow_iff_right (by decide)).mp (Nat.lt_of_lt_of_le power_lt bound_le)
      rw [Int.ofNat_eq_natCast]
      omega
  | negSucc power => omega

theorem decimalScale_le {magnitude : Magnitude} (nonzero : magnitude ≠ .zero) :
    magnitude.decimalScale ≤ 309 := by
  have oneDigit :
      magnitude.decimalScale - 1 + (0 + 1 : Nat) = magnitude.decimalScale := by omega
  have exponent_le := exponent_le_of_wholeSteps (wholeSteps_bounds nonzero oneDigit).1
  omega

/-! ## The shortest decimal number -/

theorem shortestFrom_grid {magnitude : Magnitude} (nonzero : magnitude ≠ .zero) (tie : Tie)
    {decimal : Decimal}
    (outcome : magnitude.shortestFrom tie 17 (magnitude.decimalScale - 1) = decimal) :
    ∃ tried ≤ 16, decimal.exponent + (tried + 1 : Nat) = magnitude.decimalScale ∧
      decimal.nearest? = some magnitude ∧
      0 < decimal.coefficient ∧ decimal.coefficient ≤ 10 ^ (tried + 1) := by
  have scale_ge : -324 ≤ magnitude.decimalScale := by
    rw [decimalScale]
    omega
  have scale_le := decimalScale_le nonzero
  have seventeenDigits : magnitude.decimalScale - 1 - (16 : Nat) + (16 + 1 : Nat) =
      magnitude.decimalScale := by omega
  rcases candidate_shortestFrom tie
    (wholeSteps_bounds nonzero seventeenDigits).1 (by omega)
    (by omega) with ⟨tried, tried_le, exponent_eq, candidate⟩
  rw [outcome] at exponent_eq candidate
  have onGrid : decimal.exponent + (tried + 1 : Nat) = magnitude.decimalScale := by omega
  rcases wholeSteps_bounds nonzero onGrid with ⟨steps_ge, steps_lt⟩
  have steps_pos : 0 < 10 ^ tried := Nat.pow_pos (by decide)
  have neighbour := candidate.neighbour
  exact ⟨tried, tried_le, onGrid, candidate.reads, by omega, by omega⟩

theorem exists_shortestFrom {magnitude : Magnitude} (nonzero : magnitude ≠ .zero)
    (tie : Tie) :
    ∃ decimal : Decimal, magnitude.shortest tie = decimal.trim 18 ∧
    decimal.nearest? = some magnitude ∧
      0 < decimal.coefficient ∧ decimal.coefficient ≤ 10 ^ 17 ∧
      -342 ≤ decimal.exponent ∧ decimal.exponent ≤ 308 := by
  have scale_ge : -324 ≤ magnitude.decimalScale := by
    rw [decimalScale]
    omega
  have scale_le := decimalScale_le nonzero
  rcases shortestFrom_grid nonzero tie rfl with
    ⟨tried, tried_le, onGrid, reads, positive, short⟩
  refine ⟨_, by rw [shortest, if_neg nonzero], reads, positive, ?_, by omega, by omega⟩
  exact Nat.le_trans short (Nat.pow_le_pow_right (by decide) (by omega))

/-- It has at most seventeen digits, one more only for a power of ten. -/
theorem shortest_bounds {magnitude : Magnitude} (nonzero : magnitude ≠ .zero)
    (tie : Tie) :
    0 < (magnitude.shortest tie).coefficient ∧
    (magnitude.shortest tie).coefficient ≤ 10 ^ 17 ∧
      -342 ≤ (magnitude.shortest tie).exponent ∧
      (magnitude.shortest tie).exponent ≤ 326 := by
  rcases exists_shortestFrom nonzero tie with
    ⟨decimal, shortest_eq, -, positive, short, low, high⟩
  rcases decimal.exists_trim 18 with ⟨moved, moved_le, exponent_eq, coefficient_eq⟩
  rw [shortest_eq]
  generalize decimal.trim 18 = trimmed at exponent_eq coefficient_eq ⊢
  have moved_pos : 0 < 10 ^ moved := Nat.pow_pos (by decide)
  refine ⟨?_, ?_, by omega, by omega⟩
  · rw [coefficient_eq] at positive
    exact Nat.pos_of_mul_pos_right positive
  · rw [coefficient_eq] at short
    exact Nat.le_trans (Nat.le_mul_of_pos_right _ moved_pos) short

theorem shortest_zero (tie : Tie) : zero.shortest tie = ⟨0, 0⟩ := by
  rw [shortest, if_pos rfl]

theorem nearest?_shortest (magnitude : Magnitude) (tie : Tie) :
    (magnitude.shortest tie).nearest? = some magnitude := by
  by_cases nonzero : magnitude = .zero
  · rw [nonzero, shortest_zero]
    rfl
  · rcases exists_shortestFrom nonzero tie with
      ⟨decimal, shortest_eq, reads, positive, -, low, high⟩
    rcases decimal.exists_trim 18 with ⟨moved, moved_le, exponent_eq, coefficient_eq⟩
    rw [shortest_eq, Decimal.nearest?_eq_of_moved exponent_eq coefficient_eq positive low
      (by omega), reads]

theorem shortest_lt_bound {magnitude : Magnitude} (nonzero : magnitude ≠ .zero)
    (notGreatest : magnitude ≠ greatest) (tie : Tie) {power : Nat}
    (exponent_eq : (magnitude.shortest tie).exponent = .ofNat power) :
    (magnitude.shortest tie).coefficient * 10 ^ power < decimalBound := by
  rcases shortest_bounds nonzero tie with ⟨positive, -, low, high⟩
  have reads := magnitude.nearest?_shortest tie
  rw [Decimal.nearest?_eq positive low (by omega), exponent_eq, powerUnits] at reads
  apply lt_bound_of_nearest? notGreatest
  rw [Nat.mul_assoc, Nat.mul_comm (10 ^ power)]
  exact reads

end Magnitude

end ScalarCell
