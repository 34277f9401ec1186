import ScalarCell.Numeric.Binary64

namespace ScalarCell

/-! Rounding to the nearest number keeps the order of quotients, and leaves alone what is
a number already. What it rounds to a number is what lies between the middles before and
after it. -/

theorem unitsPerOne_pos : 0 < unitsPerOne := by
  rw [unitsPerOne]
  exact Nat.two_pow_pos 1074

/-! ## Rounding to a natural number -/

theorem roundHalfEven_le (numerator : Nat) {denominator : Nat}
    (positive : 0 < denominator) :
    2 * (roundHalfEven numerator denominator * denominator) ≤
        2 * numerator + denominator ∧
      (2 * (roundHalfEven numerator denominator * denominator) =
          2 * numerator + denominator →
        roundHalfEven numerator denominator % 2 = 0) := by
  have split := Nat.div_add_mod' numerator denominator
  have remainder_lt := Nat.mod_lt numerator positive
  rw [roundHalfEven]
  generalize numerator / denominator = quotient at split ⊢
  generalize numerator % denominator = remainder at split remainder_lt ⊢
  have next : (quotient + 1) * denominator = quotient * denominator + denominator :=
    Nat.succ_mul quotient denominator
  split
  · omega
  · split
    · rw [next]
      omega
    · rcases Nat.mod_two_eq_zero_or_one quotient with even | odd
      · rw [even, Nat.add_zero]
        omega
      · rw [odd, next]
        omega

theorem le_roundHalfEven (numerator : Nat) {denominator : Nat}
    (positive : 0 < denominator) :
    2 * numerator ≤
        2 * (roundHalfEven numerator denominator * denominator) + denominator ∧
      (2 * numerator =
          2 * (roundHalfEven numerator denominator * denominator) + denominator →
        roundHalfEven numerator denominator % 2 = 0) := by
  have split := Nat.div_add_mod' numerator denominator
  have remainder_lt := Nat.mod_lt numerator positive
  rw [roundHalfEven]
  generalize numerator / denominator = quotient at split ⊢
  generalize numerator % denominator = remainder at split remainder_lt ⊢
  have next : (quotient + 1) * denominator = quotient * denominator + denominator :=
    Nat.succ_mul quotient denominator
  split
  · omega
  · split
    · rw [next]
      omega
    · rcases Nat.mod_two_eq_zero_or_one quotient with even | odd
      · rw [even, Nat.add_zero]
        omega
      · rw [odd, next]
        omega

/-- Rounding keeps the order of quotients. Were it to swap two, both would lie in the
middle between neighbours that are both even. -/
theorem roundHalfEven_mono {numerator denominator other otherDenominator : Nat}
    (positive : 0 < denominator) (otherPositive : 0 < otherDenominator)
    (le : numerator * otherDenominator ≤ other * denominator) :
    roundHalfEven numerator denominator ≤ roundHalfEven other otherDenominator := by
  rcases roundHalfEven_le numerator positive with ⟨above, aboveEven⟩
  rcases le_roundHalfEven other otherPositive with ⟨below, belowEven⟩
  generalize roundHalfEven numerator denominator = rounded at above aboveEven ⊢
  generalize roundHalfEven other otherDenominator = otherRounded at below belowEven ⊢
  apply Nat.le_of_not_lt
  intro swapped
  have area : 0 < denominator * otherDenominator := Nat.mul_pos positive otherPositive
  have aboveArea := Nat.mul_le_mul_right otherDenominator above
  have belowArea := Nat.mul_le_mul_right denominator below
  have step :=
    Nat.mul_le_mul_right (denominator * otherDenominator) (Nat.succ_le_of_lt swapped)
  have roundedArea : 2 * (rounded * denominator) * otherDenominator =
      2 * (rounded * (denominator * otherDenominator)) := by
    rw [Nat.mul_assoc, Nat.mul_assoc]
  have otherArea : 2 * (otherRounded * otherDenominator) * denominator =
      2 * (otherRounded * (denominator * otherDenominator)) := by
    rw [Nat.mul_assoc, Nat.mul_assoc, Nat.mul_comm otherDenominator]
  rw [roundedArea, Nat.add_mul, Nat.mul_assoc] at aboveArea
  rw [Nat.add_mul, otherArea, Nat.mul_assoc, Nat.mul_comm otherDenominator] at belowArea
  rw [Nat.succ_mul] at step
  have aboveTie : 2 * (rounded * denominator) = 2 * numerator + denominator := by
    apply Nat.eq_of_mul_eq_mul_right otherPositive
    rw [roundedArea, Nat.add_mul, Nat.mul_assoc]
    omega
  have belowTie :
      2 * other = 2 * (otherRounded * otherDenominator) + otherDenominator := by
    apply Nat.eq_of_mul_eq_mul_right positive
    rw [Nat.add_mul, otherArea, Nat.mul_assoc, Nat.mul_comm otherDenominator]
    omega
  have neighbours : rounded = otherRounded + 1 := by
    apply Nat.eq_of_mul_eq_mul_right area
    rw [Nat.succ_mul]
    omega
  have even := aboveEven aboveTie
  have otherEven := belowEven belowTie
  omega

theorem roundHalfEven_of_lt_middle {number numerator denominator : Nat}
    (positive : 0 < denominator) (lower : number * denominator ≤ numerator)
    (upper : 2 * numerator < 2 * (number * denominator) + denominator) :
    roundHalfEven numerator denominator = number := by
  rcases roundHalfEven_le numerator positive with ⟨above, -⟩
  rcases le_roundHalfEven numerator positive with ⟨below, -⟩
  apply Nat.le_antisymm
  · apply Nat.le_of_lt_succ
    apply Nat.lt_of_mul_lt_mul_right (a := denominator)
    rw [Nat.succ_mul]
    omega
  · apply Nat.le_of_lt_succ
    apply Nat.lt_of_mul_lt_mul_right (a := denominator)
    rw [Nat.succ_mul]
    omega

theorem lt_roundHalfEven {number numerator denominator : Nat} (positive : 0 < denominator)
    (lower : 2 * (number * denominator) + denominator < 2 * numerator) :
    number < roundHalfEven numerator denominator := by
  rcases le_roundHalfEven numerator positive with ⟨below, -⟩
  apply Nat.lt_of_mul_lt_mul_right (a := denominator)
  omega

theorem roundHalfEven_mul (number : Nat) {denominator : Nat}
    (positive : 0 < denominator) :
    roundHalfEven (number * denominator) denominator = number := by
  simp [roundHalfEven, Nat.mul_div_cancel _ positive, positive]

namespace Magnitude

theorem eq_of_code_eq {left right : Magnitude} (same : left.code = right.code) :
    left = right := by
  cases left
  cases same
  rfl

/-! ## Codes -/

def shiftOf (numerator denominator : Nat) : Nat :=
  Nat.log2 (numerator / denominator) - 52

theorem nearestCode_eq (numerator denominator : Nat) :
    nearestCode numerator denominator = shiftOf numerator denominator * 2 ^ 52 +
      roundHalfEven numerator (denominator * 2 ^ shiftOf numerator denominator) := rfl

/-- The rounded bits are at most 53, with a carry, and no fewer where they are shifted. -/
theorem rounded_bounds (numerator : Nat) {denominator : Nat}
    (positive : 0 < denominator) :
    roundHalfEven numerator (denominator * 2 ^ shiftOf numerator denominator) ≤ 2 ^ 53 ∧
      (0 < shiftOf numerator denominator →
        2 ^ 52 ≤ roundHalfEven numerator
          (denominator * 2 ^ shiftOf numerator denominator)) := by
  have scaled : 0 < denominator * 2 ^ shiftOf numerator denominator :=
    Nat.mul_pos positive (Nat.two_pow_pos _)
  constructor
  · rw [← roundHalfEven_mul (2 ^ 53) scaled]
    apply roundHalfEven_mono scaled scaled
    apply Nat.mul_le_mul_right
    have below : numerator / denominator < 2 ^ (Nat.log2 (numerator / denominator) + 1) :=
      Nat.lt_log2_self
    have wide : Nat.log2 (numerator / denominator) + 1 ≤
        53 + shiftOf numerator denominator := by
      rw [shiftOf]
      omega
    have bounded := Nat.lt_of_lt_of_le below (Nat.pow_le_pow_right (by decide) wide)
    rw [Nat.div_lt_iff_lt_mul positive, Nat.pow_add] at bounded
    rw [Nat.mul_comm denominator, ← Nat.mul_assoc]
    exact Nat.le_of_lt bounded
  · intro shifted
    rw [← roundHalfEven_mul (2 ^ 52) scaled]
    apply roundHalfEven_mono scaled scaled
    apply Nat.mul_le_mul_right
    have nonzero : numerator / denominator ≠ 0 := by
      intro zero
      rw [shiftOf, zero] at shifted
      exact absurd shifted (by decide)
    have above := Nat.log2_self_le nonzero
    have log_eq :
        Nat.log2 (numerator / denominator) = 52 + shiftOf numerator denominator := by
      rw [shiftOf] at shifted ⊢
      omega
    rw [log_eq, Nat.pow_add, Nat.le_div_iff_mul_le positive] at above
    rw [Nat.mul_comm denominator, ← Nat.mul_assoc]
    exact above

theorem shiftOf_mono {numerator denominator other otherDenominator : Nat}
    (positive : 0 < denominator) (otherPositive : 0 < otherDenominator)
    (le : numerator * otherDenominator ≤ other * denominator) :
    shiftOf numerator denominator ≤ shiftOf other otherDenominator := by
  have quotient_le : numerator / denominator ≤ other / otherDenominator := by
    rw [Nat.le_div_iff_mul_le otherPositive]
    apply Nat.le_of_mul_le_mul_right _ positive
    have below :=
      Nat.mul_le_mul_right otherDenominator (Nat.div_mul_le_self numerator denominator)
    rw [Nat.mul_right_comm] at below
    exact Nat.le_trans below le
  apply Nat.sub_le_sub_right
  by_cases zero : numerator / denominator = 0
  · rw [zero]
    exact Nat.zero_le _
  · have otherNonzero : other / otherDenominator ≠ 0 :=
      Nat.ne_of_gt (Nat.lt_of_lt_of_le (Nat.pos_of_ne_zero zero) quotient_le)
    rw [Nat.le_log2 otherNonzero]
    exact Nat.le_trans (Nat.log2_self_le zero) quotient_le

theorem nearestCode_mono {numerator denominator other otherDenominator : Nat}
    (positive : 0 < denominator) (otherPositive : 0 < otherDenominator)
    (le : numerator * otherDenominator ≤ other * denominator) :
    nearestCode numerator denominator ≤ nearestCode other otherDenominator := by
  rw [nearestCode_eq, nearestCode_eq]
  rcases Nat.lt_or_eq_of_le (shiftOf_mono positive otherPositive le) with further | same
  · have carried := (rounded_bounds numerator positive).1
    have full := (rounded_bounds other otherPositive).2 (by omega)
    have step := Nat.mul_le_mul_right (2 ^ 52) (Nat.succ_le_of_lt further)
    rw [Nat.succ_mul] at step
    omega
  · rw [same]
    apply Nat.add_le_add_left
    apply roundHalfEven_mono (Nat.mul_pos positive (Nat.two_pow_pos _))
      (Nat.mul_pos otherPositive (Nat.two_pow_pos _))
    rw [← Nat.mul_assoc, ← Nat.mul_assoc]
    exact Nat.mul_le_mul_right _ le

theorem shiftOf_eq {numerator denominator shift : Nat}
    (upper : numerator / denominator < 2 ^ 53 * 2 ^ shift)
    (lower : 0 < shift → 2 ^ 52 * 2 ^ shift ≤ numerator / denominator) :
    shiftOf numerator denominator = shift := by
  rw [shiftOf]
  generalize numerator / denominator = whole at upper lower ⊢
  by_cases zero : whole = 0
  · have unshifted : shift = 0 := by
      apply Nat.eq_zero_of_not_pos
      intro shifted
      have full := Nat.mul_pos (Nat.two_pow_pos 52) (Nat.two_pow_pos shift)
      have whole_pos := Nat.lt_of_lt_of_le full (lower shifted)
      omega
    rw [zero, unshifted]
    decide
  · rw [← Nat.pow_add] at upper lower
    have log_lt : Nat.log2 whole < 53 + shift := (Nat.log2_lt zero).mpr upper
    by_cases shifted : 0 < shift
    · have log_ge : 52 + shift ≤ Nat.log2 whole := (Nat.le_log2 zero).mpr (lower shifted)
      omega
    · omega

/-! ## Neighbours -/

def shift (magnitude : Magnitude) : Nat :=
  magnitude.code / 2 ^ 52 - 1

def gap (magnitude : Magnitude) : Nat :=
  2 ^ magnitude.shift

theorem gap_pos (magnitude : Magnitude) : 0 < magnitude.gap :=
  Nat.two_pow_pos _

/-- The units of a magnitude are some bits times its gap, and its code is made of these. -/
theorem exists_bits (magnitude : Magnitude) :
    ∃ bits, magnitude.units = bits * magnitude.gap ∧
      magnitude.code = magnitude.shift * 2 ^ 52 + bits ∧ bits < 2 ^ 53 ∧
      (0 < magnitude.shift → 2 ^ 52 ≤ bits) := by
  rw [units, gap, shift]
  split
  · rename_i small
    have unshifted : magnitude.code / 2 ^ 52 - 1 = 0 := by omega
    refine ⟨magnitude.code, ?_, by omega, by omega, by omega⟩
    rw [unshifted, Nat.pow_zero, Nat.mul_one]
  · exact ⟨_, rfl, by omega, by omega, by omega⟩

theorem units_add_gap_le (magnitude : Magnitude) :
    magnitude.units + magnitude.gap ≤ 2 ^ 53 * magnitude.gap := by
  rcases magnitude.exists_bits with ⟨bits, units_eq, -, fits, -⟩
  rw [units_eq, ← Nat.succ_mul]
  exact Nat.mul_le_mul_right _ fits

theorem units_succ {left right : Magnitude} (next : right.code = left.code + 1) :
    right.units = left.units + left.gap := by
  rcases left.exists_bits with ⟨bits, units_eq, code_eq, fits, -⟩
  rcases right.exists_bits with ⟨nextBits, nextUnits_eq, nextCode_eq, -, full⟩
  rw [units_eq, nextUnits_eq, ← Nat.succ_mul]
  have shifts : right.shift = left.shift ∨ right.shift = left.shift + 1 := by
    rw [shift, shift, next]
    omega
  rcases shifts with same | further
  · have bits_eq : nextBits = bits + 1 := by
      rw [same] at nextCode_eq
      omega
    rw [gap, gap, same, bits_eq]
  · -- The bits run over, into the first ones of the next shift.
    have full := full (by omega)
    rw [further, Nat.succ_mul] at nextCode_eq
    have bits_eq : bits + 1 = 2 ^ 53 := by omega
    have nextBits_eq : nextBits = 2 ^ 52 := by omega
    rw [gap, gap, further, nextBits_eq, Nat.succ_eq_add_one, bits_eq,
      Nat.pow_succ 2 left.shift]
    omega

theorem exists_of_bits {bits shift : Nat} (full : 2 ^ 52 ≤ bits) (fits : bits < 2 ^ 53)
    (inRange : shift < 2046) :
    ∃ magnitude : Magnitude, magnitude.units = bits * 2 ^ shift := by
  have code_lt : shift * 2 ^ 52 + bits < codeLimit := by
    rw [codeLimit]
    omega
  have notSmall : ¬ shift * 2 ^ 52 + bits < 2 ^ 52 := by omega
  have bits_eq : 2 ^ 52 + (shift * 2 ^ 52 + bits) % 2 ^ 52 = bits := by omega
  have shift_eq : (shift * 2 ^ 52 + bits) / 2 ^ 52 - 1 = shift := by omega
  refine ⟨⟨shift * 2 ^ 52 + bits, code_lt⟩, ?_⟩
  rw [units, if_neg notSmall, bits_eq, shift_eq]

variable {magnitude : Magnitude} {numerator denominator : Nat}

/-- Up to the next magnitude, quotients are rounded in steps of the gap. -/
theorem nearestCode_between (positive : 0 < denominator)
    (lower : magnitude.units * denominator ≤ numerator)
    (upper : numerator < (magnitude.units + magnitude.gap) * denominator) :
    nearestCode numerator denominator =
      magnitude.shift * 2 ^ 52 +
        roundHalfEven numerator (denominator * magnitude.gap) := by
  rcases magnitude.exists_bits with ⟨bits, units_eq, -, -, full⟩
  have shift_eq : shiftOf numerator denominator = magnitude.shift := by
    apply shiftOf_eq
    · rw [Nat.div_lt_iff_lt_mul positive]
      apply Nat.lt_of_lt_of_le upper
      exact Nat.mul_le_mul_right _ magnitude.units_add_gap_le
    · intro shifted
      rw [Nat.le_div_iff_mul_le positive]
      apply Nat.le_trans _ lower
      apply Nat.mul_le_mul_right
      rw [units_eq]
      exact Nat.mul_le_mul_right _ (full shifted)
  rw [nearestCode_eq, shift_eq, gap]

theorem nearestCode_of_lt_middle (positive : 0 < denominator)
    (lower : magnitude.units * denominator ≤ numerator)
    (upper : 2 * numerator < (2 * magnitude.units + magnitude.gap) * denominator) :
    nearestCode numerator denominator = magnitude.code := by
  have beforeNext : numerator < (magnitude.units + magnitude.gap) * denominator := by
    rw [Nat.add_mul] at upper ⊢
    rw [Nat.mul_assoc] at upper
    omega
  rw [nearestCode_between positive lower beforeNext]
  rcases magnitude.exists_bits with ⟨bits, units_eq, code_eq, -, -⟩
  have units_mul :
      magnitude.units * denominator = bits * (denominator * magnitude.gap) := by
    rw [units_eq, Nat.mul_assoc, Nat.mul_comm magnitude.gap]
  rw [Nat.add_mul, Nat.mul_assoc, units_mul, Nat.mul_comm magnitude.gap] at upper
  rw [units_mul] at lower
  rw [roundHalfEven_of_lt_middle (Nat.mul_pos positive magnitude.gap_pos) lower upper,
    code_eq]

theorem nearestCode_units (magnitude : Magnitude) :
    nearestCode magnitude.units 1 = magnitude.code := by
  have gap_pos := magnitude.gap_pos
  apply nearestCode_of_lt_middle (by decide)
  · exact Nat.le_of_eq (Nat.mul_one _)
  · omega

theorem code_lt_nearestCode {next : Magnitude} (next_eq : next.code = magnitude.code + 1)
    (positive : 0 < denominator)
    (lower : (2 * magnitude.units + magnitude.gap) * denominator < 2 * numerator) :
    magnitude.code < nearestCode numerator denominator := by
  by_cases beforeNext : numerator < (magnitude.units + magnitude.gap) * denominator
  · have above : magnitude.units * denominator ≤ numerator := by
      rw [Nat.add_mul, Nat.mul_assoc] at lower
      omega
    rw [nearestCode_between positive above beforeNext]
    rcases magnitude.exists_bits with ⟨bits, units_eq, code_eq, -, -⟩
    have units_mul :
        magnitude.units * denominator = bits * (denominator * magnitude.gap) := by
      rw [units_eq, Nat.mul_assoc, Nat.mul_comm magnitude.gap]
    rw [Nat.add_mul, Nat.mul_assoc, units_mul, Nat.mul_comm magnitude.gap] at lower
    have rounded := lt_roundHalfEven (Nat.mul_pos positive magnitude.gap_pos) lower
    omega
  · have code_le : nearestCode next.units 1 ≤ nearestCode numerator denominator := by
      apply nearestCode_mono (by decide) positive
      rw [units_succ next_eq, Nat.mul_one]
      exact Nat.le_of_not_lt beforeNext
    rw [nearestCode_units, next_eq] at code_le
    exact code_le

theorem units_mono {left right : Magnitude} (le : left.code ≤ right.code) :
    left.units ≤ right.units := by
  apply Nat.le_of_not_lt
  intro swapped
  have codes := nearestCode_mono (by decide) (by decide)
    (Nat.mul_le_mul_right 1 (Nat.le_of_lt swapped))
  rw [nearestCode_units, nearestCode_units] at codes
  rw [eq_of_code_eq (Nat.le_antisymm le codes)] at swapped
  exact Nat.lt_irrefl _ swapped

theorem units_lt {left right : Magnitude} (lt : left.code < right.code) :
    left.units < right.units := by
  apply Nat.lt_of_le_of_ne (units_mono (Nat.le_of_lt lt))
  intro same
  have codes := nearestCode_units left
  rw [same, nearestCode_units] at codes
  omega

theorem units_pos {magnitude : Magnitude} (nonzero : magnitude ≠ .zero) :
    0 < magnitude.units := by
  rw [units]
  split
  · apply Nat.pos_of_ne_zero
    intro code_zero
    exact nonzero (eq_of_code_eq code_zero)
  · exact Nat.mul_pos (by omega) (Nat.two_pow_pos _)

/-! ## Rounded results -/

theorem nearest?_eq_some_iff {numerator denominator : Nat} {magnitude : Magnitude} :
    nearest? numerator denominator = some magnitude ↔
      nearestCode numerator denominator = magnitude.code := by
  rcases magnitude with ⟨code, code_lt⟩
  rw [nearest?]
  split
  · simp
  · rename_i outOfRange
    simp only [reduceCtorEq, false_iff]
    intro same
    subst same
    exact outOfRange code_lt

theorem nearest?_congr {numerator denominator other otherDenominator : Nat}
    (positive : 0 < denominator) (otherPositive : 0 < otherDenominator)
    (same : numerator * otherDenominator = other * denominator) :
    nearest? numerator denominator = nearest? other otherDenominator := by
  have code_eq : nearestCode numerator denominator = nearestCode other otherDenominator :=
    Nat.le_antisymm (nearestCode_mono positive otherPositive (Nat.le_of_eq same))
      (nearestCode_mono otherPositive positive (Nat.le_of_eq same.symm))
  rw [nearest?, nearest?]
  simp only [code_eq]

theorem nearest?_units (magnitude : Magnitude) :
    nearest? magnitude.units 1 = some magnitude :=
  nearest?_eq_some_iff.mpr (nearestCode_units magnitude)

theorem nearest?_zero (denominator : Nat) : nearest? 0 denominator = some .zero :=
  nearest?_eq_some_iff.mpr (by simp [nearestCode, roundHalfEven, zero])

theorem exists_ofNat?_eq {number : Nat} (fits : number < 2 ^ 53) :
    ∃ magnitude, ofNat? number = some magnitude ∧
    magnitude.units = number * unitsPerOne := by
  have exact_units : ∃ magnitude : Magnitude, magnitude.units = number * unitsPerOne := by
    by_cases nonzero : number = 0
    · rw [nonzero, Nat.zero_mul]
      exact ⟨.zero, rfl⟩
    · obtain ⟨places, places_eq, unitsPerOne_eq⟩ : ∃ places, places = 1074 ∧
          unitsPerOne = 2 ^ places := ⟨1074, rfl, rfl⟩
      have lower := Nat.log2_self_le nonzero
      have upper : number < 2 ^ (number.log2 + 1) := Nat.lt_log2_self
      have log_le := Nat.le_of_lt_succ ((Nat.log2_lt nonzero).mpr fits)
      rcases Nat.exists_eq_add_of_le log_le with ⟨rest, rest_eq⟩
      have rest_le : rest ≤ places := by omega
      rcases Nat.exists_eq_add_of_le rest_le with ⟨shift, shift_eq⟩
      have full : 2 ^ 52 ≤ number * 2 ^ rest := by
        rw [rest_eq, Nat.pow_add]
        exact Nat.mul_le_mul_right _ lower
      have wide : number * 2 ^ rest < 2 ^ 53 := by
        have width_eq : 53 = number.log2 + 1 + rest := by omega
        rw [width_eq, Nat.pow_add]
        exact Nat.mul_lt_mul_of_pos_right upper (Nat.two_pow_pos rest)
      rcases exists_of_bits full wide (show shift < 2046 by omega) with
        ⟨magnitude, units_eq⟩
      refine ⟨magnitude, ?_⟩
      rw [units_eq, unitsPerOne_eq, shift_eq, Nat.pow_add, Nat.mul_assoc]
  rcases exact_units with ⟨magnitude, units_eq⟩
  refine ⟨magnitude, ?_, units_eq⟩
  rw [ofNat?, ← units_eq, nearest?_units]

theorem nearest?_mono {numerator denominator other otherDenominator : Nat}
    {greater : Magnitude} (positive : 0 < denominator)
    (otherPositive : 0 < otherDenominator)
    (le : numerator * otherDenominator ≤ other * denominator)
    (found : nearest? other otherDenominator = some greater) :
    ∃ less, nearest? numerator denominator = some less ∧ less.units ≤ greater.units := by
  have code_le := nearestCode_mono positive otherPositive le
  rw [nearest?_eq_some_iff.mp found] at code_le
  refine ⟨⟨nearestCode numerator denominator, Nat.lt_of_le_of_lt code_le greater.code_lt⟩,
    nearest?_eq_some_iff.mpr rfl, units_mono code_le⟩

end Magnitude

end ScalarCell
