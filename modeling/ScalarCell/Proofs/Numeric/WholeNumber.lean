import ScalarCell.Proofs.Numeric.Nearest

namespace ScalarCell

/-! Numbers that are integers. From 2⁵² on every number is one, so that what an integer is
rounded to is an integer as well. -/

namespace Magnitude

variable {magnitude : Magnitude} {number : Nat}

/-! ## Whole magnitudes -/

theorem toNat?_eq_some_iff :
    magnitude.toNat? = some number ↔ magnitude.units = number * unitsPerOne := by
  rw [toNat?]
  constructor
  · intro whole
    split at whole
    · rename_i divisible
      rw [← Option.some.inj whole]
      exact (Nat.div_mul_cancel (Nat.dvd_of_mod_eq_zero divisible)).symm
    · cases whole
  · intro units_eq
    rw [units_eq, Nat.mul_mod_left, if_pos rfl, Nat.mul_div_cancel _ unitsPerOne_pos]

theorem exists_whole_of_le (large : 2 ^ 52 * unitsPerOne ≤ magnitude.units) :
    ∃ whole, magnitude.units = whole * unitsPerOne := by
  rcases magnitude.exists_bits with ⟨bits, units_eq, -, fits, -⟩
  obtain ⟨places, unitsPerOne_eq⟩ : ∃ places, unitsPerOne = 2 ^ places := ⟨1074, rfl⟩
  rw [unitsPerOne_eq] at large ⊢
  rw [gap] at units_eq
  have far : places ≤ magnitude.shift := by
    apply Nat.le_of_not_lt
    intro near
    have gap_le : 2 * 2 ^ magnitude.shift ≤ 2 ^ places := by
      rw [← Nat.pow_add_one']
      exact Nat.pow_le_pow_right Nat.two_pos near
    have units_lt : magnitude.units < 2 ^ 53 * 2 ^ magnitude.shift := by
      rw [units_eq]
      exact Nat.mul_lt_mul_of_pos_right fits (Nat.two_pow_pos _)
    omega
  rcases Nat.exists_eq_add_of_le far with ⟨rest, shift_eq⟩
  refine ⟨bits * 2 ^ rest, ?_⟩
  rw [units_eq, shift_eq, Nat.pow_add, Nat.mul_assoc, Nat.mul_comm (2 ^ places)]

/-- An integer is rounded to an integer: to itself while it has few bits, and to a large
magnitude otherwise. -/
theorem exists_whole_of_ofNat? (rounded : ofNat? number = some magnitude) :
    ∃ whole, magnitude.units = whole * unitsPerOne := by
  by_cases few : number < 2 ^ 53
  · rcases exists_ofNat?_eq few with ⟨exact, exact_eq, units_eq⟩
    rw [rounded] at exact_eq
    cases exact_eq
    exact ⟨number, units_eq⟩
  · have reference : 2 ^ 52 < 2 ^ 53 := by decide
    rcases exists_ofNat?_eq reference with ⟨least, least_eq, units_eq⟩
    have above : 2 ^ 52 * unitsPerOne * 1 ≤ number * unitsPerOne * 1 :=
      Nat.mul_le_mul_right 1 (Nat.mul_le_mul_right unitsPerOne (by omega))
    rcases nearest?_mono Nat.one_pos Nat.one_pos above rounded with ⟨less, less_eq, le⟩
    rw [ofNat?, less_eq] at least_eq
    cases least_eq
    exact exists_whole_of_le (units_eq ▸ le)

theorem whole_le_of_ofNat? {whole : Nat} (rounded : ofNat? number = some magnitude)
    (units_eq : magnitude.units = whole * unitsPerOne) (fits : number ≤ 2 ^ 63) :
    whole ≤ 2 ^ 63 := by
  have exact_units : ∃ bound : Magnitude, bound.units = 2 ^ 63 * unitsPerOne := by
    obtain ⟨places, inRange, unitsPerOne_eq⟩ :
        ∃ places, 11 + places < 2046 ∧ unitsPerOne = 2 ^ places := ⟨1074, by decide, rfl⟩
    rcases exists_of_bits (Nat.le_refl (2 ^ 52)) (by decide) inRange with ⟨bound, bound_eq⟩
    refine ⟨bound, ?_⟩
    rw [bound_eq, unitsPerOne_eq, Nat.pow_add, ← Nat.mul_assoc, ← Nat.pow_add]
  rcases exact_units with ⟨bound, bound_eq⟩
  have below : number * unitsPerOne * 1 ≤ bound.units * 1 := by
    rw [bound_eq]
    exact Nat.mul_le_mul_right 1 (Nat.mul_le_mul_right unitsPerOne fits)
  rcases nearest?_mono Nat.one_pos Nat.one_pos below bound.nearest?_units with
    ⟨less, less_eq, le⟩
  rw [ofNat?, less_eq] at rounded
  cases rounded
  rw [units_eq, bound_eq] at le
  exact Nat.le_of_mul_le_mul_right le unitsPerOne_pos

end Magnitude

namespace Binary64

variable {number : Binary64} {integer : Int}

/-- The number is finite, and its exact value is the integer. -/
structure IsExactly (number : Binary64) (integer : Int) : Prop where
  isFinite : number.isFinite = true
  signedUnits_eq : number.signedUnits = integer * unitsPerOne

theorem isExactly_finite_iff {negative : Bool} {magnitude : Magnitude} {whole : Nat}
    (units_eq : magnitude.units = whole * unitsPerOne) :
    (finite negative magnitude).IsExactly integer ↔
      integer = if negative then -(whole : Int) else whole := by
  have cancels (left right : Int) :
      left * (unitsPerOne : Int) = right * unitsPerOne ↔ left = right :=
    Int.mul_eq_mul_right_iff (Int.natCast_ne_zero.mpr (Nat.ne_of_gt unitsPerOne_pos))
  have signedUnits_eq : (finite negative magnitude).signedUnits =
      (if negative then -(whole : Int) else whole) * unitsPerOne := by
    rw [signedUnits, units_eq, Int.natCast_mul]
    cases negative with
    | false => simp only [Bool.false_eq_true, if_false]
    | true => simp only [if_true, Int.neg_mul]
  constructor
  · intro isExactly
    exact ((cancels _ _).mp (signedUnits_eq.symm.trans isExactly.signedUnits_eq)).symm
  · rintro rfl
    exact ⟨rfl, signedUnits_eq⟩

theorem IsExactly.exists_whole {negative : Bool} {magnitude : Magnitude}
    (isExactly : (finite negative magnitude).IsExactly integer) :
    ∃ whole, magnitude.units = whole * unitsPerOne := by
  refine ⟨integer.natAbs, ?_⟩
  have natAbs_eq := congrArg Int.natAbs isExactly.signedUnits_eq
  rw [Int.natAbs_mul, Int.natAbs_natCast] at natAbs_eq
  rw [← natAbs_eq, signedUnits]
  split <;> simp

theorem toInt?_eq_some_iff : number.toInt? = some integer ↔ number.IsExactly integer := by
  cases number with
  | nan | infinite => exact ⟨nofun, fun isExactly => nomatch isExactly.isFinite⟩
  | finite negative magnitude =>
      rw [toInt?]
      constructor
      · intro isInteger
        cases found : magnitude.toNat? with
        | none =>
            rw [found] at isInteger
            cases isInteger
        | some whole =>
            rw [found] at isInteger
            cases isInteger
            exact (isExactly_finite_iff (Magnitude.toNat?_eq_some_iff.mp found)).mpr rfl
      · intro isExactly
        rcases isExactly.exists_whole with ⟨whole, units_eq⟩
        rw [Magnitude.toNat?_eq_some_iff.mpr units_eq,
          (isExactly_finite_iff units_eq).mp isExactly]
        rfl

theorem isExactly_zero (negative : Bool) :
    (finite negative .zero).IsExactly 0 := by
  have units_eq : Magnitude.zero.units = 0 * unitsPerOne := (Nat.zero_mul unitsPerOne).symm
  rw [isExactly_finite_iff units_eq]
  cases negative with
  | false => rfl
  | true => rfl

theorem IsExactly.unique {left right : Int} (isLeft : number.IsExactly left)
    (isRight : number.IsExactly right) : left = right := by
  have found := toInt?_eq_some_iff.mpr isLeft
  rw [toInt?_eq_some_iff.mpr isRight] at found
  exact (Option.some.inj found).symm

/-- An integer of 64 bits is rounded to an integer, which may be the first beyond these. -/
theorem exists_isExactly_ofInt (fits : integer.natAbs ≤ 2 ^ 63) :
    ∃ rounded, (ofInt integer).IsExactly rounded ∧ rounded.natAbs ≤ 2 ^ 63 := by
  rcases Magnitude.exists_ofNat? (Nat.le_trans fits (by decide)) with ⟨magnitude, found⟩
  rcases Magnitude.exists_whole_of_ofNat? found with ⟨whole, units_eq⟩
  have whole_le := Magnitude.whole_le_of_ofNat? found units_eq fits
  rw [ofInt, found]
  refine ⟨_, (isExactly_finite_iff units_eq).mpr rfl, ?_⟩
  split <;> omega

theorem IsExactly.ofInt (isExactly : number.IsExactly integer)
    (fits : integer.natAbs ≤ 2 ^ 64) : (ofInt integer).IsExactly integer := by
  have isNearest := isNearestTo_ofInt fits
  have distance_zero : number.distance integer = 0 := by
    rw [distance, isExactly.signedUnits_eq, Int.sub_self, Int.natAbs_zero]
  have noDistance := isNearest.nearest number isExactly.isFinite
  rw [distance_zero, distance] at noDistance
  exact ⟨isNearest.isFinite, by omega⟩

end Binary64

end ScalarCell
