import ScalarCell.Proofs.Numeric.Rounding

namespace ScalarCell

/-! What a quotient is rounded to is the nearest of all numbers. Where two are as near, it is
the one whose last bit is zero. -/

theorem roundHalfEven_of_middle {number numerator denominator : Nat}
    (positive : 0 < denominator)
    (middle : 2 * numerator = 2 * (number * denominator) + denominator) :
    roundHalfEven numerator denominator = number + number % 2 := by
  rcases roundHalfEven_le numerator positive with ⟨above, aboveEven⟩
  rcases le_roundHalfEven numerator positive with ⟨below, belowEven⟩
  generalize roundHalfEven numerator denominator = rounded at above aboveEven below belowEven ⊢
  have rounded_le : rounded ≤ number + 1 := by
    apply Nat.le_of_mul_le_mul_right _ positive
    rw [Nat.succ_mul]
    omega
  have le_rounded : number ≤ rounded := by
    apply Nat.le_of_mul_le_mul_right _ positive
    omega
  rcases Nat.eq_or_lt_of_le le_rounded with rfl | up
  · have even := belowEven (by omega)
    omega
  · obtain rfl : rounded = number + 1 := Nat.le_antisymm rounded_le up
    have next : (number + 1) * denominator = number * denominator + denominator :=
      Nat.succ_mul number denominator
    have even := aboveEven (by rw [next]; omega)
    omega

namespace Magnitude

variable {magnitude : Magnitude} {numerator denominator : Nat}

theorem nearestCode_of_middle (positive : 0 < denominator)
    (middle : 2 * numerator = (2 * magnitude.units + magnitude.gap) * denominator) :
    nearestCode numerator denominator = magnitude.code + magnitude.code % 2 := by
  have gap_pos := Nat.mul_pos magnitude.gap_pos positive
  have lower : magnitude.units * denominator ≤ numerator := by
    rw [Nat.add_mul, Nat.mul_assoc] at middle
    omega
  have upper : numerator < (magnitude.units + magnitude.gap) * denominator := by
    rw [Nat.add_mul] at middle ⊢
    rw [Nat.mul_assoc] at middle
    omega
  rw [nearestCode_between positive lower upper]
  rcases magnitude.exists_bits with ⟨bits, units_eq, code_eq, -, -⟩
  have units_mul :
      magnitude.units * denominator = bits * (denominator * magnitude.gap) := by
    rw [units_eq, Nat.mul_assoc, Nat.mul_comm magnitude.gap]
  rw [Nat.add_mul, Nat.mul_assoc, units_mul, Nat.mul_comm magnitude.gap] at middle
  rw [roundHalfEven_of_middle (Nat.mul_pos positive magnitude.gap_pos) middle, code_eq]
  omega

/-- How far a magnitude is from a quotient of units, as a multiple of what the quotient is
divided by. -/
def distance (magnitude : Magnitude) (numerator denominator : Nat) : Nat :=
  ((magnitude.units * denominator : Nat) - (numerator : Int)).natAbs

theorem distance_lt_or_even {other : Magnitude} (positive : 0 < denominator)
    (nearest : nearestCode numerator denominator = magnitude.code)
    (differs : other.code ≠ magnitude.code) :
    magnitude.distance numerator denominator < other.distance numerator denominator ∨
      magnitude.distance numerator denominator = other.distance numerator denominator ∧
        magnitude.code % 2 = 0 := by
  rw [distance, distance]
  rcases Nat.lt_or_gt_of_ne differs with below | above
  · obtain ⟨previous, next_eq⟩ :
        ∃ previous : Magnitude, magnitude.code = previous.code + 1 :=
      ⟨⟨magnitude.code - 1, Nat.lt_of_le_of_lt (Nat.sub_le _ _) magnitude.code_lt⟩,
        by simp only; omega⟩
    have gap_pos := Nat.mul_pos previous.gap_pos positive
    have other_le := Nat.mul_le_mul_right denominator
      (units_mono (show other.code ≤ previous.code by omega))
    have fromPrevious : previous.units * denominator ≤ numerator := by
      apply Nat.le_of_not_lt
      intro early
      have code_le := nearestCode_mono positive Nat.one_pos
        (show numerator * 1 ≤ previous.units * denominator by omega)
      rw [nearest, nearestCode_units] at code_le
      omega
    have fromMiddle :
        (2 * previous.units + previous.gap) * denominator ≤ 2 * numerator := by
      apply Nat.le_of_not_lt
      intro beforeMiddle
      have down := nearestCode_of_lt_middle positive fromPrevious beforeMiddle
      omega
    have tie (middle :
        2 * numerator = (2 * previous.units + previous.gap) * denominator) :
        magnitude.code % 2 = 0 := by
      have toEven := nearestCode_of_middle positive middle
      omega
    rw [units_succ next_eq]
    rw [Nat.add_mul, Nat.mul_assoc] at fromMiddle tie
    rw [Nat.add_mul]
    omega
  · obtain ⟨next, next_eq⟩ : ∃ next : Magnitude, next.code = magnitude.code + 1 :=
      ⟨⟨magnitude.code + 1, Nat.lt_of_le_of_lt above other.code_lt⟩, rfl⟩
    have gap_pos := Nat.mul_pos magnitude.gap_pos positive
    have le_other := Nat.mul_le_mul_right denominator
      (units_mono (show next.code ≤ other.code by omega))
    have toMiddle :
        2 * numerator ≤ (2 * magnitude.units + magnitude.gap) * denominator := by
      apply Nat.le_of_not_lt
      intro beyond
      have up := code_lt_nearestCode next_eq positive beyond
      omega
    have tie (middle :
        2 * numerator = (2 * magnitude.units + magnitude.gap) * denominator) :
        magnitude.code % 2 = 0 := by
      have toEven := nearestCode_of_middle positive middle
      omega
    rw [units_succ next_eq, Nat.add_mul] at le_other
    rw [Nat.add_mul, Nat.mul_assoc] at toMiddle tie
    omega

/-- No other magnitude is nearer to a quotient than the one it is rounded to, and only where
the code of that is even is another one as near. -/
theorem distance_le_and_even (positive : 0 < denominator)
    (nearest : nearestCode numerator denominator = magnitude.code) (other : Magnitude) :
    magnitude.distance numerator denominator ≤ other.distance numerator denominator ∧
      (magnitude.distance numerator denominator = other.distance numerator denominator →
        other = magnitude ∨ magnitude.code % 2 = 0) := by
  by_cases same : other.code = magnitude.code
  · obtain rfl := eq_of_code_eq same
    exact ⟨Nat.le_refl _, fun _ => .inl rfl⟩
  · have others := distance_lt_or_even positive nearest same
    exact ⟨by omega, fun tie => .inr (by omega)⟩

/-! ## Integers -/

theorem exists_ofNat? {number : Nat} (fits : number ≤ 2 ^ 64) :
    ∃ magnitude, ofNat? number = some magnitude := by
  have greatest : (ofNat? (2 ^ 64)).isSome = true := by decide +kernel
  rcases Option.isSome_iff_exists.mp greatest with ⟨greater, found⟩
  rcases nearest?_mono Nat.one_pos Nat.one_pos
    (Nat.mul_le_mul_right 1 (Nat.mul_le_mul_right unitsPerOne fits)) found with
    ⟨magnitude, magnitude_eq, -⟩
  exact ⟨magnitude, magnitude_eq⟩

end Magnitude

namespace Binary64

/-! ## The number nearest to an integer -/

def signedUnits : Binary64 → Int
  | .finite negative magnitude =>
      if negative then -(magnitude.units : Int) else magnitude.units
  | _ => 0

def distance (number : Binary64) (integer : Int) : Nat :=
  (number.signedUnits - integer * unitsPerOne).natAbs

def lastBit : Binary64 → Nat
  | .finite _ magnitude => magnitude.code % 2
  | _ => 0

/-- The finite number that an integer is rounded to: no other is nearer, and another one that
is as near gives way to it for its last bit. -/
structure IsNearestTo (number : Binary64) (integer : Int) : Prop where
  isFinite : number.isFinite = true
  nearest : ∀ other : Binary64, other.isFinite = true →
    number.distance integer ≤ other.distance integer
  toEven : ∀ other : Binary64, other.isFinite = true →
    number.distance integer = other.distance integer →
      other.equal number = true ∨ number.lastBit = 0

section Signs

variable (negative : Bool) (magnitude : Magnitude) (number : Nat)

theorem distance_of_sameSign :
    (finite negative magnitude).distance (if negative then -(number : Int) else number) =
      magnitude.distance (number * unitsPerOne) 1 := by
  rw [distance, Magnitude.distance, signedUnits, Nat.mul_one, Int.natCast_mul]
  generalize unitsPerOne = one
  cases negative with
  | false => simp
  | true =>
      simp only [if_true, Int.neg_mul]
      omega

theorem distance_of_otherSign :
    (finite (!negative) magnitude).distance (if negative then -(number : Int) else number) =
      magnitude.units + number * unitsPerOne := by
  rw [distance, signedUnits]
  have product : ((number * unitsPerOne : Nat) : Int) = number * unitsPerOne :=
    Int.natCast_mul _ _
  generalize unitsPerOne = one at product ⊢
  cases negative with
  | false =>
      simp only [Bool.not_false, if_true, Bool.false_eq_true, if_false]
      omega
  | true =>
      simp only [Bool.not_true, if_true, Bool.false_eq_true, if_false, Int.neg_mul]
      omega

end Signs

theorem isNearestTo_of_nearest {negative : Bool} {number : Nat} {magnitude : Magnitude}
    (rounded : Magnitude.ofNat? number = some magnitude) :
    (finite negative magnitude).IsNearestTo (if negative then -(number : Int) else number) := by
  have nearest := Magnitude.nearest?_eq_some_iff.mp rounded
  have compare := Magnitude.distance_le_and_even Nat.one_pos nearest
  -- A number of the other sign is beyond zero, which is no nearer itself.
  have zero_distance : Magnitude.zero.distance (number * unitsPerOne) 1 =
      number * unitsPerOne := by
    rw [Magnitude.distance, show Magnitude.zero.units = 0 from rfl]
    omega
  rcases compare .zero with ⟨zero_le, zero_even⟩
  rw [zero_distance] at zero_le zero_even
  refine ⟨rfl, ?_, ?_⟩
  · intro other finite
    cases other with
    | nan | infinite => cases finite
    | finite otherNegative other =>
        rw [distance_of_sameSign]
        by_cases sameSign : otherNegative = negative
        · rw [sameSign, distance_of_sameSign]
          exact (compare other).1
        · rw [Bool.eq_not_of_ne sameSign, distance_of_otherSign]
          omega
  · intro other finite
    cases other with
    | nan | infinite => cases finite
    | finite otherNegative other =>
        rw [distance_of_sameSign]
        by_cases sameSign : otherNegative = negative
        · rw [sameSign, distance_of_sameSign]
          intro same
          rcases (compare other).2 same with rfl | even
          · exact .inl (by simp [equal])
          · exact .inr even
        · rw [Bool.eq_not_of_ne sameSign, distance_of_otherSign]
          intro same
          rcases zero_even (by omega) with rfl | even
          · rw [zero_distance] at same
            have other_eq : other = .zero := by
              apply Classical.byContradiction
              intro nonzero
              have units_pos := Magnitude.units_pos nonzero
              omega
            exact .inl (by simp [equal, other_eq])
          · exact .inr even

theorem isNearestTo_ofMagnitude? (negative : Bool) {number : Nat} (fits : number ≤ 2 ^ 64) :
    (ofMagnitude? negative (Magnitude.ofNat? number)).IsNearestTo
      (if negative then -(number : Int) else number) := by
  rcases Magnitude.exists_ofNat? fits with ⟨magnitude, rounded⟩
  rw [rounded]
  exact isNearestTo_of_nearest rounded

theorem isNearestTo_ofInt {integer : Int} (fits : integer.natAbs ≤ 2 ^ 64) :
    (ofInt integer).IsNearestTo integer := by
  have nearest := isNearestTo_ofMagnitude? (decide (integer < 0)) fits
  have signed : (if decide (integer < 0) = true then -(integer.natAbs : Int)
      else integer.natAbs) = integer := by
    simp only [decide_eq_true_eq]
    split <;> omega
  rwa [signed] at nearest

/-! ## There is only one -/

def signedCode : Binary64 → Int
  | .finite negative magnitude =>
      if negative then -(magnitude.code : Int) else magnitude.code
  | _ => 0

variable {left right : Binary64} {integer : Int}

theorem exists_signedCode {code : Int} (inRange : code.natAbs < codeLimit) :
    ∃ number : Binary64, number.isFinite = true ∧ number.signedCode = code := by
  refine ⟨.finite (decide (code < 0)) ⟨code.natAbs, inRange⟩, rfl, ?_⟩
  simp only [signedCode, decide_eq_true_eq]
  split <;> omega

theorem signedCode_natAbs_lt (number : Binary64) : number.signedCode.natAbs < codeLimit := by
  cases number with
  | nan | infinite => exact Nat.mul_pos (by decide) (Nat.two_pow_pos 52)
  | finite negative magnitude =>
      have code_lt := magnitude.code_lt
      rw [signedCode]
      split <;> omega

theorem signedCode_even (even : left.lastBit = 0) : left.signedCode % 2 = 0 := by
  cases left with
  | nan | infinite => rfl
  | finite negative magnitude =>
      rw [lastBit] at even
      rw [signedCode]
      split <;> omega

theorem equal_iff (leftFinite : left.isFinite = true) (rightFinite : right.isFinite = true) :
    left.equal right = true ↔ left.signedCode = right.signedCode := by
  cases left with
  | nan | infinite => cases leftFinite
  | finite leftNegative left =>
      cases right with
      | nan | infinite => cases rightFinite
      | finite rightNegative right =>
          have zero_iff (magnitude : Magnitude) : magnitude = .zero ↔ magnitude.code = 0 :=
            ⟨fun zero => by rw [zero]; rfl, fun zero => Magnitude.eq_of_code_eq zero⟩
          have same_iff : left = right ↔ left.code = right.code :=
            ⟨fun same => by rw [same], Magnitude.eq_of_code_eq⟩
          simp only [equal, signedCode, Bool.and_eq_true, Bool.or_eq_true, beq_iff_eq,
            zero_iff, same_iff]
          cases leftNegative <;> cases rightNegative <;> simp <;> omega

theorem signedUnits_lt (leftFinite : left.isFinite = true)
    (rightFinite : right.isFinite = true) (lt : left.signedCode < right.signedCode) :
    left.signedUnits < right.signedUnits := by
  cases left with
  | nan | infinite => cases leftFinite
  | finite leftNegative left =>
      cases right with
      | nan | infinite => cases rightFinite
      | finite rightNegative right =>
          have units_lt (less greater : Magnitude) :
              less.code < greater.code → less.units < greater.units := Magnitude.units_lt
          have zero_units : Magnitude.zero.units = 0 := rfl
          have zero_code : Magnitude.zero.code = 0 := rfl
          have leftRight := units_lt left right
          have rightLeft := units_lt right left
          have zeroLeft := units_lt .zero left
          have zeroRight := units_lt .zero right
          rw [signedCode, signedCode] at lt
          rw [signedUnits, signedUnits]
          cases leftNegative <;> cases rightNegative <;> simp at lt ⊢ <;> omega

theorem distance_lt_of_between {between : Binary64}
    (same : left.distance integer = right.distance integer)
    (above : left.signedUnits < between.signedUnits)
    (below : between.signedUnits < right.signedUnits) :
    between.distance integer < left.distance integer := by
  rw [distance, distance] at same
  rw [distance, distance]
  generalize integer * unitsPerOne = exact at same ⊢
  omega

theorem IsNearestTo.distance_eq (isNearest : left.IsNearestTo integer)
    (isOther : right.IsNearestTo integer) : left.distance integer = right.distance integer :=
  Nat.le_antisymm (isNearest.nearest right isOther.isFinite)
    (isOther.nearest left isNearest.isFinite)

/-- Two numbers that both end in a zero have another between them, so they are not both the
nearest. -/
theorem IsNearestTo.not_lt (isNearest : left.IsNearestTo integer)
    (isOther : right.IsNearestTo integer) (leftEven : left.lastBit = 0)
    (rightEven : right.lastBit = 0) : ¬ left.signedCode < right.signedCode := by
  intro lt
  have leftCode := signedCode_even leftEven
  have rightCode := signedCode_even rightEven
  have leftRange := left.signedCode_natAbs_lt
  have rightRange := right.signedCode_natAbs_lt
  obtain ⟨between, isFinite, code_eq⟩ :=
    exists_signedCode (show (left.signedCode + 1).natAbs < codeLimit by omega)
  have nearer := distance_lt_of_between (isNearest.distance_eq isOther)
    (signedUnits_lt isNearest.isFinite isFinite (by omega))
    (signedUnits_lt isFinite isOther.isFinite (by omega))
  exact absurd (isNearest.nearest between isFinite) (Nat.not_le.mpr nearer)

/-- An integer has one nearest number, but for the sign of zero. -/
theorem IsNearestTo.unique (isNearest : left.IsNearestTo integer)
    (isOther : right.IsNearestTo integer) : left.equal right = true := by
  have same := isNearest.distance_eq isOther
  rw [equal_iff isNearest.isFinite isOther.isFinite]
  rcases isNearest.toEven right isOther.isFinite same with isEqual | leftEven
  · exact ((equal_iff isOther.isFinite isNearest.isFinite).mp isEqual).symm
  rcases isOther.toEven left isNearest.isFinite same.symm with isEqual | rightEven
  · exact (equal_iff isNearest.isFinite isOther.isFinite).mp isEqual
  · exact Int.le_antisymm (Int.not_lt.mp (isOther.not_lt isNearest rightEven leftEven))
      (Int.not_lt.mp (isNearest.not_lt isOther leftEven rightEven))

end Binary64

end ScalarCell
