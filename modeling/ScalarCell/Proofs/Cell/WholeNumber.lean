import ScalarCell.Cell
import ScalarCell.Proofs.Cell.Scan
import ScalarCell.Proofs.Numeric.WholeNumber

namespace ScalarCell

/-! Floats as integers. A float is taken for the integer that it is, and refused where it is
none or one out of range; nothing is cut off on the way. -/

namespace ColumnValue

variable {number : Binary64} {integer : Int64}

theorem int64OfFloat?_eq_some_iff :
    int64OfFloat? number = some integer ↔ number.IsExactly integer.toInt := by
  have low := integer.le_toInt
  have high := integer.toInt_lt
  rw [int64OfFloat?]
  constructor
  · intro accepted
    cases found : number.toInt? with
    | none =>
        rw [found] at accepted
        cases accepted
    | some exact =>
        simp only [found] at accepted
        split at accepted
        · rename_i inRange
          rw [← Option.some.inj accepted, Int64.toInt_ofInt_of_le inRange.1 inRange.2]
          exact Binary64.toInt?_eq_some_iff.mp found
        · cases accepted
  · intro isExactly
    rw [Binary64.toInt?_eq_some_iff.mpr isExactly]
    simp only [low, high, and_self, if_true, Int64.ofInt_toInt]

theorem int64OfFloat?_eq_none_iff :
    int64OfFloat? number = none ↔
      ∀ exact : Int, -2 ^ 63 ≤ exact → exact < 2 ^ 63 → ¬ number.IsExactly exact := by
  rw [Option.eq_none_iff_forall_ne_some]
  constructor
  · intro refused exact low high isExactly
    rw [← Int64.toInt_ofInt_of_le low high] at isExactly
    exact refused _ (int64OfFloat?_eq_some_iff.mpr isExactly)
  · intro noInteger integer accepted
    exact noInteger integer.toInt integer.le_toInt integer.toInt_lt
      (int64OfFloat?_eq_some_iff.mp accepted)

theorem toInt64_float (number : Binary64) :
    (ColumnValue.float number).toInt64 =
      match int64OfFloat? number with
      | some integer => .ok (some integer)
      | none => .error ⟨.float, .int64, none⟩ := rfl

theorem toInt64_float_eq_ok_iff :
    (ColumnValue.float number).toInt64 = .ok (some integer) ↔
      number.IsExactly integer.toInt := by
  rw [toInt64_float, ← int64OfFloat?_eq_some_iff]
  cases int64OfFloat? number with
  | none => simp
  | some found => simp

theorem toInt64_float_eq_error_iff :
    (ColumnValue.float number).toInt64 = .error ⟨.float, .int64, none⟩ ↔
      ∀ exact : Int, -2 ^ 63 ≤ exact → exact < 2 ^ 63 → ¬ number.IsExactly exact := by
  rw [toInt64_float, ← int64OfFloat?_eq_none_iff]
  cases int64OfFloat? number with
  | none => simp
  | some found => simp

end ColumnValue

open ColumnValue

theorem ColumnValue.toInt64_float_cases {number : Binary64} {exact : Int}
    (isExactly : number.IsExactly exact) (bound : exact.natAbs ≤ 2 ^ 63) :
    (∃ integer : Int64, integer.toInt = exact ∧
        (ColumnValue.float number).toInt64 = .ok (some integer)) ∨
      exact = 2 ^ 63 ∧
        (ColumnValue.float number).toInt64 = .error ⟨.float, .int64, none⟩ := by
  by_cases inRange : exact < 2 ^ 63
  · have same := Int64.toInt_ofInt_of_le (by omega : -2 ^ 63 ≤ exact) inRange
    rw [← same] at isExactly
    exact .inl ⟨_, same, toInt64_float_eq_ok_iff.mpr isExactly⟩
  · refine .inr ⟨by omega, toInt64_float_eq_error_iff.mpr fun other _ below isOther => ?_⟩
    have same := isExactly.unique isOther
    omega

/-! ## Scanning -/

namespace Cell

variable {cell : Cell .int64} {patterns : PatternList} {number : Binary64} {integer : Int64}

theorem scan_float_iff :
    cell.scan patterns (.float number) = (.ok (), .ofValue integer) ↔
      number.IsExactly integer.toInt := by
  rw [scan_eq_ok_iff, ScalarType.coerce, ← toInt64_float_eq_ok_iff]
  simp only [mapError_eq_ok_iff]
  constructor
  · rintro ⟨outcome, coerces, same⟩
    cases outcome with
    | none => cases same
    | some found =>
        cases same
        exact coerces
  · intro coerces
    exact ⟨_, coerces, rfl⟩

theorem scan_float_error_iff :
    cell.scan patterns (.float number) =
        (.error (.conversion ⟨.float, .int64, none⟩), .null .int64) ↔
      ∀ exact : Int, -2 ^ 63 ≤ exact → exact < 2 ^ 63 → ¬ number.IsExactly exact := by
  rw [scan_eq, ScalarType.coerce, ← toInt64_float_eq_error_iff]
  cases (ColumnValue.float number).toInt64 with
  | ok outcome => simp [Except.mapError]
  | error error => simp [Except.mapError]

/-- A float is scanned as the integer that it is, where that fits into 64 bits, and both zeros
as zero. Every other float is a conversion error and leaves null. So an integer that was made a
float comes back as what it was rounded to, itself if it is a float at all; only where it was
rounded beyond the greatest integer it does not come back. -/
theorem scan_float_exact (cell : Cell .int64) (patterns : PatternList) :
    (∀ number : Binary64,
      (∀ integer : Int64, cell.scan patterns (.float number) = (.ok (), .ofValue integer) ↔
        number.IsExactly integer.toInt) ∧
      (cell.scan patterns (.float number) =
          (.error (.conversion ⟨.float, .int64, none⟩), .null .int64) ↔
        ∀ exact : Int, -2 ^ 63 ≤ exact → exact < 2 ^ 63 → ¬ number.IsExactly exact)) ∧
    (∀ negative, cell.scan patterns (.float (.finite negative .zero)) = (.ok (), .ofValue 0)) ∧
    ∀ integer : Int64, ∃ number rounded,
      (ColumnValue.int integer).toFloat64 = .ok (some number) ∧
        number.IsNearestTo integer.toInt ∧ number.IsExactly rounded ∧
        ((∃ exact : Binary64, exact.IsExactly integer.toInt) → rounded = integer.toInt) ∧
        ((∃ back : Int64, back.toInt = rounded ∧
            (ColumnValue.float number).toInt64 = .ok (some back)) ∨
          rounded = 2 ^ 63 ∧
            (ColumnValue.float number).toInt64 = .error ⟨.float, .int64, none⟩) := by
  refine ⟨fun number => ⟨fun integer => scan_float_iff, scan_float_error_iff⟩,
    fun negative => scan_float_iff.mpr (Binary64.isExactly_zero negative), fun integer => ?_⟩
  have low := integer.le_toInt
  have high := integer.toInt_lt
  have fits : integer.toInt.natAbs ≤ 2 ^ 63 := by omega
  rcases Binary64.exists_isExactly_ofInt fits with ⟨rounded, isExactly, bound⟩
  refine ⟨_, rounded, rfl, Binary64.isNearestTo_ofInt (by omega), isExactly, ?_,
    toInt64_float_cases isExactly bound⟩
  rintro ⟨exact, exactly⟩
  exact isExactly.unique (exactly.ofInt (by omega))

/-- The greatest integer is rounded to the first number beyond all integers of 64 bits. -/
example : (ColumnValue.float (.ofInt (2 ^ 63 - 1))).toInt64 = .error ⟨.float, .int64, none⟩ := by
  decide +kernel

end Cell

end ScalarCell
