import ScalarCell.Calendar.UtcOffset

namespace ScalarCell.UtcOffset

/-! The three parts of an offset, and the offset of three parts. -/

theorem parts_of_nonneg {offset : UtcOffset} (nonnegative : 0 ≤ offset.seconds) :
    offset.hourPart = offset.seconds / 3600 ∧
    offset.minutePart = offset.seconds / 60 % 60 ∧
      offset.secondPart = offset.seconds % 60 := by
  have quotient : 0 ≤ offset.seconds / 60 := by omega
  refine ⟨Int.tdiv_eq_ediv_of_nonneg nonnegative, ?_,
    Int.tmod_eq_emod_of_nonneg nonnegative⟩
  rw [minutePart, Int.tdiv_eq_ediv_of_nonneg nonnegative,
    Int.tmod_eq_emod_of_nonneg quotient]

theorem parts_of_neg {offset : UtcOffset} (negative : offset.seconds < 0) :
    offset.hourPart = -(-offset.seconds / 3600) ∧
      offset.minutePart = -(-offset.seconds / 60 % 60) ∧
      offset.secondPart = -(-offset.seconds % 60) := by
  have opposite : 0 ≤ -offset.seconds := by omega
  have quotient : 0 ≤ -offset.seconds / 60 := by omega
  have seconds_eq : offset.seconds = -(-offset.seconds) := by omega
  refine ⟨?_, ?_, ?_⟩
  · rw [hourPart, seconds_eq, Int.neg_tdiv, Int.tdiv_eq_ediv_of_nonneg opposite,
      Int.neg_neg]
  · rw [minutePart, seconds_eq, Int.neg_tdiv, Int.neg_tmod,
      Int.tdiv_eq_ediv_of_nonneg opposite, Int.tmod_eq_emod_of_nonneg quotient,
      Int.neg_neg]
  · rw [secondPart, seconds_eq, Int.neg_tmod, Int.tmod_eq_emod_of_nonneg opposite,
      Int.neg_neg]

theorem withSignOf_of_pos {sign : Int} (positive : 0 < sign) (value : Int) :
    withSignOf sign value = value.natAbs := by
  simp [withSignOf, positive]

theorem withSignOf_of_neg {sign : Int} (negative : sign < 0) (value : Int) :
    withSignOf sign value = -(value.natAbs : Int) := by
  have notPositive : ¬ 0 < sign := by omega
  simp [withSignOf, negative, notPositive]

theorem withSignOf_zero (value : Int) : withSignOf 0 value = value := rfl

theorem withSignOf_of_sameSign {sign value : Int}
    (sameSign : (0 ≤ sign ∧ 0 ≤ value) ∨ (sign ≤ 0 ∧ value ≤ 0)) :
    withSignOf sign value = value := by
  rcases Int.lt_trichotomy sign 0 with negative | rfl | positive
  · rw [withSignOf_of_neg negative]
    omega
  · exact withSignOf_zero value
  · rw [withSignOf_of_pos positive]
    omega

/-- Three parts of one sign, each in its range, make up an offset. -/
theorem ofParts?_of_sameSign {hour minute second : Int}
    (sameSign : (0 ≤ hour ∧ 0 ≤ minute ∧ 0 ≤ second) ∨
      (hour ≤ 0 ∧ minute ≤ 0 ∧ second ≤ 0))
    (hour_le : hour.natAbs ≤ 25) (minute_le : minute.natAbs ≤ 59)
    (second_le : second.natAbs ≤ 59) :
    ∃ inRange, ofParts? hour minute second =
      some ⟨hour * 3600 + minute * 60 + second, inRange⟩ := by
  have minute_eq : withSignOf hour minute = minute :=
    withSignOf_of_sameSign (by omega)
  have second_eq : withSignOf (if hour = 0 then minute else hour) second = second := by
    apply withSignOf_of_sameSign
    split <;> omega
  have inRange : -93599 ≤ hour * 3600 + minute * 60 + second ∧
      hour * 3600 + minute * 60 + second ≤ 93599 := by omega
  refine ⟨inRange, ?_⟩
  rw [ofParts?, if_pos ⟨hour_le, minute_le, second_le⟩]
  simp only [minute_eq, second_eq, inRange, and_self, dite_true]

theorem parts_sameSign (offset : UtcOffset) :
    (0 ≤ offset.hourPart ∧ 0 ≤ offset.minutePart ∧ 0 ≤ offset.secondPart) ∨
      (offset.hourPart ≤ 0 ∧ offset.minutePart ≤ 0 ∧ offset.secondPart ≤ 0) := by
  by_cases nonnegative : 0 ≤ offset.seconds
  · rcases parts_of_nonneg nonnegative with ⟨hour, minute, second⟩
    omega
  · rcases parts_of_neg (Int.not_le.mp nonnegative) with ⟨hour, minute, second⟩
    omega

theorem parts_bounds (offset : UtcOffset) :
    offset.hourPart.natAbs ≤ 25 ∧ offset.minutePart.natAbs ≤ 59 ∧
      offset.secondPart.natAbs ≤ 59 ∧
      offset.hourPart * 3600 + offset.minutePart * 60 + offset.secondPart =
        offset.seconds := by
  have bounds := offset.inRange
  by_cases nonnegative : 0 ≤ offset.seconds
  · rcases parts_of_nonneg nonnegative with ⟨hour, minute, second⟩
    omega
  · rcases parts_of_neg (Int.not_le.mp nonnegative) with ⟨hour, minute, second⟩
    omega

theorem natAbs_hourPart (offset : UtcOffset) :
    offset.hourPart.natAbs = offset.seconds.natAbs / 3600 := by
  by_cases nonnegative : 0 ≤ offset.seconds
  · rcases parts_of_nonneg nonnegative with ⟨hour, -, -⟩
    omega
  · rcases parts_of_neg (Int.not_le.mp nonnegative) with ⟨hour, -, -⟩
    omega

def wholeMinutes (offset : UtcOffset) : UtcOffset where
  seconds := offset.hourPart * 3600 + offset.minutePart * 60
  inRange := by
    rcases offset.parts_bounds with ⟨hour_le, minute_le, -, -⟩
    omega

theorem wholeMinutes_eq_iff {offset : UtcOffset} :
    offset.wholeMinutes = offset ↔ offset.secondPart = 0 := by
  rcases offset.parts_bounds with ⟨-, -, -, sum⟩
  have bySeconds : offset.wholeMinutes = offset ↔
      offset.hourPart * 3600 + offset.minutePart * 60 = offset.seconds :=
    ⟨congrArg seconds, fun same => by rw [wholeMinutes]; congr⟩
  rw [bySeconds]
  omega

theorem ofParts?_parts (offset : UtcOffset) :
    ofParts? offset.hourPart offset.minutePart offset.secondPart = some offset := by
  rcases offset.parts_bounds with ⟨hour_le, minute_le, second_le, sum⟩
  rcases ofParts?_of_sameSign offset.parts_sameSign hour_le minute_le second_le with
    ⟨inRange, made⟩
  rw [made]
  congr

end ScalarCell.UtcOffset
