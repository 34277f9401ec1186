import ScalarCell.PatternList
import ScalarCell.Proofs.Pattern.DefaultOffset

namespace ScalarCell.PatternList

/-! What a text says does not depend on the default offset. Two of them lead a list of patterns
through the same attempts, and the timestamps it ends with differ at most in an offset that the
text does not give. -/

open Pattern

variable {patterns : List Pattern} {first second : UtcOffset}

def Writes (patterns : List Pattern) (text : List UInt8) (offset : UtcOffset) : Prop :=
  ∃ pattern ∈ patterns, pattern.items.relaxHours.Writes text offset

theorem readFrom_sameUpToOffset (noCount : ∀ pattern ∈ patterns, pattern.items.hasCount = false)
    (sameReach : first.hourPart.natAbs ≤ 23 ↔ second.hourPart.natAbs ≤ 23)
    (last : Option (Pattern × Mismatch)) (bytes : List UInt8) :
    SameUpToOffset first second (Writes patterns bytes) (readFrom last bytes first patterns)
      (readFrom last bytes second patterns) := by
  induction patterns generalizing last with
  | nil => exact .refused last
  | cons pattern rest induction =>
      have headNoCount : pattern.items.relaxHours.hasCount = false := by
        rw [Items.hasCount_relaxHours]
        exact noCount pattern List.mem_cons_self
      have head : SameUpToOffset first second (pattern.items.relaxHours.Writes bytes)
          (pattern.read bytes first) (pattern.read bytes second) :=
        readItems_sameUpToOffset headNoCount sameReach bytes
      rw [readFrom, readFrom]
      generalize pattern.read bytes first = outcome at head ⊢
      generalize pattern.read bytes second = other at head ⊢
      cases head with
      | refused mismatch =>
          have tail := induction
            (fun other member => noCount other (List.mem_cons_of_mem pattern member))
            (some (pattern, mismatch))
          apply tail.mono
          intro offset found
          obtain ⟨other, member, writes⟩ := found
          exact ⟨other, List.mem_cons_of_mem pattern member, writes⟩
      | written timestamp found =>
          exact .written timestamp ⟨pattern, List.mem_cons_self, found⟩
      | filled date time => exact .filled date time

theorem read_sameUpToOffset {list : PatternList}
    (noCount : ∀ pattern ∈ list.patterns, pattern.items.hasCount = false)
    (sameReach : first.hourPart.natAbs ≤ 23 ↔ second.hourPart.natAbs ≤ 23) (text : String) :
    SameUpToOffset first second (Writes list.patterns (Utf8.encode (dropZulu text.toList)))
      (list.read text first) (list.read text second) := by
  have same := readFrom_sameUpToOffset noCount sameReach none (Utf8.encode (dropZulu text.toList))
  rw [read, read]
  generalize readFrom none (Utf8.encode (dropZulu text.toList)) first list.patterns = outcome
    at same ⊢
  generalize readFrom none (Utf8.encode (dropZulu text.toList)) second list.patterns = other
    at same ⊢
  cases same with
  | refused last => exact .refused (⟨text, last⟩ : TimestampTextError)
  | written timestamp found => exact .written timestamp found
  | filled date time => exact .filled date time

/-- A default offset fills a gap and does nothing else. Two of them lead to the same error, to
the same timestamp with an offset from the text, or to the same local time at either of them,
as long as both or neither have more than 23 whole hours. It is those hours, and nothing else,
that a gap cannot take. -/
theorem read_defaultOffset {list : PatternList}
    (noCount : ∀ pattern ∈ list.patterns, pattern.items.hasCount = false)
    (sameReach : first.hourPart.natAbs ≤ 23 ↔ second.hourPart.natAbs ≤ 23) (text : String) :
    SameUpToOffset first second (Writes list.patterns (Utf8.encode (dropZulu text.toList)))
        (list.read text first) (list.read text second) ∧
      ∀ (fields : Fields) (defaultOffset : UtcOffset),
        (∃ error, fields.withDefaultHour.withDefaultOffset defaultOffset = .error error) ↔
          fields.offsetHour = none ∧ 23 < defaultOffset.hourPart.natAbs := by
  constructor
  · exact read_sameUpToOffset noCount sameReach text
  · intro fields defaultOffset
    exact withDefaultOffset_eq_error_iff

/-- Half an hour to the west is filled in with its sign, though it has no whole hour. -/
theorem read_defaultOffset_halfHour :
    SameUpToOffset ⟨7200, by decide⟩ ⟨-1800, by decide⟩
        (Writes PatternList.default.patterns
          (Utf8.encode (dropZulu "2021-03-04 05:06".toList)))
        (PatternList.default.read "2021-03-04 05:06" ⟨7200, by decide⟩)
        (PatternList.default.read "2021-03-04 05:06" ⟨-1800, by decide⟩) ∧
      (PatternList.default.read "2021-03-04 05:06" ⟨-1800, by decide⟩).toOption.map
        Timestamp.offset = some ⟨-1800, by decide⟩ := by
  have noCount : ∀ pattern ∈ PatternList.default.patterns, pattern.items.hasCount = false := by
    decide
  refine ⟨(read_defaultOffset noCount ?_ "2021-03-04 05:06").1, ?_⟩
  · decide
  · decide +kernel

/-- An offset of a whole day is refused where the text leaves a gap, and the one of no hours is
not. -/
theorem read_defaultOffset_wholeDay :
    (∀ pattern ∈ PatternList.default.patterns, pattern.items.hasCount = false) ∧
      ¬ SameUpToOffset .utc ⟨86400, by decide⟩
        (Writes PatternList.default.patterns (Utf8.encode (dropZulu "2021-03-04".toList)))
        (PatternList.default.read "2021-03-04" .utc)
        (PatternList.default.read "2021-03-04" ⟨86400, by decide⟩) := by
  have taken : PatternList.default.read "2021-03-04" .utc =
      .ok ⟨⟨2021, 3, 4, by decide⟩, .midnight, .utc⟩ := by decide +kernel
  have refused : (PatternList.default.read "2021-03-04" ⟨86400, by decide⟩).isOk = false := by
    decide +kernel
  refine ⟨by decide, fun same => ?_⟩
  rw [taken] at same
  generalize PatternList.default.read "2021-03-04" ⟨86400, by decide⟩ = outcome
    at same refused
  cases same with
  | written timestamp found => cases refused
  | filled date time => cases refused

end ScalarCell.PatternList
