import ScalarCell.Proofs.PatternList.Default

namespace ScalarCell.PatternList

/-! The order of patterns decides between two readings of one text. Where patterns agree there is
nothing to decide, and their order shows in errors alone. -/

variable {patterns others : List Pattern} {last otherLast : Option (Pattern × Pattern.Mismatch)}
  {bytes : List UInt8} {text : String} {defaultOffset : UtcOffset}

theorem Agree.of_perm (agree : Agree patterns bytes defaultOffset)
    (perm : others.Perm patterns) : Agree others bytes defaultOffset := by
  intro pattern member other otherMember
  exact agree pattern (perm.mem_iff.mp member) other (perm.mem_iff.mp otherMember)

theorem readFrom_perm_iff (agree : Agree patterns bytes defaultOffset)
    (perm : others.Perm patterns) {timestamp : Timestamp} :
    readFrom otherLast bytes defaultOffset others = .ok timestamp ↔
      readFrom last bytes defaultOffset patterns = .ok timestamp := by
  rw [readFrom_eq_ok_iff agree, readFrom_eq_ok_iff (agree.of_perm perm)]
  simp only [perm.mem_iff]

/-- The same timestamp from two lists, or an error of each of them for the text. -/
def SameUpToReason (text : String) (outcome other : Except TimestampTextError Timestamp) :
    Prop :=
  (∃ timestamp, outcome = .ok timestamp ∧ other = .ok timestamp) ∨
    ∃ last otherLast, outcome = .error ⟨text, last⟩ ∧ other = .error ⟨text, otherLast⟩

theorem read_perm {list other : PatternList}
    (agree : Agree list.patterns (Utf8.encode (dropZulu text.toList)) defaultOffset)
    (perm : other.patterns.Perm list.patterns) :
    SameUpToReason text (other.read text defaultOffset) (list.read text defaultOffset) := by
  have same {timestamp : Timestamp} :
      readFrom none (Utf8.encode (dropZulu text.toList)) defaultOffset other.patterns =
          .ok timestamp ↔
        readFrom none (Utf8.encode (dropZulu text.toList)) defaultOffset list.patterns =
          .ok timestamp :=
    readFrom_perm_iff agree perm
  rw [read, read]
  cases outcome : readFrom none (Utf8.encode (dropZulu text.toList)) defaultOffset
      list.patterns with
  | ok timestamp =>
      rw [same.mpr outcome]
      exact .inl ⟨timestamp, rfl, rfl⟩
  | error last =>
      cases attempt : readFrom none (Utf8.encode (dropZulu text.toList)) defaultOffset
          other.patterns with
      | ok timestamp =>
          rw [same.mp attempt] at outcome
          cases outcome
      | error otherLast => exact .inr ⟨otherLast, last, rfl, rfl⟩

/-- No two of the default patterns read a text differently. In whatever order they stand, they
read the same texts and give them the same meaning, and of an error they change at most the
pattern and the reason. -/
theorem default_read_perm :
    (∀ (text : List Char) (defaultOffset : UtcOffset),
      Agree PatternList.default.patterns (Utf8.encode text) defaultOffset) ∧
    ∀ list : PatternList, list.patterns.Perm PatternList.default.patterns →
      ∀ (text : String) (defaultOffset : UtcOffset),
        SameUpToReason text (list.read text defaultOffset)
          (PatternList.default.read text defaultOffset) := by
  refine ⟨default_agree, fun list perm text defaultOffset => ?_⟩
  exact read_perm (default_agree _ defaultOffset) perm

def halfSecondInTheWest : Timestamp where
  date := .epoch
  time := { TimeOfDay.midnight with nanosecond := 500000000, nanosecond_lt := by decide }
  offset := ⟨-25200, by decide⟩

/-- With the shortest pattern first a text with a fraction and an offset is read all the same. -/
theorem default_read_perm_reverse :
    PatternList.default.patterns.reverse.Perm PatternList.default.patterns ∧
    (⟨PatternList.default.patterns.reverse⟩ : PatternList).read
        "1970-01-01T00:00:00.5-07:00" .utc = .ok halfSecondInTheWest := by
  have perm := PatternList.default.patterns.reverse_perm
  have inOrder : PatternList.default.read "1970-01-01T00:00:00.5-07:00" .utc =
      .ok halfSecondInTheWest := by decide +kernel
  refine ⟨perm, ?_⟩
  rcases default_read_perm.2 ⟨PatternList.default.patterns.reverse⟩ perm
      "1970-01-01T00:00:00.5-07:00" .utc with
    ⟨timestamp, read, same⟩ | ⟨last, otherLast, -, refused⟩
  · rw [inOrder] at same
    rw [read, same]
  · rw [inOrder] at refused
    cases refused

end ScalarCell.PatternList
