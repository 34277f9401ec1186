import Mathlib.Data.List.Basic
import ScalarCell.PatternList

namespace ScalarCell.PatternList

/-! A list tries its patterns in turn. From one attempt to the next it carries the latest
failure, and the next failure takes its place. So the first pattern that reads a text decides
what it says, the last one gives the reason where none of them reads it, and of two lists, one
after the other, the second matters only for what the first does not read. -/

open Pattern

variable {patterns before after : List Pattern} {last : Option (Pattern × Mismatch)}
  {bytes : List UInt8} {defaultOffset : UtcOffset} {timestamp : Timestamp}

/-! ## The letter at the end -/

theorem dropZulu_of_getLast?_ne {text : List Char} (notZulu : text.getLast? ≠ some 'Z') :
    dropZulu text = text :=
  if_neg notZulu

theorem dropZulu_of_getLast?_eq {text : List Char} (zulu : text.getLast? = some 'Z') :
    dropZulu text = text.dropLast :=
  if_pos zulu

theorem dropZulu_append_zulu (text : List Char) : dropZulu (text ++ ['Z']) = text := by
  simp [dropZulu]

inductive DropsZulu : List Char → List Char → Prop
  | zulu (front : List Char) : DropsZulu (front ++ ['Z']) front
  | whole {text : List Char} (notZulu : text.getLast? ≠ some 'Z') : DropsZulu text text

theorem dropsZulu_iff {text rest : List Char} :
    DropsZulu text rest ↔ rest = dropZulu text := by
  constructor
  · intro drops
    cases drops with
    | zulu => exact (dropZulu_append_zulu rest).symm
    | whole notZulu => exact (dropZulu_of_getLast?_ne notZulu).symm
  · intro dropped
    subst dropped
    by_cases zulu : text.getLast? = some 'Z'
    · rcases List.getLast?_eq_some_iff.mp zulu with ⟨front, rfl⟩
      rw [dropZulu_append_zulu]
      exact .zulu front
    · rw [dropZulu_of_getLast?_ne zulu]
      exact .whole zulu

theorem dropZulu_cases (text : List Char) :
    text = dropZulu text ∨ text = dropZulu text ++ ['Z'] := by
  have drops : DropsZulu text (dropZulu text) := dropsZulu_iff.mpr rfl
  generalize dropZulu text = rest at drops
  cases drops with
  | zulu => exact .inr rfl
  | whole => exact .inl rfl

/-! ## One attempt after another -/

/-- The patterns of a second list start with the failure that the first one ended with. -/
theorem readFrom_append :
    readFrom last bytes defaultOffset (before ++ after) =
      match readFrom last bytes defaultOffset before with
      | .ok timestamp => .ok timestamp
      | .error failure => readFrom failure bytes defaultOffset after := by
  -- Every attempt changes the failure carried, so it is not fixed in the induction.
  induction before generalizing last with
  | nil => rfl
  | cons pattern rest induction =>
      rw [List.cons_append, readFrom, readFrom]
      cases pattern.read bytes defaultOffset with
      | ok timestamp => rfl
      | error mismatch => exact induction

theorem readFrom_of_ne_nil (nonempty : patterns ≠ [])
    (last other : Option (Pattern × Mismatch)) :
    readFrom last bytes defaultOffset patterns =
      readFrom other bytes defaultOffset patterns := by
  cases patterns with
  | nil => exact absurd rfl nonempty
  | cons pattern rest => rw [readFrom, readFrom]

theorem exists_readFrom_error_iff (last : Option (Pattern × Mismatch)) :
    (∃ failure, readFrom last bytes defaultOffset patterns = .error failure) ↔
      ∀ pattern ∈ patterns, ∃ mismatch,
        pattern.read bytes defaultOffset = .error mismatch := by
  induction patterns generalizing last with
  | nil => simp [readFrom]
  | cons pattern rest induction =>
      rw [readFrom, List.forall_mem_cons]
      cases pattern.read bytes defaultOffset with
      | ok timestamp => simp
      | error mismatch => simp [induction]

inductive FirstReads (bytes : List UInt8) (defaultOffset : UtcOffset) (timestamp : Timestamp) :
    List Pattern → Prop
  | intro (before : List Pattern) {pattern : Pattern} (after : List Pattern)
      (refused : ∀ other ∈ before, ∃ mismatch, other.read bytes defaultOffset = .error mismatch)
      (read : pattern.read bytes defaultOffset = .ok timestamp) :
      FirstReads bytes defaultOffset timestamp (before ++ pattern :: after)

theorem firstReads_of_readFrom
    (read : readFrom last bytes defaultOffset patterns = .ok timestamp) :
    FirstReads bytes defaultOffset timestamp patterns := by
  induction patterns generalizing last with
  | nil => cases read
  | cons pattern rest induction =>
      rw [readFrom] at read
      cases attempt : pattern.read bytes defaultOffset with
      | ok found =>
          rw [attempt] at read
          cases read
          exact .intro [] rest (List.forall_mem_nil _) attempt
      | error mismatch =>
          rw [attempt] at read
          rcases induction read with ⟨before, after, refused, readLater⟩
          apply FirstReads.intro (pattern :: before) after _ readLater
          exact List.forall_mem_cons.mpr ⟨⟨mismatch, attempt⟩, refused⟩

theorem readFrom_of_firstReads (first : FirstReads bytes defaultOffset timestamp patterns) :
    readFrom last bytes defaultOffset patterns = .ok timestamp := by
  rcases first with ⟨before, after, refused, read⟩
  rcases (exists_readFrom_error_iff last).mpr refused with ⟨failure, passed⟩
  rw [readFrom_append, passed]
  simp only [readFrom, read]

theorem readFrom_eq_ok_iff_firstReads :
    readFrom last bytes defaultOffset patterns = .ok timestamp ↔
      FirstReads bytes defaultOffset timestamp patterns :=
  ⟨firstReads_of_readFrom, readFrom_of_firstReads⟩

theorem exists_read_of_readFrom
    (read : readFrom last bytes defaultOffset patterns = .ok timestamp) :
    ∃ pattern ∈ patterns, pattern.read bytes defaultOffset = .ok timestamp := by
  rcases firstReads_of_readFrom read with ⟨before, after, -, readPattern⟩
  exact ⟨_, List.mem_append_right before List.mem_cons_self, readPattern⟩

theorem exists_readFrom_of_read {pattern : Pattern} (member : pattern ∈ patterns)
    (read : pattern.read bytes defaultOffset = .ok timestamp) :
    ∃ found, readFrom last bytes defaultOffset patterns = .ok found := by
  cases outcome : readFrom last bytes defaultOffset patterns with
  | ok found => exact ⟨found, rfl⟩
  | error failure =>
      have eachRefuses := (exists_readFrom_error_iff last).mp ⟨failure, outcome⟩
      rcases eachRefuses pattern member with ⟨mismatch, refused⟩
      rw [read] at refused
      cases refused

theorem exists_mismatch_of_readFrom (nonempty : patterns ≠ [])
    {failure : Option (Pattern × Mismatch)}
    (refused : readFrom last bytes defaultOffset patterns = .error failure) :
    ∃ mismatch, (patterns.getLast nonempty).read bytes defaultOffset = .error mismatch ∧
      failure = some (patterns.getLast nonempty, mismatch) := by
  have parts : patterns.dropLast ++ [patterns.getLast nonempty] = patterns :=
    List.dropLast_concat_getLast nonempty
  -- The failure of the patterns before it is only carried as far as the last attempt.
  generalize patterns.getLast nonempty = pattern at parts ⊢
  rw [← parts, readFrom_append] at refused
  cases passed : readFrom last bytes defaultOffset patterns.dropLast with
  | ok timestamp =>
      rw [passed] at refused
      cases refused
  | error earlier =>
      simp only [passed, readFrom] at refused
      cases attempt : pattern.read bytes defaultOffset with
      | ok timestamp =>
          rw [attempt] at refused
          cases refused
      | error mismatch =>
          rw [attempt] at refused
          cases refused
          exact ⟨mismatch, rfl, rfl⟩

/-! ## Whole lists -/

variable {list : PatternList} {text : String}

theorem read_eq_ok_iff :
    list.read text defaultOffset = .ok timestamp ↔
      readFrom none (Utf8.encode (dropZulu text.toList)) defaultOffset list.patterns =
        .ok timestamp := by
  rw [read]
  cases readFrom none (Utf8.encode (dropZulu text.toList)) defaultOffset
    list.patterns with
  | ok found => simp
  | error last => simp

theorem read_eq_error_iff {error : TimestampTextError} :
    list.read text defaultOffset = .error error ↔
      ∃ failure, error = ⟨text, failure⟩ ∧
        readFrom none (Utf8.encode (dropZulu text.toList)) defaultOffset list.patterns =
          .error failure := by
  rw [read]
  cases readFrom none (Utf8.encode (dropZulu text.toList)) defaultOffset
    list.patterns with
  | ok found => simp
  | error last => simp [eq_comm]

theorem exists_error_iff :
    (∃ error, list.read text defaultOffset = .error error) ↔
      ∀ pattern ∈ list.patterns, ∃ mismatch,
        pattern.read (Utf8.encode (dropZulu text.toList)) defaultOffset = .error mismatch := by
  rw [← exists_readFrom_error_iff none]
  constructor
  · intro refused
    rcases refused with ⟨error, refused⟩
    rcases read_eq_error_iff.mp refused with ⟨failure, -, passed⟩
    exact ⟨failure, passed⟩
  · intro passed
    rcases passed with ⟨failure, passed⟩
    exact ⟨⟨text, failure⟩, read_eq_error_iff.mpr ⟨failure, rfl, passed⟩⟩

theorem read_append_of_ok (accepted : read ⟨before⟩ text defaultOffset = .ok timestamp) :
    read ⟨before ++ after⟩ text defaultOffset = .ok timestamp := by
  rw [read_eq_ok_iff] at accepted ⊢
  rw [readFrom_append, accepted]

theorem read_append_of_error (nonempty : after ≠ []) {error : TimestampTextError}
    (refused : read ⟨before⟩ text defaultOffset = .error error) :
    read ⟨before ++ after⟩ text defaultOffset = read ⟨after⟩ text defaultOffset := by
  rcases read_eq_error_iff.mp refused with ⟨failure, -, passed⟩
  rw [read, read, readFrom_append, passed]
  simp only [readFrom_of_ne_nil nonempty failure none]

theorem read_of_no_patterns (empty : list.patterns = []) :
    list.read text defaultOffset = .error ⟨text, none⟩ := by
  rw [read, empty, readFrom]

/-- The first pattern that reads a text decides, and where none does the last one gives the
reason. A list with others after it keeps what it reads, and any other text is left to those
others, if there are any. All patterns see the text without one `Z` at its end, and an error
shows the text as it was given. -/
theorem read_composes (text : String) (defaultOffset : UtcOffset) :
    (∀ before after : List Pattern,
      (∀ timestamp, read ⟨before⟩ text defaultOffset = .ok timestamp →
        read ⟨before ++ after⟩ text defaultOffset = .ok timestamp) ∧
      ∀ error, read ⟨before⟩ text defaultOffset = .error error →
        (after ≠ [] →
          read ⟨before ++ after⟩ text defaultOffset = read ⟨after⟩ text defaultOffset) ∧
        (after = [] → read ⟨before ++ after⟩ text defaultOffset = .error error)) ∧
    ∃ stripped, DropsZulu text.toList stripped ∧ ∀ list : PatternList,
      (∀ timestamp, list.read text defaultOffset = .ok timestamp ↔
        FirstReads (Utf8.encode stripped) defaultOffset timestamp list.patterns) ∧
      (∀ (nonempty : list.patterns ≠ []) (error : TimestampTextError),
        list.read text defaultOffset = .error error →
          ∃ mismatch,
            (list.patterns.getLast nonempty).read (Utf8.encode stripped) defaultOffset =
              .error mismatch ∧
            error = ⟨text, some (list.patterns.getLast nonempty, mismatch)⟩) ∧
      (list.patterns = [] → list.read text defaultOffset = .error ⟨text, none⟩) := by
  constructor
  · intro before after
    constructor
    · intro timestamp accepted
      exact read_append_of_ok accepted
    · intro error refused
      constructor
      · intro nonempty
        exact read_append_of_error nonempty refused
      · intro empty
        rw [empty, List.append_nil]
        exact refused
  · refine ⟨dropZulu text.toList, dropsZulu_iff.mpr rfl, fun list => ?_⟩
    refine ⟨fun timestamp => ?_, ?_, read_of_no_patterns⟩
    · rw [read_eq_ok_iff]
      exact readFrom_eq_ok_iff_firstReads
    · intro nonempty error refused
      rcases read_eq_error_iff.mp refused with ⟨failure, rfl, passed⟩
      rcases exists_mismatch_of_readFrom nonempty passed with ⟨mismatch, lastRefused, rfl⟩
      exact ⟨mismatch, lastRefused, rfl⟩

def dayPattern : Pattern where
  source := "[year]-[month]-[day]"
  items := .ofList dateItems

def minutePattern : Pattern where
  source := "[year]-[month]-[day] [hour]:[minute]"
  items := .ofList (minuteItems ' ')

def letterPattern : Pattern where
  source := "[year]-[month]-[day]T[hour]:[minute]"
  items := .ofList (minuteItems 'T')

/-- A pattern with another separator does not fit, and one for dates alone stops short of the
time. Together they fail for the second reason, and a pattern that fits reads the text before
them and after them. -/
theorem read_composes_minute :
    read ⟨[letterPattern, dayPattern]⟩ "1970-01-01 00:00Z" .utc =
        .error ⟨"1970-01-01 00:00Z", some (dayPattern, .trailingCharacters)⟩ ∧
      read ⟨[minutePattern]⟩ "1970-01-01 00:00Z" .utc = .ok .epoch ∧
      read ⟨[letterPattern, dayPattern] ++ [minutePattern]⟩ "1970-01-01 00:00Z" .utc =
        .ok .epoch ∧
      read ⟨[minutePattern] ++ [letterPattern, dayPattern]⟩ "1970-01-01 00:00Z" .utc =
        .ok .epoch ∧
      read ⟨[letterPattern, dayPattern] ++ []⟩ "1970-01-01 00:00Z" .utc =
        .error ⟨"1970-01-01 00:00Z", some (dayPattern, .trailingCharacters)⟩ ∧
      dayPattern.read (Utf8.encode "1970-01-01 00:00".toList) .utc =
        .error .trailingCharacters := by
  have refused : read ⟨[letterPattern, dayPattern]⟩ "1970-01-01 00:00Z" .utc =
      .error ⟨"1970-01-01 00:00Z", some (dayPattern, .trailingCharacters)⟩ := by
    decide +kernel
  have accepted : read ⟨[minutePattern]⟩ "1970-01-01 00:00Z" .utc = .ok .epoch := by
    decide +kernel
  rcases read_composes "1970-01-01 00:00Z" .utc with ⟨composes, stripped, drops, ofList⟩
  refine ⟨refused, accepted, ?_, ?_, ?_, ?_⟩
  · rcases composes [letterPattern, dayPattern] [minutePattern] with ⟨-, otherwise⟩
    exact ((otherwise _ refused).1 (List.cons_ne_nil _ _)).trans accepted
  · exact (composes [minutePattern] [letterPattern, dayPattern]).1 .epoch accepted
  · exact ((composes [letterPattern, dayPattern] []).2 _ refused).2 rfl
  · rcases ofList ⟨[letterPattern, dayPattern]⟩ with ⟨-, lastReason, -⟩
    rcases lastReason (List.cons_ne_nil _ _) _ refused with ⟨mismatch, lastRefused, error_eq⟩
    cases error_eq
    have stripped_eq : stripped = "1970-01-01 00:00".toList := dropsZulu_iff.mp drops
    rw [← stripped_eq]
    exact lastRefused

end ScalarCell.PatternList
