import ScalarCell.Cell
import ScalarCell.Proofs.Calendar.IsoYear

namespace ScalarCell.Pattern

/-! Every pattern writes every timestamp. The one component that could refuse is a year of
four digits, and neither the year of a date nor its ISO year has more. -/

theorem exists_writeYear {year : Int} (inRange : YearInRange year) (padding : Padding)
    (digits : YearDigits) (range : YearRange) (rule : SignRule) :
    ∃ text, writeYear padding digits range rule year = .ok text := by
  rw [writeYear.eq_def, if_neg]
  · exact ⟨_, rfl⟩
  · intro refused
    exact refused.2 inRange

theorem Component.exists_render (component : Component) (timestamp : Timestamp) :
    ∃ text, component.render timestamp = .ok text := by
  cases component with
  | year padding digits range base sign =>
      cases base with
      | calendar =>
          exact exists_writeYear timestamp.date.isDate.1 padding digits range sign
      | isoWeek =>
          exact exists_writeYear timestamp.date.yearInRange_isoYearWeek padding digits
            range sign
  | month padding style caseSensitive => cases style <;> exact ⟨_, rfl⟩
  | weekNumber padding rule => cases rule <;> exact ⟨_, rfl⟩
  | hour padding dial => cases dial <;> exact ⟨_, rfl⟩
  | period letterCase caseSensitive => cases letterCase <;> exact ⟨_, rfl⟩
  | day | ordinal | weekday | minute | second | subsecond | offsetHour | offsetMinute
    | offsetSecond | ignore | unixTimestamp | ending => exact ⟨_, rfl⟩

mutual
theorem Item.exists_render : ∀ (item : Item) (timestamp : Timestamp),
    ∃ text, item.render timestamp = .ok text
  | .literal text, _ => ⟨text, rfl⟩
  | .component part, timestamp => part.exists_render timestamp
  | .optional inner, timestamp => inner.exists_render timestamp
  | .first choices, timestamp => choices.exists_render timestamp

theorem Items.exists_render : ∀ (items : Items) (timestamp : Timestamp),
    ∃ text, items.render timestamp = .ok text
  | .nil, _ => ⟨[], rfl⟩
  | .cons head tail, timestamp => by
      obtain ⟨front, writtenHead⟩ := head.exists_render timestamp
      obtain ⟨back, writtenTail⟩ := tail.exists_render timestamp
      refine ⟨front ++ back, ?_⟩
      simp only [Items.render, writtenHead, writtenTail, Except.map]

theorem Alternatives.exists_render : ∀ (choices : Alternatives) (timestamp : Timestamp),
    ∃ text, choices.render timestamp = .ok text
  | .nil, _ => ⟨[], rfl⟩
  | .cons head _, timestamp => head.exists_render timestamp
end

theorem exists_render (pattern : Pattern) (timestamp : Timestamp) :
    ∃ text, pattern.render timestamp = .ok text := by
  obtain ⟨characters, written⟩ := pattern.items.exists_render timestamp
  exact ⟨String.ofList characters, by rw [render, written]; rfl⟩

end ScalarCell.Pattern

namespace ScalarCell.PatternList

theorem exists_render {list : PatternList} (nonempty : list.patterns ≠ [])
    (timestamp : Timestamp) : ∃ text, list.render timestamp = .ok text := by
  obtain ⟨first, others, patterns_eq⟩ := List.exists_cons_of_ne_nil nonempty
  obtain ⟨text, written⟩ := first.exists_render timestamp
  exact ⟨text, by simp only [render, patterns_eq, written]⟩

theorem render_eq_error_iff {list : PatternList} {timestamp : Timestamp}
    {error : ListRenderError} :
    list.render timestamp = .error error ↔ list.patterns = [] ∧ error = .noPatterns := by
  by_cases empty : list.patterns = []
  · simp only [render, empty, Except.error.injEq, true_and]
    exact eq_comm
  · obtain ⟨text, written⟩ := exists_render empty timestamp
    simp [written, empty]

end ScalarCell.PatternList

namespace ScalarCell.Cell

theorem exists_toTextColumn {list : PatternList} (nonempty : list.patterns ≠ [])
    (cell : Cell .time) :
    ∃ column, cell.toTextColumn list = .ok column ∧ column.isNull = cell.isNull := by
  rw [toTextColumn]
  cases valid : cell.valid with
  | false => exact ⟨.null, by simp [toOption, valid], by simp [isNull, valid, ColumnValue.isNull]⟩
  | true =>
      obtain ⟨text, written⟩ := PatternList.exists_render nonempty cell.value
      refine ⟨.text text, ?_, by simp [isNull, valid, ColumnValue.isNull]⟩
      simp [toOption, valid, written, Except.map]

end ScalarCell.Cell
