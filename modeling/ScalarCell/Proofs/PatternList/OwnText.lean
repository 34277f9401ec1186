import Mathlib
import ScalarCell.Proofs.PatternList.Default
import ScalarCell.Proofs.Text.Numeral

namespace ScalarCell.Pattern

/-! What a list writes, it reads again, if the pattern reads it at all and its text does not
end in the letter that lists drop before they read. Only a literal can end so. -/

open Digits

/-! ## The end of a text -/

inductive TextEnd where
  | nothing
  | zulu
  | other
deriving DecidableEq, Repr

namespace TextEnd

def ofText (text : List Char) : TextEnd :=
  match text.getLast? with
  | none => .nothing
  | some last => if last = 'Z' then .zulu else .other

def andThen (front back : TextEnd) : TextEnd :=
  if back = .nothing then front else back

theorem ofText_append (front back : List Char) :
    ofText (front ++ back) = (ofText front).andThen (ofText back) := by
  rw [ofText, List.getLast?_append]
  cases last : back.getLast? with
  | none => simp [andThen, ofText, last]
  | some character => by_cases zulu : character = 'Z' <;> simp [andThen, ofText, last, zulu]

theorem ofText_eq_zulu_iff {text : List Char} :
    ofText text = .zulu ↔ text.getLast? = some 'Z' := by
  rw [ofText]
  cases text.getLast? with
  | none => simp
  | some character => by_cases zulu : character = 'Z' <;> simp [zulu]

end TextEnd

/-! ## The texts of components -/

def IsPlain (text : List Char) : Prop :=
  text ≠ [] ∧ 'Z' ∉ text

instance (text : List Char) : Decidable (IsPlain text) :=
  inferInstanceAs (Decidable (_ ∧ _))

variable {text : List Char} {timestamp : Timestamp}

theorem IsPlain.ofText_eq (plain : IsPlain text) : TextEnd.ofText text = .other := by
  have last_eq := List.getLast?_eq_some_getLast plain.1
  have notZulu : text.getLast plain.1 ≠ 'Z' := by
    intro isZulu
    exact plain.2 (isZulu ▸ List.getLast_mem plain.1)
  rw [TextEnd.ofText, last_eq]
  exact if_neg notZulu

theorem IsPlain.append_left (plain : IsPlain text) {front : List Char}
    (noZulu : 'Z' ∉ front) : IsPlain (front ++ text) :=
  ⟨List.append_ne_nil_of_right_ne_nil front plain.1, by simp [noZulu, plain.2]⟩

theorem isPlain_digits (number : Nat) : IsPlain (Numeral.digits number) := by
  refine ⟨List.ne_nil_of_length_pos Nat.length_toDigits_pos, fun zulu => ?_⟩
  have isDigit := (isNumber_digits number).isDigit 'Z' zulu
  cases isDigit

theorem isPlain_padded {fill : Char} (notZulu : fill ≠ 'Z') (width number : Nat) :
    IsPlain (Numeral.padded fill width number) := by
  apply (isPlain_digits number).append_left
  intro zulu
  exact notZulu (List.eq_of_mem_replicate zulu).symm

theorem isPlain_write (padding : Padding) (width number : Nat) :
    IsPlain (padding.write width number) := by
  cases padding with
  | zero => exact isPlain_padded (by decide) width number
  | space => exact isPlain_padded (by decide) width number
  | unpadded => exact isPlain_digits number

theorem zulu_not_mem_sign (rule : SignRule) (negative : Bool) :
    'Z' ∉ rule.write negative := by
  cases rule <;> cases negative <;> decide

theorem isPlain_signed (rule : SignRule) (negative : Bool) (padding : Padding)
    (width number : Nat) : IsPlain (rule.write negative ++ padding.write width number) :=
  (isPlain_write padding width number).append_left (zulu_not_mem_sign rule negative)

theorem isPlain_year {padding : Padding} {digits : YearDigits} {range : YearRange}
    {rule : SignRule} {year : Int}
    (written : writeYear padding digits range rule year = .ok text) : IsPlain text := by
  rw [writeYear.eq_def] at written
  split at written
  · cases written
  · cases written
    cases digits with
    | full => exact isPlain_signed rule _ padding 4 _
    | century => exact isPlain_signed rule _ padding 2 _
    | lastTwo => exact isPlain_write padding 2 _

theorem isPlain_monthName {month : Nat} (range : 1 ≤ month ∧ month ≤ 12) :
    IsPlain (nameOf monthNames month) ∧ IsPlain (nameOf (shortNames monthNames) month) := by
  have named : ∀ index : Fin 12, IsPlain (nameOf monthNames (index.val + 1)) ∧
      IsPlain (nameOf (shortNames monthNames) (index.val + 1)) := by decide
  have found := named ⟨month - 1, by omega⟩
  rwa [Nat.sub_add_cancel range.1] at found

theorem isPlain_weekday (style : WeekdayStyle) (oneIndexed : Bool) (weekday : Weekday) :
    IsPlain (weekdayNumber style oneIndexed weekday) := by
  have names : IsPlain weekday.name.toList ∧ IsPlain (shortName weekday.name).toList := by
    cases weekday <;> decide
  cases style with
  | longName => exact names.1
  | shortName => exact names.2
  | fromSunday => exact isPlain_digits _
  | fromMonday => exact isPlain_digits _

theorem ofText_write_fraction (digits : FractionDigits) (nanosecond : Nat) :
    TextEnd.ofText (digits.write nanosecond) =
      if digits = .fixed 0 then .nothing else .other := by
  have plain := isPlain_padded (by decide : '0' ≠ 'Z') 9 nanosecond
  cases digits with
  | fixed count =>
      cases count with
      | zero => rfl
      | succ count =>
          have taken : IsPlain ((Numeral.padded '0' 9 nanosecond).take (count + 1)) :=
            ⟨by simp [List.take_eq_nil_iff, plain.1],
              fun zulu => plain.2 (List.mem_of_mem_take zulu)⟩
          rw [FractionDigits.write, taken.ofText_eq, if_neg (by simp)]
  | oneOrMore =>
      rw [FractionDigits.write, if_neg (by simp)]
      generalize Numeral.padded '0' 9 nanosecond = all at plain
      cases all with
      | nil => exact absurd rfl plain.1
      | cons first rest =>
          have kept : IsPlain (first :: (rest.reverse.dropWhile (· == '0')).reverse) := by
            refine ⟨List.cons_ne_nil _ _, fun zulu => plain.2 ?_⟩
            rcases List.mem_cons.mp zulu with isFirst | isKept
            · exact List.mem_cons.mpr (.inl isFirst)
            · have inRest := (List.dropWhile_suffix _).mem (List.mem_reverse.mp isKept)
              exact List.mem_cons_of_mem _ (List.mem_reverse.mp inRest)
          exact kept.ofText_eq

/-! ## The end of what a pattern writes -/

def Component.textEnd : Component → TextEnd
  | .ignore _ => .nothing
  | .ending _ => .nothing
  | .subsecond digits => if digits = .fixed 0 then .nothing else .other
  | _ => .other

mutual
def Item.textEnd : Item → TextEnd
  | .literal text => .ofText text
  | .component part => part.textEnd
  | .optional inner => inner.textEnd
  | .first choices => choices.textEnd

def Items.textEnd : Items → TextEnd
  | .nil => .nothing
  | .cons head tail => head.textEnd.andThen tail.textEnd

def Alternatives.textEnd : Alternatives → TextEnd
  | .nil => .nothing
  | .cons head _ => head.textEnd
end

theorem Component.ofText_render {component : Component}
    (rendered : component.render timestamp = .ok text) :
    TextEnd.ofText text = component.textEnd := by
  rcases timestamp.date.isDate with ⟨-, monthRange_pos, monthRange_le, -⟩
  have names := isPlain_monthName ⟨monthRange_pos, monthRange_le⟩
  cases component with
  | day padding => cases rendered; exact (isPlain_write padding 2 _).ofText_eq
  | month padding style caseSensitive =>
      cases style with
      | number => cases rendered; exact (isPlain_write padding 2 _).ofText_eq
      | longName => cases rendered; exact names.1.ofText_eq
      | shortName => cases rendered; exact names.2.ofText_eq
  | ordinal padding => cases rendered; exact (isPlain_write padding 3 _).ofText_eq
  | weekday style oneIndexed caseSensitive =>
      cases rendered
      exact (isPlain_weekday style oneIndexed _).ofText_eq
  | weekNumber padding rule =>
      cases rule <;> cases rendered <;> exact (isPlain_write padding 2 _).ofText_eq
  | year padding digits range base sign =>
      cases base with
      | calendar => exact (isPlain_year rendered).ofText_eq
      | isoWeek => exact (isPlain_year rendered).ofText_eq
  | hour padding dial =>
      cases dial <;> cases rendered <;> exact (isPlain_write padding 2 _).ofText_eq
  | minute padding => cases rendered; exact (isPlain_write padding 2 _).ofText_eq
  | second padding => cases rendered; exact (isPlain_write padding 2 _).ofText_eq
  | period letterCase caseSensitive =>
      cases letterCase <;> cases rendered <;> split <;> rfl
  | subsecond digits => cases rendered; exact ofText_write_fraction digits _
  | offsetHour padding sign =>
      cases rendered
      exact (isPlain_signed sign _ padding 2 _).ofText_eq
  | offsetMinute padding => cases rendered; exact (isPlain_write padding 2 _).ofText_eq
  | offsetSecond padding => cases rendered; exact (isPlain_write padding 2 _).ofText_eq
  | ignore count => cases rendered; rfl
  | unixTimestamp precision sign =>
      cases rendered
      exact ((isPlain_digits _).append_left (zulu_not_mem_sign sign _)).ofText_eq
  | ending trailing => cases rendered; rfl

mutual
theorem Item.ofText_render : ∀ (item : Item) {text : List Char},
    item.render timestamp = .ok text → TextEnd.ofText text = item.textEnd
  | .literal _, _, rendered => by
      cases rendered
      rfl
  | .component part, _, rendered => part.ofText_render rendered
  | .optional inner, _, rendered => inner.ofText_render rendered
  | .first choices, _, rendered => choices.ofText_render rendered

theorem Items.ofText_render : ∀ (items : Items) {text : List Char},
    items.render timestamp = .ok text → TextEnd.ofText text = items.textEnd
  | .nil, _, rendered => by
      cases rendered
      rfl
  | .cons head tail, _, rendered => by
      rw [Items.render] at rendered
      split at rendered
      · cases rendered
      · rename_i front renderedHead
        cases renderedTail : tail.render timestamp with
        | error error =>
            rw [renderedTail] at rendered
            cases rendered
        | ok back =>
            rw [renderedTail] at rendered
            cases rendered
            rw [TextEnd.ofText_append, head.ofText_render renderedHead,
              tail.ofText_render renderedTail, Items.textEnd]

theorem Alternatives.ofText_render : ∀ (choices : Alternatives) {text : List Char},
    choices.render timestamp = .ok text → TextEnd.ofText text = choices.textEnd
  | .nil, _, rendered => by
      cases rendered
      rfl
  | .cons head _, _, rendered => head.ofText_render rendered
end

end ScalarCell.Pattern

namespace ScalarCell.PatternList

open Pattern

/-! ## Reading what was written -/

/-- What the first pattern of a list reads of its own text, the list reads too, unless the
pattern ends in a literal with the letter `Z`. The list takes that one off the text, and
reads what is left with its patterns in turn. -/
theorem read_render_first {list : PatternList} {pattern : Pattern} {others : List Pattern}
    {timestamp found : Timestamp} {text : String} {defaultOffset : UtcOffset}
    (patterns_eq : list.patterns = pattern :: others)
    (rendered : pattern.render timestamp = .ok text)
    (direct : pattern.read (Utf8.encode text.toList) defaultOffset = .ok found) :
    (pattern.items.textEnd = .zulu ↔ text.toList.getLast? = some 'Z') ∧
      (pattern.items.textEnd ≠ .zulu → list.read text defaultOffset = .ok found) ∧
      (pattern.items.textEnd = .zulu → ∀ outcome,
        list.read text defaultOffset = .ok outcome ↔
          readFrom none (Utf8.encode text.toList.dropLast) defaultOffset list.patterns =
            .ok outcome) := by
  have endsZulu :
      pattern.items.textEnd = .zulu ↔ text.toList.getLast? = some 'Z' := by
    rw [Pattern.render] at rendered
    cases written : pattern.items.render timestamp with
    | error error =>
        rw [written] at rendered
        cases rendered
    | ok characters =>
        rw [written] at rendered
        cases rendered
        rw [String.toList_ofList, ← TextEnd.ofText_eq_zulu_iff,
          pattern.items.ofText_render written]
  refine ⟨endsZulu, fun notZulu => ?_, fun zulu outcome => ?_⟩
  · rw [read_eq_ok_iff, dropZulu_of_getLast?_ne (mt endsZulu.mpr notZulu), patterns_eq,
      readFrom, direct]
  · rw [read_eq_ok_iff, dropZulu_of_getLast?_eq (endsZulu.mp zulu)]

def zuluPattern : Pattern where
  source := "[year]-[month]-[day]T[hour]:[minute]:[second]Z"
  items := .ofList (secondItems 'T' ++ [.literal ['Z']])

def secondPattern : Pattern where
  source := "[year]-[month]-[day]T[hour]:[minute]:[second]"
  items := .ofList (secondItems 'T')

theorem read_render_first_epoch :
    zuluPattern.render .epoch = .ok "1970-01-01T00:00:00Z" ∧
      zuluPattern.read (Utf8.encode "1970-01-01T00:00:00Z".toList) .utc = .ok .epoch ∧
      (⟨[zuluPattern, secondPattern]⟩ : PatternList).read
        "1970-01-01T00:00:00Z" .utc = .ok .epoch := by
  have rendered : zuluPattern.render .epoch = .ok "1970-01-01T00:00:00Z" := by rfl
  have direct : zuluPattern.read (Utf8.encode "1970-01-01T00:00:00Z".toList) .utc =
      .ok .epoch := by cbv
  have later : readFrom none (Utf8.encode "1970-01-01T00:00:00Z".toList.dropLast) .utc
      [zuluPattern, secondPattern] = .ok .epoch := by cbv
  exact ⟨rendered, direct,
    ((read_render_first rfl rendered direct).2.2 (by decide) .epoch).mpr later⟩

/-- The list of that pattern alone reads nothing of what it writes. -/
theorem read_render_first_fails :
    PatternList.ofSources ["[year]-[month]-[day]T[hour]:[minute]:[second]Z"] =
        .ok ⟨[zuluPattern]⟩ ∧
      zuluPattern.render .epoch = .ok "1970-01-01T00:00:00Z" ∧
      zuluPattern.read (Utf8.encode "1970-01-01T00:00:00Z".toList) .utc = .ok .epoch ∧
      ∀ found, (⟨[zuluPattern]⟩ : PatternList).read "1970-01-01T00:00:00Z" .utc ≠
        .ok found := by
  refine ⟨by cbv, by rfl, by cbv, fun found read => ?_⟩
  have dropped : dropZulu "1970-01-01T00:00:00Z".toList =
      "1970-01-01T00:00:00".toList := by rfl
  have unread : readFrom none (Utf8.encode "1970-01-01T00:00:00".toList) .utc
      [zuluPattern] = .error (some (zuluPattern, .description .literal)) := by cbv
  rw [read_eq_ok_iff, dropped, unread] at read
  cases read

end ScalarCell.PatternList
