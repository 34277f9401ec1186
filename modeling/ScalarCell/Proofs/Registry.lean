import ScalarCell.Proofs.Json.TimestampText
import ScalarCell.Proofs.PatternList.Rendering
import ScalarCell.Registry

namespace ScalarCell.Registry

/-! One pattern list for a whole process: which requests settle it, what they see, and
which list it is after all. -/

/-! ## Requests that consult the list -/

/-- The requests that consult the list. Decoding does so where it meets a string with a
timestamp as RFC 3339 has it. -/
inductive Consults : Request → Prop
  | current : Consults .current
  | parse (text : String) (defaultOffset : UtcOffset) :
      Consults (.parse text defaultOffset)
  | scan (cell : Cell .time) (value : ColumnValue) : Consults (.scan cell value)
  | ofColumn (value : ColumnValue) : Consults (.ofColumn value)
  | toText {cell : Cell .time} (valid : cell.isNull = false) : Consults (.toText cell)
  | decode {text content : String} {timestamp : Timestamp} {rest : List Char}
      (lexeme : Json.readLexeme text.toList = .ok (.scalar (.text content), rest))
      (wellFormed : Rfc3339.read content = .ok timestamp) : Consults (.decode text)
  | decodeValue {content : String} {timestamp : Timestamp}
      (wellFormed : Rfc3339.read content = .ok timestamp) :
      Consults (.decodeValue (.scalar (.text content)))

theorem decodesTimestamp_iff {text : String} :
    decodesTimestamp text = true ↔ Consults (.decode text) := by
  constructor
  · intro decodes
    rw [decodesTimestamp] at decodes
    split at decodes
    · rename_i cell rest read
      rw [Bool.not_eq_true'] at decodes
      rcases Json.readCell_time_iff.mp ⟨read, decodes⟩ with
        ⟨content, timestamp, lexeme, wellFormed, -⟩
      exact .decode lexeme wellFormed
    · cases decodes
  · intro given
    rcases given with _ | _ | _ | _ | _ | ⟨lexeme, wellFormed⟩
    rcases Json.readCell_time_iff.mpr ⟨_, _, lexeme, wellFormed, rfl⟩ with ⟨read, notNull⟩
    rw [decodesTimestamp, read]
    simp [notNull]

theorem decodesTimestampValue_iff {value : Json.Value} :
    decodesTimestampValue value = true ↔ Consults (.decodeValue value) := by
  constructor
  · intro decodes
    cases value with
    | scalar value =>
        cases value with
        | text content =>
            rw [decodesTimestampValue, Json.cellOfValue_text] at decodes
            split at decodes
            · rename_i cell coerces
              rcases Json.ofTaken_text_eq_ok_iff.mp coerces with ⟨_, wellFormed, -⟩
              exact .decodeValue wellFormed
            · cases decodes
        | null => cases decodes
        | bool value => cases decodes
        | number value => cases value <;> cases decodes
    | list elements => cases decodes
    | object members => cases decodes
  · intro given
    rcases given with _ | _ | _ | _ | _ | _ | ⟨wellFormed⟩
    have coerces := Json.ofTaken_text_eq_ok_iff.mpr ⟨_, wellFormed, rfl⟩
    rw [decodesTimestampValue, Json.cellOfValue_text, coerces]
    rfl

/-! ## One request -/

/-- The response to a request where a given list is in force. It is the one that an
explicit use of the list gives. -/
def responseWith (list : PatternList) : Request → Response
  | .install refused => .installed (.error refused)
  | .current => .current list
  | .parse text defaultOffset => .parsed (list.read text defaultOffset)
  | .scan cell value => .scanned (cell.scan list value).1 (cell.scan list value).2
  | .scanWith own cell value => .scanned (cell.scan own value).1 (cell.scan own value).2
  | .ofColumn value => .cell (.ofColumn list value)
  | .toText cell => .text (cell.toTextColumn list)
  | .decode text => .decoded (Json.decodeCell .time text)
  | .decodeValue value => .decoded ((Json.cellOfValue .time value).mapError Json.unplaced)

theorem answer_of_consults {request : Request} (consults : Consults request)
    (registry : Registry) :
    registry.answer request =
      (responseWith registry.consult.1 request, .settled registry.consult.1) := by
  have settles : registry.consult.2 = .settled registry.consult.1 := by
    cases registry <;> rfl
  cases consults with
  | current | parse | scan | ofColumn => rw [← settles]; rfl
  | toText valid => rw [← settles]; simp [answer, valid, responseWith]
  | decode lexeme wellFormed =>
      rw [← settles]
      simp [answer, responseWith, decodesTimestamp_iff.mpr (.decode lexeme wellFormed)]
  | decodeValue wellFormed =>
      rw [← settles]
      simp [answer, responseWith, decodesTimestampValue_iff.mpr (.decodeValue wellFormed)]

theorem answer_of_not_consults {request : Request} (consultsNot : ¬ Consults request)
    (installsNot : ∀ list, request ≠ .install list) (registry : Registry) :
    (registry.answer request).2 = registry := by
  cases request with
  | install list => exact absurd rfl (installsNot list)
  | current => exact absurd .current consultsNot
  | parse text defaultOffset => exact absurd (.parse text defaultOffset) consultsNot
  | scan cell value => exact absurd (.scan cell value) consultsNot
  | scanWith list cell value => rfl
  | ofColumn value => exact absurd (.ofColumn value) consultsNot
  | toText cell =>
      cases null : cell.isNull with
      | true => simp [answer, null]
      | false => exact absurd (.toText null) consultsNot
  | decode text =>
      have scansNot : decodesTimestamp text = false := by
        rw [← Bool.not_eq_true, decodesTimestamp_iff]
        exact consultsNot
      simp [answer, scansNot]
  | decodeValue value =>
      have scansNot : decodesTimestampValue value = false := by
        rw [← Bool.not_eq_true, decodesTimestampValue_iff]
        exact consultsNot
      simp [answer, scansNot]

theorem answer_install (registry : Registry) (list : PatternList) :
    (registry = .untouched ∧ list.patterns ≠ [] ∧
        registry.answer (.install list) = (.installed (.ok ()), .settled list)) ∨
      ((registry ≠ .untouched ∨ list.patterns = []) ∧
        registry.answer (.install list) = (.installed (.error list), registry)) := by
  cases registry with
  | settled inForce => exact .inr ⟨.inl nofun, rfl⟩
  | untouched =>
      cases patterns_eq : list.patterns with
      | nil => exact .inr ⟨.inr rfl, by simp [answer, install, patterns_eq]⟩
      | cons first rest => exact .inl ⟨rfl, nofun, by simp [answer, install, patterns_eq]⟩

theorem response_ne_installed {request : Request}
    (installsNot : ∀ list, request ≠ .install list) (registry : Registry) :
    (registry.answer request).1 ≠ .installed (.ok ()) := by
  cases request with
  | install list => exact absurd rfl (installsNot list)
  | toText cell =>
      rw [answer]
      split <;> nofun
  | current | parse | scan | scanWith | ofColumn | decode | decodeValue => nofun

/-! ## Steps -/

structure Step where
  before : Registry
  request : Request

def inForce (registry : Registry) : PatternList :=
  registry.consult.1

namespace Step

def response (step : Step) : Response :=
  (step.before.answer step.request).1

def after (step : Step) : Registry :=
  (step.before.answer step.request).2

def Installs (step : Step) : Prop :=
  step.response = .installed (.ok ())

def Settles (step : Step) : Prop :=
  Consults step.request ∨ step.Installs

/-- What a step does: it consults the list and sees the one in force, installs one where
none is in force yet, or leaves the registry alone. -/
theorem cases (step : Step) :
    (Consults step.request ∧ ¬ step.Installs ∧
        step.response = responseWith step.before.inForce step.request ∧
        step.after = .settled step.before.inForce) ∨
      (∃ list, step.request = .install list ∧ ¬ Consults step.request ∧ step.Installs ∧
        step.before = .untouched ∧ list.patterns ≠ [] ∧ step.after = .settled list) ∨
      (¬ step.Settles ∧ step.after = step.before ∧
        ∀ list, step.request = .install list →
          (step.before ≠ .untouched ∨ list.patterns = []) ∧
          step.response = .installed (.error list)) := by
  rcases step with ⟨before, request⟩
  simp only [Settles, Installs, response, after]
  by_cases consults : Consults request
  · left
    have installsNot : ∀ list, request ≠ .install list := by
      rintro list rfl
      cases consults
    have outcome := answer_of_consults consults before
    exact ⟨consults, response_ne_installed installsNot before, congrArg Prod.fst outcome,
      congrArg Prod.snd outcome⟩
  · right
    by_cases isInstall : ∃ list, request = .install list
    · rcases isInstall with ⟨list, rfl⟩
      rcases answer_install before list with
        ⟨fresh, nonempty, outcome⟩ | ⟨refused, outcome⟩
      · left
        exact ⟨list, rfl, consults, congrArg Prod.fst outcome, fresh, nonempty,
          congrArg Prod.snd outcome⟩
      · right
        refine ⟨?_, congrArg Prod.snd outcome, ?_⟩
        · rw [outcome]
          intro given
          rcases given with consultsInstall | installs
          · exact consults consultsInstall
          · cases installs
        · intro _ first
          cases first
          exact ⟨refused, congrArg Prod.fst outcome⟩
    · right
      have installsNot : ∀ list, request ≠ .install list :=
        fun list isInstallOf => isInstall ⟨list, isInstallOf⟩
      refine ⟨?_, answer_of_not_consults consults installsNot before,
        fun list isInstallOf => absurd isInstallOf (installsNot list)⟩
      intro given
      rcases given with consultsToo | installs
      · exact consults consultsToo
      · exact response_ne_installed installsNot before installs

theorem after_eq_untouched_iff (step : Step) :
    step.after = .untouched ↔ step.before = .untouched ∧ ¬ step.Settles := by
  rcases step.cases with
    ⟨consults, -, -, after⟩ | ⟨list, -, -, installs, -, -, after⟩ | ⟨settlesNot, after, -⟩
  · have settles : step.Settles := .inl consults
    simp [after, settles]
  · have settles : step.Settles := .inr installs
    simp [after, settles]
  · simp [after, settlesNot]

end Step

/-! ## Runs -/

def steps (registry : Registry) : List Request → List Step
  | [] => []
  | request :: rest => ⟨registry, request⟩ :: steps (registry.answer request).2 rest

def final (registry : Registry) (requests : List Request) : Registry :=
  (registry.answerAll requests).2

theorem map_response_steps (registry : Registry) (requests : List Request) :
    (registry.steps requests).map Step.response = (registry.answerAll requests).1 := by
  induction requests generalizing registry with
  | nil => rfl
  | cons request rest induction => simp [steps, answerAll, induction, Step.response]

theorem map_request_steps (registry : Registry) (requests : List Request) :
    (registry.steps requests).map Step.request = requests := by
  induction requests generalizing registry with
  | nil => rfl
  | cons request rest induction => simp [steps, induction]

theorem final_cons (registry : Registry) (request : Request) (rest : List Request) :
    registry.final (request :: rest) = (registry.answer request).2.final rest := rfl

theorem final_settled (list : PatternList) (requests : List Request) :
    (settled list).final requests = settled list := by
  induction requests with
  | nil => rfl
  | cons request rest induction =>
      have unchanged : (answer (.settled list) request).2 = .settled list := by
        rcases Step.cases ⟨.settled list, request⟩ with
          ⟨-, -, -, after⟩ | ⟨_, -, -, -, fresh, -⟩ | ⟨-, after, -⟩
        · exact after
        · cases fresh
        · exact after
      rw [final_cons, unchanged, induction]

theorem final_eq_after {registry : Registry} {requests : List Request} {step : Step}
    (member : step ∈ registry.steps requests) (settles : step.Settles) :
    registry.final requests = step.after := by
  induction requests generalizing registry with
  | nil => cases member
  | cons request rest induction =>
      rw [final_cons]
      rcases List.mem_cons.mp member with rfl | later
      · rcases Step.cases ⟨registry, request⟩ with
          ⟨-, -, -, after⟩ | ⟨_, -, -, -, -, -, after⟩ | ⟨settlesNot, -⟩
        · rw [after]
          exact (congrArg (final · rest) after).trans (final_settled _ rest)
        · rw [after]
          exact (congrArg (final · rest) after).trans (final_settled _ rest)
        · exact absurd settles settlesNot
      · exact induction later

theorem inForce_final_of_not_installs {registry : Registry} {requests : List Request}
    (installsNot : ∀ step ∈ registry.steps requests, ¬ step.Installs) :
    (registry.final requests).inForce = registry.inForce := by
  induction requests generalizing registry with
  | nil => rfl
  | cons request rest induction =>
      have head := installsNot ⟨registry, request⟩ List.mem_cons_self
      have tail := fun step member => installsNot step (List.mem_cons_of_mem _ member)
      rw [final_cons, induction tail]
      rcases Step.cases ⟨registry, request⟩ with
        ⟨-, -, -, after⟩ | ⟨_, -, -, installs, -⟩ | ⟨-, after, -⟩
      · exact (congrArg inForce after).trans rfl
      · exact absurd installs head
      · exact congrArg inForce after

theorem inForce_final_ne_nil {registry : Registry} {requests : List Request}
    (nonempty : registry.inForce.patterns ≠ []) :
    (registry.final requests).inForce.patterns ≠ [] := by
  induction requests generalizing registry with
  | nil => exact nonempty
  | cons request rest induction =>
      rw [final_cons]
      apply induction
      rcases Step.cases ⟨registry, request⟩ with
        ⟨-, -, -, after⟩ | ⟨_, -, -, -, -, patterns, after⟩ | ⟨-, after, -⟩
      · rw [show (registry.answer request).2 = _ from after]
        exact nonempty
      · rw [show (registry.answer request).2 = _ from after]
        exact patterns
      · rw [show (registry.answer request).2 = _ from after]
        exact nonempty

theorem before_eq_untouched_iff {registry : Registry} {requests : List Request}
    {earlier later : List Step} {step : Step}
    (steps_eq : registry.steps requests = earlier ++ step :: later) :
    step.before = .untouched ↔
      registry = .untouched ∧ ∀ previous ∈ earlier, ¬ previous.Settles := by
  induction earlier generalizing registry requests with
  | nil =>
      cases requests with
      | nil => cases steps_eq
      | cons request rest =>
          cases steps_eq
          simp
  | cons first earlier induction =>
      cases requests with
      | nil => cases steps_eq
      | cons request rest =>
          rcases List.cons.inj steps_eq with ⟨rfl, rest_eq⟩
          have head := Step.after_eq_untouched_iff ⟨registry, request⟩
          rw [induction rest_eq, List.forall_mem_cons, ← and_assoc]
          exact and_congr_left fun _ => head

/-- One list holds for a whole run that begins with an untouched registry, whose steps are
the requests in order, each with its answer. Every request that consults the registry is
answered as an explicit use of that list is. A list is installed exactly where it is not
empty and no step before has consulted the registry or installed a list, and then it is the
one list; a list that is refused is handed back. Where no list is installed at all, it is the
default. Only the steps that consult the registry or install a list change it. -/
theorem exists_list_of_run (requests : List Request) :
    (steps .untouched requests).map Step.request = requests ∧
    (steps .untouched requests).map Step.response = (answerAll .untouched requests).1 ∧
    ∃ list : PatternList, list.patterns ≠ [] ∧
      (∀ earlier step later, steps .untouched requests = earlier ++ step :: later →
        (Consults step.request → step.response = responseWith list step.request) ∧
        (∀ offered, step.request = .install offered →
          (step.Installs ↔
            offered.patterns ≠ [] ∧ ∀ previous ∈ earlier,
              ¬ Consults previous.request ∧ ¬ previous.Installs) ∧
          (step.Installs → list = offered) ∧
          (¬ step.Installs →
            step.response = .installed (.error offered) ∧ step.after = step.before)) ∧
        (¬ Consults step.request → ¬ step.Installs → step.after = step.before)) ∧
      ((∀ step ∈ steps .untouched requests, ¬ step.Installs) → list = .default) := by
  refine ⟨map_request_steps .untouched requests, map_response_steps .untouched requests,
    (final .untouched requests).inForce, inForce_final_ne_nil nofun, ?_,
    inForce_final_of_not_installs⟩
  intro earlier step later steps_eq
  have member : step ∈ steps .untouched requests := by simp [steps_eq]
  have fresh : step.before = .untouched ↔
      ∀ previous ∈ earlier, ¬ Consults previous.request ∧ ¬ previous.Installs := by
    simp only [before_eq_untouched_iff steps_eq, Step.Settles, not_or, true_and]
  rcases step.cases with
    ⟨consults, installsNot, response, after⟩ |
      ⟨list, request_eq, consultsNot, installs, untouched, nonempty, after⟩ |
      ⟨settlesNot, after, refuses⟩
  · have final_eq := (final_eq_after member (.inl consults)).trans after
    refine ⟨fun _ => ?_, fun offered request_eq => ?_,
      fun consultsNot => absurd consults consultsNot⟩
    · rw [final_eq]
      exact response
    · rw [request_eq] at consults
      cases consults
  · have final_eq := (final_eq_after member (.inr installs)).trans after
    refine ⟨fun consults => absurd consults consultsNot, fun offered offered_eq => ?_,
      fun _ installsNot => absurd installs installsNot⟩
    obtain rfl : list = offered := by
      rw [request_eq] at offered_eq
      cases offered_eq
      rfl
    refine ⟨⟨fun _ => ⟨nonempty, fresh.mp untouched⟩, fun _ => installs⟩, fun _ => ?_,
      fun installsNot => absurd installs installsNot⟩
    rw [final_eq]
    rfl
  · rcases not_or.mp settlesNot with ⟨consultsNot, installsNot⟩
    refine ⟨fun consults => absurd consults consultsNot, fun offered request_eq => ?_,
      fun _ _ => after⟩
    rcases refuses offered request_eq with ⟨refused, response⟩
    refine ⟨⟨fun installs => absurd installs installsNot, ?_⟩,
      fun installs => absurd installs installsNot, fun _ => ⟨response, after⟩⟩
    intro given
    rcases given with ⟨nonempty, unsettled⟩
    rcases refused with touched | empty
    · exact absurd (fresh.mpr unsettled) touched
    · exact absurd empty nonempty

/-! ## Writing with the list in force -/

/-- A cell is written with the list in force. A null has the same text in every list, so that
it need not be looked at. -/
theorem answer_toText (registry : Registry) (cell : Cell .time) :
    (registry.answer (.toText cell)).1 = .text (cell.toTextColumn registry.inForce) := by
  cases null : cell.isNull with
  | true =>
      have invalid : cell.valid = false := by simpa [Cell.isNull] using null
      simp [answer, null, Cell.toTextColumn, Cell.toOption, invalid]
  | false => exact congrArg Prod.fst (answer_of_consults (.toText null) registry)

/-- Writing a timestamp fails with an empty list alone, and never for what the timestamp is.
Whatever a registry has been through, its list is not empty, and every time cell is written as
text, with null for a null. -/
theorem toText_succeeds :
    (∀ (list : PatternList) (timestamp : Timestamp) (error : ListRenderError),
      list.render timestamp = .error error ↔ list.patterns = [] ∧ error = .noPatterns) ∧
    ∀ (requests : List Request) (cell : Cell .time), ∃ column,
      ((final .untouched requests).answer (.toText cell)).1 = .text (.ok column) ∧
        column.isNull = cell.isNull := by
  refine ⟨fun list timestamp error => PatternList.render_eq_error_iff, ?_⟩
  intro requests cell
  have nonempty : (final .untouched requests).inForce.patterns ≠ [] :=
    inForce_final_ne_nil nofun
  obtain ⟨column, written, isNull_eq⟩ := Cell.exists_toTextColumn nonempty cell
  refine ⟨column, ?_, isNull_eq⟩
  rw [answer_toText, written]

end ScalarCell.Registry
