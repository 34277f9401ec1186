import ScalarCell.Proofs.Calendar.Rfc3339RoundTrip
import ScalarCell.Proofs.Json.TimestampText

namespace ScalarCell.Json

/-! Timestamps as JSON and back. Only some have a text at all, and those come back with
every part they had. -/

open Rfc3339

variable {cell : Cell .time} {timestamp : Timestamp}

theorem scalarOf_writable (writable : Writable timestamp) :
    scalarOf .time timestamp = .ok (.text (String.ofList (characters timestamp))) := by
  simp only [scalarOf, write_of_writable writable]

theorem readsBack_time (writable : ∀ timestamp ∈ cell.toOption, Writable timestamp) :
    ReadsBack cell := by
  cases holds : cell.toOption with
  | none => exact readsBack_null holds
  | some timestamp =>
      have isWritable := writable timestamp holds
      have coerces :=
        ofTaken_text_eq_ok_iff.mpr ⟨timestamp, read_characters isWritable, rfl⟩
      exact readsBack_scalar holds (scalarOf_writable isWritable) (.text _) rfl coerces

theorem exists_encodeCell_error
    (notWritable : ¬ ∀ timestamp ∈ cell.toOption, Writable timestamp) :
    ∃ error, encodeCell cell = .error (.render error) := by
  simp only [not_forall] at notWritable
  rcases notWritable with ⟨timestamp, holds, notWritable⟩
  have holds : cell.toOption = some timestamp := holds
  cases written : write timestamp with
  | ok text => exact absurd (writable_of_write written) notWritable
  | error error =>
      refine ⟨error, ?_⟩
      rw [encodeCell, writeCell, holds]
      simp only [scalarOf, written]
      rfl

theorem writable_of_encodeCell {text : String} (encoded : encodeCell cell = .ok text) :
    ∀ timestamp ∈ cell.toOption, Writable timestamp := by
  by_contra notWritable
  rcases exists_encodeCell_error notWritable with ⟨error, failed⟩
  rw [failed] at encoded
  cases encoded

/-- A cell is written exactly where it is null or its timestamp has a year of four digits
and an offset of whole minutes below a day; elsewhere the writer of timestamps refuses it.
What was written is read as the same timestamp with the same offset, or as null where it was
null. -/
theorem decodeCell_encodeCell_time (cell : Cell .time) :
    ((∃ text, encodeCell cell = .ok text) ↔
        ∀ timestamp ∈ cell.toOption, Writable timestamp) ∧
      ((¬ ∀ timestamp ∈ cell.toOption, Writable timestamp) →
        ∃ error, encodeCell cell = .error (.render error)) ∧
      ∀ text, encodeCell cell = .ok text →
        ∃ back, decodeCell .time text = .ok back ∧ back.isNull = cell.isNull ∧
          back.toOption = cell.toOption := by
  refine ⟨⟨fun ⟨_, encoded⟩ => writable_of_encodeCell encoded, fun writable => ?_⟩,
    exists_encodeCell_error, fun text encoded => ?_⟩
  · rcases (readsBack_time writable).decodeCell_encodeCell with ⟨text, encoded, -⟩
    exact ⟨text, encoded⟩
  · rcases (readsBack_time (writable_of_encodeCell encoded)).decodeCell_encodeCell with
      ⟨_, again, decoded⟩
    have same := toOption_ofOption cell.toOption
    rw [encoded] at again
    cases again
    exact ⟨_, decoded, by rw [isNull_eq, isNull_eq, same], same⟩

example : encodeCell (.ofValue ⟨.epoch, .midnight, ⟨-1800, by decide⟩⟩ : Cell .time) =
    .ok "\"1970-01-01T00:00:00-00:30\"" := by
  decide

end ScalarCell.Json
