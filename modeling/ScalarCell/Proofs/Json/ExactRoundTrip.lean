import ScalarCell.Proofs.Json.CellText

namespace ScalarCell.Json

/-! Strings, integers and truth values as JSON and back, alone and in lists. Nothing is lost
on the way, whichever value it is. -/

open Digits

/-! ## Each type -/

theorem readsBack_string (cell : Cell .string) : ReadsBack cell := by
  cases holds : cell.toOption with
  | none => exact readsBack_null holds
  | some value => exact readsBack_scalar holds rfl (.text value) rfl rfl

theorem readsBack_bool (cell : Cell .bool) : ReadsBack cell := by
  cases holds : cell.toOption with
  | none => exact readsBack_null holds
  | some value => exact readsBack_scalar holds rfl (.bool value) rfl rfl

theorem ofTaken_digits {value : Int64} (notNegative : 0 ≤ value.toInt) :
    Cell.ofTaken .int64 (.text (String.ofList (Numeral.digits value.toInt.toNat))) =
      .ok (.ofValue value) := by
  have greatest := value.toInt_lt
  have fits : value.toInt.toNat < 2 ^ 63 := by omega
  have same : Int64.ofNat value.toInt.toNat = value := by
    rw [← Int64.ofInt_eq_ofNat, Int.toNat_of_nonneg notNegative, Int64.ofInt_toInt]
  rw [Cell.ofTaken, TokenRule.toInt64_digits fits, same]
  rfl

theorem take_natural {number : Nat} (fits : number < 2 ^ 64) :
    TokenRule.numberLiteral.take (Scalar.number (.natural (UInt64.ofNat number))).token =
      .ok (.text (String.ofList (Numeral.digits number))) := by
  have same : (UInt64.ofNat number).toNat = number := UInt64.toNat_ofNat_of_lt' fits
  simp only [Scalar.token, Number.token, TokenRule.take, TokenRule.takeNumberLiteral, same]

/-- Integers below zero are read as such, and the others as digits, which only the coercion
turns into an integer again. -/
theorem readsBack_int64 (cell : Cell .int64) : ReadsBack cell := by
  cases holds : cell.toOption with
  | none => exact readsBack_null holds
  | some value =>
      have greatest := value.toInt_lt
      by_cases below : value.toInt < 0
      · have written : scalarOf .int64 value = .ok (.number (.negative value)) := by
          rw [scalarOf, Number.ofInt64, if_pos below]
        exact readsBack_scalar holds written (.negative below) rfl rfl
      · have written : scalarOf .int64 value =
            .ok (.number (.natural (UInt64.ofNat value.toInt.toNat))) := by
          rw [scalarOf, Number.ofInt64, if_neg below]
        exact readsBack_scalar holds written (.natural _)
          (take_natural (by omega)) (ofTaken_digits (by omega))

/-! ## All of them -/

/-- The types of which every value has a text that says all about it. -/
inductive HasExactText : ScalarType → Prop
  | string : HasExactText .string
  | int64 : HasExactText .int64
  | bool : HasExactText .bool

variable {type : ScalarType}

theorem HasExactText.readsBack (exact : HasExactText type) (cell : Cell type) :
    ReadsBack cell := by
  cases exact with
  | string => exact readsBack_string cell
  | int64 => exact readsBack_int64 cell
  | bool => exact readsBack_bool cell

/-- Every cell of these types is written and read back with its value, or as null where it
was null, and so is every list of them. -/
theorem decode_encode_of_hasExactText (exact : HasExactText type) :
    (∀ cell : Cell type, ∃ text back, encodeCell cell = .ok text ∧
        decodeCell type text = .ok back ∧ back.toOption = cell.toOption) ∧
      ∀ cells : List (Cell type), ∃ text backs, encodeCellList cells = .ok text ∧
        decodeCellList type text = .ok backs ∧
        backs.map Cell.toOption = cells.map Cell.toOption := by
  constructor
  · intro cell
    rcases (exact.readsBack cell).decodeCell_encodeCell with ⟨text, written, read⟩
    exact ⟨text, _, written, read, toOption_ofOption _⟩
  · intro cells
    have readBack : ∀ cell ∈ cells, ReadsBack cell := fun cell _ => exact.readsBack cell
    rcases decodeCellList_encodeCellList readBack with ⟨text, written, read⟩
    refine ⟨text, _, written, read, ?_⟩
    rw [List.map_map]
    exact List.map_congr_left fun cell _ => toOption_ofOption cell.toOption

/-- A null, an empty string, and one with a quote, a backslash, a control character and a
character beyond the basic plane. -/
theorem decode_encode_strings :
    HasExactText .string ∧ ∃ text backs,
      encodeCellList [Cell.null .string, .ofValue "", .ofValue "\"\\\x01𝄞"] = .ok text ∧
        decodeCellList .string text = .ok backs ∧
        backs.map Cell.toOption = [none, some "", some "\"\\\x01𝄞"] :=
  ⟨.string, (decode_encode_of_hasExactText .string).2 _⟩

end ScalarCell.Json
