import Mathlib.Tactic.SplitIfs
import ScalarCell.Proofs.Text.Encoding

namespace ScalarCell.Utf8

/-! Strict decoding takes the bytes of characters and no others. Lenient decoding does what
strict decoding does, and leaves the replacement mark wherever that would fail. -/

/-! ## One character -/

inductive Completes : Pending → List UInt8 → Nat → Prop
  | last {pending : Pending} {byte : UInt8} (low : pending.low ≤ byte)
      (high : byte ≤ pending.high) (owed : pending.owed ≤ 1) :
      Completes pending [byte] (pending.value * 64 + (byte.toNat - 0x80))
  | more {pending : Pending} {byte : UInt8} {bytes : List UInt8} {code : Nat}
      (low : pending.low ≤ byte) (high : byte ≤ pending.high) (owed : 1 < pending.owed)
      (others : Completes ⟨pending.value * 64 + (byte.toNat - 0x80), pending.owed - 1,
        0x80, 0xBF, pending.read + 1⟩ bytes code) :
      Completes pending (byte :: bytes) code

theorem completes_last_iff {pending : Pending} {bytes : List UInt8} {code : Nat}
    (owed : pending.owed ≤ 1) :
    Completes pending bytes code ↔
      ∃ byte, bytes = [byte] ∧ (pending.low ≤ byte ∧ byte ≤ pending.high) ∧
        code = pending.value * 64 + (byte.toNat - 0x80) := by
  constructor
  · intro completes
    cases completes with
    | @last _ byte low high _ => exact ⟨byte, rfl, ⟨low, high⟩, rfl⟩
    | more _ _ another => exact absurd another (Nat.not_lt.mpr owed)
  · rintro ⟨byte, rfl, inRange, code_eq⟩
    rw [code_eq]
    exact .last inRange.1 inRange.2 owed

theorem completes_more_iff {pending : Pending} {bytes : List UInt8} {code : Nat}
    (owed : 1 < pending.owed) :
    Completes pending bytes code ↔
      ∃ byte others, bytes = byte :: others ∧ (pending.low ≤ byte ∧ byte ≤ pending.high) ∧
        Completes ⟨pending.value * 64 + (byte.toNat - 0x80), pending.owed - 1, 0x80, 0xBF,
          pending.read + 1⟩ others code := by
  constructor
  · intro completes
    cases completes with
    | last _ _ enough => exact absurd owed (Nat.not_lt.mpr enough)
    | more low high _ others => exact ⟨_, _, rfl, ⟨low, high⟩, others⟩
  · rintro ⟨byte, others, rfl, inRange, completes⟩
    exact .more inRange.1 inRange.2 owed completes

theorem decodeFrom_append_of_completes {pending : Pending} {bytes : List UInt8} {code : Nat}
    (completes : Completes pending bytes code) (index : Nat) (rest : List UInt8) :
    ∃ next, decodeFrom index (some pending) (bytes ++ rest) =
      (decodeFrom next none rest).map (Char.ofNat code :: ·) := by
  induction completes with
  | last low high owed =>
      rw [List.singleton_append, decodeFrom]
      simp only [Pending.step, low, high, owed, and_self, if_true]
      exact ⟨_, rfl⟩
  | more low high owed others induction =>
      rw [List.cons_append, decodeFrom]
      simp only [Pending.step, low, high, Nat.not_le.mpr owed, and_self, if_true, if_false]
      exact induction

theorem exists_completes_of_decodeFrom {pending : Pending} {bytes : List UInt8} {index : Nat}
    {characters : List Char}
    (decoded : decodeFrom index (some pending) bytes = .ok characters) :
    ∃ front rest code next others, bytes = front ++ rest ∧ Completes pending front code ∧
      decodeFrom next none rest = .ok others ∧ characters = Char.ofNat code :: others := by
  induction bytes generalizing pending with
  | nil => cases decoded
  | cons byte rest induction =>
      rw [decodeFrom, Pending.step] at decoded
      by_cases inRange : pending.low ≤ byte ∧ byte ≤ pending.high
      · simp only [inRange, and_self, if_true] at decoded
        by_cases owed : pending.owed ≤ 1
        · simp only [owed, if_true] at decoded
          cases after : decodeFrom (index + pending.read + 1) none rest with
          | error error =>
              rw [after] at decoded
              cases decoded
          | ok others =>
              rw [after] at decoded
              cases decoded
              exact ⟨[byte], rest, _, _, others, rfl, .last inRange.1 inRange.2 owed, after,
                rfl⟩
        · simp only [owed, if_false] at decoded
          rcases induction decoded with ⟨front, rest, code, next, others, rfl, completes,
            after, rfl⟩
          exact ⟨byte :: front, rest, code, next, others, rfl,
            .more inRange.1 inRange.2 (Nat.not_le.mp owed) completes, after, rfl⟩
      · simp only [inRange, if_false] at decoded
        cases decoded

/-! ## First bytes -/

def secondOfThree (first : UInt8) : UInt8 × UInt8 :=
  (if first = 0xE0 then 0xA0 else 0x80, if first = 0xED then 0x9F else 0xBF)

def secondOfFour (first : UInt8) : UInt8 × UInt8 :=
  (if first = 0xF0 then 0x90 else 0x80, if first = 0xF4 then 0x8F else 0xBF)

theorem ofLead_eq_complete_iff {first : UInt8} {character : Char} :
    Step.ofLead first = .complete character ↔
      first.toNat < 0x80 ∧ character = Char.ofNat first.toNat := by
  have ascii_iff : first < 0x80 ↔ first.toNat < 0x80 := UInt8.lt_iff_toNat_lt
  rw [Step.ofLead]
  split_ifs with ascii <;> simp [← ascii_iff, ascii, eq_comm]

theorem ofLead_eq_more_iff {first : UInt8} {pending : Pending} :
    Step.ofLead first = .more pending ↔
      (0xC2 ≤ first.toNat ∧ first.toNat < 0xE0 ∧
        pending = ⟨first.toNat - 0xC0, 1, 0x80, 0xBF, 1⟩) ∨
      (0xE0 ≤ first.toNat ∧ first.toNat < 0xF0 ∧
        pending = ⟨first.toNat - 0xE0, 2, (secondOfThree first).1, (secondOfThree first).2,
          1⟩) ∨
      0xF0 ≤ first.toNat ∧ first.toNat < 0xF5 ∧
        pending = ⟨first.toNat - 0xF0, 3, (secondOfFour first).1, (secondOfFour first).2,
          1⟩ := by
  have ascii_iff : first < 0x80 ↔ first.toNat < 0x80 := UInt8.lt_iff_toNat_lt
  have tail_iff : first < 0xC2 ↔ first.toNat < 0xC2 := UInt8.lt_iff_toNat_lt
  have two_iff : first < 0xE0 ↔ first.toNat < 0xE0 := UInt8.lt_iff_toNat_lt
  have three_iff : first < 0xF0 ↔ first.toNat < 0xF0 := UInt8.lt_iff_toNat_lt
  have four_iff : first < 0xF5 ↔ first.toNat < 0xF5 := UInt8.lt_iff_toNat_lt
  simp only [Step.ofLead, ascii_iff, tail_iff, two_iff, three_iff, four_iff]
  grind [secondOfThree, secondOfFour]

/-! ## Characters and their bytes -/

theorem ofNat_eq {number : Nat} {byte : UInt8} (same : number % 256 = byte.toNat) :
    UInt8.ofNat number = byte := by
  rw [← UInt8.toNat_inj, UInt8.toNat_ofNat']
  exact same

theorem toNat_ofNat_of_valid {code : Nat} (valid : code.isValidChar) :
    (Char.ofNat code).toNat = code := by
  rw [Char.ofNat, dif_pos valid]
  rfl

theorem inSecondOfThree_iff {first second : UInt8} :
    (secondOfThree first).1 ≤ second ∧ second ≤ (secondOfThree first).2 ↔
      (0x80 ≤ second.toNat ∧ second.toNat ≤ 0xBF) ∧
        (first.toNat = 0xE0 → 0xA0 ≤ second.toNat) ∧
        (first.toNat = 0xED → second.toNat ≤ 0x9F) := by
  have least_iff : first = 0xE0 ↔ first.toNat = 0xE0 := UInt8.toNat_inj.symm
  have surrogate_iff : first = 0xED ↔ first.toNat = 0xED := UInt8.toNat_inj.symm
  simp only [secondOfThree, least_iff, surrogate_iff, UInt8.le_iff_toNat_le]
  split <;> split <;> simp <;> omega

theorem inSecondOfFour_iff {first second : UInt8} :
    (secondOfFour first).1 ≤ second ∧ second ≤ (secondOfFour first).2 ↔
      (0x80 ≤ second.toNat ∧ second.toNat ≤ 0xBF) ∧
        (first.toNat = 0xF0 → 0x90 ≤ second.toNat) ∧
        (first.toNat = 0xF4 → second.toNat ≤ 0x8F) := by
  have least_iff : first = 0xF0 ↔ first.toNat = 0xF0 := UInt8.toNat_inj.symm
  have greatest_iff : first = 0xF4 ↔ first.toNat = 0xF4 := UInt8.toNat_inj.symm
  simp only [secondOfFour, least_iff, greatest_iff, UInt8.le_iff_toNat_le]
  split <;> split <;> simp <;> omega

section Bytes

variable {first second third fourth : UInt8} {code : Nat}

theorem utf8EncodeChar_two (lead : 0xC2 ≤ first.toNat ∧ first.toNat < 0xE0)
    (tail : 0x80 ≤ second.toNat ∧ second.toNat ≤ 0xBF)
    (code_eq : code = (first.toNat - 0xC0) * 64 + (second.toNat - 0x80)) :
    String.utf8EncodeChar (Char.ofNat code) = [first, second] := by
  have valid : code.isValidChar := .inl (by omega)
  simp only [String.utf8EncodeChar, Char.toNat_val, toNat_ofNat_of_valid valid]
  rw [if_neg (by omega), if_pos (by omega), @ofNat_eq _ first (by omega),
    @ofNat_eq _ second (by omega)]

theorem utf8EncodeChar_three (lead : 0xE0 ≤ first.toNat ∧ first.toNat < 0xF0)
    (inRange : (secondOfThree first).1 ≤ second ∧ second ≤ (secondOfThree first).2)
    (tail : 0x80 ≤ third.toNat ∧ third.toNat ≤ 0xBF)
    (code_eq : code = ((first.toNat - 0xE0) * 64 + (second.toNat - 0x80)) * 64 +
      (third.toNat - 0x80)) :
    String.utf8EncodeChar (Char.ofNat code) = [first, second, third] := by
  rcases inSecondOfThree_iff.mp inRange with ⟨secondTail, notOverlong, notSurrogate⟩
  have wide : ¬ code ≤ 0x7FF := by omega
  have fits : code ≤ 0xFFFF := by omega
  have valid : code.isValidChar := by
    rw [Nat.isValidChar]
    omega
  simp only [String.utf8EncodeChar, Char.toNat_val, toNat_ofNat_of_valid valid]
  rw [if_neg (by omega), if_neg wide, if_pos fits, @ofNat_eq _ first (by omega),
    @ofNat_eq _ second (by omega), @ofNat_eq _ third (by omega)]

theorem utf8EncodeChar_four (lead : 0xF0 ≤ first.toNat ∧ first.toNat < 0xF5)
    (inRange : (secondOfFour first).1 ≤ second ∧ second ≤ (secondOfFour first).2)
    (tail : 0x80 ≤ third.toNat ∧ third.toNat ≤ 0xBF)
    (lastTail : 0x80 ≤ fourth.toNat ∧ fourth.toNat ≤ 0xBF)
    (code_eq : code = (((first.toNat - 0xF0) * 64 + (second.toNat - 0x80)) * 64 +
      (third.toNat - 0x80)) * 64 + (fourth.toNat - 0x80)) :
    String.utf8EncodeChar (Char.ofNat code) = [first, second, third, fourth] := by
  rcases inSecondOfFour_iff.mp inRange with ⟨secondTail, notOverlong, notBeyond⟩
  have wide : ¬ code ≤ 0xFFFF := by omega
  have valid : code.isValidChar := .inr (by omega)
  simp only [String.utf8EncodeChar, Char.toNat_val, toNat_ofNat_of_valid valid]
  rw [if_neg (by omega), if_neg (by omega), if_neg wide, @ofNat_eq _ first (by omega),
    @ofNat_eq _ second (by omega), @ofNat_eq _ third (by omega),
    @ofNat_eq _ fourth (by omega)]

end Bytes

theorem utf8EncodeChar_of_lead {first : UInt8} {pending : Pending} {bytes : List UInt8}
    {code : Nat} (lead : Step.ofLead first = .more pending)
    (completes : Completes pending bytes code) :
    String.utf8EncodeChar (Char.ofNat code) = first :: bytes := by
  have more : 1 < 3 := by decide
  rcases ofLead_eq_more_iff.mp lead with
    ⟨low, high, rfl⟩ | ⟨low, high, rfl⟩ | ⟨low, high, rfl⟩
  · rcases (completes_last_iff (Nat.le_refl 1)).mp completes with
      ⟨second, rfl, inRange, code_eq⟩
    exact utf8EncodeChar_two ⟨low, high⟩ inRange code_eq
  · rcases (completes_more_iff (Nat.lt_succ_self 1)).mp completes with
      ⟨second, _, rfl, inRange, completes⟩
    rcases (completes_last_iff (Nat.le_refl 1)).mp completes with
      ⟨third, rfl, tail, code_eq⟩
    exact utf8EncodeChar_three ⟨low, high⟩ inRange tail code_eq
  · rcases (completes_more_iff more).mp completes with ⟨second, _, rfl, inRange, completes⟩
    rcases (completes_more_iff (Nat.lt_succ_self 1)).mp completes with
      ⟨third, _, rfl, tail, completes⟩
    rcases (completes_last_iff (Nat.le_refl 1)).mp completes with
      ⟨fourth, rfl, lastTail, code_eq⟩
    exact utf8EncodeChar_four ⟨low, high⟩ inRange tail lastTail code_eq

theorem exists_lead {character : Char} (wide : 128 ≤ character.toNat) :
    ∃ first others pending, String.utf8EncodeChar character = first :: others ∧
      Step.ofLead first = .more pending ∧ Completes pending others character.toNat := by
  have large : ¬ character.toNat ≤ 0x7F := by omega
  have valid := character.valid
  rw [UInt32.isValidChar, Nat.isValidChar, Char.toNat_val] at valid
  rw [String.utf8EncodeChar]
  simp only [Char.toNat_val, large, if_false]
  split
  · refine ⟨_, _, _, rfl, ofLead_eq_more_iff.mpr (.inl ⟨?_, ?_, rfl⟩),
      (completes_last_iff (Nat.le_refl 1)).mpr ⟨_, rfl, ⟨?_, ?_⟩, ?_⟩⟩
    all_goals simp [UInt8.le_iff_toNat_le]
    all_goals omega
  · split
    · refine ⟨_, _, _, rfl, ofLead_eq_more_iff.mpr (.inr (.inl ⟨?_, ?_, rfl⟩)),
        (completes_more_iff (Nat.lt_succ_self 1)).mpr ⟨_, _, rfl,
          inSecondOfThree_iff.mpr ⟨⟨?_, ?_⟩, ?_, ?_⟩,
          (completes_last_iff (Nat.le_refl 1)).mpr ⟨_, rfl, ⟨?_, ?_⟩, ?_⟩⟩⟩
      all_goals simp [UInt8.le_iff_toNat_le]
      all_goals omega
    · refine ⟨_, _, _, rfl, ofLead_eq_more_iff.mpr (.inr (.inr ⟨?_, ?_, rfl⟩)),
        (completes_more_iff (by simp)).mpr ⟨_, _, rfl,
          inSecondOfFour_iff.mpr ⟨⟨?_, ?_⟩, ?_, ?_⟩,
          (completes_more_iff (Nat.lt_succ_self 1)).mpr ⟨_, _, rfl, ⟨?_, ?_⟩,
            (completes_last_iff (Nat.le_refl 1)).mpr ⟨_, rfl, ⟨?_, ?_⟩, ?_⟩⟩⟩⟩
      all_goals simp [UInt8.le_iff_toNat_le]
      all_goals omega

/-! ## Whole texts -/

theorem decodeFrom_encodeChar (character : Char) (index : Nat) (rest : List UInt8) :
    ∃ next, decodeFrom index none (String.utf8EncodeChar character ++ rest) =
      (decodeFrom next none rest).map (character :: ·) := by
  by_cases ascii : character.toNat < 128
  · have small : (UInt8.ofNat character.toNat).toNat = character.toNat := by
      rw [UInt8.toNat_ofNat']
      omega
    have lead : Step.ofLead (UInt8.ofNat character.toNat) = .complete character := by
      rw [ofLead_eq_complete_iff, small, Char.ofNat_toNat]
      exact ⟨ascii, rfl⟩
    rw [utf8EncodeChar_of_lt ascii, List.singleton_append, decodeFrom, lead]
    exact ⟨_, rfl⟩
  · rcases exists_lead (Nat.le_of_not_lt ascii) with
      ⟨first, others, pending, encoded, lead, completes⟩
    rw [encoded, List.cons_append, decodeFrom, lead]
    rcases decodeFrom_append_of_completes completes index rest with ⟨next, decoded⟩
    rw [Char.ofNat_toNat] at decoded
    exact ⟨next, decoded⟩

theorem decodeFrom_encode (characters : List Char) (index : Nat) :
    decodeFrom index none (encode characters) = .ok characters := by
  induction characters generalizing index with
  | nil => rfl
  | cons character others induction =>
      rcases decodeFrom_encodeChar character index (encode others) with ⟨next, decoded⟩
      rw [encode_cons, decoded, induction]
      rfl

theorem exists_of_decodeFrom {first : UInt8} {bytes : List UInt8} {index : Nat}
    {characters : List Char} (decoded : decodeFrom index none (first :: bytes) = .ok characters) :
    ∃ character others rest next, characters = character :: others ∧
      first :: bytes = String.utf8EncodeChar character ++ rest ∧
      decodeFrom next none rest = .ok others := by
  rw [decodeFrom] at decoded
  cases lead : Step.ofLead first with
  | reject =>
      rw [lead] at decoded
      cases decoded
  | complete character =>
      rw [lead] at decoded
      cases after : decodeFrom (index + 1) none bytes with
      | error error =>
          simp only [after] at decoded
          cases decoded
      | ok others =>
          simp only [after] at decoded
          cases decoded
          rcases ofLead_eq_complete_iff.mp lead with ⟨ascii, rfl⟩
          have code_eq := toNat_ofNat_of_valid (.inl (by omega) : first.toNat.isValidChar)
          refine ⟨_, others, bytes, _, rfl, ?_, after⟩
          rw [utf8EncodeChar_of_lt (by omega), code_eq, UInt8.ofNat_toNat,
            List.singleton_append]
  | more pending =>
      rw [lead] at decoded
      rcases exists_completes_of_decodeFrom decoded with
        ⟨front, rest, code, next, others, rfl, completes, after, rfl⟩
      refine ⟨_, others, rest, next, rfl, ?_, after⟩
      rw [utf8EncodeChar_of_lead lead completes, List.cons_append]

theorem encode_of_decodeFrom {characters : List Char} {bytes : List UInt8} {index : Nat}
    (decoded : decodeFrom index none bytes = .ok characters) : encode characters = bytes := by
  induction characters generalizing bytes index with
  | nil =>
      cases bytes with
      | nil => rfl
      | cons first bytes =>
          rcases exists_of_decodeFrom decoded with ⟨_, _, _, _, impossible, -, -⟩
          cases impossible
  | cons character others induction =>
      cases bytes with
      | nil => cases decoded
      | cons first bytes =>
          rcases exists_of_decodeFrom decoded with ⟨_, _, rest, next, same, bytes_eq, after⟩
          cases same
          rw [encode_cons, induction after, bytes_eq]

theorem decode_eq_ok_iff {bytes : List UInt8} {characters : List Char} :
    decode bytes = .ok characters ↔ encode characters = bytes := by
  constructor
  · exact encode_of_decodeFrom
  · rintro rfl
    exact decodeFrom_encode characters 0

/-! ## Lenient decoding -/

/-- Lenient decoding agrees with strict decoding where that succeeds, and leaves a mark where
it fails. -/
theorem decodeLossyFrom_cases (bytes : List UInt8) (pending : Option Pending) (index : Nat) :
    decodeFrom index pending bytes = .ok (decodeLossyFrom pending bytes) ∨
      (∃ error, decodeFrom index pending bytes = .error error) ∧
        replacement ∈ decodeLossyFrom pending bytes := by
  induction bytes generalizing pending index with
  | nil =>
      cases pending with
      | none => exact .inl rfl
      | some pending => exact .inr ⟨⟨_, rfl⟩, List.mem_singleton_self _⟩
  | cons byte bytes induction =>
      have prepended (character : Char) (next : Nat) :
          (decodeFrom next none bytes).map (character :: ·) =
              .ok (character :: decodeLossyFrom none bytes) ∨
            (∃ error, (decodeFrom next none bytes).map (character :: ·) = .error error) ∧
              replacement ∈ character :: decodeLossyFrom none bytes := by
        rcases induction none next with decoded | ⟨⟨error, failed⟩, marked⟩
        · rw [decoded]
          exact .inl rfl
        · rw [failed]
          exact .inr ⟨⟨error, rfl⟩, List.mem_cons_of_mem _ marked⟩
      cases pending with
      | none =>
          rw [decodeFrom, decodeLossyFrom]
          cases Step.ofLead byte with
          | complete character => exact prepended character _
          | more pending => exact induction (some pending) index
          | reject => exact .inr ⟨⟨_, rfl⟩, List.mem_cons_self⟩
      | some pending =>
          rw [decodeFrom, decodeLossyFrom]
          cases pending.step byte with
          | complete character => exact prepended character _
          | more next => exact induction (some next) index
          | reject => exact .inr ⟨⟨_, rfl⟩, List.mem_cons_self⟩

theorem decodeLossy_encode (characters : List Char) :
    decodeLossy (encode characters) = characters := by
  rcases decodeLossyFrom_cases (encode characters) none 0 with decoded | ⟨⟨error, failed⟩, -⟩
  · rw [decodeFrom_encode] at decoded
    exact (Except.ok.inj decoded).symm
  · rw [decodeFrom_encode] at failed
    cases failed

theorem decode_of_broken {bytes : List UInt8}
    (broken : ∀ characters, encode characters ≠ bytes) :
    (∃ error, decode bytes = .error error) ∧ replacement ∈ decodeLossy bytes := by
  rcases decodeLossyFrom_cases bytes none 0 with decoded | failed
  · exact absurd (decode_eq_ok_iff.mp decoded) (broken _)
  · exact failed

end ScalarCell.Utf8
