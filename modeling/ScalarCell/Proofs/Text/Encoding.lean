import ScalarCell.Text.Utf8

namespace ScalarCell.Utf8

/-! Where an encoded text begins with an ASCII byte, it begins with that character, so a
scanner of bytes that looks for ASCII alone sees the characters themselves. -/

@[simp] theorem encode_nil : encode [] = [] := rfl

@[simp] theorem encode_cons (character : Char) (rest : List Char) :
    encode (character :: rest) = String.utf8EncodeChar character ++ encode rest := rfl

theorem utf8EncodeChar_of_lt {character : Char} (ascii : character.toNat < 128) :
    String.utf8EncodeChar character = [UInt8.ofNat character.toNat] := by
  have small : character.toNat ≤ 0x7f := by omega
  rw [String.utf8EncodeChar]
  simp only [Char.toNat_val, small, if_true]

theorem utf8EncodeChar_of_le {character : Char} (wide : 128 ≤ character.toNat) :
    ∃ first second others, String.utf8EncodeChar character = first :: second :: others ∧
      128 ≤ first.toNat ∧ 128 ≤ second.toNat := by
  have large : ¬ character.toNat ≤ 0x7f := by omega
  rw [String.utf8EncodeChar]
  simp only [Char.toNat_val, large, if_false]
  split
  · refine ⟨_, _, _, rfl, ?_⟩
    simp only [UInt8.toNat_ofNat']
    omega
  · split
    · refine ⟨_, _, _, rfl, ?_⟩
      simp only [UInt8.toNat_ofNat']
      omega
    · refine ⟨_, _, _, rfl, ?_⟩
      simp only [UInt8.toNat_ofNat']
      have := character.valid
      omega

theorem encode_eq_nil_iff {text : List Char} : encode text = [] ↔ text = [] := by
  cases text with
  | nil => simp
  | cons character rest =>
      have nonempty : String.utf8EncodeChar character ≠ [] := String.utf8EncodeChar_ne_nil
      simp [nonempty]

theorem encode_eq_cons_iff {text : List Char} {byte : UInt8} {bytes : List UInt8}
    (ascii : byte.toNat < 128) :
    encode text = byte :: bytes ↔
      ∃ character rest, text = character :: rest ∧ character.toNat = byte.toNat ∧
        bytes = encode rest := by
  cases text with
  | nil => simp
  | cons character rest =>
      rw [encode_cons]
      by_cases small : character.toNat < 128
      · rw [utf8EncodeChar_of_lt small, List.singleton_append, List.cons.injEq,
          ← UInt8.toNat_inj, UInt8.toNat_ofNat', Nat.mod_eq_of_lt (by omega)]
        constructor
        · intro given
          rcases given with ⟨sameByte, rfl⟩
          exact ⟨character, rest, rfl, sameByte, rfl⟩
        · intro given
          rcases given with ⟨_, _, equal, sameByte, rfl⟩
          cases equal
          exact ⟨sameByte, rfl⟩
      · rcases utf8EncodeChar_of_le (Nat.le_of_not_lt small) with
          ⟨first, second, others, encoded, wide, -⟩
        rw [encoded, List.cons_append, List.cons.injEq]
        constructor
        · intro given
          rcases given with ⟨rfl, -⟩
          omega
        · intro given
          rcases given with ⟨_, _, equal, sameByte, -⟩
          cases equal
          omega

theorem encode_eq_cons_char_iff {expected : Char} {byte : UInt8} {text : List Char}
    {bytes : List UInt8} (same : expected.toNat = byte.toNat) (ascii : byte.toNat < 128) :
    encode text = byte :: bytes ↔
      ∃ rest, text = expected :: rest ∧ bytes = encode rest := by
  rw [encode_eq_cons_iff ascii]
  constructor
  · intro given
    rcases given with ⟨character, rest, rfl, toNat_eq, rfl⟩
    obtain rfl : character = expected := Char.toNat_inj.mp (toNat_eq.trans same.symm)
    exact ⟨rest, rfl, rfl⟩
  · intro given
    rcases given with ⟨rest, rfl, rfl⟩
    exact ⟨expected, rest, rfl, same, rfl⟩

end ScalarCell.Utf8
