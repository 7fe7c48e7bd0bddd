import ParkingLot.Text.Utf8
/-!
# Letters and digits

The classes of ASCII characters as ranges, of characters, of code points and of bytes.  No byte of
a character outside ASCII is in any of them.
-/

namespace ParkingLot.Text

variable {a b c : Char}

theorem isUpper_iff : c.isUpper = true ↔ 'A' ≤ c ∧ c ≤ 'Z' := decide_eq_true_iff

private theorem isLower_iff : c.isLower = true ↔ 'a' ≤ c ∧ c ≤ 'z' :=
  Bool.and_eq_true_iff.trans (and_congr decide_eq_true_iff decide_eq_true_iff)

theorem isDigit_iff : c.isDigit = true ↔ '0' ≤ c ∧ c ≤ '9' :=
  Bool.and_eq_true_iff.trans (and_congr decide_eq_true_iff decide_eq_true_iff)

theorem le_iff_toNat_le : a ≤ b ↔ a.toNat ≤ b.toNat := UInt32.le_iff_toNat_le

theorem isUpper_iff_toNat : c.isUpper = true ↔ 65 ≤ c.toNat ∧ c.toNat ≤ 90 :=
  isUpper_iff.trans (and_congr le_iff_toNat_le le_iff_toNat_le)

theorem isLower_iff_toNat : c.isLower = true ↔ 97 ≤ c.toNat ∧ c.toNat ≤ 122 :=
  isLower_iff.trans (and_congr le_iff_toNat_le le_iff_toNat_le)

theorem isDigit_iff_toNat : c.isDigit = true ↔ 48 ≤ c.toNat ∧ c.toNat ≤ 57 :=
  isDigit_iff.trans (and_congr le_iff_toNat_le le_iff_toNat_le)

/-! ## In bytes -/

private theorem utf8EncodeChar_of_le (h : c.toNat ≤ 127) :
    String.utf8EncodeChar c = [UInt8.ofNat c.toNat] := if_pos h

theorem exists_byte_of_lt (h : 127 < c.toNat) :
    ∃ b ∈ String.utf8EncodeChar c, 127 < b.toNat := by
  have hwide : ¬ c.val.toNat ≤ 127 := Nat.not_le.2 h
  unfold String.utf8EncodeChar
  dsimp only
  rw [if_neg hwide]
  repeat' split
  all_goals
    refine ⟨_, List.mem_cons_self, ?_⟩
    rw [UInt8.toNat_ofNat']
    omega

/-- A range of ASCII bytes takes in all bytes of a character exactly if the character is in it. -/
theorem all_utf8EncodeChar_iff {p : UInt8 → Bool} {low high : Char} (hhigh : high.toNat ≤ 127)
    (hp : ∀ b, p b = true ↔ low.toNat ≤ b.toNat ∧ b.toNat ≤ high.toNat) :
    (String.utf8EncodeChar c).all p = true ↔ low ≤ c ∧ c ≤ high := by
  rw [le_iff_toNat_le, le_iff_toNat_le]
  by_cases hascii : c.toNat ≤ 127
  · have hbyte : (UInt8.ofNat c.toNat).toNat = c.toNat := by
      rw [UInt8.toNat_ofNat']
      omega
    rw [utf8EncodeChar_of_le hascii, List.all_cons, List.all_nil, Bool.and_true, hp, hbyte]
  · obtain ⟨b, hb, hwide⟩ := exists_byte_of_lt (Nat.not_le.1 hascii)
    constructor
    · intro hall
      have hle := ((hp b).1 (List.all_eq_true.1 hall b hb)).2
      omega
    · rintro ⟨-, hle⟩
      omega

theorem length_encode_of_le {cs : List Char} (h : ∀ c ∈ cs, c.toNat ≤ 127) :
    (Utf8.encode cs).length = cs.length := by
  induction cs with
  | nil => rfl
  | cons c cs ih =>
      rw [List.forall_mem_cons] at h
      have hencode : Utf8.encode (c :: cs) = String.utf8EncodeChar c ++ Utf8.encode cs := rfl
      rw [hencode, utf8EncodeChar_of_le h.1, List.length_append, ih h.2, List.length_singleton,
        List.length_cons, Nat.add_comm]

end ParkingLot.Text
