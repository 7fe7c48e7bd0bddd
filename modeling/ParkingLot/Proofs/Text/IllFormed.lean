import Mathlib.Algebra.Group.Nat.Defs
import ParkingLot.Proofs.Text.Utf8
/-!
# Bytes that are no text

Where bytes are no UTF-8, decoding leaves a U+FFFD (`replacement_mem_decode`).  As long as it leaves
none, every byte that it has read belongs to a character that it gave back, or is held for the
sequence under way (`Holds`).
-/

namespace ParkingLot.Text.Utf8

def tail : Nat → Nat → List UInt8
  | 0, _ => []
  | k + 1, v => UInt8.ofNat (v / 64 ^ k % 64 + 0x80) :: tail k v

/-- The sequence may still turn out to be the one for the code point. -/
structure Unfinished.MayBe (u : Unfinished) (v : Nat) : Prop where
  bits_eq : v / 64 ^ (u.owed + 1) = u.bits
  low_le : u.low.toNat ≤ v / 64 ^ u.owed % 64 + 0x80
  le_high : v / 64 ^ u.owed % 64 + 0x80 ≤ u.high.toNat

def Holds : Option Unfinished → List UInt8 → Prop
  | none, held => held = []
  | some u, held => 0x80 ≤ u.low.toNat ∧ u.high.toNat ≤ 0xbf ∧ ∀ v, u.MayBe v →
    String.utf8EncodeChar (Char.ofNat v) = held ++ tail (u.owed + 1) v

private def firstOfTwo (k : Nat) : Unfinished := { bits := k, owed := 0 }

private def firstOfThree (k : Nat) : Unfinished :=
  { bits := k, owed := 1
    low := if k = 0 then 0xa0 else 0x80, high := if k = 13 then 0x9f else 0xbf }

private def firstOfFour (k : Nat) : Unfinished :=
  { bits := k, owed := 2
    low := if k = 0 then 0x90 else 0x80, high := if k = 4 then 0x8f else 0xbf }

/-- The byte is the first of several, and this is under way after it. -/
def Begins (b : UInt8) (u : Unfinished) : Prop :=
  (∃ k < 32, 2 ≤ k ∧ b = UInt8.ofNat (k + 0xc0) ∧ u = firstOfTwo k) ∨
    (∃ k < 16, b = UInt8.ofNat (k + 0xe0) ∧ u = firstOfThree k) ∨
    ∃ k < 5, b = UInt8.ofNat (k + 0xf0) ∧ u = firstOfFour k

instance (b : UInt8) (u : Unfinished) : Decidable (Begins b u) :=
  inferInstanceAs (Decidable (_ ∨ _ ∨ _))

variable {s : Option Unfinished} {u : Unfinished} {b : UInt8} {bs held : List UInt8} {v k : Nat}

/-! ## The first byte -/

private theorem toNat_val_ofNat (h : v.isValidChar) : (Char.ofNat v).val.toNat = v := by
  have hchar : Char.ofNat v = Char.ofNatAux v h := dif_pos h
  rw [hchar]
  rfl

theorem utf8EncodeChar_one (h : v ≤ 0x7f) :
    String.utf8EncodeChar (Char.ofNat v) = [UInt8.ofNat v] := by
  have hvalid : v.isValidChar := .inl (by omega)
  unfold String.utf8EncodeChar
  rw [toNat_val_ofNat hvalid]
  exact if_pos h

private theorem utf8EncodeChar_two (hlow : 0x80 ≤ v) (hhigh : v ≤ 0x7ff) :
    String.utf8EncodeChar (Char.ofNat v) =
      [UInt8.ofNat (v / 64 % 0x20 + 0xc0), UInt8.ofNat (v % 0x40 + 0x80)] := by
  have hvalid : v.isValidChar := .inl (by omega)
  unfold String.utf8EncodeChar
  rw [toNat_val_ofNat hvalid]
  dsimp only
  rw [if_neg (by omega), if_pos hhigh]

private theorem utf8EncodeChar_three (hvalid : v.isValidChar) (hlow : 0x800 ≤ v) (hhigh : v ≤ 0xffff) :
    String.utf8EncodeChar (Char.ofNat v) = [UInt8.ofNat (v / 4096 % 0x10 + 0xe0),
      UInt8.ofNat (v / 64 % 0x40 + 0x80), UInt8.ofNat (v % 0x40 + 0x80)] := by
  unfold String.utf8EncodeChar
  rw [toNat_val_ofNat hvalid]
  dsimp only
  rw [if_neg (by omega), if_neg (by omega), if_pos hhigh]

private theorem utf8EncodeChar_four (hvalid : v.isValidChar) (hlow : 0x10000 ≤ v) :
    String.utf8EncodeChar (Char.ofNat v) = [UInt8.ofNat (v / 262144 % 0x08 + 0xf0),
      UInt8.ofNat (v / 4096 % 0x40 + 0x80), UInt8.ofNat (v / 64 % 0x40 + 0x80),
      UInt8.ofNat (v % 0x40 + 0x80)] := by
  unfold String.utf8EncodeChar
  rw [toNat_val_ofNat hvalid]
  dsimp only
  rw [if_neg (by omega), if_neg (by omega), if_neg (by omega)]

private theorem holds_firstOfTwo (hlow : 2 ≤ k) (hhigh : k < 32) :
    Holds (some (firstOfTwo k)) [UInt8.ofNat (k + 0xc0)] := by
  refine ⟨Nat.le_refl _, Nat.le_refl _, ?_⟩
  rintro v ⟨hbits, -, -⟩
  change v / 64 = k at hbits
  have hfirst : v / 64 % 0x20 = k := by omega
  rw [utf8EncodeChar_two (by omega) (by omega), hfirst]
  simp [tail, firstOfTwo]

private theorem holds_firstOfThree (hhigh : k < 16) :
    Holds (some (firstOfThree k)) [UInt8.ofNat (k + 0xe0)] := by
  unfold firstOfThree
  refine ⟨by dsimp only; split <;> decide, by dsimp only; split <;> decide, ?_⟩
  rintro v ⟨hbits, hlow, hle⟩
  change v / 4096 = k at hbits
  change _ ≤ v / 64 % 64 + 0x80 at hlow
  change v / 64 % 64 + 0x80 ≤ _ at hle
  dsimp only at hlow hle
  have hfirst : v / 4096 % 0x10 = k := by omega
  have hlong : 0x800 ≤ v := by
    split at hlow
    · change 0xa0 ≤ _ at hlow
      omega
    · omega
  have hvalid : v.isValidChar := by
    split at hle
    · change _ ≤ 0x9f at hle
      exact .inl (by omega)
    · obtain hbelow | habove : v < 0xd800 ∨ 0xdfff < v := by omega
      · exact .inl hbelow
      · exact .inr ⟨habove, by omega⟩
  rw [utf8EncodeChar_three hvalid hlong (by omega), hfirst]
  simp [tail]

private theorem holds_firstOfFour (hhigh : k < 5) :
    Holds (some (firstOfFour k)) [UInt8.ofNat (k + 0xf0)] := by
  unfold firstOfFour
  refine ⟨by dsimp only; split <;> decide, by dsimp only; split <;> decide, ?_⟩
  rintro v ⟨hbits, hlow, hle⟩
  change v / 262144 = k at hbits
  change _ ≤ v / 4096 % 64 + 0x80 at hlow
  change v / 4096 % 64 + 0x80 ≤ _ at hle
  dsimp only at hlow hle
  have hfirst : v / 262144 % 0x08 = k := by omega
  have hlong : 0x10000 ≤ v := by
    split at hlow
    · change 0x90 ≤ _ at hlow
      omega
    · omega
  have hvalid : v.isValidChar := by
    split at hle
    · change _ ≤ 0x8f at hle
      exact .inr ⟨by omega, by omega⟩
    · exact .inr ⟨by omega, by omega⟩
  rw [utf8EncodeChar_four hvalid hlong, hfirst]
  simp [tail]

theorem begins_of_lead (h : (lead b).2 = some u) : (lead b).1 = [] ∧ Begins b u := by
  have hall := forall_byte (P := fun b => ∀ u ∈ (lead b).2, (lead b).1 = [] ∧ Begins b u)
    (by decide +kernel)
  exact hall b u h

theorem exists_holds_lead (h : replacement ∉ (lead b).1) :
    ∃ held, Holds (lead b).2 held ∧ [b] = encode (lead b).1 ++ held := by
  cases hu : (lead b).2 with
  | none =>
      refine ⟨[], rfl, ?_⟩
      by_cases hb : b ≤ 0x7f
      · have hle : b.toNat ≤ 0x7f := UInt8.le_iff_toNat_le.1 hb
        rw [lead_of_le hb, List.append_nil]
        change [b] = String.utf8EncodeChar (Char.ofNat b.toNat) ++ []
        rw [utf8EncodeChar_one hle, UInt8.ofNat_toNat, List.append_nil]
      · unfold lead at h hu
        rw [if_neg hb] at h hu
        split_ifs at h hu
        all_goals simp at h hu
  | some u =>
      obtain ⟨hnil, hbegins⟩ := begins_of_lead hu
      refine ⟨[b], ?_, by rw [hnil]; rfl⟩
      obtain ⟨k, hhigh, hlow, rfl, rfl⟩ | ⟨k, hhigh, rfl, rfl⟩ | ⟨k, hhigh, rfl, rfl⟩ := hbegins
      · exact holds_firstOfTwo hlow hhigh
      · exact holds_firstOfThree hhigh
      · exact holds_firstOfFour hhigh

/-! ## One byte after the other -/

theorem Unfinished.MayBe.of_div_eq (hlow : 0x80 ≤ u.low.toNat) (hhigh : u.high.toNat ≤ 0xbf)
    (hrange : u.low ≤ b ∧ b ≤ u.high)
    (h : v / 64 ^ u.owed = u.bits * 64 + (b.toNat - 0x80)) :
    u.MayBe v ∧ UInt8.ofNat (v / 64 ^ u.owed % 64 + 0x80) = b := by
  have hlow' := UInt8.le_iff_toNat_le.1 hrange.1
  have hhigh' := UInt8.le_iff_toNat_le.1 hrange.2
  have hlast : v / 64 ^ u.owed % 64 + 0x80 = b.toNat := by omega
  refine ⟨⟨?_, ?_, ?_⟩, ?_⟩
  · rw [Nat.pow_succ, ← Nat.div_div_eq_div_mul]
    omega
  · rwa [hlast]
  · rwa [hlast]
  · rw [hlast, UInt8.ofNat_toNat]

theorem exists_holds_step (hs : Holds s held) (h : replacement ∉ (step s b).1) :
    ∃ more, Holds (step s b).2 more ∧ held ++ [b] = encode (step s b).1 ++ more := by
  cases s with
  | none =>
      obtain rfl : held = [] := hs
      exact exists_holds_lead h
  | some u =>
      obtain ⟨hlow, hhigh, hheld⟩ := hs
      by_cases hrange : u.low ≤ b ∧ b ≤ u.high
      · rw [step_some hrange]
        cases howed : u.owed with
        | zero =>
            -- the sequence is complete
            have hdiv : (u.bits * 64 + (b.toNat - 0x80)) / 64 ^ u.owed =
                u.bits * 64 + (b.toNat - 0x80) := by rw [howed, Nat.pow_zero, Nat.div_one]
            obtain ⟨hmayBe, hlast⟩ := Unfinished.MayBe.of_div_eq hlow hhigh hrange hdiv
            have hchar := hheld _ hmayBe
            rw [tail, hlast, howed] at hchar
            refine ⟨[], rfl, ?_⟩
            rw [List.append_nil]
            exact hchar.symm.trans (List.append_nil _).symm
        | succ owed =>
            -- the byte is held with the others
            refine ⟨held ++ [b], ⟨Nat.le_refl _, Nat.le_refl _, ?_⟩, rfl⟩
            intro v hv
            have hdiv : v / 64 ^ u.owed = u.bits * 64 + (b.toNat - 0x80) := by
              rw [howed]
              exact hv.bits_eq
            obtain ⟨hmayBe, hlast⟩ := Unfinished.MayBe.of_div_eq hlow hhigh hrange hdiv
            rw [hheld v hmayBe, tail, hlast, howed, List.append_assoc, List.singleton_append]
      · rw [step, if_neg hrange] at h
        exact absurd List.mem_cons_self h

theorem append_eq_encode (hs : Holds s held) (h : replacement ∉ decodeFrom s bs) :
    held ++ bs = encode (decodeFrom s bs) := by
  induction bs generalizing s held with
  | nil =>
      cases s with
      | none =>
          obtain rfl : held = [] := hs
          rfl
      | some u => exact absurd List.mem_cons_self h
  | cons b bs ih =>
      rw [decodeFrom, List.mem_append, not_or] at h
      obtain ⟨more, hmore, hread⟩ := exists_holds_step hs h.1
      calc held ++ b :: bs = (held ++ [b]) ++ bs := by
            rw [List.append_assoc, List.singleton_append]
        _ = encode (step s b).1 ++ (more ++ bs) := by rw [hread, List.append_assoc]
        _ = encode (step s b).1 ++ encode (decodeFrom (step s b).2 bs) := by rw [ih hmore h.2]
        _ = encode (decodeFrom s (b :: bs)) := by
            rw [decodeFrom, encode, encode, encode, List.flatMap_append]

/-- Bytes that are no UTF-8 leave a trace in their text. -/
theorem replacement_mem_decode {bytes : List UInt8} (h : ¬ bytes.toByteArray.IsValidUTF8) :
    replacement ∈ decode bytes := by
  by_contra hfree
  have hbytes : bytes = encode (decode bytes) := @append_eq_encode none bytes [] rfl hfree
  exact h ⟨decode bytes, congrArg List.toByteArray hbytes⟩

end ParkingLot.Text.Utf8
