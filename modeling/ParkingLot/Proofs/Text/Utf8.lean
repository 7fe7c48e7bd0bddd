import ParkingLot.Proofs.Text.Lines
import ParkingLot.Text.Utf8
/-!
# Decoding bytes

Decoding gives back the text that was encoded (`decode_encode`), and cutting bytes into lines
before decoding them comes to the same as cutting the decoded text (`map_decode_cutAfter`): no
sequence of several bytes, finished or not, swallows a line feed or makes one up.
-/

namespace ParkingLot.Text.Utf8

theorem forall_byte {P : UInt8 → Prop} (h : ∀ n < 256, P (UInt8.ofNat n)) (b : UInt8) : P b := by
  have hb := h b.toNat b.toNat_lt
  rwa [UInt8.ofNat_toNat] at hb

theorem toList_toUTF8 (s : String) : s.toUTF8.data.toList = encode s.toList := by
  obtain ⟨cs, rfl⟩ : ∃ cs, s = String.ofList cs := ⟨s.toList, String.ofList_toList.symm⟩
  rw [String.toUTF8_eq_toByteArray, String.toByteArray_ofList, List.utf8Encode,
    List.toList_data_toByteArray, String.toList_ofList]
  rfl

/-! ## One sequence -/

private theorem lead_two : ∀ k < 32, 2 ≤ k →
    lead (UInt8.ofNat (k + 0xc0)) = ([], some { bits := k, owed := 0 }) := by
  decide

private theorem lead_three : ∀ k < 16, lead (UInt8.ofNat (k + 0xe0)) =
    ([], some { bits := k, owed := 1, low := if k = 0 then 0xa0 else 0x80,
                high := if k = 13 then 0x9f else 0xbf }) := by
  decide

private theorem lead_four : ∀ k < 5, lead (UInt8.ofNat (k + 0xf0)) =
    ([], some { bits := k, owed := 2, low := if k = 0 then 0x90 else 0x80,
                high := if k = 4 then 0x8f else 0xbf }) := by
  decide

theorem step_some {u : Unfinished} {b : UInt8} (h : u.low ≤ b ∧ b ≤ u.high) :
    step (some u) b =
      match u.owed with
      | 0 => ([Char.ofNat (u.bits * 64 + (b.toNat - 0x80))], none)
      | owed + 1 => ([], some { bits := u.bits * 64 + (b.toNat - 0x80), owed }) := by
  obtain ⟨bits, owed, low, high⟩ := u
  cases owed <;> exact if_pos h

theorem toNat_tail {m : Nat} (hm : m < 64) : (UInt8.ofNat (m + 0x80)).toNat = m + 0x80 := by
  rw [UInt8.toNat_ofNat']
  omega

section Tail

variable {u : Unfinished} {bits owed m : Nat} (hm : m < 64) (bs : List UInt8)

include hm

theorem decodeFrom_last (howed : u.owed = 0) (hlow : u.low.toNat ≤ m + 0x80)
    (hhigh : m + 0x80 ≤ u.high.toNat) :
    decodeFrom (some u) (UInt8.ofNat (m + 0x80) :: bs) =
      Char.ofNat (u.bits * 64 + m) :: decodeFrom none bs := by
  have hrange : u.low ≤ UInt8.ofNat (m + 0x80) ∧ UInt8.ofNat (m + 0x80) ≤ u.high := by
    rw [UInt8.le_iff_toNat_le, UInt8.le_iff_toNat_le, toNat_tail hm]
    exact ⟨hlow, hhigh⟩
  rw [decodeFrom, step_some hrange, toNat_tail hm, howed, Nat.add_sub_cancel]
  rfl

theorem decodeFrom_next (howed : u.owed = owed + 1) (hlow : u.low.toNat ≤ m + 0x80)
    (hhigh : m + 0x80 ≤ u.high.toNat) :
    decodeFrom (some u) (UInt8.ofNat (m + 0x80) :: bs) =
      decodeFrom (some { bits := u.bits * 64 + m, owed }) bs := by
  have hrange : u.low ≤ UInt8.ofNat (m + 0x80) ∧ UInt8.ofNat (m + 0x80) ≤ u.high := by
    rw [UInt8.le_iff_toNat_le, UInt8.le_iff_toNat_le, toNat_tail hm]
    exact ⟨hlow, hhigh⟩
  rw [decodeFrom, step_some hrange, toNat_tail hm, howed, Nat.add_sub_cancel]
  rfl

theorem decodeFrom_last_default :
    decodeFrom (some { bits, owed := 0 }) (UInt8.ofNat (m + 0x80) :: bs) =
      Char.ofNat (bits * 64 + m) :: decodeFrom none bs := by
  apply decodeFrom_last hm bs rfl
  · exact Nat.le_add_left _ _
  · change m + 0x80 ≤ 0xbf
    omega

theorem decodeFrom_next_default :
    decodeFrom (some { bits, owed := owed + 1 }) (UInt8.ofNat (m + 0x80) :: bs) =
      decodeFrom (some { bits := bits * 64 + m, owed }) bs := by
  apply decodeFrom_next hm bs rfl
  · exact Nat.le_add_left _ _
  · change m + 0x80 ≤ 0xbf
    omega

end Tail

section Char

variable {v : Nat} (bs : List UInt8)

private theorem decodeFrom_one (h : v ≤ 0x7f) :
    decodeFrom none (UInt8.ofNat v :: bs) = Char.ofNat v :: decodeFrom none bs := by
  have htoNat : (UInt8.ofNat v).toNat = v := by
    rw [UInt8.toNat_ofNat']
    omega
  have hle : UInt8.ofNat v ≤ 0x7f := by
    rw [UInt8.le_iff_toNat_le, htoNat]
    exact h
  rw [decodeFrom, step, lead_of_le hle, htoNat]
  rfl

private theorem decodeFrom_two (hlow : 0x80 ≤ v) (hhigh : v ≤ 0x7ff) :
    decodeFrom none (UInt8.ofNat (v / 64 % 0x20 + 0xc0) :: UInt8.ofNat (v % 0x40 + 0x80) :: bs) =
      Char.ofNat v :: decodeFrom none bs := by
  have hlead := lead_two (v / 64 % 0x20) (by omega) (by omega)
  have hlast : v % 0x40 < 64 := Nat.mod_lt _ (by decide)
  have hv : v / 64 % 0x20 * 64 + v % 0x40 = v := by omega
  rw [decodeFrom, step, hlead, List.nil_append, decodeFrom_last_default hlast, hv]

private theorem decodeFrom_three (hlow : 0x800 ≤ v) (hhigh : v ≤ 0xffff)
    (hvalid : v < 0xd800 ∨ 0xdfff < v) :
    decodeFrom none (UInt8.ofNat (v / 4096 % 0x10 + 0xe0) ::
        UInt8.ofNat (v / 64 % 0x40 + 0x80) :: UInt8.ofNat (v % 0x40 + 0x80) :: bs) =
      Char.ofNat v :: decodeFrom none bs := by
  have hlead := lead_three (v / 4096 % 0x10) (by omega)
  have hmid : v / 64 % 0x40 < 64 := Nat.mod_lt _ (by decide)
  have hlast : v % 0x40 < 64 := Nat.mod_lt _ (by decide)
  have hv : (v / 4096 % 0x10 * 64 + v / 64 % 0x40) * 64 + v % 0x40 = v := by omega
  rw [decodeFrom, step, hlead, List.nil_append, decodeFrom_next hmid _ rfl,
    decodeFrom_last_default hlast, hv]
  · -- a first byte of 0xe0 shuts out what two bytes could say
    dsimp only
    split
    · change 0xa0 ≤ _
      omega
    · exact Nat.le_add_left _ _
  · -- a first byte of 0xed shuts out the surrogates
    dsimp only
    split
    · change _ ≤ 0x9f
      omega
    · change _ ≤ 0xbf
      omega

private theorem decodeFrom_four (hlow : 0x10000 ≤ v) (hhigh : v < 0x110000) :
    decodeFrom none (UInt8.ofNat (v / 262144 % 0x08 + 0xf0) ::
        UInt8.ofNat (v / 4096 % 0x40 + 0x80) :: UInt8.ofNat (v / 64 % 0x40 + 0x80) ::
        UInt8.ofNat (v % 0x40 + 0x80) :: bs) =
      Char.ofNat v :: decodeFrom none bs := by
  have hlead := lead_four (v / 262144 % 0x08) (by omega)
  have hnext : v / 4096 % 0x40 < 64 := Nat.mod_lt _ (by decide)
  have hmid : v / 64 % 0x40 < 64 := Nat.mod_lt _ (by decide)
  have hlast : v % 0x40 < 64 := Nat.mod_lt _ (by decide)
  have hv : ((v / 262144 % 0x08 * 64 + v / 4096 % 0x40) * 64 + v / 64 % 0x40) * 64 +
      v % 0x40 = v := by omega
  rw [decodeFrom, step, hlead, List.nil_append, decodeFrom_next hnext _ rfl,
    decodeFrom_next_default hmid, decodeFrom_last_default hlast, hv]
  · dsimp only
    split
    · change 0x90 ≤ _
      omega
    · exact Nat.le_add_left _ _
  · dsimp only
    split
    · change _ ≤ 0x8f
      omega
    · change _ ≤ 0xbf
      omega

theorem decodeFrom_encodeChar (c : Char) :
    decodeFrom none (String.utf8EncodeChar c ++ bs) = c :: decodeFrom none bs := by
  have hc : Char.ofNat c.val.toNat = c := Char.ofNat_toNat c
  have hvalid : c.val.toNat.isValidChar := c.valid
  unfold String.utf8EncodeChar
  dsimp only
  generalize c.val.toNat = v at *
  have hrange : v < 0xd800 ∨ 0xdfff < v ∧ v < 0x110000 := hvalid
  rw [← hc]
  split_ifs with h1 h2 h3
  · exact decodeFrom_one bs h1
  · exact decodeFrom_two bs (by omega) h2
  · exact decodeFrom_three bs (by omega) h3 (by omega)
  · exact decodeFrom_four bs (by omega) (by omega)

end Char

theorem decode_encode (cs : List Char) : decode (encode cs) = cs := by
  unfold decode
  induction cs with
  | nil => rfl
  | cons c cs ih =>
      have hencode : encode (c :: cs) = String.utf8EncodeChar c ++ encode cs := rfl
      rw [hencode, decodeFrom_encodeChar, ih]

/-! ## Lines of bytes -/

/-- The sequence stands for no ASCII character, whatever its next bytes are. -/
private def Unfinished.IsWide (u : Unfinished) : Prop :=
  0x80 ≤ u.low ∧ (if u.owed = 0 then 0x80 else 2) ≤ u.bits * 64 + (u.low.toNat - 0x80)

instance (u : Unfinished) : Decidable u.IsWide := inferInstanceAs (Decidable (_ ∧ _))

theorem isWide_of_lead {b : UInt8} {u : Unfinished} (h : (lead b).2 = some u) : u.IsWide := by
  have hall := forall_byte (P := fun b => ∀ u ∈ (lead b).2, u.IsWide) (by decide +kernel)
  exact hall b u h

theorem isWide_of_step {s : Option Unfinished} {b : UInt8} (hs : ∀ u ∈ s, u.IsWide) :
    ∀ u ∈ (step s b).2, u.IsWide := by
  intro u hu
  cases s with
  | none => exact isWide_of_lead hu
  | some v =>
      obtain ⟨hlow, hvalue⟩ := hs v rfl
      by_cases hrange : v.low ≤ b ∧ b ≤ v.high
      · rw [step_some hrange] at hu
        split at hu
        · exact absurd hu (Option.not_mem_none u)
        · next owed howed =>
          obtain rfl := Option.some.inj hu
          have hb := UInt8.le_iff_toNat_le.1 hrange.1
          have hbits : 2 ≤ v.bits * 64 + (b.toNat - 0x80) := by
            rw [if_neg (by omega)] at hvalue
            omega
          have htail : (0x80 : UInt8).toNat - 0x80 = 0 := rfl
          refine ⟨UInt8.le_refl _, ?_⟩
          dsimp only
          rw [htail]
          split <;> omega
      · have hlead : (step (some v) b).2 = (lead b).2 := by rw [step, if_neg hrange]
        rw [hlead] at hu
        exact isWide_of_lead hu

private theorem eq_of_ofNat_eq_newline {n : Nat} (h : Char.ofNat n = '\n') : n = 10 := by
  by_cases hvalid : n.isValidChar
  · have hchar : Char.ofNat n = Char.ofNatAux n hvalid := dif_pos hvalid
    rw [hchar] at h
    exact congrArg Char.toNat h
  · have hchar : Char.ofNat n = '\x00' := dif_neg hvalid
    rw [hchar] at h
    exact absurd h (by decide)

private theorem newline_not_mem_lead {b : UInt8} (hb : b ≠ 0x0a) : '\n' ∉ (lead b).1 := by
  intro hmem
  unfold lead at hmem
  split_ifs at hmem
  · have hnewline := eq_of_ofNat_eq_newline (List.mem_singleton.1 hmem).symm
    exact hb (UInt8.toNat_inj.1 hnewline)
  all_goals simp [replacement] at hmem

private theorem newline_not_mem_step {s : Option Unfinished} {b : UInt8} (hs : ∀ u ∈ s, u.IsWide)
    (hb : b ≠ 0x0a) : '\n' ∉ (step s b).1 := by
  cases s with
  | none => exact newline_not_mem_lead hb
  | some v =>
      obtain ⟨hlow, hvalue⟩ := hs v rfl
      by_cases hrange : v.low ≤ b ∧ b ≤ v.high
      · rw [step_some hrange]
        split
        · next howed =>
          rw [if_pos howed] at hvalue
          have hb := UInt8.le_iff_toNat_le.1 hrange.1
          intro hmem
          have hnewline := eq_of_ofNat_eq_newline (List.mem_singleton.1 hmem).symm
          omega
        · simp
      · rw [step, if_neg hrange, List.mem_cons, not_or]
        exact ⟨by decide, newline_not_mem_lead hb⟩

theorem newline_not_mem_decodeFrom {bs : List UInt8} {s : Option Unfinished}
    (hs : ∀ u ∈ s, u.IsWide) (hbs : (0x0a : UInt8) ∉ bs) : '\n' ∉ decodeFrom s bs := by
  induction bs generalizing s with
  | nil => cases s <;> simp [decodeFrom, flush, replacement]
  | cons b bs ih =>
      rw [List.mem_cons, not_or] at hbs
      rw [decodeFrom, List.mem_append, not_or]
      exact ⟨newline_not_mem_step hs (Ne.symm hbs.1), ih (isWide_of_step hs) hbs.2⟩

/-- A line feed ends whatever was under way. -/
theorem decodeFrom_append_newline {as : List UInt8} {s : Option Unfinished}
    (hs : ∀ u ∈ s, u.IsWide) (bs : List UInt8) :
    decodeFrom s (as ++ 0x0a :: bs) = decodeFrom s as ++ '\n' :: decode bs := by
  induction as generalizing s with
  | nil =>
      have hstep : step s 0x0a = (flush s ++ [Char.ofNat (0x0a : UInt8).toNat], none) :=
        step_of_le (by decide) fun u hu => (hs u hu).1
      rw [List.nil_append, decodeFrom, decodeFrom, hstep, List.append_assoc]
      rfl
  | cons a as ih =>
      rw [List.cons_append, decodeFrom, decodeFrom, ih (isWide_of_step hs), List.append_assoc]

theorem newline_not_mem_decode {bs : List UInt8} (h : (0x0a : UInt8) ∉ bs) : '\n' ∉ decode bs :=
  newline_not_mem_decodeFrom (by simp) h

theorem decode_append_newline (as bs : List UInt8) :
    decode (as ++ 0x0a :: bs) = decode as ++ '\n' :: decode bs :=
  decodeFrom_append_newline (by simp) bs

theorem step_ne_nil (s : Option Unfinished) (b : UInt8) : step s b ≠ ([], none) := by
  have hlead : lead b ≠ ([], none) := by
    unfold lead
    split_ifs <;> simp
  cases s with
  | none => exact hlead
  | some u =>
      by_cases hrange : u.low ≤ b ∧ b ≤ u.high
      · rw [step_some hrange]
        split <;> simp
      · rw [step, if_neg hrange]
        simp

theorem decodeFrom_ne_nil {bs : List UInt8} {s : Option Unfinished}
    (h : s.isSome = true ∨ bs ≠ []) : decodeFrom s bs ≠ [] := by
  induction bs generalizing s with
  | nil => cases s <;> simp_all [decodeFrom, flush]
  | cons b bs ih =>
      rw [decodeFrom]
      cases hs : (step s b).2 with
      | some v => exact List.append_ne_nil_of_right_ne_nil _ (ih (.inl rfl))
      | none =>
          apply List.append_ne_nil_of_left_ne_nil
          intro hnil
          exact step_ne_nil s b (Prod.ext hnil hs)

/-- Bytes may be cut into lines before they are decoded. -/
theorem map_decode_cutAfter (bs : List UInt8) :
    (cutAfter 0x0a bs).map decode = cutAfter '\n' (decode bs) := by
  induction bs using @lines_induction _ _ _ (0x0a : UInt8) with
  | last as has =>
      have hfree := newline_not_mem_decode has
      by_cases hne : as = []
      · rw [hne]
        rfl
      · have hdecode : decode as ≠ [] := decodeFrom_ne_nil (.inr hne)
        rw [cutAfter_eq_singleton hne has, cutAfter_eq_singleton hdecode hfree]
        rfl
  | line as bs has ih =>
      have hfree := newline_not_mem_decode has
      rw [cutAfter_append_stop has, List.map_cons, ih, decode_append_newline,
        decode_append_newline, cutAfter_append_stop hfree, decode_nil]

end ParkingLot.Text.Utf8
