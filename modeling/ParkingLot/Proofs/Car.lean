import Mathlib.Data.List.Basic
import ParkingLot.Car.Basic
import ParkingLot.Proofs.Text.Ascii
import ParkingLot.Proofs.Text.Words
/-!
# Cars that can be made

The registration numbers and colours that describe a car, without the splitting, counting of bytes
and searching by which they are recognised.
-/

namespace ParkingLot

open Text

namespace Registration

/-- From `least` to `most` characters, all between two given ones. -/
def IsRun (low high : Char) (least most : Nat) (cs : List Char) : Prop :=
  (∀ c ∈ cs, low ≤ c ∧ c ≤ high) ∧ least ≤ cs.length ∧ cs.length ≤ most

/-- The text matches `[A-Z]{2}-[0-9]{2}-[A-Z]{1,2}-[0-9]{3,4}` from end to end. -/
def IsNumber (s : String) : Prop :=
  ∃ area district series number : List Char,
    s.toList = area ++ '-' :: (district ++ '-' :: (series ++ '-' :: number)) ∧
    IsRun 'A' 'Z' 2 2 area ∧ IsRun '0' '9' 2 2 district ∧
    IsRun 'A' 'Z' 1 2 series ∧ IsRun '0' '9' 3 4 number

variable {low high : Char} {least most : Nat} {cs : List Char}

private theorem isCapital_iff (b : UInt8) :
    isCapital b = true ↔ 'A'.toNat ≤ b.toNat ∧ b.toNat ≤ 'Z'.toNat := by
  rw [isCapital, Bool.and_eq_true, decide_eq_true_iff, decide_eq_true_iff]
  exact and_congr UInt8.le_iff_toNat_le UInt8.le_iff_toNat_le

private theorem isDigit_iff (b : UInt8) :
    isDigit b = true ↔ '0'.toNat ≤ b.toNat ∧ b.toNat ≤ '9'.toNat := by
  rw [isDigit, Bool.and_eq_true, decide_eq_true_iff, decide_eq_true_iff]
  exact and_congr UInt8.le_iff_toNat_le UInt8.le_iff_toNat_le

theorem isField_eq_true_iff {p : UInt8 → Bool} (hhigh : high.toNat ≤ 127)
    (hp : ∀ b, p b = true ↔ low.toNat ≤ b.toNat ∧ b.toNat ≤ high.toNat) :
    isField p least most cs = true ↔ IsRun low high least most cs := by
  have hall : (Utf8.encode cs).all p = true ↔ ∀ c ∈ cs, low ≤ c ∧ c ≤ high := by
    simp only [Utf8.encode, List.all_flatMap, List.all_eq_true (l := cs),
      all_utf8EncodeChar_iff hhigh hp]
  have hlength : (∀ c ∈ cs, low ≤ c ∧ c ≤ high) → (Utf8.encode cs).length = cs.length := by
    intro hrange
    apply length_encode_of_le
    intro c hc
    exact Nat.le_trans (le_iff_toNat_le.1 (hrange c hc).2) hhigh
  rw [isField, IsRun, Bool.and_eq_true, Bool.and_eq_true, decide_eq_true_iff, decide_eq_true_iff,
    hall]
  constructor
  · rintro ⟨hbytes, hrange⟩
    exact ⟨hrange, hlength hrange ▸ hbytes⟩
  · rintro ⟨hrange, hchars⟩
    exact ⟨(hlength hrange).symm ▸ hchars, hrange⟩

private theorem isField_isCapital_iff :
    isField isCapital least most cs = true ↔ IsRun 'A' 'Z' least most cs :=
  isField_eq_true_iff (by decide) isCapital_iff

private theorem isField_isDigit_iff :
    isField isDigit least most cs = true ↔ IsRun '0' '9' least most cs :=
  isField_eq_true_iff (by decide) isDigit_iff

theorem IsRun.hyphen_not_mem (h : IsRun low high least most cs) (hlow : ¬ low ≤ '-') :
    '-' ∉ cs := by
  intro hmem
  exact hlow (h.1 '-' hmem).1

theorem IsNumber.length_le {s : String} (h : IsNumber s) : s.length ≤ 13 := by
  obtain ⟨area, district, series, number, htext, harea, hdistrict, hseries, hnumber⟩ := h
  have harea := harea.2.2
  have hdistrict := hdistrict.2.2
  have hseries := hseries.2.2
  have hnumber := hnumber.2.2
  rw [← String.length_toList, htext]
  simp only [List.length_append, List.length_cons]
  omega

theorem isValid_eq_true_iff {s : String} : isValid s = true ↔ IsNumber s := by
  unfold isValid IsNumber
  constructor
  · intro h
    split at h
    · next area district series number hsplit =>
      have htext : ['-'].intercalate (s.toList.splitOn '-') = s.toList :=
        List.intercalate_splitOn '-'
      rw [hsplit] at htext
      rw [Bool.and_eq_true, Bool.and_eq_true, Bool.and_eq_true, isField_isCapital_iff,
        isField_isDigit_iff, isField_isCapital_iff, isField_isDigit_iff, and_assoc, and_assoc] at h
      refine ⟨area, district, series, number, ?_, h⟩
      rw [← htext]
      simp [List.intercalate]
    · contradiction
  · rintro ⟨area, district, series, number, htext, harea, hdistrict, hseries, hnumber⟩
    have hsplit : s.toList.splitOn '-' = [area, district, series, number] := by
      rw [htext,
        List.splitOn_append_cons_self_of_not_mem (harea.hyphen_not_mem (by decide)),
        List.splitOn_append_cons_self_of_not_mem (hdistrict.hyphen_not_mem (by decide)),
        List.splitOn_append_cons_self_of_not_mem (hseries.hyphen_not_mem (by decide)),
        List.splitOn_eq_singleton (hnumber.hyphen_not_mem (by decide))]
    rw [hsplit]
    dsimp only
    rw [Bool.and_eq_true, Bool.and_eq_true, Bool.and_eq_true, isField_isCapital_iff,
      isField_isDigit_iff, isField_isCapital_iff, isField_isDigit_iff]
    exact ⟨⟨⟨harea, hdistrict⟩, hseries⟩, hnumber⟩

end Registration

theorem Colour.name_inj {c d : Colour} : c.name = d.name ↔ c = d := by
  refine ⟨fun h => ?_, congrArg name⟩
  have hc := ofName?_name c
  rw [h, ofName?_name] at hc
  exact (Option.some.inj hc).symm

theorem Car.ofTexts_eq_ok_iff {registration colour : String} {car : Car} :
    ofTexts registration colour = .ok car ↔
      Registration.IsNumber registration ∧ car.registration = registration ∧
        car.colour.name = colour := by
  rw [← Registration.isValid_eq_true_iff]
  unfold ofTexts
  by_cases hvalid : Registration.isValid registration = true
  · rw [if_pos hvalid]
    obtain ⟨number, spelt⟩ := car
    cases hcolour : Colour.ofName? colour with
    | none =>
        have hne : spelt.name ≠ colour := by
          rintro rfl
          rw [Colour.ofName?_name] at hcolour
          contradiction
        simp [hne]
    | some c =>
        obtain rfl := Colour.ofName?_eq_some_iff.1 hcolour
        simp [hvalid, Colour.name_inj, eq_comm]
  · rw [if_neg hvalid]
    simp [hvalid]

/-! ## In one piece -/

private theorem Registration.IsRun.hyphen_le {low high c : Char} {least most : Nat} {cs : List Char}
    (h : IsRun low high least most cs) (hlow : '-' ≤ low) (hc : c ∈ cs) : '-' ≤ c :=
  Char.le_trans hlow (h.1 c hc).1

theorem Registration.IsNumber.isPlain {s : String} (h : IsNumber s) : IsPlain s := by
  obtain ⟨area, district, series, number, htext, harea, hdistrict, hseries, hnumber⟩ := h
  constructor
  · rintro rfl
    simp at htext
  · intro c hc
    rw [htext] at hc
    simp only [List.mem_append, List.mem_cons] at hc
    rcases hc with hc | rfl | hc | rfl | hc | rfl | hc
    · exact harea.hyphen_le (by decide) hc
    · decide
    · exact hdistrict.hyphen_le (by decide) hc
    · decide
    · exact hseries.hyphen_le (by decide) hc
    · decide
    · exact hnumber.hyphen_le (by decide) hc

theorem Colour.isPlain_name (c : Colour) : IsPlain c.name := by
  have hne : c.name ≠ "" := by cases c <;> decide
  have hall : (c.name.toList.all fun d => decide ('-' ≤ d)) = true := by cases c <;> decide
  refine ⟨hne, ?_⟩
  intro d hd
  exact of_decide_eq_true (List.all_eq_true.1 hall d hd)

end ParkingLot
