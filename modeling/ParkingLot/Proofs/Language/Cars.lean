import ParkingLot.Proofs.Car
import ParkingLot.Proofs.Language.RoundTrip
import ParkingLot.Proofs.Language.Tokenization
/-!
# Cars in programs

Whether two texts describe a car, and which of them is to blame if they do not, is settled by the
form of a registration number and by seven spellings.  What describes a car can be written in a
program: both texts are words of the language, and neither is a keyword (`Car.ofTexts_decides`).
-/

namespace ParkingLot

open Text

def Colour.IsName (s : String) : Prop :=
  s ∈ ["White", "Yellow", "Red", "Blue", "Green", "Brown", "Black"]

theorem Colour.isName_iff {s : String} : IsName s ↔ ∃ c : Colour, s = c.name := by
  constructor
  · intro h
    simp only [IsName, List.mem_cons, List.not_mem_nil, or_false] at h
    rcases h with rfl | rfl | rfl | rfl | rfl | rfl | rfl
    · exact ⟨white, rfl⟩
    · exact ⟨yellow, rfl⟩
    · exact ⟨red, rfl⟩
    · exact ⟨blue, rfl⟩
    · exact ⟨green, rfl⟩
    · exact ⟨brown, rfl⟩
    · exact ⟨black, rfl⟩
  · rintro ⟨c, rfl⟩
    unfold IsName
    cases c <;> decide

/-! ## Words of the language -/

theorem Text.IsPlain.not_isSeparator {s : String} (h : IsPlain s) :
    ∀ c ∈ s.toList, isSeparator c = false := by
  intro c hc
  have hle := le_iff_toNat_le.1 (h.2 c hc)
  by_contra hsep
  simp only [isSeparator, Bool.not_eq_false, Bool.or_eq_true, beq_iff_eq] at hsep
  rcases hsep with ((rfl | rfl) | rfl) | rfl <;> exact absurd hle (by decide)

theorem Registration.IsNumber.isPlainWord {s : String} (h : IsNumber s) : IsPlainWord s := by
  refine ⟨?_, h.isPlain.not_isSeparator, ?_⟩
  · obtain ⟨area, district, series, number, htext, ⟨hrange, hleast, -⟩, -⟩ := h
    obtain ⟨c, cs, rfl⟩ := List.exists_cons_of_length_pos (Nat.lt_of_lt_of_le Nat.two_pos hleast)
    have hupper := isUpper_iff_toNat.1 (isUpper_iff.2 (hrange c List.mem_cons_self))
    rw [htext]
    exact startsWord_iff_toNat.2 (.inl (.inl hupper))
  · rintro k - rfl
    obtain ⟨area, district, series, number, htext, -⟩ := h
    have hyphen : '-' ∈ k.spelling.toList := by simp [htext]
    have hnone : '-' ∉ k.spelling.toList := by cases k <;> decide
    exact hnone hyphen

theorem Colour.isPlainWord_name (c : Colour) : IsPlainWord c.name := by cases c <;> decide

namespace Car

variable {r c : String}

/-! ## What two texts describe -/

theorem ofTexts_of_not_isNumber (hr : ¬ Registration.IsNumber r) (c : String) :
    ofTexts r c = .error (.invalidRegistration r) :=
  if_neg (Registration.isValid_eq_true_iff.not.2 hr)

theorem ofTexts_of_not_isName (hr : Registration.IsNumber r) (hc : ¬ Colour.IsName c) :
    ofTexts r c = .error (.invalidColour c) := by
  have hnone : Colour.ofName? c = none := by
    rw [Option.eq_none_iff_forall_ne_some]
    intro colour hcolour
    exact hc (Colour.isName_iff.2 ⟨colour, Colour.ofName?_eq_some_iff.1 hcolour⟩)
  rw [ofTexts, if_pos (Registration.isValid_eq_true_iff.2 hr), hnone]

theorem ofTexts_name (hr : Registration.IsNumber r) (colour : Colour) :
    ofTexts r colour.name = .ok ⟨r, colour⟩ := by
  rw [ofTexts, if_pos (Registration.isValid_eq_true_iff.2 hr), Colour.ofName?_name]

/-- A car can be parked by writing down what describes it. -/
theorem ofText_park (hr : Registration.IsNumber r) (colour : Colour) :
    Program.ofText ("park " ++ r ++ " " ++ colour.name) =
      .ok ⟨[⟨.park r colour.name, ⟨0, ("park " ++ r ++ " " ++ colour.name).utf8ByteSize⟩⟩]⟩ := by
  have hwritable : (Statement.park r colour.name).IsWritable :=
    ⟨hr.isPlainWord, colour.isPlainWord_name⟩
  have htext : (Statement.park r colour.name).text = "park " ++ r ++ " " ++ colour.name := by
    rw [← String.toList_inj]
    simp [Statement.text, Statement.keyword, Statement.operandTexts, Keyword.spelling]
  have hread := hwritable.ofText_text
  rw [htext, byteLength_toList] at hread
  exact hread

/-- Two texts describe a car exactly if the one is a registration number and the other the name of a
colour.  If not, the registration number is to blame first.  The car that they describe has them
for its text and answers to them and to no others, and they park it when they are written behind
the keyword. -/
theorem ofTexts_decides (r c : String) :
    ((∃ car, ofTexts r c = .ok car) ↔ Registration.IsNumber r ∧ Colour.IsName c) ∧
      (ofTexts r c = .error (.invalidRegistration r) ↔ ¬ Registration.IsNumber r) ∧
      (ofTexts r c = .error (.invalidColour c) ↔
        Registration.IsNumber r ∧ ¬ Colour.IsName c) ∧
      ∀ car, ofTexts r c = .ok car →
        car.text = r ++ " " ++ c ∧
        (∀ q, car.hasRegistration q = true ↔ q = r) ∧ (∀ q, car.hasColour q = true ↔ q = c) ∧
        Program.ofText ("park " ++ r ++ " " ++ c) =
          .ok ⟨[⟨.park r c, ⟨0, ("park " ++ r ++ " " ++ c).utf8ByteSize⟩⟩]⟩ := by
  by_cases hr : Registration.IsNumber r
  · by_cases hc : Colour.IsName c
    · obtain ⟨colour, rfl⟩ := Colour.isName_iff.1 hc
      rw [ofTexts_name hr]
      refine ⟨iff_of_true ⟨_, rfl⟩ ⟨hr, hc⟩, iff_of_false nofun (not_not_intro hr),
        iff_of_false nofun fun h => h.2 hc, ?_⟩
      intro car hcar
      cases hcar
      refine ⟨rfl, fun q => ?_, fun q => ?_, ofText_park hr colour⟩
      · rw [hasRegistration, beq_iff_eq, eq_comm]
      · rw [hasColour, beq_iff_eq, eq_comm]
    · rw [ofTexts_of_not_isName hr hc]
      exact ⟨iff_of_false nofun fun h => hc h.2, iff_of_false nofun (not_not_intro hr),
        iff_of_true rfl ⟨hr, hc⟩, nofun⟩
  · rw [ofTexts_of_not_isNumber hr]
    exact ⟨iff_of_false nofun fun h => hr h.1, iff_of_true rfl hr,
      iff_of_false nofun fun h => hr h.1, nofun⟩

end Car

end ParkingLot
