/-!
# Colours

The colours that a car may have, known by one spelling each.
-/

namespace ParkingLot

inductive Colour where
  | white
  | yellow
  | red
  | blue
  | green
  | brown
  | black
deriving DecidableEq, Repr

namespace Colour

def name : Colour → String
  | white => "White"
  | yellow => "Yellow"
  | red => "Red"
  | blue => "Blue"
  | green => "Green"
  | brown => "Brown"
  | black => "Black"

def spellings : List (String × Colour) :=
  [("White", white), ("Yellow", yellow), ("Red", red), ("Blue", blue), ("Green", green),
   ("Brown", brown), ("Black", black)]

def ofName? (s : String) : Option Colour := (spellings.find? (·.1 == s)).map (·.2)

theorem mem_spellings_iff {s : String} {c : Colour} : (s, c) ∈ spellings ↔ s = c.name := by
  constructor
  · intro h
    simp only [spellings, List.mem_cons, Prod.mk.injEq, List.not_mem_nil, or_false] at h
    obtain ⟨rfl, rfl⟩ | ⟨rfl, rfl⟩ | ⟨rfl, rfl⟩ | ⟨rfl, rfl⟩ | ⟨rfl, rfl⟩ | ⟨rfl, rfl⟩ |
      ⟨rfl, rfl⟩ := h <;> rfl
  · rintro rfl
    cases c <;> decide

theorem ofName?_eq_some_iff {s : String} {c : Colour} : ofName? s = some c ↔ s = c.name := by
  constructor
  · intro h
    obtain ⟨⟨spelling, c'⟩, hfind, rfl⟩ := Option.map_eq_some_iff.1 h
    have hs := List.find?_some hfind
    rw [← eq_of_beq hs]
    exact mem_spellings_iff.1 (List.mem_of_find?_eq_some hfind)
  · rintro rfl
    cases c <;> decide

@[simp] theorem ofName?_name (c : Colour) : ofName? c.name = some c :=
  ofName?_eq_some_iff.2 rfl

end Colour

end ParkingLot
