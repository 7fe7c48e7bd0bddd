/-!
# Keywords

The seven words that start a statement, with the operands that each of them takes.
-/

namespace ParkingLot

inductive Keyword where
  | createParkingLot
  | park
  | leave
  | status
  | registrationNumbersWithColour
  | slotNumbersWithColour
  | slotNumberWithRegistration
deriving DecidableEq, Repr

inductive OperandClass where
  | int
  | word
deriving DecidableEq, Repr

namespace Keyword

def all : List Keyword :=
  [createParkingLot, park, leave, status, registrationNumbersWithColour, slotNumbersWithColour,
   slotNumberWithRegistration]

def spelling : Keyword → String
  | createParkingLot => "create_parking_lot"
  | park => "park"
  | leave => "leave"
  | status => "status"
  | registrationNumbersWithColour => "registration_numbers_for_cars_with_colour"
  | slotNumbersWithColour => "slot_numbers_for_cars_with_colour"
  | slotNumberWithRegistration => "slot_number_for_registration_number"

def operands : Keyword → List OperandClass
  | createParkingLot => [.int]
  | park => [.word, .word]
  | leave => [.int]
  | status => []
  | registrationNumbersWithColour => [.word]
  | slotNumbersWithColour => [.word]
  | slotNumberWithRegistration => [.word]

def ofSpelling? (s : String) : Option Keyword := all.find? (·.spelling == s)

theorem mem_all (k : Keyword) : k ∈ all := by cases k <;> decide

theorem ofSpelling?_eq_some_iff {s : String} {k : Keyword} :
    ofSpelling? s = some k ↔ s = k.spelling := by
  constructor
  · intro h
    rw [ofSpelling?] at h
    have hk := List.find?_some h
    exact (eq_of_beq hk).symm
  · rintro rfl
    cases k <;> decide

@[simp] theorem ofSpelling?_spelling (k : Keyword) : ofSpelling? k.spelling = some k :=
  ofSpelling?_eq_some_iff.2 rfl

end Keyword

end ParkingLot
