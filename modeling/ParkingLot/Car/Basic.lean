import ParkingLot.Car.Colour
import ParkingLot.Car.Registration
import ParkingLot.Text.Quoted
/-!
# Cars

A car is known by its registration number and has a colour. Cars are made by `Car.ofTexts`, which
lets only valid registration numbers and known colours through.
-/

namespace ParkingLot

open Text

structure Car where
  registration : String
  colour : Colour
deriving DecidableEq, Repr

inductive CarError where
  | invalidRegistration (text : String)
  | invalidColour (text : String)
deriving DecidableEq, Repr

def CarError.message : CarError → String
  | invalidRegistration text => s!"car registration number {quote text} is invalid"
  | invalidColour text => s!"car colour {quote text} is invalid"

namespace Car

/-- The car with this registration number and colour. If both are wrong, the number is to blame. -/
def ofTexts (registration colour : String) : Except CarError Car :=
  if Registration.isValid registration then
    match Colour.ofName? colour with
    | some c => .ok ⟨registration, c⟩
    | none => .error (.invalidColour colour)
  else
    .error (.invalidRegistration registration)

def text (car : Car) : String := s!"{car.registration} {car.colour.name}"

def hasColour (colour : String) (car : Car) : Bool := car.colour.name == colour

def hasRegistration (registration : String) (car : Car) : Bool :=
  car.registration == registration

end Car

end ParkingLot
