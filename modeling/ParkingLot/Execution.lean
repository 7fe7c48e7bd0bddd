import ParkingLot.Console
import ParkingLot.Language.Statement
import ParkingLot.Storage
import ParkingLot.Text.Table
/-!
# Running statements

A statement is run on a storage and either replies or fails. A failure leaves the storage as it
was and does not stop the statements after it. No output is touched here: what a statement has to
say is its outcome, and whoever runs it writes that down.
-/

namespace ParkingLot

open Text

inductive Failure where
  | car (e : CarError)
  | lot (e : LotError)
deriving DecidableEq, Repr

def Failure.message : Failure → String
  | car e => e.message
  | lot e => e.message

inductive Reply where
  /-- A result, of one or more lines. -/
  | text (s : String)
  /-- A query matched nothing. This is no failure. -/
  | notFound
deriving DecidableEq, Repr

def Reply.ofList : List String → Reply
  | [] => .notFound
  | found => .text (", ".intercalate found)

def statusRows (taken : List (Nat × Car)) : List Row :=
  ["Slot No.", "Registration No", "Colour"] ::
    taken.map fun (i, car) => [toString (i + 1), car.registration, car.colour.name]

namespace Statement

def perform (storage : Storage) : Statement → Except Failure (Reply × Storage)
  | createParkingLot n => do
    let after ← (storage.createOfInt n.toInt).mapError .lot
    return (.text s!"Created a parking lot with {n.toInt} slots", after)
  | park registration colour => do
    let car ← (Car.ofTexts registration colour).mapError .car
    let (i, after) ← (storage.park car).mapError .lot
    return (.text s!"Allocated slot number: {i + 1}", after)
  | leave slot => do
    let after ← (storage.leaveSlot slot).mapError .lot
    return (.text s!"Slot number {slot.toInt} is free", after)
  | status => do
    let taken ← storage.occupied.mapError .lot
    return (.text (withoutLast (Table.render (statusRows taken))), storage)
  | registrationNumbersWithColour colour => do
    let cars ← (storage.cars (Car.hasColour colour)).mapError .lot
    return (.ofList (cars.map Car.registration), storage)
  | slotNumbersWithColour colour => do
    let indices ← (storage.indices (Car.hasColour colour)).mapError .lot
    return (.ofList (indices.map fun i => toString (i + 1)), storage)
  | slotNumberWithRegistration registration => do
    let indices ← (storage.indices (Car.hasRegistration registration)).mapError .lot
    return (.ofList (indices.map fun i => toString (i + 1)), storage)

end Statement

abbrev Outcome := Except Failure Reply

namespace Outcome

def isFailure : Outcome → Bool
  | .ok _ => false
  | .error _ => true

def channel : Outcome → Channel
  | .ok (.text _) => .result
  | .ok .notFound => .diagnostic
  | .error _ => .diagnostic

def line : Outcome → String
  | .ok (.text s) => s
  | .ok .notFound => "Not found"
  | .error e => e.message

end Outcome

/-- Runs a statement: how it ended and the storage after it. -/
def Storage.run (storage : Storage) (s : Statement) : Outcome × Storage :=
  match s.perform storage with
  | .ok (reply, after) => (.ok reply, after)
  | .error e => (.error e, storage)

/-- Runs statements in order: how each ended and the storage after the last. -/
def Storage.runAll (storage : Storage) : List Statement → List Outcome × Storage
  | [] => ([], storage)
  | s :: ss =>
    let (outcome, after) := storage.run s
    let (outcomes, last) := after.runAll ss
    (outcome :: outcomes, last)

structure Summary where
  executed : Nat
  failed : Nat
deriving DecidableEq, Repr

end ParkingLot
