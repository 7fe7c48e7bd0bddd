import ParkingLot.Car.Basic
import ParkingLot.Text.Numeral
/-!
# The parking lot

A lot is a row of slots, each empty or taken by one car. Slots are numbered from one in everything
that people see, and indexed from zero here.

Operations give the new lot or say what stands in the way. One that fails gives no lot, so the
caller still holds the old one.
-/

namespace ParkingLot

open Text

inductive LotError where
  /-- No slot is free. -/
  | full
  /-- A car with the same registration number is parked already. -/
  | identity
  /-- There is no slot with this number. -/
  | outOfRange (slot : Int) (capacity : Nat)
  | invalidCapacity (capacity : Int)
  | capacityTooLarge (capacity : Nat)
  /-- The lot is to be kept where none can be kept yet. -/
  | unimplemented
deriving DecidableEq, Repr

structure Lot where
  slots : Array (Option Car)
deriving DecidableEq, Repr

namespace Lot

def maxCapacity : Nat := 1048576

def empty : Lot := ⟨#[]⟩

def capacity (lot : Lot) : Nat := lot.slots.size

def ofCapacity (capacity : Nat) : Except LotError Lot :=
  if capacity ≤ maxCapacity then .ok ⟨Array.replicate capacity none⟩
  else .error (.capacityTooLarge capacity)

/-- Goes through the slots once, the first of them at index `i`, and gives the index of the first
free one. `free?` is the one that came up before them. The search for a free slot does not end it: a
car with the registration number may still come. -/
def survey (registration : String) (free? : Option Nat) (i : Nat) :
    List (Option Car) → Except LotError (Option Nat)
  | [] => .ok free?
  | some car :: slots =>
    if car.hasRegistration registration then .error .identity
    else survey registration free? (i + 1) slots
  | none :: slots => survey registration (free?.or (some i)) (i + 1) slots

/-- Parks a car in the first free slot and gives its index. A second car with the same
registration number is turned away even if the lot is full. -/
def park (lot : Lot) (car : Car) : Except LotError (Nat × Lot) := do
  match ← survey car.registration none 0 lot.slots.toList with
  | some i => return (i, ⟨lot.slots.setIfInBounds i (some car)⟩)
  | none => throw .full

/-- The number of the slot at an index, as a 64-bit word. The greatest word stands for all numbers
that are greater still. -/
def slotNumber (i : Nat) : Int64 :=
  match toInt64? i with
  | some w => if w = Int64.maxValue then w else w + 1
  | none => Int64.maxValue

/-- Nothing runs over: the number is one more than the index, as far as words go. -/
theorem toInt_slotNumber (i : Nat) :
    (slotNumber i).toInt = min ((i : Int) + 1) Int64.maxValue.toInt := by
  have hmin : Int64.minValue.toInt = -2 ^ 63 := Int64.toInt_minValue
  have hmax : Int64.maxValue.toInt = 2 ^ 63 - 1 := Int64.toInt_maxValue
  unfold slotNumber
  split
  · next w hw =>
    rw [toInt64?_eq_some_iff] at hw
    split
    · next heq =>
      rw [heq] at hw ⊢
      omega
    · next hne =>
      have hle : w.toInt ≤ Int64.maxValue.toInt := Int64.toInt_le w
      have hne' : w.toInt ≠ Int64.maxValue.toInt := fun h => hne (Int64.toInt_inj.1 h)
      rw [Int64.toInt_add, Int64.toInt_one, Int.bmod_eq_of_le] <;> omega
  · next hnone =>
    have hlarge : ¬ (Int64.minValue.toInt ≤ (i : Int) ∧ (i : Int) ≤ Int64.maxValue.toInt) := by
      intro hfits
      rw [toInt64?, if_pos hfits] at hnone
      contradiction
    omega

def leave (lot : Lot) (i : Nat) : Except LotError Lot :=
  if i < lot.capacity then .ok ⟨lot.slots.setIfInBounds i none⟩
  else .error (.outOfRange (slotNumber i).toInt lot.capacity)

def occupied (lot : Lot) : List (Nat × Car) :=
  lot.slots.toList.zipIdx.filterMap fun (slot, i) => slot.map (i, ·)

end Lot

def LotError.message : LotError → String
  | full => "Sorry, parking lot is full"
  | identity => "Identity thieves are not welcome, calling police"
  | outOfRange slot capacity => s!"slot number {slot} out of range [1, {capacity}]"
  | invalidCapacity capacity => s!"invalid capacity {capacity}"
  | capacityTooLarge capacity =>
    s!"capacity {capacity} exceeds this interpreter's limit of {Lot.maxCapacity} slots"
  | unimplemented => "file storage is not implemented"

end ParkingLot
