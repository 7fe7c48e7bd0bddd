import ParkingLot.Lot
/-!
# Storage

Where the lot is kept. Memory holds a lot. Storage in a file can be asked for but does nothing
yet: each of its operations fails, so it is never taken for an empty lot.
-/

namespace ParkingLot

open Text

inductive StorageKind where
  | memory
  | file
deriving DecidableEq, Repr

namespace StorageKind

def name : StorageKind → String
  | memory => "memory"
  | file => "file"

def ofName? (s : String) : Option StorageKind := [memory, file].find? (·.name == s)

def invalidMessage (s : String) : String :=
  s!"invalid {quote s} storage type: use \"memory\" or \"file\""

end StorageKind

inductive Storage where
  | memory (lot : Lot)
  | file
deriving DecidableEq, Repr

namespace Storage

/-- Fresh storage of a kind. In memory there is no slot until a lot is created. -/
def ofKind : StorageKind → Storage
  | .memory => memory .empty
  | .file => file

def lot : Storage → Except LotError Lot
  | memory lot => .ok lot
  | file => .error .unimplemented

def capacity (storage : Storage) : Except LotError Nat := storage.lot.map Lot.capacity

def create (storage : Storage) (capacity : Nat) : Except LotError Storage := do
  let _ ← storage.lot
  let lot ← Lot.ofCapacity capacity
  return memory lot

/-- Replaces the lot by an empty one, if the number of slots is not negative. That is checked
before the storage is asked. -/
def createOfInt (storage : Storage) (capacity : Int) : Except LotError Storage :=
  if capacity < 0 then .error (.invalidCapacity capacity) else storage.create capacity.toNat

def park (storage : Storage) (car : Car) : Except LotError (Nat × Storage) := do
  let lot ← storage.lot
  let (i, lot) ← lot.park car
  return (i, memory lot)

def leave (storage : Storage) (i : Nat) : Except LotError Storage := do
  let lot ← storage.lot
  let lot ← lot.leave i
  return memory lot

/-- The index of the slot with a number, worked out in 64-bit words. Numbers below one have none.
The least word is set apart, as taking one from it would run over. -/
def slotIndex? (slot : Int64) : Option Nat :=
  if slot = Int64.minValue ∨ slot - 1 < 0 then none else some (slot - 1).toNatClampNeg

/-- Nothing runs over: a number has an index just if it is at least one, and then it is one more. -/
theorem slotIndex?_eq (slot : Int64) :
    slotIndex? slot = if slot.toInt < 1 then none else some (slot.toInt - 1).toNat := by
  unfold slotIndex?
  by_cases hmin : slot = Int64.minValue
  · rw [hmin]
    decide
  · have hle : Int64.minValue.toInt ≤ slot.toInt := Int64.minValue_le_toInt slot
    have hne : Int64.minValue.toInt ≠ slot.toInt := fun h => hmin (Int64.toInt_inj.1 h).symm
    have hlt : slot.toInt < 2 ^ 63 := Int64.toInt_lt slot
    rw [Int64.toInt_minValue] at hle hne
    have hsub : (slot - 1).toInt = slot.toInt - 1 := by
      rw [Int64.toInt_sub, Int64.toInt_one, Int.bmod_eq_of_le] <;> omega
    have hneg : slot - 1 < 0 ↔ slot.toInt < 1 := by
      rw [Int64.lt_iff_toInt_lt, hsub, Int64.toInt_zero]
      omega
    simp only [hmin, hneg, false_or, Int64.toNatClampNeg, hsub]

/-- Frees the slot with a number. If there is no index for it, the storage is asked for its
capacity, to tell the range that the number misses. -/
def leaveSlot (storage : Storage) (slot : Int64) : Except LotError Storage :=
  match slotIndex? slot with
  | some i => storage.leave i
  | none => storage.capacity.bind fun capacity => .error (.outOfRange slot.toInt capacity)

def occupied (storage : Storage) : Except LotError (List (Nat × Car)) :=
  storage.lot.map Lot.occupied

def cars (storage : Storage) (p : Car → Bool) : Except LotError (List Car) :=
  storage.occupied.map fun taken => (taken.map Prod.snd).filter p

def indices (storage : Storage) (p : Car → Bool) : Except LotError (List Nat) :=
  storage.occupied.map fun taken => (taken.filter fun (_, car) => p car).map Prod.fst

end Storage

end ParkingLot
