import ParkingLot.Storage
/-!
# Operations in place

The operations that change a lot, as they are carried out on the one lot that there is: each of them
leaves a lot behind, also when it fails. They check first and assign last, so what they come to is
what the operations that give a new lot come to (`Lot.save_apply` and its like).
-/

namespace ParkingLot

/-- A computation on a state. The state that it leaves behind is there also if it fails. -/
abbrev InPlace (σ ε α : Type) := ExceptT ε (StateM σ) α

/-- An operation that gives a new state only if it succeeds, carried out on a state. -/
def carryOut {σ ε α : Type} (before : σ) : Except ε (α × σ) → Except ε α × σ
  | .ok (a, after) => (.ok a, after)
  | .error e => (.error e, before)

theorem InPlace.get_bind {σ ε α : Type} (f : σ → InPlace σ ε α) (s : σ) :
    (get >>= f : InPlace σ ε α) s = f s s := rfl

theorem InPlace.adapt_bind {σ ε δ α β : Type} {x : InPlace σ ε α} {s : σ} {y : Except ε (α × σ)}
    (h : x s = carryOut s y) (f : ε → δ) (g : α → InPlace σ δ β) :
    (ExceptT.adapt f x >>= g : InPlace σ δ β) s =
      ExceptT.bindCont g ((carryOut s y).1.mapError f) (carryOut s y).2 := by
  rw [← h]
  rfl

namespace Lot

def init (capacity : Nat) : InPlace Lot LotError Unit := do
  if maxCapacity < capacity then throw (.capacityTooLarge capacity)
  set (Lot.mk (Array.replicate capacity none))

def save (car : Car) : InPlace Lot LotError Nat := do
  let lot ← get
  match ← MonadExcept.ofExcept (survey car.registration none 0 lot.slots.toList) with
  | some i =>
    set (Lot.mk (lot.slots.setIfInBounds i (some car)))
    return i
  | none => throw .full

def remove (i : Nat) : InPlace Lot LotError Unit := do
  let lot ← get
  if lot.capacity ≤ i then throw (.outOfRange (slotNumber i).toInt lot.capacity)
  set (Lot.mk (lot.slots.setIfInBounds i none))

theorem init_apply (capacity : Nat) (lot : Lot) :
    init capacity lot = carryOut lot ((ofCapacity capacity).map ((), ·)) := by
  rw [init, ofCapacity]
  by_cases hle : capacity ≤ maxCapacity
  · rw [if_neg (Nat.not_lt.2 hle), if_pos hle]
    rfl
  · rw [if_pos (Nat.lt_of_not_le hle), if_neg hle]
    rfl

theorem save_apply (car : Car) (lot : Lot) : save car lot = carryOut lot (lot.park car) := by
  rw [save, InPlace.get_bind, park]
  obtain e | (_ | i) := survey car.registration none 0 lot.slots.toList <;> rfl

theorem remove_apply (i : Nat) (lot : Lot) :
    remove i lot = carryOut lot ((lot.leave i).map ((), ·)) := by
  rw [remove, InPlace.get_bind, leave]
  by_cases hlt : i < lot.capacity
  · rw [if_neg (Nat.not_le.2 hlt), if_pos hlt]
    rfl
  · rw [if_pos (Nat.not_lt.1 hlt), if_neg hlt]
    rfl

end Lot

namespace Storage

/-- Does something to the lot in memory. Storage in a file has none. -/
def onLot {α : Type} (f : InPlace Lot LotError α) : InPlace Storage LotError α
  | memory lot => ((f lot).1, memory (f lot).2)
  | file => (.error .unimplemented, file)

def init (capacity : Nat) : InPlace Storage LotError Unit := onLot (Lot.init capacity)

def save (car : Car) : InPlace Storage LotError Nat := onLot (Lot.save car)

def remove (i : Nat) : InPlace Storage LotError Unit := onLot (Lot.remove i)

/-- The index of the slot with a number. If there is none, the storage is asked for its capacity,
to tell the range that the number misses. -/
def indexOf (storage : Storage) (slot : Int64) : Except LotError Nat :=
  match slotIndex? slot with
  | some i => .ok i
  | none => storage.capacity.bind fun capacity => .error (.outOfRange slot.toInt capacity)

theorem init_apply (capacity : Nat) (storage : Storage) :
    init capacity storage = carryOut storage ((storage.create capacity).map ((), ·)) := by
  cases storage with
  | file => rfl
  | memory lot =>
      have hcreate : (memory lot).create capacity =
          (Lot.ofCapacity capacity).bind fun after => .ok (memory after) := rfl
      rw [init, onLot, Lot.init_apply, hcreate]
      cases Lot.ofCapacity capacity <;> rfl

theorem save_apply (car : Car) (storage : Storage) :
    save car storage = carryOut storage (storage.park car) := by
  cases storage with
  | file => rfl
  | memory lot =>
      have hpark : (memory lot).park car =
          (lot.park car).bind fun parked => .ok (parked.1, memory parked.2) := rfl
      rw [save, onLot, Lot.save_apply, hpark]
      obtain e | ⟨i, after⟩ := lot.park car <;> rfl

theorem remove_apply (i : Nat) (storage : Storage) :
    remove i storage = carryOut storage ((storage.leave i).map ((), ·)) := by
  cases storage with
  | file => rfl
  | memory lot =>
      have hleave : (memory lot).leave i = (lot.leave i).bind fun after => .ok (memory after) := rfl
      rw [remove, onLot, Lot.remove_apply, hleave]
      cases lot.leave i <;> rfl

end Storage

end ParkingLot
