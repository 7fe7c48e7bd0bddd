import ParkingLot.Proofs.Execution
import ParkingLot.Proofs.Lot.Slots
import ParkingLot.Proofs.Text.Table
/-!
# What a statement can do to a lot

`Lot.Step` lists all that can come of a statement: how it ends and which lot it leaves, with all
that must have been the case.  `Lot.step_of_run` says that the list is complete.  A run of
statements is a row of such steps (`Lot.Run`), so what every step keeps, every run keeps.
-/

namespace ParkingLot

namespace Lot

def indicesWith (lot : Lot) (p : Car → Bool) : List Nat :=
  (lot.occupied.filter fun (_, car) => p car).map Prod.fst

theorem mem_indicesWith_iff {lot : Lot} {p : Car → Bool} {i : Nat} :
    i ∈ lot.indicesWith p ↔ ∃ car, lot.carAt? i = some car ∧ p car = true := by
  unfold indicesWith
  rw [List.mem_map]
  constructor
  · rintro ⟨⟨j, car⟩, hmem, rfl⟩
    rw [List.mem_filter, mem_occupied_iff] at hmem
    exact ⟨car, hmem⟩
  · rintro ⟨car, hcar⟩
    refine ⟨(i, car), ?_, rfl⟩
    rwa [List.mem_filter, mem_occupied_iff]

theorem pairwise_indicesWith (lot : Lot) (p : Car → Bool) :
    (lot.indicesWith p).Pairwise (· < ·) :=
  List.pairwise_map.2 (lot.pairwise_occupied.filter _)

inductive Refusal (lot : Lot) : Statement → Failure → Prop
  | negative {n : Int64} : n.toInt < 0 →
      Refusal lot (.createParkingLot n) (.lot (.invalidCapacity n.toInt))
  | tooLarge {n : Int64} : (maxCapacity : Int) < n.toInt →
      Refusal lot (.createParkingLot n) (.lot (.capacityTooLarge n.toInt.toNat))
  | car {registration colour : String} {e : CarError} :
      Car.ofTexts registration colour = .error e →
      Refusal lot (.park registration colour) (.car e)
  | identity {registration colour : String} {car : Car} :
      Car.ofTexts registration colour = .ok car → lot.holds car.registration = true →
      Refusal lot (.park registration colour) (.lot .identity)
  | full {registration colour : String} {car : Car} :
      Car.ofTexts registration colour = .ok car → lot.holds car.registration = false →
      lot.lowestFree? = none → Refusal lot (.park registration colour) (.lot .full)
  | outOfRange {n : Int64} : n.toInt < 1 ∨ (lot.capacity : Int) < n.toInt →
      Refusal lot (.leave n) (.lot (.outOfRange n.toInt lot.capacity))

/-- A statement, how it ended and the lot after it. -/
inductive Step (lot : Lot) : Statement → Outcome → Lot → Prop
  | created {n : Int64} : 0 ≤ n.toInt → n.toInt ≤ maxCapacity →
      Step lot (.createParkingLot n)
        (.ok (.text s!"Created a parking lot with {n.toInt} slots")) (free n.toInt.toNat)
  | parked {registration colour : String} {car : Car} {i : Nat} :
      Car.ofTexts registration colour = .ok car → lot.holds car.registration = false →
      lot.lowestFree? = some i →
      Step lot (.park registration colour) (.ok (.text s!"Allocated slot number: {i + 1}"))
        (lot.put i (some car))
  | freed {n : Int64} {i : Nat} : n.toInt = i + 1 → i < lot.capacity →
      Step lot (.leave n) (.ok (.text s!"Slot number {n.toInt} is free")) (lot.put i none)
  | status :
      Step lot .status
        (.ok (.text ("\n".intercalate (Text.Table.lines (statusRows lot.occupied))))) lot
  | registrationNumbersWithColour {colour : String} :
      Step lot (.registrationNumbersWithColour colour)
        (.ok (.ofList (((lot.occupied.map Prod.snd).filter (Car.hasColour colour)).map
          Car.registration))) lot
  | slotNumbersWithColour {colour : String} :
      Step lot (.slotNumbersWithColour colour)
        (.ok (.ofList ((lot.indicesWith (Car.hasColour colour)).map fun i => toString (i + 1))))
        lot
  | slotNumberWithRegistration {registration : String} :
      Step lot (.slotNumberWithRegistration registration)
        (.ok (.ofList ((lot.indicesWith (Car.hasRegistration registration)).map fun i =>
          toString (i + 1)))) lot
  | refused {s : Statement} {e : Failure} : Refusal lot s e → Step lot s (.error e) lot

/-! ## Statements make steps -/

section Run

variable (lot : Lot)

theorem run_createParkingLot (n : Int64) : ∃ o after,
    (Storage.memory lot).run (.createParkingLot n) = (o, .memory after) ∧
      Step lot (.createParkingLot n) o after := by
  by_cases hneg : n.toInt < 0
  · have hcreate : (Storage.memory lot).createOfInt n.toInt =
        .error (.invalidCapacity n.toInt) := if_pos hneg
    refine ⟨_, lot, ?_, .refused (.negative hneg)⟩
    rw [Storage.run, Statement.perform, hcreate]
    rfl
  · by_cases hle : n.toInt.toNat ≤ maxCapacity
    · have hlot : ofCapacity n.toInt.toNat = .ok (free n.toInt.toNat) := if_pos hle
      have hcreate : (Storage.memory lot).createOfInt n.toInt =
          .ok (.memory (free n.toInt.toNat)) := by
        rw [Storage.createOfInt, if_neg hneg, Storage.create, hlot]
        rfl
      refine ⟨_, _, ?_, .created (by omega) (by omega)⟩
      rw [Storage.run, Statement.perform, hcreate]
      rfl
    · have hlot : ofCapacity n.toInt.toNat = .error (.capacityTooLarge n.toInt.toNat) :=
        if_neg hle
      have hcreate : (Storage.memory lot).createOfInt n.toInt =
          .error (.capacityTooLarge n.toInt.toNat) := by
        rw [Storage.createOfInt, if_neg hneg, Storage.create, hlot]
        rfl
      refine ⟨_, lot, ?_, .refused (.tooLarge (by omega))⟩
      rw [Storage.run, Statement.perform, hcreate]
      rfl

/-- A car is parked as the lot has it, and if it is turned away the lot is as it was. -/
theorem run_park_of_car {registration colour : String} {car : Car}
    (hcar : Car.ofTexts registration colour = .ok car) :
    (Storage.memory lot).run (.park registration colour) =
      match lot.park car with
      | .ok (i, after) => (.ok (.text s!"Allocated slot number: {i + 1}"), .memory after)
      | .error e => (.error (.lot e), .memory lot) := by
  cases hpark : lot.park car <;>
    simp only [Storage.run, Statement.perform, hcar, Storage.park, Storage.lot, hpark,
      Except.mapError, bind, Except.bind, pure, Except.pure]

theorem run_park (registration colour : String) : ∃ o after,
    (Storage.memory lot).run (.park registration colour) = (o, .memory after) ∧
      Step lot (.park registration colour) o after := by
  cases hcar : Car.ofTexts registration colour with
  | error e =>
      refine ⟨_, lot, ?_, .refused (.car hcar)⟩
      rw [Storage.run, Statement.perform, hcar]
      rfl
  | ok car =>
      rw [lot.run_park_of_car hcar, park_eq]
      cases hholds : lot.holds car.registration with
      | true => exact ⟨_, lot, rfl, .refused (.identity hcar hholds)⟩
      | false =>
          cases hfree : lot.lowestFree? with
          | none => exact ⟨_, lot, rfl, .refused (.full hcar hholds hfree)⟩
          | some i => exact ⟨_, _, rfl, .parked hcar hholds hfree⟩

theorem leave_memory_of_ok {i : Nat} {after : Lot} (h : lot.leave i = .ok after) :
    (Storage.memory lot).leave i = .ok (.memory after) := by
  simp only [Storage.leave, Storage.lot, h, bind, Except.bind, pure, Except.pure]

theorem leave_memory_of_error {i : Nat} {e : LotError} (h : lot.leave i = .error e) :
    (Storage.memory lot).leave i = .error e := by
  simp only [Storage.leave, Storage.lot, h, bind, Except.bind]

/-- A number that is out of range has no index, or it has one that the lot turns away with a
complaint about the very number. -/
theorem rejected_of_not_range {n : Int64} (h : ¬ (1 ≤ n.toInt ∧ n.toInt ≤ lot.capacity)) :
    (Storage.slotIndex? n = none ∧ n.toInt < 1) ∨
    ∃ i, Storage.slotIndex? n = some i ∧ n.toInt = i + 1 ∧ lot.capacity ≤ i ∧
      lot.leave i = .error (.outOfRange n.toInt lot.capacity) := by
  rw [Storage.slotIndex?_eq]
  by_cases hlow : n.toInt < 1
  · exact .inl ⟨if_pos hlow, hlow⟩
  · right
    have hbound : n.toInt < 2 ^ 63 := Int64.toInt_lt n
    have hcapacity : lot.capacity ≤ (n.toInt - 1).toNat := by omega
    have hnumber : min (((n.toInt - 1).toNat : Int) + 1) (2 ^ 63 - 1) = n.toInt := by omega
    refine ⟨(n.toInt - 1).toNat, if_neg hlow, by omega, hcapacity, ?_⟩
    rw [leave_eq_error hcapacity, hnumber]

theorem leaveSlot_memory (n : Int64) :
    (Storage.memory lot).leaveSlot n =
      if 1 ≤ n.toInt ∧ n.toInt ≤ lot.capacity then
        .ok (.memory (lot.put (n.toInt - 1).toNat none))
      else .error (.outOfRange n.toInt lot.capacity) := by
  unfold Storage.leaveSlot
  by_cases hrange : 1 ≤ n.toInt ∧ n.toInt ≤ lot.capacity
  · have hindex : Storage.slotIndex? n = some (n.toInt - 1).toNat := by
      rw [Storage.slotIndex?_eq, if_neg (by omega)]
    have hlt : (n.toInt - 1).toNat < lot.capacity := by omega
    rw [if_pos hrange, hindex]
    exact lot.leave_memory_of_ok (leave_eq_ok hlt)
  · rw [if_neg hrange]
    rcases lot.rejected_of_not_range hrange with ⟨hindex, -⟩ | ⟨i, hindex, -, -, hleave⟩
    · rw [hindex]
      rfl
    · rw [hindex]
      exact lot.leave_memory_of_error hleave

theorem run_leave_eq (n : Int64) :
    (Storage.memory lot).run (.leave n) =
      if 1 ≤ n.toInt ∧ n.toInt ≤ lot.capacity then
        (.ok (.text s!"Slot number {n.toInt} is free"),
          .memory (lot.put (n.toInt - 1).toNat none))
      else (.error (.lot (.outOfRange n.toInt lot.capacity)), .memory lot) := by
  rw [Storage.run, Statement.perform, leaveSlot_memory]
  by_cases hrange : 1 ≤ n.toInt ∧ n.toInt ≤ lot.capacity
  · rw [if_pos hrange, if_pos hrange]
    rfl
  · rw [if_neg hrange, if_neg hrange]
    rfl

theorem run_leave (n : Int64) : ∃ o after,
    (Storage.memory lot).run (.leave n) = (o, .memory after) ∧ Step lot (.leave n) o after := by
  rw [run_leave_eq]
  split
  · next hrange => exact ⟨_, _, rfl, .freed (by omega) (by omega)⟩
  · next hrange => exact ⟨_, lot, rfl, .refused (.outOfRange (by omega))⟩

theorem run_status :
    (Storage.memory lot).run .status =
      (.ok (.text ("\n".intercalate (Text.Table.lines (statusRows lot.occupied)))),
        .memory lot) := by
  have hrows : statusRows lot.occupied ≠ [] := List.cons_ne_nil _ _
  rw [← Text.Table.withoutLast_render hrows]
  rfl

/-- Every statement on a lot in memory makes a step. -/
theorem step_of_run (s : Statement) : ∃ o after,
    (Storage.memory lot).run s = (o, .memory after) ∧ Step lot s o after := by
  cases s with
  | createParkingLot n => exact lot.run_createParkingLot n
  | park registration colour => exact lot.run_park registration colour
  | leave n => exact lot.run_leave n
  | status => exact ⟨_, lot, lot.run_status, .status⟩
  | registrationNumbersWithColour colour => exact ⟨_, lot, rfl, .registrationNumbersWithColour⟩
  | slotNumbersWithColour colour => exact ⟨_, lot, rfl, .slotNumbersWithColour⟩
  | slotNumberWithRegistration registration => exact ⟨_, lot, rfl, .slotNumberWithRegistration⟩

end Run

/-! ## Runs -/

inductive Run : Lot → List (Statement × Outcome) → Lot → Prop
  | nil {lot : Lot} : Run lot [] lot
  | cons {lot mid last : Lot} {s : Statement} {o : Outcome}
      {events : List (Statement × Outcome)} :
      Step lot s o mid → Run mid events last → Run lot ((s, o) :: events) last

section Invariant

variable {I : Lot → Prop} {lot last : Lot} {events : List (Statement × Outcome)}
  (hstep : ∀ {lot s o after}, Step lot s o after → I lot → I after)

include hstep

theorem Run.preserves (h : Run lot events last) (hlot : I lot) : I last := by
  induction h with
  | nil => exact hlot
  | cons hfirst _ ih => exact ih (hstep hfirst hlot)

/-- What every step from a good lot brings about, every event of a run has brought about. -/
theorem Run.forall_mem {P : Statement → Outcome → Prop}
    (hevent : ∀ {lot s o after}, Step lot s o after → I lot → P s o) (h : Run lot events last)
    (hlot : I lot) : ∀ event ∈ events, P event.1 event.2 := by
  induction h with
  | nil => simp
  | cons hfirst _ ih =>
      rw [List.forall_mem_cons]
      exact ⟨hevent hfirst hlot, ih (hstep hfirst hlot)⟩

end Invariant

end Lot

def Storage.events (storage : Storage) (ss : List Statement) : List (Statement × Outcome) :=
  ss.zip (storage.runAll ss).1

theorem Storage.events_cons (storage : Storage) (s : Statement) (ss : List Statement) :
    storage.events (s :: ss) =
      (s, (storage.run s).1) :: (storage.run s).2.events ss := rfl

theorem Storage.map_fst_events (storage : Storage) (ss : List Statement) :
    (storage.events ss).map Prod.fst = ss := by
  induction ss generalizing storage with
  | nil => rfl
  | cons s ss ih => rw [events_cons, List.map_cons, ih]

theorem Storage.map_snd_events (storage : Storage) (ss : List Statement) :
    (storage.events ss).map Prod.snd = (storage.runAll ss).1 := by
  induction ss generalizing storage with
  | nil => rfl
  | cons s ss ih => rw [events_cons, List.map_cons, ih, runAll_cons]

theorem Lot.run_of_runAll (lot : Lot) (ss : List Statement) : ∃ last,
    ((Storage.memory lot).runAll ss).2 = .memory last ∧
      Run lot ((Storage.memory lot).events ss) last := by
  induction ss generalizing lot with
  | nil => exact ⟨lot, rfl, .nil⟩
  | cons s ss ih =>
      obtain ⟨o, mid, hrun, hstep⟩ := lot.step_of_run s
      obtain ⟨last, hlast, htail⟩ := ih mid
      rw [Storage.runAll_cons, Storage.events_cons, hrun]
      exact ⟨last, hlast, .cons hstep htail⟩

end ParkingLot
