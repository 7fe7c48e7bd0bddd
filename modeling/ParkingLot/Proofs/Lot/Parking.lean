import Mathlib.Data.List.Nodup
import ParkingLot.Proofs.Car
import ParkingLot.Proofs.Lot.Step
/-!
# Who gets which slot

A car is turned away if its registration number is in the lot, wherever that is, and otherwise it
gets the lowest free slot (`park_decides`).  So new cars that come one after the other get the free
slots in ascending order, until there is none left (`parkings_fill_free`): parking in the first of
the free slots leaves the others as they are (`freeIndices_put`).
-/

namespace ParkingLot

def Car.parking (car : Car) : Statement := .park car.registration car.colour.name

namespace Lot

variable {lot after : Lot} {car : Car} {i : Nat} {rest : List Nat}

/-! ## One car -/

def IsFree (lot : Lot) (i : Nat) : Prop := lot.slots[i]? = some none

theorem isFree_iff : lot.IsFree i ↔ i < lot.capacity ∧ lot.carAt? i = none := by
  unfold IsFree carAt? capacity
  by_cases hi : i < lot.slots.size
  · rw [Array.getElem?_eq_getElem hi, Option.join_some, Option.some.injEq]
    exact (and_iff_right hi).symm
  · rw [Array.getElem?_eq_none (Nat.le_of_not_lt hi)]
    simp [hi]

theorem lowestFree?_eq_some_iff_isFree :
    lot.lowestFree? = some i ↔ lot.IsFree i ∧ ∀ j < i, ¬ lot.IsFree j := by
  rw [lowestFree?_eq_some_iff, isFree_iff, and_assoc]
  apply and_congr_right
  intro hi
  apply and_congr_right
  intro _
  apply forall₂_congr
  intro j hj
  have hlt : j < lot.capacity := Nat.lt_trans hj hi
  rw [isFree_iff, and_iff_right hlt, ← Ne, Option.ne_none_iff_exists']

theorem lowestFree?_eq_none_iff : lot.lowestFree? = none ↔ ∀ j, ¬ lot.IsFree j := by
  unfold lowestFree? IsFree
  rw [Array.findIdx?_eq_none_iff]
  constructor
  · intro h j hj
    have htaken := h none (Array.mem_of_getElem? hj)
    contradiction
  · intro h slot hslot
    obtain ⟨j, hj⟩ := Array.getElem?_of_mem hslot
    cases slot with
    | none => exact absurd hj (h j)
    | some parked => rfl

theorem park_eq_identity_iff :
    lot.park car = .error .identity ↔ lot.holds car.registration = true := by
  rw [park_eq]
  cases lot.holds car.registration with
  | true => simp
  | false => cases lot.lowestFree? <;> simp

theorem park_eq_full_iff :
    lot.park car = .error .full ↔
      lot.holds car.registration = false ∧ lot.lowestFree? = none := by
  rw [park_eq]
  cases lot.holds car.registration with
  | true => simp
  | false => cases lot.lowestFree? <;> simp

theorem park_eq_ok_iff :
    lot.park car = .ok (i, after) ↔
      lot.holds car.registration = false ∧ lot.lowestFree? = some i ∧
        after = lot.put i (some car) := by
  rw [park_eq]
  cases lot.holds car.registration with
  | true => simp
  | false =>
      cases lot.lowestFree? with
      | none => simp
      | some k =>
          simp only [Bool.false_eq_true, if_false, Except.ok.injEq, Prod.mk.injEq, true_and,
            Option.some.injEq]
          constructor
          · rintro ⟨rfl, rfl⟩
            exact ⟨rfl, rfl⟩
          · rintro ⟨rfl, rfl⟩
            exact ⟨rfl, rfl⟩

/-- A car is turned away as known exactly if its registration number is in some slot, and otherwise
as one too many exactly if no slot is free.  If it is parked it has got the lowest free slot, and no
other slot has changed.  With a car that is turned away the lot stays what it was. -/
theorem park_decides (lot : Lot) (car : Car) :
    let twin := ∃ (j : Nat) (parked : Car), lot.slots[j]? = some (some parked) ∧
      parked.registration = car.registration
    (lot.park car = .error .identity ↔ twin) ∧
    (lot.park car = .error .full ↔ ¬ twin ∧ ∀ j, ¬ lot.IsFree j) ∧
    ((∃ i after, lot.park car = .ok (i, after)) ↔ ¬ twin ∧ ∃ j, lot.IsFree j) ∧
    (∀ i after, lot.park car = .ok (i, after) ↔
      ¬ twin ∧ (lot.IsFree i ∧ ∀ j < i, ¬ lot.IsFree j) ∧
        after.slots[i]? = some (some car) ∧ ∀ j ≠ i, after.slots[j]? = lot.slots[j]?) ∧
    ∀ registration colour, Car.ofTexts registration colour = .ok car →
      (Storage.memory lot).run (.park registration colour) =
        match lot.park car with
        | .ok (i, after) => (.ok (.text s!"Allocated slot number: {i + 1}"), .memory after)
        | .error e => (.error (.lot e), .memory lot) := by
  intro twin
  have htwin : lot.holds car.registration = true ↔ twin := by
    simp only [holds_eq_true_iff, carAt?_eq_some_iff, twin]
  have hnew : lot.holds car.registration = false ↔ ¬ twin := by
    rw [← htwin, Bool.not_eq_true]
  refine ⟨?_, ?_, ?_, ?_, fun _ _ => lot.run_park_of_car⟩
  · rw [park_eq_identity_iff, htwin]
  · rw [park_eq_full_iff, hnew, lowestFree?_eq_none_iff]
  · simp only [park_eq_ok_iff, hnew, exists_and_left, exists_eq, and_true]
    apply and_congr_right
    intro _
    rw [← Option.ne_none_iff_exists', Ne, lowestFree?_eq_none_iff]
    simp
  · intro i after
    rw [park_eq_ok_iff, hnew, lowestFree?_eq_some_iff_isFree]
    apply and_congr_right
    intro _
    apply and_congr_right
    intro hlowest
    exact eq_put_iff (isFree_iff.1 hlowest.1).1

example : park ⟨#[none, some ⟨"KA-01-HH-1234", .white⟩]⟩ ⟨"KA-01-HH-1234", .red⟩ =
    .error .identity := by decide

/-! ## The free slots -/

def freeIndices (lot : Lot) : List Nat :=
  (List.range lot.capacity).filter fun i => (lot.carAt? i).isNone

theorem mem_freeIndices_iff : i ∈ lot.freeIndices ↔ lot.IsFree i := by
  rw [freeIndices, List.mem_filter, List.mem_range, Option.isNone_iff_eq_none, isFree_iff]

theorem pairwise_freeIndices (lot : Lot) : lot.freeIndices.Pairwise (· < ·) :=
  List.pairwise_lt_range.filter _

theorem isFree_of_freeIndices_eq_cons (h : lot.freeIndices = i :: rest) : lot.IsFree i := by
  rw [← mem_freeIndices_iff, h]
  exact List.mem_cons_self

private theorem lt_of_freeIndices_eq_cons (h : lot.freeIndices = i :: rest) : ∀ j ∈ rest, i < j := by
  have hascending := lot.pairwise_freeIndices
  rw [h, List.pairwise_cons] at hascending
  exact hascending.1

theorem lowestFree?_eq_head? (lot : Lot) : lot.lowestFree? = lot.freeIndices.head? := by
  cases hfree : lot.freeIndices with
  | nil =>
      rw [List.head?_nil, lowestFree?_eq_none_iff]
      intro j hj
      rw [← mem_freeIndices_iff, hfree] at hj
      contradiction
  | cons i rest =>
      rw [List.head?_cons, lowestFree?_eq_some_iff_isFree]
      refine ⟨isFree_of_freeIndices_eq_cons hfree, ?_⟩
      intro j hj hjfree
      rw [← mem_freeIndices_iff, hfree, List.mem_cons] at hjfree
      rcases hjfree with rfl | hjrest
      · omega
      · have hlt := lt_of_freeIndices_eq_cons hfree j hjrest
        omega

/-- The first free slot is taken, and the other ones stay free. -/
theorem freeIndices_put (h : lot.freeIndices = i :: rest) :
    (lot.put i (some car)).freeIndices = rest := by
  have hi := isFree_of_freeIndices_eq_cons h
  have hkept : ∀ j, ((lot.put i (some car)).carAt? j).isNone =
      (decide (i ≠ j) && (lot.carAt? j).isNone) := by
    intro j
    rw [carAt?_put (isFree_iff.1 hi).1]
    by_cases hij : i = j <;> simp [hij]
  calc (lot.put i (some car)).freeIndices
      = lot.freeIndices.filter (i ≠ ·) := by
        simp only [freeIndices, capacity_put, hkept, List.filter_filter]
    _ = rest.filter (i ≠ ·) := by
        rw [h, List.filter_cons_of_neg (by simp)]
    _ = rest := by
        apply List.filter_eq_self.2
        intro j hj
        exact decide_eq_true (Nat.ne_of_lt (lt_of_freeIndices_eq_cons h j hj))

theorem carAt?_put_eq_some_iff (hi : lot.IsFree i) {j : Nat} {other : Car} :
    (lot.put i (some car)).carAt? j = some other ↔
      (j, other) = (i, car) ∨ lot.carAt? j = some other := by
  obtain ⟨hlt, hnone⟩ := isFree_iff.1 hi
  rw [carAt?_put hlt, Prod.mk.injEq]
  by_cases hij : i = j
  · rw [if_pos hij, ← hij, hnone]
    simp [eq_comm]
  · rw [if_neg hij]
    simp [Ne.symm hij]

private theorem holds_put_eq_false {registration : String} (hi : lot.IsFree i)
    (hold : lot.holds registration = false) (hne : car.registration ≠ registration) :
    (lot.put i (some car)).holds registration = false := by
  rw [← Bool.not_eq_true, holds_eq_true_iff] at hold ⊢
  rintro ⟨j, parked, hparked, hsame⟩
  rw [carAt?_put_eq_some_iff hi, Prod.mk.injEq] at hparked
  rcases hparked with ⟨-, rfl⟩ | hparked
  · exact hne hsame
  · exact hold ⟨j, parked, hparked, hsame⟩

/-! ## Many cars -/

private theorem exists_mem_zip_iff {α β : Type} {a : α} {as : List α} {bs : List β} :
    (∃ b, (a, b) ∈ as.zip bs) ↔ a ∈ as.take bs.length := by
  induction as generalizing bs with
  | nil => simp
  | cons head as ih =>
      cases bs with
      | nil => simp
      | cons b bs =>
          rw [List.length_cons, List.take_succ_cons, List.mem_cons, ← ih, List.zip_cons_cons]
          simp only [List.mem_cons, Prod.mk.injEq, exists_or, exists_and_left, exists_eq, and_true]

def allocated (i : Nat) : Outcome := .ok (.text s!"Allocated slot number: {i + 1}")

/-- How it ends for cars that find these slots free: the last ones get none. -/
def parkingOutcomes (free : List Nat) (count : Nat) : List Outcome :=
  (free.take count).map allocated ++
    List.replicate (count - free.length) (.error (.lot .full))

@[simp] private theorem length_parkingOutcomes (free : List Nat) (count : Nat) :
    (parkingOutcomes free count).length = count := by
  rw [parkingOutcomes, List.length_append, List.length_map, List.length_take,
    List.length_replicate]
  omega

private theorem countP_isFailure_parkingOutcomes (free : List Nat) (count : Nat) :
    (parkingOutcomes free count).countP Outcome.isFailure = count - free.length := by
  have hallocated : (free.take count).countP (Outcome.isFailure ∘ allocated) = 0 :=
    List.countP_eq_zero.2 (by simp [allocated, Outcome.isFailure])
  rw [parkingOutcomes, List.countP_append, List.countP_map, hallocated, Nat.zero_add,
    List.countP_replicate]
  rfl

private theorem map_record_parkingOutcomes (free : List Nat) (count : Nat) :
    (parkingOutcomes free count).map (fun o => (o.channel, o.record)) =
      (free.take count).map (fun i => (.result, s!"Allocated slot number: {i + 1}\n")) ++
        List.replicate (count - free.length) (.diagnostic, "Sorry, parking lot is full\n") := by
  have hfull : Outcome.record (.error (.lot .full)) = "Sorry, parking lot is full\n" := by decide
  rw [parkingOutcomes, List.map_append, List.map_map, List.map_replicate, hfull]
  rfl

theorem isSome_carAt?_iff {cars : List Car}
    (hslots : ∀ i car, after.carAt? i = some car ↔
      lot.carAt? i = some car ∨ (i, car) ∈ lot.freeIndices.zip cars) :
    (after.carAt? i).isSome = true ↔
      (lot.carAt? i).isSome = true ∨ i ∈ lot.freeIndices.take cars.length := by
  simp only [Option.isSome_iff_exists, hslots, exists_or, exists_mem_zip_iff]

theorem run_parking (hvalid : Registration.isValid car.registration = true)
    (hnew : lot.holds car.registration = false) :
    (Storage.memory lot).run car.parking =
      match lot.freeIndices with
      | [] => (.error (.lot .full), .memory lot)
      | i :: _ => (allocated i, .memory (lot.put i (some car))) := by
  have hcar : Car.ofTexts car.registration car.colour.name = .ok car := by
    rw [Car.ofTexts_eq_ok_iff, ← Registration.isValid_eq_true_iff]
    exact ⟨hvalid, rfl, rfl⟩
  rw [Car.parking, lot.run_park_of_car hcar, park_eq, hnew, lowestFree?_eq_head?]
  cases lot.freeIndices <;> rfl

section Parkings

variable {cars : List Car} (hvalid : ∀ car ∈ cars, Registration.isValid car.registration = true)
  (hdistinct : (cars.map Car.registration).Nodup)
  (hnew : ∀ car ∈ cars, lot.holds car.registration = false)

include hvalid hdistinct hnew

theorem runAll_parkings : ∃ after,
    (Storage.memory lot).runAll (cars.map Car.parking) =
      (parkingOutcomes lot.freeIndices cars.length, .memory after) ∧
    after.capacity = lot.capacity ∧
    ∀ i car, after.carAt? i = some car ↔
      lot.carAt? i = some car ∨ (i, car) ∈ lot.freeIndices.zip cars := by
  -- Each car takes the first of the free slots, and the rest of them is what the others find.
  induction cars generalizing lot with
  | nil => exact ⟨lot, by simp [Storage.runAll, parkingOutcomes], rfl, by simp⟩
  | cons car cars ih =>
      rw [List.forall_mem_cons] at hvalid hnew
      rw [List.map_cons, List.nodup_cons] at hdistinct
      have hrun := run_parking hvalid.1 hnew.1
      cases hfree : lot.freeIndices with
      | nil =>
          obtain ⟨after, hafter, hcapacity, hslots⟩ := ih hvalid.2 hdistinct.2 hnew.2
          rw [hfree] at hrun hafter hslots
          refine ⟨after, ?_, hcapacity, hslots⟩
          rw [List.map_cons, Storage.runAll_cons, hrun, hafter]
          simp [parkingOutcomes, List.replicate_succ]
      | cons i rest =>
          have hi := isFree_of_freeIndices_eq_cons hfree
          have hputNew : ∀ other ∈ cars,
              (lot.put i (some car)).holds other.registration = false := by
            intro other hother
            apply holds_put_eq_false hi (hnew.2 other hother)
            intro hsame
            rw [hsame] at hdistinct
            exact hdistinct.1 (List.mem_map_of_mem hother)
          obtain ⟨after, hafter, hcapacity, hslots⟩ := ih hvalid.2 hdistinct.2 hputNew
          rw [hfree] at hrun
          rw [freeIndices_put hfree] at hafter hslots
          refine ⟨after, ?_, ?_, ?_⟩
          · rw [List.map_cons, Storage.runAll_cons, hrun, hafter]
            simp [parkingOutcomes]
          · rw [hcapacity, capacity_put]
          · intro j other
            rw [hslots, List.zip_cons_cons, List.mem_cons, carAt?_put_eq_some_iff hi, or_assoc,
              or_left_comm]

end Parkings

/-- Whatever was run before on fresh storage in memory: of new cars that are parked one after the
other, as many as there are free slots get these in ascending order, each reported in its turn, and
the others find the lot full.  Each car that was there stays in its slot, and which slots are taken
in the end does not depend on the order of the cars. -/
theorem parkings_fill_free (earlier : List Statement) {lot : Lot} {cars : List Car}
    (hlot : ((Storage.ofKind .memory).runAll earlier).2 = .memory lot)
    (hvalid : ∀ car ∈ cars, Registration.isValid car.registration = true)
    (hdistinct : (cars.map Car.registration).Nodup)
    (hnew : ∀ car ∈ cars, lot.holds car.registration = false) :
    let before := (Interpreter.execute { storage := .ofKind .memory } earlier).2
    let batch := before.execute (cars.map Car.parking)
    let free := lot.freeIndices
    (∀ i, i ∈ free ↔ lot.IsFree i) ∧ free.Pairwise (· < ·) ∧
    (before.storage.runAll (cars.map Car.parking)).1 =
      (free.take cars.length).map allocated ++
        List.replicate (cars.length - free.length) (.error (.lot .full)) ∧
    batch.1 = ⟨cars.length, cars.length - free.length⟩ ∧
    batch.2.console.log.toList = before.console.log.toList ++
      (free.take cars.length).map (fun i => (.result, s!"Allocated slot number: {i + 1}\n")) ++
      List.replicate (cars.length - free.length)
        (.diagnostic, "Sorry, parking lot is full\n") ∧
    ∃ after, batch.2.storage = .memory after ∧ after.capacity = lot.capacity ∧
      (∀ i car, after.carAt? i = some car ↔
        lot.carAt? i = some car ∨ (i, car) ∈ free.zip cars) ∧
      (∀ i car, lot.carAt? i = some car → after.carAt? i = some car) ∧
      ∀ others : List Car, others.Perm cars → ∃ last,
        (before.execute (others.map Car.parking)).2.storage = .memory last ∧
        ∀ i, ((last.carAt? i).isSome = true ↔
            (lot.carAt? i).isSome = true ∨ i ∈ free.take cars.length) ∧
          (last.carAt? i).isSome = (after.carAt? i).isSome := by
  intro before batch free
  have hstorage : before.storage = .memory lot := (Interpreter.storage_execute _ _).trans hlot
  obtain ⟨after, hrun, hcapacity, hslots⟩ := runAll_parkings hvalid hdistinct hnew
  rw [← hstorage] at hrun
  have hopen : before.console.closed = [] := Interpreter.closed_execute _ _
  have houtcomes : (before.storage.runAll (cars.map Car.parking)).1 =
      parkingOutcomes free cars.length := congrArg Prod.fst hrun
  refine ⟨fun _ => mem_freeIndices_iff, lot.pairwise_freeIndices, houtcomes, ?_, ?_,
    after, (before.storage_execute _).trans (congrArg Prod.snd hrun), hcapacity, hslots,
    fun i car h => (hslots i car).2 (.inl h), ?_⟩
  · have hexecuted := length_parkingOutcomes free cars.length
    have hfailed := countP_isFailure_parkingOutcomes free cars.length
    rw [before.summary_execute, houtcomes, hexecuted, hfailed]
  · rw [Interpreter.log_execute _ hopen, houtcomes, map_record_parkingOutcomes, List.append_assoc]
  · intro others hperm
    obtain ⟨last, hothers, -, hslots'⟩ := runAll_parkings
      (fun car hcar => hvalid car (hperm.mem_iff.1 hcar))
      ((hperm.map Car.registration).nodup_iff.2 hdistinct)
      (fun car hcar => hnew car (hperm.mem_iff.1 hcar))
    rw [← hstorage] at hothers
    refine ⟨last, (before.storage_execute _).trans (congrArg Prod.snd hothers), ?_⟩
    intro i
    have htaken := @isSome_carAt?_iff lot last i others hslots'
    rw [hperm.length_eq] at htaken
    refine ⟨htaken, ?_⟩
    rw [Bool.eq_iff_iff, htaken, isSome_carAt?_iff hslots]

/-- A gap is filled before what lies behind it, and the third car finds no slot. -/
theorem parkings_fill_free_gap :
    let earlier : List Statement := [.createParkingLot 3, .park "KA-01-HH-1234" "White",
      .park "KA-01-HH-9999" "Red", .leave 1]
    let lot : Lot := ⟨#[none, some ⟨"KA-01-HH-9999", .red⟩, none]⟩
    let cars : List Car := [⟨"KA-01-BB-0001", .black⟩, ⟨"KA-01-HH-1234", .blue⟩,
      ⟨"DL-12-AA-999", .white⟩]
    let before := (Interpreter.execute { storage := .ofKind .memory } earlier).2
    ((Storage.ofKind .memory).runAll earlier).2 = .memory lot ∧
    (∀ car ∈ cars, Registration.isValid car.registration = true) ∧
    (cars.map Car.registration).Nodup ∧
    (∀ car ∈ cars, lot.holds car.registration = false) ∧
    (before.storage.runAll (cars.map Car.parking)).1 =
      [allocated 0, allocated 2, .error (.lot .full)] ∧
    (before.execute (cars.map Car.parking)).1 = ⟨3, 1⟩ := by
  intro earlier lot cars before
  have hlot : ((Storage.ofKind .memory).runAll earlier).2 = .memory lot := by decide +kernel
  have hvalid : ∀ car ∈ cars, Registration.isValid car.registration = true := by decide +kernel
  have hdistinct : (cars.map Car.registration).Nodup := by decide
  have hnew : ∀ car ∈ cars, lot.holds car.registration = false := by decide +kernel
  have hfree : lot.freeIndices = [0, 2] := by decide
  obtain ⟨-, -, houtcomes, hsummary, -⟩ := parkings_fill_free earlier hlot hvalid hdistinct hnew
  rw [hfree] at houtcomes hsummary
  exact ⟨hlot, hvalid, hdistinct, hnew, houtcomes, hsummary⟩

end Lot

end ParkingLot
