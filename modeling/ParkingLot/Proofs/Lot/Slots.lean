import Mathlib.Algebra.Group.Int.Defs
import Mathlib.Data.List.Basic
import ParkingLot.Lot
/-!
# Slot by slot

A lot is looked at through `Lot.carAt?`, the car in the slot at an index.  Each operation is said
in these terms: what it asks of the slots and which one of them it changes.
-/

namespace ParkingLot.Lot

variable {lot : Lot} {i j : Nat} {car : Car} {slot : Option Car}

def carAt? (lot : Lot) (i : Nat) : Option Car := lot.slots[i]?.join

def put (lot : Lot) (i : Nat) (slot : Option Car) : Lot := ⟨lot.slots.setIfInBounds i slot⟩

def free (capacity : Nat) : Lot := ⟨Array.replicate capacity none⟩

@[simp] theorem capacity_put : (lot.put i slot).capacity = lot.capacity :=
  Array.size_setIfInBounds

@[simp] theorem capacity_free (capacity : Nat) : (free capacity).capacity = capacity :=
  Array.size_replicate

theorem carAt?_eq_some_iff : lot.carAt? i = some car ↔ lot.slots[i]? = some (some car) := by
  unfold carAt?
  rw [Option.join_eq_some_iff]

theorem lt_capacity_of_carAt? (h : lot.carAt? i = some car) : i < lot.capacity := by
  rw [carAt?_eq_some_iff] at h
  exact (Array.getElem?_eq_some_iff.1 h).1

@[simp] theorem carAt?_free (capacity : Nat) : (free capacity).carAt? i = none := by
  unfold carAt? free
  rw [Array.getElem?_replicate]
  split <;> rfl

theorem carAt?_put (h : i < lot.capacity) (j : Nat) :
    (lot.put i slot).carAt? j = if i = j then slot else lot.carAt? j := by
  have hsize : i < lot.slots.size := h
  unfold carAt? put
  rw [Array.getElem?_setIfInBounds]
  by_cases hij : i = j
  · subst hij
    rw [if_pos rfl, if_pos hsize, if_pos rfl, Option.join_some]
  · rw [if_neg hij, if_neg hij]

theorem carAt?_put_self (h : i < lot.capacity) : (lot.put i slot).carAt? i = slot := by
  rw [carAt?_put h, if_pos rfl]

theorem carAt?_put_of_ne (h : i < lot.capacity) (hne : i ≠ j) :
    (lot.put i slot).carAt? j = lot.carAt? j := by
  rw [carAt?_put h, if_neg hne]

theorem eq_put_iff {after : Lot} (hi : i < lot.capacity) :
    after = lot.put i slot ↔
      after.slots[i]? = some slot ∧ ∀ j ≠ i, after.slots[j]? = lot.slots[j]? := by
  have hsize : i < lot.slots.size := hi
  have hput : (lot.put i slot).slots[i]? = some slot := by
    rw [put, Array.getElem?_setIfInBounds, if_pos rfl, if_pos hsize]
  have hothers : ∀ j ≠ i, (lot.put i slot).slots[j]? = lot.slots[j]? := by
    intro j hj
    rw [put, Array.getElem?_setIfInBounds, if_neg (Ne.symm hj)]
  constructor
  · rintro rfl
    exact ⟨hput, hothers⟩
  · rintro ⟨hslot, hrest⟩
    suffices hslots : after.slots = (lot.put i slot).slots by
      cases after
      cases hslots
      rfl
    apply Array.ext_getElem?
    intro j
    by_cases hj : j = i
    · rw [hj, hslot, hput]
    · rw [hrest j hj, hothers j hj]

/-! ## What operations ask -/

def holds (lot : Lot) (registration : String) : Bool :=
  lot.slots.any fun slot => slot.any (·.hasRegistration registration)

def lowestFree? (lot : Lot) : Option Nat := lot.slots.findIdx? (·.isNone)

theorem holds_eq_true_iff {registration : String} :
    lot.holds registration = true ↔
      ∃ i car, lot.carAt? i = some car ∧ car.registration = registration := by
  simp only [holds, Array.any_eq_true, Option.any_eq_true, Car.hasRegistration, beq_iff_eq,
    carAt?_eq_some_iff]
  constructor
  · rintro ⟨i, hi, car, hcar, hregistration⟩
    refine ⟨i, car, ?_, hregistration⟩
    rw [Array.getElem?_eq_getElem hi, hcar]
  · rintro ⟨i, car, hcar, hregistration⟩
    obtain ⟨hi, hcar⟩ := Array.getElem?_eq_some_iff.1 hcar
    exact ⟨i, hi, car, hcar, hregistration⟩

theorem lowestFree?_eq_some_iff :
    lot.lowestFree? = some i ↔
      i < lot.capacity ∧ lot.carAt? i = none ∧ ∀ j < i, ∃ car, lot.carAt? j = some car := by
  have hcarAt : ∀ (j : Nat) (hj : j < lot.slots.size), lot.carAt? j = lot.slots[j] := by
    intro j hj
    rw [carAt?, Array.getElem?_eq_getElem hj, Option.join_some]
  unfold lowestFree?
  rw [Array.findIdx?_eq_some_iff_getElem]
  constructor
  · rintro ⟨hi, hfree, hbefore⟩
    refine ⟨hi, ?_, ?_⟩
    · rw [hcarAt i hi]
      exact Option.isNone_iff_eq_none.1 hfree
    · intro j hj
      have htaken := hbefore j hj
      rw [Option.isNone_iff_eq_none] at htaken
      rw [hcarAt j (Nat.lt_trans hj hi)]
      exact Option.ne_none_iff_exists'.1 htaken
  · rintro ⟨hi, hfree, hbefore⟩
    refine ⟨hi, ?_, ?_⟩
    · rw [← hcarAt i hi]
      exact Option.isNone_iff_eq_none.2 hfree
    · intro j hj
      obtain ⟨car, hcar⟩ := hbefore j hj
      rw [← hcarAt j (Nat.lt_trans hj hi), hcar]
      simp

/-- What the one pass over the slots comes to, from wherever it stands: it fails if the number is to
come, and otherwise it keeps the free slot that it has, or takes the first to come. -/
theorem survey_eq (registration : String) (free? : Option Nat) (i : Nat)
    (slots : List (Option Car)) :
    survey registration free? i slots =
      if slots.any (fun slot => slot.any (·.hasRegistration registration)) then .error .identity
      else .ok (free?.or ((slots.findIdx? (·.isNone)).map (· + i))) := by
  induction slots generalizing free? i with
  | nil => simp [survey]
  | cons slot slots ih =>
      have hshift : (slots.findIdx? (·.isNone)).map (· + (i + 1)) =
          ((slots.findIdx? (·.isNone)).map (· + 1)).map (· + i) := by
        rw [Option.map_map]
        congr 1
        funext j
        exact (Nat.add_right_comm j 1 i).symm
      cases slot with
      | none =>
          rw [survey, ih, List.any_cons, List.findIdx?_cons]
          simp
      | some parked =>
          by_cases hsame : parked.hasRegistration registration = true
          · simp [survey, hsame]
          · rw [survey, if_neg hsame, ih, List.any_cons, List.findIdx?_cons, hshift]
            simp [hsame]

theorem park_eq (lot : Lot) (car : Car) :
    lot.park car =
      if lot.holds car.registration then .error .identity
      else
        match lot.lowestFree? with
        | some i => .ok (i, lot.put i (some car))
        | none => .error .full := by
  have hfree : lot.slots.toList.findIdx? (·.isNone) = lot.lowestFree? := by
    rw [← List.findIdx?_toArray, Array.toArray_toList, lowestFree?]
  have hsurvey : survey car.registration none 0 lot.slots.toList =
      if lot.holds car.registration then .error .identity else .ok lot.lowestFree? := by
    rw [survey_eq, Array.any_toList, hfree, holds]
    simp
  unfold park
  rw [hsurvey]
  cases lot.holds car.registration with
  | true => rfl
  | false => cases lot.lowestFree? <;> rfl

theorem leave_eq_ok (h : i < lot.capacity) : lot.leave i = .ok (lot.put i none) := if_pos h

/-- The complaint is about the number of the slot, or about the greatest number there is. -/
theorem leave_eq_error (h : lot.capacity ≤ i) :
    lot.leave i = .error (.outOfRange (min (i + 1) (2 ^ 63 - 1)) lot.capacity) := by
  rw [leave, if_neg (Nat.not_lt.2 h), toInt_slotNumber]
  rfl

theorem mem_occupied_iff : (i, car) ∈ lot.occupied ↔ lot.carAt? i = some car := by
  unfold occupied
  rw [List.mem_filterMap, carAt?_eq_some_iff, ← Array.getElem?_toList]
  constructor
  · rintro ⟨⟨slot, j⟩, hmem, hslot⟩
    obtain ⟨car', rfl, hpair⟩ := Option.map_eq_some_iff.1 hslot
    cases hpair
    exact List.mk_mem_zipIdx_iff_getElem?.1 hmem
  · intro hcar
    exact ⟨(some car, i), List.mk_mem_zipIdx_iff_getElem?.2 hcar, rfl⟩

theorem pairwise_occupied (lot : Lot) : lot.occupied.Pairwise fun a b => a.1 < b.1 := by
  have hindices : lot.slots.toList.zipIdx.Pairwise fun a b => a.2 < b.2 := by
    apply List.pairwise_map.1
    rw [List.zipIdx_map_snd]
    exact List.pairwise_lt_range'
  unfold occupied
  apply hindices.filterMap
  rintro ⟨slot, i⟩ ⟨other, j⟩ hij taken htaken next hnext
  obtain ⟨-, -, rfl⟩ := Option.map_eq_some_iff.1 htaken
  obtain ⟨-, -, rfl⟩ := Option.map_eq_some_iff.1 hnext
  exact hij

/-- The taken slots are known by what each slot holds. -/
theorem occupied_eq_iff {other : Lot} :
    lot.occupied = other.occupied ↔ ∀ i, lot.carAt? i = other.carAt? i := by
  constructor
  · intro h i
    apply Option.ext
    intro car
    rw [← mem_occupied_iff, h, mem_occupied_iff]
  · intro h
    have hmem : ∀ taken, taken ∈ lot.occupied ↔ taken ∈ other.occupied := by
      intro taken
      rw [mem_occupied_iff, mem_occupied_iff, h]
    have hnodup : ∀ lot : Lot, lot.occupied.Nodup := by
      intro lot
      apply lot.pairwise_occupied.imp
      rintro taken _ hlt rfl
      exact Nat.lt_irrefl _ hlt
    apply List.Perm.eq_of_pairwise _ lot.pairwise_occupied other.pairwise_occupied
    · exact (List.perm_ext_iff_of_nodup (hnodup lot) (hnodup other)).2 hmem
    · intro _ _ _ _ hlt hgt
      exact absurd hlt (Nat.lt_asymm hgt)

end ParkingLot.Lot
