import ParkingLot.Proofs.Car
import ParkingLot.Proofs.Lot.Step
/-!
# The lots that can come about

Whatever is run from fresh storage in memory, no registration number is parked twice, only cars
that can be made are parked, and the lot has as many slots as the last lot that was asked for in
reason (`Lot.Sound`, `sound_after_programs`).  So every slot number that is ever printed is small.
-/

namespace ParkingLot

open Text

/-- The number of slots that a statement asks for, if a lot of that size may be made: at most
`2 ^ 20`. -/
def Statement.acceptedCapacity? : Statement → Option Nat
  | createParkingLot n => if 0 ≤ n.toInt ∧ n.toInt ≤ 1048576 then some n.toInt.toNat else none
  | _ => none

/-- The reply to the statement is this text, with these slot numbers in it. -/
def Statement.Mentions (numbers : List Nat) (text : String) : Statement → Prop
  | park _ _ => ∃ k, numbers = [k] ∧ text = s!"Allocated slot number: {k}"
  | leave n => ∃ k : Nat, numbers = [k] ∧ n.toInt = k ∧ text = s!"Slot number {n.toInt} is free"
  | status => ∃ taken : List (Nat × Car), numbers = taken.map (·.1 + 1) ∧
      text = "\n".intercalate (Table.lines (statusRows taken))
  | slotNumbersWithColour _ | slotNumberWithRegistration _ =>
    text = ", ".intercalate (numbers.map toString)
  | createParkingLot _ | registrationNumbersWithColour _ => numbers = []

namespace Lot

variable {lot after last : Lot} {s : Statement} {o : Outcome}

/-- What is true of every lot that can come about. -/
structure Sound (lot : Lot) : Prop where
  unique : ∀ {i j car other}, lot.carAt? i = some car → lot.carAt? j = some other →
    car.registration = other.registration → i = j
  isNumber : ∀ {i car}, lot.carAt? i = some car → Registration.IsNumber car.registration
  capacity_le : lot.capacity ≤ maxCapacity

theorem sound_free {capacity : Nat} (h : capacity ≤ maxCapacity) : (free capacity).Sound where
  unique hcar := by
    rw [carAt?_free] at hcar
    contradiction
  isNumber hcar := by
    rw [carAt?_free] at hcar
    contradiction
  capacity_le := by rwa [capacity_free]

theorem Sound.put_none {i : Nat} (h : lot.Sound) (hi : i < lot.capacity) :
    (lot.put i none).Sound := by
  have hkept : ∀ {j car}, (lot.put i none).carAt? j = some car → lot.carAt? j = some car := by
    intro j car hcar
    rw [carAt?_put hi] at hcar
    split at hcar
    · contradiction
    · exact hcar
  constructor
  · intro j k car other hcar hother
    exact h.unique (hkept hcar) (hkept hother)
  · intro j car hcar
    exact h.isNumber (hkept hcar)
  · rw [capacity_put]
    exact h.capacity_le

theorem Sound.put_some {i : Nat} {car : Car} (h : lot.Sound) (hi : i < lot.capacity)
    (hnew : lot.holds car.registration = false)
    (hnumber : Registration.IsNumber car.registration) : (lot.put i (some car)).Sound := by
  have hcases : ∀ {j c}, (lot.put i (some car)).carAt? j = some c →
      i = j ∧ c = car ∨ lot.carAt? j = some c := by
    intro j c hc
    rw [carAt?_put hi] at hc
    split at hc
    · next hij => exact .inl ⟨hij, (Option.some.inj hc).symm⟩
    · exact .inr hc
  have hother : ∀ {j c}, lot.carAt? j = some c → c.registration ≠ car.registration := by
    intro j c hc heq
    have hholds := holds_eq_true_iff.2 ⟨j, c, hc, heq⟩
    rw [hnew] at hholds
    contradiction
  constructor
  · intro j k c d hc hd heq
    obtain ⟨hj, hc'⟩ | hc' := hcases hc <;> obtain ⟨hk, hd'⟩ | hd' := hcases hd
    · exact hj.symm.trans hk
    · rw [hc'] at heq
      exact absurd heq.symm (hother hd')
    · rw [hd'] at heq
      exact absurd heq (hother hc')
    · exact h.unique hc' hd' heq
  · intro j c hc
    obtain ⟨-, rfl⟩ | hc := hcases hc
    · exact hnumber
    · exact h.isNumber hc
  · rw [capacity_put]
    exact h.capacity_le

theorem Step.sound (h : Step lot s o after) (hsound : lot.Sound) : after.Sound := by
  cases h with
  | created hlow hhigh =>
      apply sound_free
      omega
  | parked hcar hholds hfree =>
      obtain ⟨hi, -, -⟩ := lowestFree?_eq_some_iff.1 hfree
      obtain ⟨hnumber, hregistration, -⟩ := Car.ofTexts_eq_ok_iff.1 hcar
      exact hsound.put_some hi hholds (hregistration ▸ hnumber)
  | freed hn hi => exact hsound.put_none hi
  | status | registrationNumbersWithColour | slotNumbersWithColour | slotNumberWithRegistration
  | refused => exact hsound

/-! ## How many slots there are -/

theorem Step.capacity_eq (h : Step lot s o after) :
    after.capacity = s.acceptedCapacity?.getD lot.capacity := by
  cases h with
  | @created n hlow hhigh =>
      have haccepted : (Statement.createParkingLot n).acceptedCapacity? = some n.toInt.toNat :=
        if_pos ⟨hlow, hhigh⟩
      rw [haccepted, capacity_free, Option.getD_some]
  | parked | freed => exact capacity_put
  | status | registrationNumbersWithColour | slotNumbersWithColour | slotNumberWithRegistration =>
      rfl
  | refused hrefusal =>
      have haccepted : s.acceptedCapacity? = none := by
        cases hrefusal with
        | negative hneg => exact if_neg (by omega)
        | tooLarge hlarge =>
            apply if_neg
            rintro ⟨-, hle⟩
            exact absurd hlarge (Int.not_lt.2 hle)
        | car | identity | full | outOfRange => rfl
      rw [haccepted, Option.getD_none]

theorem Run.capacity_eq {events : List (Statement × Outcome)} (h : Run lot events last) :
    last.capacity =
      ((events.map Prod.fst).filterMap Statement.acceptedCapacity?).getLast?.getD
        lot.capacity := by
  induction h with
  | nil => rfl
  | @cons lot mid last s o events hstep _ ih =>
      rw [ih, hstep.capacity_eq, List.map_cons]
      cases haccepted : s.acceptedCapacity? with
      | none => rw [List.filterMap_cons_none haccepted, Option.getD_none]
      | some n =>
          rw [List.filterMap_cons_some haccepted, List.getLast?_cons, Option.getD_some,
            Option.getD_some]

/-! ## Slot numbers in replies -/

theorem slotNumber_mem_range (h : lot.Sound) {i : Nat} (hi : i < lot.capacity) :
    1 ≤ i + 1 ∧ i + 1 ≤ 1048576 := by
  have hle : lot.capacity ≤ 1048576 := h.capacity_le
  omega

private theorem lt_capacity_of_mem_indicesWith {p : Car → Bool} {i : Nat}
    (h : i ∈ lot.indicesWith p) : i < lot.capacity := by
  obtain ⟨car, hcar, -⟩ := mem_indicesWith_iff.1 h
  exact lt_capacity_of_carAt? hcar

private theorem eq_intercalate_of_ofList_eq_text {found : List String} {text : String}
    (h : Reply.ofList found = .text text) : text = ", ".intercalate found := by
  unfold Reply.ofList at h
  split at h
  · contradiction
  · exact (Reply.text.inj h).symm

private theorem exists_mentions_indicesWith {p : Car → Bool} {text : String} (hsound : lot.Sound)
    (h : Reply.ofList ((lot.indicesWith p).map fun i => toString (i + 1)) = .text text) :
    ∃ numbers : List Nat, text = ", ".intercalate (numbers.map toString) ∧
      ∀ k ∈ numbers, 1 ≤ k ∧ k ≤ 1048576 := by
  refine ⟨(lot.indicesWith p).map (· + 1), ?_, ?_⟩
  · rw [eq_intercalate_of_ofList_eq_text h, List.map_map]
    rfl
  · intro k hk
    obtain ⟨i, hi, rfl⟩ := List.mem_map.1 hk
    exact slotNumber_mem_range hsound (lt_capacity_of_mem_indicesWith hi)

theorem Step.exists_mentions (h : Step lot s o after) (hsound : lot.Sound) :
    ∀ text, o = .ok (.text text) →
      ∃ numbers, s.Mentions numbers text ∧ ∀ k ∈ numbers, 1 ≤ k ∧ k ≤ 1048576 := by
  intro text ho
  cases h with
  | created | registrationNumbersWithColour => exact ⟨[], rfl, by simp⟩
  | @parked _ _ _ i hcar hholds hfree =>
      obtain ⟨hi, -, -⟩ := lowestFree?_eq_some_iff.1 hfree
      cases ho
      refine ⟨[i + 1], ⟨i + 1, rfl, rfl⟩, ?_⟩
      rw [List.forall_mem_singleton]
      exact slotNumber_mem_range hsound hi
  | @freed n i hn hi =>
      cases ho
      refine ⟨[i + 1], ⟨i + 1, rfl, by omega, rfl⟩, ?_⟩
      rw [List.forall_mem_singleton]
      exact slotNumber_mem_range hsound hi
  | status =>
      cases ho
      refine ⟨lot.occupied.map (·.1 + 1), ⟨lot.occupied, rfl, rfl⟩, ?_⟩
      intro k hk
      obtain ⟨⟨i, car⟩, hmem, rfl⟩ := List.mem_map.1 hk
      exact slotNumber_mem_range hsound (lt_capacity_of_carAt? (mem_occupied_iff.1 hmem))
  | slotNumbersWithColour => exact exists_mentions_indicesWith hsound (Except.ok.inj ho)
  | slotNumberWithRegistration => exact exists_mentions_indicesWith hsound (Except.ok.inj ho)
  | refused => contradiction

theorem toNat_ofNat_add_one (h : lot.Sound) {i : Nat} (hi : i < lot.capacity) :
    (USize.ofNat i + 1).toNat = i + 1 := by
  have hle : lot.capacity ≤ 1048576 := h.capacity_le
  have hcast : USize.ofNat i + 1 = USize.ofNat (i + 1) := (USize.ofNat_add i 1).symm
  rw [hcast, USize.toNat_ofNat_of_lt_32 (by omega)]

theorem exists_sound_of_runAll (ss : List Statement) :
    ∃ lot, ((Storage.ofKind .memory).runAll ss).2 = .memory lot ∧ lot.Sound := by
  obtain ⟨lot, hlot, hrun⟩ := run_of_runAll .empty ss
  exact ⟨lot, hlot, hrun.preserves Step.sound (sound_free (Nat.zero_le maxCapacity))⟩

/-- Whatever programs are run from fresh storage in memory, the lot is in good order: no
registration number is parked twice, every car has a registration number and a colour as they
should be, and the number of slots is the last one that was asked for in reason.  So all slot
numbers in replies are small, and the number of a slot never overflows. -/
theorem sound_after_programs (programs : List Program) (console : Console) :
    ∃ lot, (programs.foldl (fun i p => (Interpreter.execute i p.statements).2)
        { storage := .ofKind .memory, console }).storage = .memory lot ∧
      (∀ i j car other, lot.carAt? i = some car → lot.carAt? j = some other →
        car.registration = other.registration → i = j) ∧
      (∀ i car, lot.carAt? i = some car → Registration.IsNumber car.registration ∧
        car.colour.name ∈ ["White", "Yellow", "Red", "Blue", "Green", "Brown", "Black"]) ∧
      lot.capacity = ((programs.flatMap Program.statements).filterMap
        Statement.acceptedCapacity?).getLast?.getD 0 ∧
      lot.capacity ≤ 1048576 ∧
      (∀ i < lot.capacity, (USize.ofNat i + 1).toNat = i + 1) ∧
      ∀ event ∈ (Storage.ofKind .memory).events (programs.flatMap Program.statements),
        ∀ text, event.2 = .ok (.text text) →
          ∃ numbers, event.1.Mentions numbers text ∧ ∀ k ∈ numbers, 1 ≤ k ∧ k ≤ 1048576 := by
  obtain ⟨lot, hlot, hrun⟩ := run_of_runAll .empty (programs.flatMap Program.statements)
  have hempty : Lot.empty.Sound := sound_free (Nat.zero_le maxCapacity)
  have hsound : lot.Sound := hrun.preserves Step.sound hempty
  have hcolour : ∀ c : Colour,
      c.name ∈ ["White", "Yellow", "Red", "Blue", "Green", "Brown", "Black"] := by
    intro c
    cases c <;> decide
  have hcapacity := hrun.capacity_eq
  refine ⟨lot, ?_, ?_, ?_, ?_, hsound.capacity_le, ?_, ?_⟩
  · rw [Interpreter.foldl_execute, Interpreter.storage_execute]
    exact hlot
  · intro i j car other
    exact hsound.unique
  · intro i car hcar
    exact ⟨hsound.isNumber hcar, hcolour car.colour⟩
  · rw [Storage.map_fst_events] at hcapacity
    exact hcapacity
  · intro i
    exact toNat_ofNat_add_one hsound
  · exact hrun.forall_mem Step.sound Step.exists_mentions hempty

end Lot

end ParkingLot
