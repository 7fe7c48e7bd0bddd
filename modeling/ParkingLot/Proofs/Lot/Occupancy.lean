import ParkingLot.Proofs.Car
import ParkingLot.Proofs.Lot.Step
import ParkingLot.Proofs.Text.Numeral
/-!
# Which car stands where

A slot holds a car exactly if the car was parked there and the slot has not been cleared since
(`shows_iff_parked`).  Nothing but parking there brings a car into a slot, and nothing but freeing
the slot or making a new lot takes it out (`Lot.Step.shows_iff`).
-/

namespace ParkingLot

namespace Lot

variable {lot after : Lot} {s : Statement} {o : Outcome} {number i : Nat}
  {registration colour : String} {slot : Option Car}

/-- The slot with a number holds the car with this registration number and colour.  Numbers start
at one. -/
def Shows (lot : Lot) (number : Nat) (registration colour : String) : Prop :=
  ∃ i car, number = i + 1 ∧ lot.carAt? i = some car ∧ car.registration = registration ∧
    car.colour.name = colour

/-- The car was parked, and the slot with a number was reported for it. -/
def Parks (number : Nat) (registration colour : String) (event : Statement × Outcome) : Prop :=
  event =
    (.park registration colour, .ok (.text s!"Allocated slot number: {number}"))

def Clears (number : Nat) (event : Statement × Outcome) : Prop :=
  event.2.isFailure = false ∧
    ((∃ n, event.1 = .createParkingLot n) ∨ ∃ n, event.1 = .leave n ∧ n.toInt = number)

private theorem not_shows_free (capacity : Nat) : ¬ (free capacity).Shows number registration colour := by
  rintro ⟨i, car, -, hcar, -⟩
  rw [carAt?_free] at hcar
  contradiction

private theorem shows_put_self (h : i < lot.capacity) :
    (lot.put i slot).Shows (i + 1) registration colour ↔
      ∃ car, slot = some car ∧ car.registration = registration ∧ car.colour.name = colour := by
  constructor
  · rintro ⟨j, car, hnumber, hcar, hdescription⟩
    obtain rfl : i = j := Nat.succ.inj hnumber
    rw [carAt?_put_self h] at hcar
    exact ⟨car, hcar, hdescription⟩
  · rintro ⟨car, hcar, hdescription⟩
    exact ⟨i, car, rfl, (carAt?_put_self h).trans hcar, hdescription⟩

private theorem shows_put_of_ne (h : i < lot.capacity) (hne : number ≠ i + 1) :
    (lot.put i slot).Shows number registration colour ↔
      lot.Shows number registration colour := by
  have hkeep : ∀ j, number = j + 1 → (lot.put i slot).carAt? j = lot.carAt? j := by
    intro j hnumber
    apply carAt?_put_of_ne h
    omega
  constructor
  · rintro ⟨j, car, hnumber, hcar, hdescription⟩
    exact ⟨j, car, hnumber, hkeep j hnumber ▸ hcar, hdescription⟩
  · rintro ⟨j, car, hnumber, hcar, hdescription⟩
    exact ⟨j, car, hnumber, (hkeep j hnumber).trans hcar, hdescription⟩

private theorem allocated_inj {m n : Nat} :
    s!"Allocated slot number: {m}" = s!"Allocated slot number: {n}" ↔ m = n := by
  rw [String.append_right_inj, Text.toString_nat_inj]

theorem Step.shows_iff (h : Step lot s o after) :
    after.Shows number registration colour ↔
      Parks number registration colour (s, o) ∨
        lot.Shows number registration colour ∧ ¬ Clears number (s, o) := by
  cases h with
  | @created n =>
      have hparks : ∀ o, ¬ Parks number registration colour (.createParkingLot n, o) := by
        simp [Parks]
      have hclears : ∀ reply, Clears number (.createParkingLot n, .ok reply) := fun reply =>
        ⟨rfl, .inl ⟨n, rfl⟩⟩
      simp only [not_shows_free, hparks, hclears, not_true, and_false, or_false]
  | @parked r c car i hcar hholds hfree =>
      obtain ⟨hi, hnone, -⟩ := lowestFree?_eq_some_iff.1 hfree
      obtain ⟨-, hregistration, hcolour⟩ := Car.ofTexts_eq_ok_iff.1 hcar
      have hclears : ∀ o, ¬ Clears number (.park r c, o) := by simp [Clears]
      by_cases hnumber : number = i + 1
      · subst hnumber
        -- the slot was free, so all that it can hold is the new car
        have hbefore : ¬ lot.Shows (i + 1) registration colour := by
          rintro ⟨j, other, hj, hother, -⟩
          obtain rfl : i = j := by omega
          rw [hnone] at hother
          contradiction
        rw [shows_put_self hi]
        simp [Parks, hbefore, hregistration, hcolour]
      · have hparks : ¬ Parks number registration colour (.park r c, .ok (.text
            s!"Allocated slot number: {i + 1}")) := by
          intro hparks
          have hreply := congrArg Prod.snd hparks
          simp only [Except.ok.injEq, Reply.text.injEq] at hreply
          exact hnumber (allocated_inj.1 hreply).symm
        rw [shows_put_of_ne hi hnumber]
        simp only [hparks, hclears, not_false_eq_true, and_true, false_or]
  | @freed n i hn hi =>
      have hparks : ∀ o, ¬ Parks number registration colour (.leave n, o) := by simp [Parks]
      have hclears : ∀ reply, Clears number (.leave n, .ok reply) ↔ number = i + 1 := by
        intro reply
        constructor
        · rintro ⟨-, ⟨_, hcreate⟩ | ⟨m, hm, hnumber⟩⟩
          · contradiction
          · obtain rfl := Statement.leave.inj hm
            omega
        · intro hnumber
          exact ⟨rfl, .inr ⟨n, rfl, by omega⟩⟩
      by_cases hnumber : number = i + 1
      · subst hnumber
        have hnone : ¬ ∃ car : Car, none = some car ∧ car.registration = registration ∧
            car.colour.name = colour := by simp
        rw [shows_put_self hi]
        simp only [hnone, hparks, hclears, not_true, and_false, or_false]
      · rw [shows_put_of_ne hi hnumber]
        simp only [hparks, hclears, hnumber, not_false_eq_true, and_true, false_or]
  | status | registrationNumbersWithColour | slotNumbersWithColour | slotNumberWithRegistration =>
      simp [Parks, Clears]
  | refused => simp [Parks, Clears, Outcome.isFailure]

/-- The car was parked in the slot at some time, and the slot was not cleared after that. -/
def StaysParked (number : Nat) (registration colour : String)
    (events : List (Statement × Outcome)) : Prop :=
  ∃ before event later, events = before ++ event :: later ∧
    Parks number registration colour event ∧ ∀ e ∈ later, ¬ Clears number e

theorem staysParked_cons {event : Statement × Outcome} {events : List (Statement × Outcome)} :
    StaysParked number registration colour (event :: events) ↔
      StaysParked number registration colour events ∨
        Parks number registration colour event ∧ ∀ e ∈ events, ¬ Clears number e := by
  constructor
  · rintro ⟨before, parking, later, hevents, hparks, hlater⟩
    obtain ⟨-, heq⟩ | ⟨before', -, heq⟩ := List.cons_eq_append_iff.1 hevents
    · cases heq
      exact .inr ⟨hparks, hlater⟩
    · exact .inl ⟨before', parking, later, heq, hparks, hlater⟩
  · rintro (⟨before, parking, later, rfl, hparks, hlater⟩ | ⟨hparks, hlater⟩)
    · exact ⟨event :: before, parking, later, rfl, hparks, hlater⟩
    · exact ⟨[], event, events, rfl, hparks, hlater⟩

theorem Run.shows_iff {last : Lot} {events : List (Statement × Outcome)}
    (h : Run lot events last) :
    last.Shows number registration colour ↔
      StaysParked number registration colour events ∨
        lot.Shows number registration colour ∧ ∀ e ∈ events, ¬ Clears number e := by
  induction h with
  | nil => simp [StaysParked]
  | cons hstep _ ih =>
      rw [ih, hstep.shows_iff, staysParked_cons, List.forall_mem_cons]
      grind

/-- After any statements, a slot holds a car if and only if the car was parked there and since then
no new lot was made and the slot was not freed. -/
theorem shows_iff_parked (ss : List Statement) : ∃ last,
    ((Storage.ofKind .memory).runAll ss).2 = .memory last ∧
      ∀ (number : Nat) (registration colour : String),
        last.Shows number registration colour ↔
          ∃ before event later,
            (Storage.ofKind .memory).events ss = before ++ event :: later ∧
            Parks number registration colour event ∧ ∀ e ∈ later, ¬ Clears number e := by
  obtain ⟨last, hlast, hrun⟩ := run_of_runAll .empty ss
  refine ⟨last, hlast, ?_⟩
  intro number registration colour
  have hempty : ¬ Lot.empty.Shows number registration colour := not_shows_free 0
  rw [hrun.shows_iff]
  simp only [hempty, false_and, or_false]
  rfl

end Lot

end ParkingLot
