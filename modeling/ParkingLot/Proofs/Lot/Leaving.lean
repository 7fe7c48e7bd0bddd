import ParkingLot.Proofs.Lot.Step
/-!
# Which slots can be left

Slots are numbered in 64-bit words from one, and indexed by natural numbers from zero.  A number may
be found out of range on its way to an index (`Storage.slotIndex?`) or only by the lot, which turns
the index back into a number for its complaint (`Lot.slotNumber`).  Both come to the same range and
to the same complaint about the number that was given (`leave_checks_range`).
-/

namespace ParkingLot.Lot

/-- A slot can be left exactly if its number is from one to the capacity, whether it is taken or
not, and then it alone is emptied.  With all other 64-bit numbers the lot stays what it was, and the
complaint is about the number as it was given, whichever of the two checks finds it out.  The check
of the lot goes for all indices, also for those that are beyond all numbers. -/
theorem leave_checks_range (lot : Lot) (n : Int64) :
    let ran := Interpreter.execute { storage := .memory lot } [.leave n]
    let inRange := 1 ≤ n.toInt ∧ n.toInt ≤ lot.capacity
    (ran.1.failed = 0 ↔ inRange) ∧
    (inRange → ∃ (i : Nat) (after : Lot), n.toInt = i + 1 ∧ ran.2.storage = .memory after ∧
      (after.slots[i]? = some none ∧ ∀ j ≠ i, after.slots[j]? = lot.slots[j]?) ∧
      ran.2.console.log.toList = [(.result, s!"Slot number {n.toInt} is free" ++ "\n")]) ∧
    (¬ inRange → ran.2.storage = .memory lot ∧
      ran.2.console.log.toList =
        [(.diagnostic, s!"slot number {n.toInt} out of range [1, {lot.capacity}]" ++ "\n")] ∧
      (Storage.slotIndex? n = none ∨ ∃ i, Storage.slotIndex? n = some i ∧
        (Storage.memory lot).leave i = .error (.outOfRange n.toInt lot.capacity))) ∧
    ∀ i, lot.capacity ≤ i → (Storage.memory lot).leave i =
      .error (.outOfRange (min (i + 1) Int64.maxValue.toInt) lot.capacity) := by
  intro ran inRange
  have hlog : ran.2.console.log.toList = [(((Storage.memory lot).run (.leave n)).1.channel,
      ((Storage.memory lot).run (.leave n)).1.record)] :=
    Interpreter.log_execute _ rfl
  have hstorage : ran.2.storage = ((Storage.memory lot).run (.leave n)).2 :=
    Interpreter.storage_execute _ _
  have hfailed : ran.1.failed = 0 ↔
      ((Storage.memory lot).run (.leave n)).1.isFailure = false := by
    have hsummary : ran.1 = ⟨1, [((Storage.memory lot).run (.leave n)).1].countP _⟩ :=
      Interpreter.summary_execute _ _
    rw [hsummary, List.countP_eq_zero, List.forall_mem_singleton, Bool.not_eq_true]
  refine ⟨?_, ?_, ?_, ?_⟩
  · rw [hfailed, run_leave_eq]
    by_cases hrange : 1 ≤ n.toInt ∧ n.toInt ≤ lot.capacity <;>
      simp [inRange, hrange, Outcome.isFailure]
  · intro hrange
    have hlt : (n.toInt - 1).toNat < lot.capacity := by omega
    rw [run_leave_eq, if_pos hrange] at hlog hstorage
    exact ⟨(n.toInt - 1).toNat, _, by omega, hstorage, (eq_put_iff hlt).1 rfl, hlog⟩
  · intro hrange
    rw [run_leave_eq, if_neg hrange] at hlog hstorage
    refine ⟨hstorage, hlog, ?_⟩
    rcases lot.rejected_of_not_range hrange with ⟨hindex, -⟩ | ⟨i, hindex, -, -, hleave⟩
    · exact .inl hindex
    · exact .inr ⟨i, hindex, lot.leave_memory_of_error hleave⟩
  · intro i hi
    exact lot.leave_memory_of_error (leave_eq_error hi)

example : (Storage.memory .empty).leave (2 ^ 64 - 1) = .error (.outOfRange (2 ^ 63 - 1) 0) := by
  decide

end ParkingLot.Lot
