import ParkingLot.Proofs.Lot.Step
/-!
# Statements that leave no trace

A statement that fails and one that only asks change nothing.  So the statements of a run that are
left when these are taken out (`Storage.changes`) do on their own what the whole run did, and none
of them fails (`execute_changes`).
-/

namespace ParkingLot

def Statement.isQuery : Statement → Bool
  | createParkingLot _ | park _ _ | leave _ => false
  | status | registrationNumbersWithColour _ | slotNumbersWithColour _
  | slotNumberWithRegistration _ => true

namespace Storage

variable {storage : Storage} {s : Statement}

/-! ## One statement -/

theorem run_of_isFailure (h : (storage.run s).1.isFailure = true) :
    (storage.run s).2 = storage := by
  unfold run at *
  split at h
  · contradiction
  · rfl

theorem run_of_isQuery (h : s.isQuery = true) : (storage.run s).2 = storage := by
  cases s with
  | createParkingLot _ | park _ _ | leave _ => contradiction
  | status | registrationNumbersWithColour _ | slotNumbersWithColour _
  | slotNumberWithRegistration _ => cases storage <;> rfl

/-- What storage in a file answers.  Only what is wrong with the statement itself comes before
that there is no lot. -/
def fileFailure : Statement → Failure
  | .createParkingLot n =>
    if n.toInt < 0 then .lot (.invalidCapacity n.toInt) else .lot .unimplemented
  | .park registration colour =>
    match Car.ofTexts registration colour with
    | .error e => .car e
    | .ok _ => .lot .unimplemented
  | _ => .lot .unimplemented

theorem run_file (s : Statement) : Storage.file.run s = (.error (fileFailure s), .file) := by
  cases s with
  | createParkingLot n =>
      by_cases hneg : n.toInt < 0 <;>
        simp [run, Statement.perform, createOfInt, hneg, create, lot, bind, Except.bind,
          Except.mapError, fileFailure]
  | park registration colour =>
      cases hcar : Car.ofTexts registration colour <;>
        simp [run, Statement.perform, hcar, park, lot, bind, Except.bind, Except.mapError,
          fileFailure]
  | leave n =>
      cases hindex : slotIndex? n <;>
        simp [run, Statement.perform, leaveSlot, hindex, leave, capacity, lot, bind, Except.bind,
          Except.map, Except.mapError, fileFailure]
  | status | registrationNumbersWithColour _ | slotNumbersWithColour _
  | slotNumberWithRegistration _ => rfl

theorem isFailure_run_file (s : Statement) : (Storage.file.run s).1.isFailure = true := by
  rw [run_file]
  rfl

theorem channel_run (hfailure : (storage.run s).1.isFailure = false) (hquery : s.isQuery = false) :
    (storage.run s).1.channel = .result := by
  cases storage with
  | file =>
      rw [isFailure_run_file] at hfailure
      contradiction
  | memory lot =>
      obtain ⟨o, after, hrun, hstep⟩ := lot.step_of_run s
      rw [hrun] at hfailure ⊢
      cases hstep with
      | created | parked | freed => rfl
      | status | registrationNumbersWithColour | slotNumbersWithColour
      | slotNumberWithRegistration => contradiction
      | refused => contradiction

/-! ## All statements -/

/-- The statements of a run that neither failed nor only asked, and how they ended. -/
def changes (storage : Storage) (ss : List Statement) : List (Statement × Outcome) :=
  (storage.events ss).filter fun (s, o) => !o.isFailure && !s.isQuery

theorem changes_cons (storage : Storage) (s : Statement) (ss : List Statement) :
    storage.changes (s :: ss) =
      if (storage.run s).1.isFailure = true ∨ s.isQuery = true then storage.changes ss
      else (s, (storage.run s).1) :: (storage.run s).2.changes ss := by
  unfold changes
  rw [events_cons]
  split
  · next h =>
    have hafter : (storage.run s).2 = storage := h.elim run_of_isFailure run_of_isQuery
    rw [List.filter_cons_of_neg (by rcases h with h | h <;> simp [h]), hafter]
  · next h =>
    rw [not_or, Bool.not_eq_true, Bool.not_eq_true] at h
    rw [List.filter_cons_of_pos (by simp [h])]

theorem runAll_changes (storage : Storage) (ss : List Statement) :
    storage.runAll ((storage.changes ss).map Prod.fst) =
      ((storage.changes ss).map Prod.snd, (storage.runAll ss).2) := by
  induction ss generalizing storage with
  | nil => rfl
  | cons s ss ih =>
      rw [changes_cons, runAll_cons]
      split
      · next h =>
        have hafter : (storage.run s).2 = storage := h.elim run_of_isFailure run_of_isQuery
        rw [ih, hafter]
      · rw [List.map_cons, runAll_cons, ih, List.map_cons]

theorem mem_changes {storage : Storage} {ss : List Statement} :
    ∀ e ∈ storage.changes ss, e.2.isFailure = false ∧ e.2.channel = .result := by
  induction ss generalizing storage with
  | nil => simp [changes, events]
  | cons s ss ih =>
      rw [changes_cons]
      split
      · exact ih
      · next h =>
        rw [not_or, Bool.not_eq_true, Bool.not_eq_true] at h
        rw [List.forall_mem_cons]
        exact ⟨⟨h.1, channel_run h.1 h.2⟩, ih⟩

end Storage

namespace Interpreter

open Storage

/-- The statements of a run that neither failed nor only asked, run by themselves from the same
storage, end with the same storage, do not fail, and leave those of the results that were theirs
in the whole run. -/
theorem execute_changes (i : Interpreter) (ss : List Statement) :
    let kept := i.storage.changes ss
    let whole := i.execute ss
    let part := i.execute (kept.map Prod.fst)
    (kept.map Prod.fst).Sublist ss ∧
      part.2.storage = whole.2.storage ∧
      part.1 = ⟨kept.length, 0⟩ ∧
      whole.2.console.records .result = i.console.records .result ++ i.console.delivered .result
        (((i.storage.events ss).filter fun (_, o) => o.channel = .result).map fun (_, o) =>
          o.record) ∧
      (∀ e ∈ kept, e.2.channel = .result) ∧
      part.2.console.records .result = i.console.records .result ++ i.console.delivered .result
        (kept.map fun (_, o) => o.record) := by
  intro kept whole part
  have hrun := i.storage.runAll_changes ss
  have hrecords : ∀ events : List (Statement × Outcome),
      ((events.map Prod.snd).filter (·.channel = .result)).map Outcome.record =
        (events.filter fun (_, o) => o.channel = .result).map fun (_, o) => o.record := by
    intro events
    rw [List.filter_map, List.map_map]
    rfl
  have hresults : ∀ e ∈ kept, e.2.channel = .result := fun e he => (mem_changes e he).2
  refine ⟨?_, ?_, ?_, ?_, hresults, ?_⟩
  · have hsub : (kept.map Prod.fst).Sublist ((i.storage.events ss).map Prod.fst) :=
      List.filter_sublist.map Prod.fst
    rwa [Storage.map_fst_events] at hsub
  · rw [storage_execute, storage_execute, hrun]
  · have hfailed : (kept.map Prod.snd).countP Outcome.isFailure = 0 := by
      rw [List.countP_eq_zero]
      intro o ho
      obtain ⟨e, he, rfl⟩ := List.mem_map.1 ho
      simp [(mem_changes e he).1]
    rw [summary_execute, hrun, hfailed, List.length_map]
  · rw [records_execute, ← Storage.map_snd_events, hrecords]
  · rw [records_execute, hrun, hrecords, List.filter_eq_self.2]
    intro e he
    exact decide_eq_true (hresults e he)

end Interpreter

end ParkingLot
