import ParkingLot.Proofs.LostOutput
import ParkingLot.Proofs.Messages
import ParkingLot.Proofs.Storage.Changes
/-!
# No lot to be had

Storage in a file refuses every statement, whatever was run before, and each refusal is a line of
its own among the diagnostics (`Interpreter.answers_file`).  No query on it comes to an answer, so
it is never taken for a lot without cars.
-/

namespace ParkingLot

/-- What is said about a statement if there is no lot to be had.  What is wrong with the statement
itself comes first. -/
def Statement.refusal : Statement → String
  | createParkingLot n =>
    if n.toInt < 0 then s!"invalid capacity {n.toInt}" else "file storage is not implemented"
  | park registration colour =>
    match Car.ofTexts registration colour with
    | .error e => e.message
    | .ok _ => "file storage is not implemented"
  | leave _ | status | registrationNumbersWithColour _ | slotNumbersWithColour _
  | slotNumberWithRegistration _ => "file storage is not implemented"

namespace Interpreter.Call

def refused : Call → Option Summary
  | execute ss => some ⟨ss.length, ss.length⟩
  | report _ => none

def complaints : Call → List String
  | execute ss => ss.map Statement.refusal
  | report message => [message]

end Interpreter.Call

/-! ## One statement -/

theorem Storage.message_fileFailure (s : Statement) : (fileFailure s).message = s.refusal := by
  cases s with
  | createParkingLot n =>
      rw [fileFailure, Statement.refusal]
      split <;> rfl
  | park registration colour =>
      rw [fileFailure, Statement.refusal]
      cases Car.ofTexts registration colour <;> rfl
  | leave _ | status | registrationNumbersWithColour _ | slotNumbersWithColour _
  | slotNumberWithRegistration _ => rfl

theorem Statement.isLine_refusal (s : Statement) : IsLine s.refusal :=
  Storage.message_fileFailure s ▸ Failure.isLine_message _

private theorem head?_toList_append {s : String} {c : Char} (h : s.toList.head? = some c) (t : String) :
    (s ++ t).toList.head? = some c := by
  rw [String.toList_append, List.head?_append, h, Option.some_or]

theorem Statement.refusal_ne_notFound (s : Statement) : s.refusal ≠ "Not found" := by
  have hhead : s.refusal.toList.head? = some 'i' ∨ s.refusal.toList.head? = some 'c' ∨
      s.refusal.toList.head? = some 'f' := by
    have hnone : "file storage is not implemented".toList.head? = some 'f' := by decide
    cases s with
    | createParkingLot n =>
        rw [refusal]
        split
        · exact .inl (head?_toList_append (by decide) _)
        · exact .inr (.inr hnone)
    | park registration colour =>
        rw [refusal]
        cases Car.ofTexts registration colour with
        | error e =>
            cases e <;>
              exact .inr (.inl (head?_toList_append (head?_toList_append (by decide) _) _))
        | ok _ => exact .inr (.inr hnone)
    | leave _ | status | registrationNumbersWithColour _ | slotNumbersWithColour _
    | slotNumberWithRegistration _ => exact .inr (.inr hnone)
  intro h
  rw [h] at hhead
  revert hhead
  decide

theorem Storage.runAll_file (ss : List Statement) :
    Storage.file.runAll ss = (ss.map fun s => .error (fileFailure s), .file) := by
  induction ss with
  | nil => rfl
  | cons s ss ih => rw [runAll_cons, run_file, ih, List.map_cons]

namespace Interpreter

/-! ## One call -/

/-- Storage in a file and nothing but complaints on an open console. -/
structure OnlyComplained (i : Interpreter) (lines : List String) : Prop where
  storage : i.storage = .file
  closed : i.console.closed = []
  log : i.console.log.toList = lines.map fun line => (.diagnostic, line ++ "\n")

variable {i : Interpreter} {lines : List String}

theorem OnlyComplained.execute (h : i.OnlyComplained lines) (ss : List Statement) :
    (i.execute ss).1 = ⟨ss.length, ss.length⟩ ∧
      (i.execute ss).2.OnlyComplained (lines ++ ss.map Statement.refusal) := by
  have hrun := Storage.runAll_file ss
  rw [← h.storage] at hrun
  constructor
  · have hfailed : ∀ o ∈ (i.storage.runAll ss).1, o.isFailure = true := by
      rw [hrun]
      intro o ho
      obtain ⟨s, -, rfl⟩ := List.mem_map.1 ho
      rfl
    have hexecuted : (i.storage.runAll ss).1.length = ss.length := by rw [hrun, List.length_map]
    rw [summary_execute, List.countP_eq_length.2 hfailed, hexecuted]
  · refine ⟨?_, ?_, ?_⟩
    · rw [storage_execute, hrun]
      exact h.storage
    · rw [closed_execute]
      exact h.closed
    · have hrecords : ∀ s : Statement,
          (Outcome.channel (.error (Storage.fileFailure s)),
            Outcome.record (.error (Storage.fileFailure s))) =
              (Channel.diagnostic, s.refusal ++ "\n") := by
        intro s
        rw [← Storage.message_fileFailure]
        rfl
      rw [log_execute _ h.closed, h.log, hrun, List.map_map, List.map_append, List.map_map]
      congr 1
      exact List.map_congr_left fun s _ => hrecords s

theorem OnlyComplained.report (h : i.OnlyComplained lines) (message : String) :
    (i.report message).OnlyComplained (lines ++ [message]) := by
  rw [report_eq]
  refine ⟨h.storage, (Console.closed_write _ _ _).trans h.closed, ?_⟩
  rw [Console.writeLine, Console.write, h.closed, if_neg List.not_mem_nil]
  simp [h.log]

theorem OnlyComplained.answer (h : i.OnlyComplained lines) (call : Call) :
    (i.answer call).1 = call.refused ∧
      (i.answer call).2.OnlyComplained (lines ++ call.complaints) := by
  cases call with
  | execute ss =>
      obtain ⟨hsummary, hafter⟩ := h.execute ss
      exact ⟨congrArg some hsummary, hafter⟩
  | report message => exact ⟨rfl, h.report message⟩

theorem OnlyComplained.text_result (h : i.OnlyComplained lines) :
    i.console.text [.result] = "" := by
  have hnone : i.console.records .result = [] := by
    rw [Console.records, h.log, List.map_eq_nil_iff, List.filter_eq_nil_iff]
    intro entry hentry
    obtain ⟨line, -, rfl⟩ := List.mem_map.1 hentry
    exact Bool.false_ne_true
  rw [Console.text_singleton, hnone]
  rfl

/-! ## Call after call -/

theorem OnlyComplained.answers (h : i.OnlyComplained lines) {calls : List Call} {k : Nat}
    {call : Call} (hcall : calls[k]? = some call) :
    ∃ after, (i.answers calls)[k]? = some (call.refused, after) ∧
      after.OnlyComplained (lines ++ (calls.take (k + 1)).flatMap Call.complaints) := by
  induction calls generalizing i lines k with
  | nil => contradiction
  | cons first calls ih =>
      obtain ⟨hsummary, hafter⟩ := h.answer first
      rw [Interpreter.answers, List.take_succ_cons, List.flatMap_cons]
      cases k with
      | zero =>
          obtain rfl : first = call := Option.some.inj hcall
          refine ⟨_, congrArg some (Prod.ext hsummary rfl), ?_⟩
          simpa using hafter
      | succ k =>
          rw [← List.append_assoc]
          exact ih hafter hcall

/-- However often and in whatever order programs are run on storage in a file, each run fails with
all of its statements, the storage is as it was, and there is no result.  Every statement leaves one
line among the diagnostics: what is wrong with its car or its capacity, or else that there is no
such storage, but never that something was not found. -/
theorem answers_file (calls : List Call) :
    (∀ k call, calls[k]? = some call → ∃ after,
      (answers { storage := .ofKind .file } calls)[k]? = some (call.refused, after) ∧
      after.storage = .ofKind .file ∧
      after.console.text [.result] = "" ∧
      after.console.log.toList = ((calls.take (k + 1)).flatMap Call.complaints).map
        fun line => (.diagnostic, line ++ "\n")) ∧
    ∀ s : Statement, IsLine s.refusal ∧ s.refusal ≠ "Not found" := by
  have hstart : OnlyComplained { storage := .ofKind .file } [] := ⟨rfl, rfl, rfl⟩
  constructor
  · intro k call hcall
    obtain ⟨after, hanswer, hafter⟩ := hstart.answers hcall
    rw [List.nil_append] at hafter
    exact ⟨after, hanswer, hafter.storage, hafter.text_result, hafter.log⟩
  · intro s
    exact ⟨s.isLine_refusal, s.refusal_ne_notFound⟩

end Interpreter

end ParkingLot
