import Mathlib.Algebra.Ring.Nat
import ParkingLot.Proofs.Messages
import ParkingLot.Proofs.Session.Replay
import ParkingLot.Proofs.Storage.Changes
/-!
# One line for each complaint

A statement leaves one record, a result or a diagnostic, and a diagnostic is a single line.  So the
line feeds among the diagnostics count what went wrong: statements that failed, queries that matched
nothing, and lines of input that are no programs (`newlines_diagnostics`).
-/

namespace ParkingLot

open Text

/-! ## Counting line feeds -/

def newlines (s : String) : Nat := s.toList.count '\n'

theorem newlines_append (s t : String) : newlines (s ++ t) = newlines s + newlines t := by
  rw [newlines, String.toList_append, List.count_append, newlines, newlines]

theorem newlines_line {s : String} (h : IsLine s) : newlines (s ++ "\n") = 1 := by
  have hs : newlines s = 0 := List.count_eq_zero_of_not_mem h
  rw [newlines_append, hs]
  rfl

theorem newlines_join {lines : List String} (h : ∀ s ∈ lines, newlines s = 1) :
    newlines (String.join lines) = lines.length := by
  induction lines with
  | nil => rfl
  | cons s lines ih =>
      rw [List.forall_mem_cons] at h
      rw [String.join_cons, newlines_append, h.1, ih h.2, List.length_cons, Nat.add_comm]

/-! ## What the items of a list find -/

section Trail

variable {σ α : Type} (step : σ → α → σ)

/-- The items of a list, each with the state that the items before it lead to. -/
def trail : σ → List α → List (σ × α)
  | _, [] => []
  | state, a :: as => (state, a) :: trail (step state a) as

theorem map_snd_trail (state : σ) (as : List α) : (trail step state as).map Prod.snd = as := by
  induction as generalizing state with
  | nil => rfl
  | cons a as ih => rw [trail, List.map_cons, ih]

end Trail

def Statement.criterion? : Statement → Option (Car → Bool)
  | registrationNumbersWithColour colour | slotNumbersWithColour colour =>
    some (Car.hasColour colour)
  | slotNumberWithRegistration registration => some (Car.hasRegistration registration)
  | createParkingLot _ | park _ _ | leave _ | status => none

namespace Storage

/-- Whether the statement is a query, and no parked car is what it looks for. -/
def matchesNothing : Storage → Statement → Bool
  | memory lot, s => s.criterion?.any fun p => lot.occupied.all fun (_, car) => !p car
  | file, _ => false

def situations (storage : Storage) (ss : List Statement) : List (Storage × Statement) :=
  trail (fun before s => (before.run s).2) storage ss

def misses (storage : Storage) (ss : List Statement) : Nat :=
  (storage.situations ss).countP fun (before, s) => before.matchesNothing s

def entries (storage : Storage) (lines : List String) : List (Storage × String) :=
  trail (fun before line => (Interpreter.enter { storage := before } line).storage) storage lines

theorem entries_cons (storage : Storage) (line : String) (lines : List String) :
    storage.entries (line :: lines) = (storage, line) ::
      (Interpreter.enter { storage } line).storage.entries lines := rfl

def complaints (storage : Storage) (line : String) : Nat :=
  match Program.ofText line with
  | .ok program =>
    (Interpreter.execute { storage } program.statements).1.failed +
      storage.misses program.statements
  | .error _ => 1

variable {storage : Storage} {s : Statement} {ss : List Statement}

theorem map_run_situations (storage : Storage) (ss : List Statement) :
    (storage.situations ss).map (fun (before, s) => (before.run s).1) = (storage.runAll ss).1 := by
  induction ss generalizing storage with
  | nil => rfl
  | cons s ss ih =>
      rw [runAll_cons, ← ih]
      rfl

/-- A query that finds no car says so, and nothing else does. -/
theorem run_eq_notFound_iff :
    (storage.run s).1 = .ok .notFound ↔ storage.matchesNothing s = true := by
  have hofList : ∀ found, Reply.ofList found = .notFound ↔ found = [] := by
    intro found
    cases found <;> simp [Reply.ofList]
  cases storage with
  | file => simp [run_file, matchesNothing]
  | memory lot =>
      obtain ⟨o, after, hrun, hstep⟩ := lot.step_of_run s
      rw [hrun]
      cases hstep with
      | created | parked | freed | status => simp [matchesNothing, Statement.criterion?]
      | registrationNumbersWithColour | slotNumbersWithColour | slotNumberWithRegistration =>
          simp [matchesNothing, Statement.criterion?, hofList, Lot.indicesWith, List.filter_map,
            List.filter_eq_nil_iff]
      | refused h => cases h <;> simp [matchesNothing, Statement.criterion?]

theorem channel_run_eq_ite (storage : Storage) (s : Statement) : (storage.run s).1.channel =
    if (storage.run s).1.isFailure || storage.matchesNothing s then .diagnostic else .result := by
  have hnothing := @run_eq_notFound_iff storage s
  cases hrun : (storage.run s).1 with
  | error e => rfl
  | ok reply =>
      cases reply with
      | notFound =>
          rw [hnothing.1 hrun]
          rfl
      | text t =>
          have hfound : storage.matchesNothing s = false := by
            rw [← Bool.not_eq_true, ← hnothing, hrun]
            simp
          rw [hfound]
          rfl

/-- A statement that fails is no query that matches nothing, so the diagnostics of a run are the
former and the latter. -/
theorem countP_diagnostic (storage : Storage) (ss : List Statement) :
    (storage.runAll ss).1.countP (·.channel = .diagnostic) =
      (storage.runAll ss).1.countP Outcome.isFailure + storage.misses ss := by
  induction ss generalizing storage with
  | nil => rfl
  | cons s ss ih =>
      have hmisses : storage.misses (s :: ss) =
          (storage.run s).2.misses ss + if storage.matchesNothing s then 1 else 0 :=
        List.countP_cons
      have hnothing := @run_eq_notFound_iff storage s
      have hfirst : (if (storage.run s).1.channel = .diagnostic then 1 else 0) =
          (if (storage.run s).1.isFailure then 1 else 0) +
            if storage.matchesNothing s then 1 else 0 := by
        rw [channel_run_eq_ite]
        cases hfailure : (storage.run s).1.isFailure with
        | false => cases storage.matchesNothing s <;> rfl
        | true =>
            have hfound : storage.matchesNothing s = false := by
              rw [← Bool.not_eq_true, ← hnothing]
              intro h
              rw [h] at hfailure
              contradiction
            rw [hfound]
            rfl
      rw [runAll_cons, List.countP_cons, List.countP_cons, ih, hmisses]
      simp only [decide_eq_true_eq]
      omega

end Storage

/-! ## Diagnostics of a run -/

theorem Outcome.newlines_record {o : Outcome} (h : o.channel = .diagnostic) :
    newlines o.record = 1 := newlines_line (isLine_line h)

namespace Interpreter

variable {i : Interpreter} (hopen : .diagnostic ∉ i.console.closed)

theorem closed_enter (i : Interpreter) (line : String) :
    (i.enter line).console.closed = i.console.closed := by
  unfold enter
  split
  · exact closed_execute _ _
  · rw [report_eq]
    exact Console.closed_write _ _ _

theorem storage_enter (i : Interpreter) (line : String) :
    (i.enter line).storage = (Interpreter.enter { storage := i.storage } line).storage := by
  unfold enter
  split
  · rw [storage_execute, storage_execute]
  · rw [report_eq, report_eq]

include hopen

theorem newlines_execute (ss : List Statement) :
    newlines ((i.execute ss).2.console.text [.diagnostic]) =
      newlines (i.console.text [.diagnostic]) +
        ((i.execute ss).1.failed + i.storage.misses ss) := by
  have hlines : ∀ record ∈ ((i.storage.runAll ss).1.filter (·.channel = .diagnostic)).map
      Outcome.record, newlines record = 1 := by
    rw [List.forall_mem_map]
    intro o ho
    exact Outcome.newlines_record (of_decide_eq_true (List.mem_filter.1 ho).2)
  have hfailed : (i.execute ss).1.failed = (i.storage.runAll ss).1.countP Outcome.isFailure := by
    rw [i.summary_execute]
  rw [Console.text_singleton, records_execute, Console.delivered, if_neg hopen, String.join_append,
    newlines_append, ← Console.text_singleton, newlines_join hlines, List.length_map,
    ← List.countP_eq_length_filter, i.storage.countP_diagnostic, hfailed]

theorem newlines_enter (line : String) :
    newlines ((i.enter line).console.text [.diagnostic]) =
      newlines (i.console.text [.diagnostic]) + i.storage.complaints line := by
  unfold enter Storage.complaints
  cases h : Program.ofText line with
  | ok program =>
      have hsummary : (Interpreter.execute { storage := i.storage } program.statements).1 =
          (i.execute program.statements).1 := by
        rw [summary_execute, summary_execute]
      dsimp only
      rw [newlines_execute hopen, hsummary]
  | error es =>
      have hline : IsLine s!"parsing error: {es.message}" :=
        isLine_append.2 ⟨by decide, Program.isLine_of_ofText h⟩
      have hwritten : (i.report s!"parsing error: {es.message}").console.records .diagnostic =
          i.console.records .diagnostic ++ [s!"parsing error: {es.message}" ++ "\n"] := by
        rw [records_report, Console.delivered, if_neg hopen]
      dsimp only
      rw [Console.text_singleton, hwritten, String.join_append, newlines_append,
        ← Console.text_singleton, newlines_join]
      · rfl
      · rw [List.forall_mem_singleton]
        exact newlines_line hline

theorem newlines_foldl_enter (lines : List String) :
    newlines ((lines.foldl enter i).console.text [.diagnostic]) =
      newlines (i.console.text [.diagnostic]) +
        ((i.storage.entries lines).map fun (before, line) => before.complaints line).sum := by
  induction lines generalizing i with
  | nil => rfl
  | cons line lines ih =>
      have hnext : .diagnostic ∉ (i.enter line).console.closed := by rwa [closed_enter]
      rw [List.foldl_cons, ih hnext, newlines_enter hopen, i.storage.entries_cons, ← storage_enter,
        List.map_cons, List.sum_cons, Nat.add_assoc]

end Interpreter

theorem Session.newlines_run {i : Interpreter} (hopen : .diagnostic ∉ i.console.closed)
    (bytes : List UInt8) (interactive : Bool) :
    newlines ((run ⟨.ofBytes bytes interactive, i⟩).interpreter.console.text [.diagnostic]) =
      newlines (i.console.text [.diagnostic]) +
        ((i.storage.entries (commandLines (trimmedLines (Utf8.decode bytes)))).map
          fun (before, line) => before.complaints line).sum := by
  have hmute : (run ⟨.ofBytes bytes interactive, i⟩).interpreter.mute =
      (commandLines (trimmedLines (Utf8.decode bytes))).foldl Interpreter.enter i.mute := by
    rw [mute_run, Shell.lines_ofBytes]
  have hmuted : ∀ j : Interpreter,
      j.mute.console.text [.diagnostic] = j.console.text [.diagnostic] := fun j =>
    Console.text_mute (by decide)
  have hopen' : .diagnostic ∉ i.mute.console.closed := hopen
  have hentered := Interpreter.newlines_foldl_enter hopen'
    (commandLines (trimmedLines (Utf8.decode bytes)))
  rw [← hmute, hmuted, hmuted] at hentered
  exact hentered

/-- Every statement is run and leaves one record, in order: what it has to say, or one line of
diagnostics if it failed or was a query that matched nothing.  So the line feeds among the
diagnostics count these, and, over a session, the lines that are no programs. -/
theorem newlines_diagnostics (storage : Storage) (log : Array (Channel × String)) :
    let i : Interpreter := ⟨storage, { log }⟩
    (∀ ss : List Statement,
      let runs := storage.situations ss
      let after := i.execute ss
      runs.map Prod.snd = ss ∧
      after.1.executed = ss.length ∧
      after.1.failed = runs.countP (fun (before, s) => (before.run s).1.isFailure) ∧
      after.2.console.log.toList = log.toList ++
        runs.map (fun (before, s) => ((before.run s).1.channel, (before.run s).1.record)) ∧
      (∀ run ∈ runs, (run.1.run run.2).1.channel =
        if (run.1.run run.2).1.isFailure || run.1.matchesNothing run.2 then .diagnostic
        else .result) ∧
      (∀ run ∈ runs, (run.1.run run.2).1.channel = .diagnostic →
        newlines (run.1.run run.2).1.record = 1) ∧
      newlines (after.2.console.text [.diagnostic]) =
        newlines (i.console.text [.diagnostic]) + (after.1.failed + storage.misses ss)) ∧
    ∀ bytes interactive,
      let session := Session.run ⟨.ofBytes bytes interactive, i⟩
      let lines := commandLines (trimmedLines (Utf8.decode bytes))
      session.shell.history.toList = lines ∧
      newlines (session.interpreter.console.text [.diagnostic]) =
        newlines (i.console.text [.diagnostic]) +
          ((storage.entries lines).map fun (before, line) => before.complaints line).sum := by
  intro i
  have hopen : .diagnostic ∉ i.console.closed := List.not_mem_nil
  constructor
  · intro ss runs after
    have hruns : runs.map (fun (before, s) => (before.run s).1) = (storage.runAll ss).1 :=
      storage.map_run_situations ss
    have hexecuted : after.1.executed = (storage.runAll ss).1.length := by rw [i.summary_execute]
    have hfailed : after.1.failed = (storage.runAll ss).1.countP Outcome.isFailure := by
      rw [i.summary_execute]
    have hlog : after.2.console.log.toList =
        log.toList ++ (storage.runAll ss).1.map fun o => (o.channel, o.record) :=
      Interpreter.log_execute _ rfl
    have hstatements : runs.map Prod.snd = ss := map_snd_trail _ _ _
    have hlength : runs.length = ss.length := by rw [← hstatements, List.length_map]
    refine ⟨hstatements, ?_, ?_, ?_, ?_, ?_, Interpreter.newlines_execute hopen ss⟩
    · rw [hexecuted, ← hruns, List.length_map, hlength]
    · rw [hfailed, ← hruns, List.countP_map]
      rfl
    · rw [hlog, ← hruns, List.map_map]
      rfl
    · exact fun run _ => run.1.channel_run_eq_ite run.2
    · exact fun run _ hchannel => Outcome.newlines_record hchannel
  · intro bytes interactive session lines
    constructor
    · rw [Session.history_run, Shell.lines_ofBytes]
      exact List.nil_append lines
    · exact Session.newlines_run hopen bytes interactive

example : newlines ((Interpreter.execute { storage := .memory .empty }
      [.park "KA\n01" "White", .leave 1, .slotNumbersWithColour "a\nb"]).2.console.text
        [.diagnostic]) = 3 := by decide +kernel

end ParkingLot
