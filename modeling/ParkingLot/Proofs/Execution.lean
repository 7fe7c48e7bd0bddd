import ParkingLot.Interpreter
import ParkingLot.Proofs.Console
/-!
# Running in pieces

Running two lists of statements one after the other is running the two of them as one list, and
what the shell has said has no part in it.
-/

namespace ParkingLot

namespace Outcome

theorem channel_ne_shell (o : Outcome) : o.channel ≠ .shell := by
  obtain _ | ⟨_ | _⟩ := o <;> simp [channel]

private theorem mute_foldl_writeLine (outcomes : List Outcome) (console : Console) :
    (outcomes.foldl (fun console o => console.writeLine o.channel o.line) console).mute =
      outcomes.foldl (fun console o => console.writeLine o.channel o.line) console.mute := by
  induction outcomes generalizing console with
  | nil => rfl
  | cons o outcomes ih =>
      rw [List.foldl_cons, List.foldl_cons, ih, Console.writeLine,
        Console.mute_write o.channel_ne_shell]
      rfl

private theorem text_shell_foldl_writeLine (outcomes : List Outcome) (console : Console) :
    (outcomes.foldl (fun console o => console.writeLine o.channel o.line) console).text
      [.shell] = console.text [.shell] := by
  induction outcomes generalizing console with
  | nil => rfl
  | cons o outcomes ih =>
      have hchannel : o.channel ∉ [Channel.shell] := by simp [o.channel_ne_shell]
      rw [List.foldl_cons, ih, Console.writeLine, Console.text_write_of_not_mem hchannel]

def record (o : Outcome) : String := o.line ++ "\n"

private theorem records_foldl_writeLine (outcomes : List Outcome) (console : Console)
    (channel : Channel) :
    (outcomes.foldl (fun console o => console.writeLine o.channel o.line) console).records
        channel =
      console.records channel ++ console.delivered channel
        ((outcomes.filter (·.channel = channel)).map record) := by
  induction outcomes generalizing console with
  | nil => simp [Console.delivered]
  | cons o outcomes ih =>
      rw [List.foldl_cons, ih, Console.writeLine, Console.delivered_write]
      by_cases h : o.channel = channel
      · rw [List.filter_cons_of_pos (by simp [h]), List.map_cons, ← List.singleton_append,
          Console.delivered_append, ← List.append_assoc, h, Console.records_write]
        rfl
      · rw [List.filter_cons_of_neg (by simp [h]), Console.records_write_of_ne h]

private theorem closed_foldl_writeLine (outcomes : List Outcome) (console : Console) :
    (outcomes.foldl (fun console o => console.writeLine o.channel o.line) console).closed =
      console.closed := by
  induction outcomes generalizing console with
  | nil => rfl
  | cons o outcomes ih => rw [List.foldl_cons, ih, Console.writeLine, Console.closed_write]

private theorem log_foldl_writeLine (outcomes : List Outcome) {console : Console}
    (hopen : console.closed = []) :
    (outcomes.foldl (fun console o => console.writeLine o.channel o.line) console).log.toList =
      console.log.toList ++ outcomes.map fun o => (o.channel, o.record) := by
  induction outcomes generalizing console with
  | nil => rw [List.foldl_nil, List.map_nil, List.append_nil]
  | cons o outcomes ih =>
      have hwritten : (console.writeLine o.channel o.line).log.toList =
          console.log.toList ++ [(o.channel, o.record)] := by
        simp [Console.writeLine, Console.write, hopen, record]
      have hnext : (console.writeLine o.channel o.line).closed = [] := by
        rw [Console.writeLine, Console.closed_write, hopen]
      rw [List.foldl_cons, ih hnext, hwritten, List.append_assoc, List.map_cons,
        List.singleton_append]

end Outcome

namespace Storage

theorem runAll_cons (storage : Storage) (s : Statement) (ss : List Statement) :
    storage.runAll (s :: ss) =
      ((storage.run s).1 :: ((storage.run s).2.runAll ss).1, ((storage.run s).2.runAll ss).2) :=
  rfl

theorem runAll_append (storage : Storage) (ss ts : List Statement) :
    storage.runAll (ss ++ ts) =
      ((storage.runAll ss).1 ++ ((storage.runAll ss).2.runAll ts).1,
        ((storage.runAll ss).2.runAll ts).2) := by
  induction ss generalizing storage with
  | nil => rfl
  | cons s ss ih => rw [List.cons_append, runAll_cons, runAll_cons, ih, List.cons_append]

end Storage

namespace Interpreter

/-! ## A console takes what it is given -/

theorem emit_console (console : Console) (channel : Channel) (line : String) :
    Executor.emit console channel line = console.writeLine channel line := by
  have hemit : Executor.emit console channel line =
      Executor.settle .write (console.answer channel, console.writeLine channel line) := rfl
  rw [hemit]
  cases console.answer channel <;> rfl

private theorem settle_flush_console (console : Console) (channel : Channel) :
    Executor.settle .flush (Outlet.flush console channel) = console := by
  have hflush : Outlet.flush console channel = (console.answer channel, console) := rfl
  rw [hflush]
  cases console.answer channel <;> rfl

private theorem settle_flushBoth_console (console : Console) :
    Executor.settle .flush (Executor.flushBoth console) = console := by
  have hflush : Outlet.flush console .result = (console.answer .result, console) := rfl
  rw [Executor.flushBoth, hflush]
  cases console.answer .result with
  | error e => rfl
  | ok => exact settle_flush_console console .diagnostic

private theorem step_console (storage : Storage) (console : Console) (summary : Summary)
    (s : Statement) :
    Executor.step ⟨storage, console⟩ summary s =
      (⟨summary.executed + 1, summary.failed + if (storage.run s).1.isFailure then 1 else 0⟩,
        ⟨(storage.run s).2,
          console.writeLine (storage.run s).1.channel (storage.run s).1.line⟩) := by
  rw [Executor.step, storage.exec_eq_run, ← emit_console]

private theorem steps_console (storage : Storage) (console : Console) (summary : Summary)
    (ss : List Statement) :
    Executor.steps ⟨storage, console⟩ summary ss =
      (⟨summary.executed + (storage.runAll ss).1.length,
          summary.failed + (storage.runAll ss).1.countP Outcome.isFailure⟩,
        ⟨(storage.runAll ss).2,
          (storage.runAll ss).1.foldl (fun console o => console.writeLine o.channel o.line)
            console⟩) := by
  induction ss generalizing storage console summary with
  | nil => rfl
  | cons s ss ih =>
      rw [Executor.steps_cons, step_console, ih, storage.runAll_cons, List.length_cons,
        List.countP_cons, List.foldl_cons, Nat.add_assoc, Nat.add_comm 1, Nat.add_assoc,
        Nat.add_comm (ite _ _ _)]

/-- Each outcome is written down before the next statement is run, which comes to the same as
writing all of them down in the end. -/
theorem execute_eq (i : Interpreter) (ss : List Statement) :
    i.execute ss =
      (⟨(i.storage.runAll ss).1.length, (i.storage.runAll ss).1.countP Outcome.isFailure⟩,
        ⟨(i.storage.runAll ss).2,
          (i.storage.runAll ss).1.foldl (fun console o => console.writeLine o.channel o.line)
            i.console⟩) := by
  rw [execute, executor, Executor.execute, steps_console, Nat.zero_add, Nat.zero_add]
  dsimp only
  rw [settle_flushBoth_console]
  rfl

theorem report_eq (i : Interpreter) (message : String) :
    i.report message = ⟨i.storage, i.console.writeLine .diagnostic message⟩ := by
  rw [report, executor, Executor.report, emit_console, settle_flush_console]
  rfl

variable (i : Interpreter) (ss ts : List Statement)

def mute : Interpreter := { i with console := i.console.mute }

theorem storage_execute : (i.execute ss).2.storage = (i.storage.runAll ss).2 := by
  rw [execute_eq]

theorem summary_execute :
    (i.execute ss).1 =
      ⟨(i.storage.runAll ss).1.length, (i.storage.runAll ss).1.countP Outcome.isFailure⟩ := by
  rw [execute_eq]

theorem closed_execute : (i.execute ss).2.console.closed = i.console.closed := by
  rw [execute_eq]
  exact Outcome.closed_foldl_writeLine _ _

theorem execute_nil : (i.execute []).2 = i := by
  rw [execute_eq]
  rfl

theorem execute_append :
    (i.execute (ss ++ ts)).2 = ((i.execute ss).2.execute ts).2 := by
  simp only [execute_eq, Storage.runAll_append, List.foldl_append]

/-- Programs run one after the other are run as one program. -/
theorem foldl_execute (programs : List Program) (i : Interpreter) :
    programs.foldl (fun i p => (i.execute p.statements).2) i =
      (i.execute (programs.flatMap Program.statements)).2 := by
  induction programs generalizing i with
  | nil => exact (execute_nil i).symm
  | cons p programs ih => rw [List.foldl_cons, ih, List.flatMap_cons, execute_append]

theorem enter_of_ofText_eq_ok {line : String} {program : Program}
    (h : Program.ofText line = .ok program) :
    i.enter line = (i.execute program.statements).2 := by
  rw [enter, h]

/-- A line that is no program is one line of diagnostics and nothing else. -/
theorem enter_of_ofText_eq_error {line : String} {e : SyntaxError}
    (h : Program.ofText line = .error { first := e }) :
    i.enter line = i.report s!"parsing error: {e.message}" := by
  have hmessage : SyntaxErrors.message { first := e } = e.message := rfl
  rw [enter, h, ← hmessage]

theorem mute_report (message : String) : (i.report message).mute = i.mute.report message := by
  have hwrite := @Console.mute_write i.console .diagnostic (by decide) (message ++ "\n")
  rw [mute, report_eq, report_eq, Console.writeLine, hwrite]
  rfl

theorem mute_execute : (i.execute ss).2.mute = (i.mute.execute ss).2 := by
  simp only [mute, execute_eq, Outcome.mute_foldl_writeLine]

theorem mute_enter (line : String) : (i.enter line).mute = i.mute.enter line := by
  unfold enter
  split
  · exact mute_execute _ _
  · exact mute_report _ _

theorem records_execute (channel : Channel) :
    (i.execute ss).2.console.records channel =
      i.console.records channel ++ i.console.delivered channel
        (((i.storage.runAll ss).1.filter (·.channel = channel)).map Outcome.record) := by
  rw [execute_eq]
  exact Outcome.records_foldl_writeLine _ _ _

variable {i} in
theorem log_execute (hopen : i.console.closed = []) :
    (i.execute ss).2.console.log.toList =
      i.console.log.toList ++ (i.storage.runAll ss).1.map fun o => (o.channel, o.record) := by
  rw [execute_eq]
  exact Outcome.log_foldl_writeLine _ hopen

theorem records_report (message : String) :
    (i.report message).console.records .diagnostic =
      i.console.records .diagnostic ++ i.console.delivered .diagnostic [message ++ "\n"] := by
  rw [report_eq]
  exact Console.records_write _

theorem records_report_of_ne {channel : Channel} (h : channel ≠ .diagnostic) (message : String) :
    (i.report message).console.records channel = i.console.records channel := by
  rw [report_eq]
  exact Console.records_write_of_ne (Ne.symm h) _

theorem text_shell_execute :
    (i.execute ss).2.console.text [.shell] = i.console.text [.shell] := by
  rw [execute_eq]
  exact Outcome.text_shell_foldl_writeLine _ _

theorem text_shell_enter (line : String) :
    (i.enter line).console.text [.shell] = i.console.text [.shell] := by
  unfold enter
  split
  · exact text_shell_execute _ _
  · rw [report_eq]
    exact Console.text_write_of_not_mem (by decide) _

end Interpreter

end ParkingLot
