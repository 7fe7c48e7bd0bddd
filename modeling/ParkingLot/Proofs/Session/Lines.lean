import ParkingLot.Proofs.Execution
import ParkingLot.Session
/-!
# The lines of a session

Of the lines of its input a shell hands out those that are commands, up to `exit`
(`Shell.lines`).  A session is these lines entered one after the other (`Session.mute_run`), and
all that it adds are the words of the shell.
-/

namespace ParkingLot

open Text

/-! ## Which lines are which -/

namespace LineClass

variable {line : String}

theorem of_eq_exit_iff : of line = .exit ↔ line = "exit" := by
  unfold of
  split_ifs <;> simp [*]

theorem of_eq_history_iff : of line = .history ↔ line = "history" := by
  unfold of
  split_ifs <;> simp_all

theorem of_eq_blank_iff : of line = .blank ↔ isBlank line.toList = true := by
  have hexit : isBlank "exit".toList = false := by decide
  have hhistory : isBlank "history".toList = false := by decide
  unfold of
  split_ifs <;> simp_all

theorem of_eq_command_iff : of line = .command ↔
    line ≠ "exit" ∧ line ≠ "history" ∧ isBlank line.toList = false := by
  unfold of
  split_ifs <;> simp_all

end LineClass

/-- The commands among the lines of an input, up to `exit`. -/
def commandLines : List String → List String
  | [] => []
  | line :: lines =>
    match LineClass.of line with
    | .exit => []
    | .history | .blank => commandLines lines
    | .command => line :: commandLines lines

section CommandLines

variable {line : String} (lines : List String)

theorem commandLines_of_exit (h : LineClass.of line = .exit) :
    commandLines (line :: lines) = [] := by
  rw [commandLines, h]

theorem commandLines_of_history (h : LineClass.of line = .history) :
    commandLines (line :: lines) = commandLines lines := by
  rw [commandLines, h]

theorem commandLines_of_blank (h : LineClass.of line = .blank) :
    commandLines (line :: lines) = commandLines lines := by
  rw [commandLines, h]

theorem commandLines_of_command (h : LineClass.of line = .command) :
    commandLines (line :: lines) = line :: commandLines lines := by
  rw [commandLines, h]

theorem commandLines_append {before : List String}
    (h : ∀ line ∈ before, LineClass.of line ≠ .exit) :
    commandLines (before ++ lines) = commandLines before ++ commandLines lines := by
  induction before with
  | nil => rfl
  | cons line before ih =>
      rw [List.forall_mem_cons] at h
      rw [List.cons_append]
      cases hclass : LineClass.of line with
      | exit => exact absurd hclass h.1
      | history =>
          rw [commandLines_of_history _ hclass, commandLines_of_history _ hclass, ih h.2]
      | blank => rw [commandLines_of_blank _ hclass, commandLines_of_blank _ hclass, ih h.2]
      | command =>
          rw [commandLines_of_command _ hclass, commandLines_of_command _ hclass, ih h.2,
            List.cons_append]

end CommandLines

namespace Shell

/-! ## One reading -/

-- The cases of `readFrom`, in order: the end of the input, `exit`, `history`, a blank line, a
-- command.  Only the third and the fourth read on.

variable {shell : Shell}

def lines (shell : Shell) : List String := commandLines (shell.pending.map lineText)

theorem lines_of_readLine_eq_line {text : String} (h : shell.readLine.input = .line text) :
    shell.lines = text :: shell.readLine.shell.lines := by
  obtain ⟨raws, interactive, history⟩ := shell
  simp only [readLine, lines] at *
  fun_induction readFrom interactive history raws with
  | case1 | case2 => contradiction
  | case3 raw raws line hclass reading listing ih =>
      rw [List.map_cons, commandLines_of_history _ hclass, ih h]
  | case4 raw raws line hclass reading ih =>
      rw [List.map_cons, commandLines_of_blank _ hclass, ih h]
  | case5 raw raws line hclass =>
      rw [← Input.line.inj h]
      exact commandLines_of_command _ hclass

theorem lines_of_readLine_ne_line (h : ∀ text, shell.readLine.input ≠ .line text) :
    shell.lines = [] := by
  obtain ⟨raws, interactive, history⟩ := shell
  simp only [readLine, lines] at *
  fun_induction readFrom interactive history raws with
  | case1 => rfl
  | case2 raw raws line hclass => exact commandLines_of_exit _ hclass
  | case3 raw raws line hclass reading listing ih =>
      rw [List.map_cons, commandLines_of_history _ hclass, ih h]
  | case4 raw raws line hclass reading ih =>
      rw [List.map_cons, commandLines_of_blank _ hclass, ih h]
  | case5 raw raws line hclass => exact absurd rfl (h line)

theorem pending_readLine_suffix (shell : Shell) :
    shell.readLine.shell.pending <:+ shell.pending := by
  obtain ⟨raws, interactive, history⟩ := shell
  simp only [readLine]
  fun_induction readFrom interactive history raws with
  | case1 => exact List.suffix_rfl
  | case2 raw raws | case5 raw raws => exact List.suffix_cons raw raws
  | case3 raw raws line hclass reading listing ih => exact ih.trans (List.suffix_cons raw raws)
  | case4 raw raws line hclass reading ih => exact ih.trans (List.suffix_cons raw raws)

theorem interactive_readLine (shell : Shell) :
    shell.readLine.shell.interactive = shell.interactive := by
  obtain ⟨raws, interactive, history⟩ := shell
  simp only [readLine]
  fun_induction readFrom interactive history raws with
  | case1 | case2 | case5 => rfl
  | case3 raw raws line hclass reading listing ih => exact ih
  | case4 raw raws line hclass reading ih => exact ih

def IsBuiltin (line : String) : Prop := line = "exit" ∨ line = "history"

theorem isBuiltin_of_exit {line : String} (h : LineClass.of line = .exit) : IsBuiltin line :=
  .inl (LineClass.of_eq_exit_iff.1 h)

theorem isBuiltin_of_history {line : String} (h : LineClass.of line = .history) :
    IsBuiltin line :=
  .inr (LineClass.of_eq_history_iff.1 h)

theorem printed_readLine (hquiet : shell.interactive = false)
    (h : ∀ raw ∈ shell.pending, ¬ IsBuiltin (lineText raw)) : shell.readLine.printed = "" := by
  obtain ⟨raws, interactive, history⟩ := shell
  simp only [readLine] at *
  subst hquiet
  fun_induction readFrom false history raws with
  | case1 | case5 => rfl
  | case2 raw raws line hclass => exact absurd (isBuiltin_of_exit hclass) (h raw (by simp))
  | case3 raw raws line hclass => exact absurd (isBuiltin_of_history hclass) (h raw (by simp))
  | case4 raw raws line hclass reading ih =>
      rw [List.forall_mem_cons] at h
      rw [ih h.2]
      rfl

end Shell

/-! ## A whole session -/

namespace Session

variable {s t : Session} {text : String}

theorem step_eq_line (h : s.step = (.line text, t)) :
    s.shell.readLine.input = .line text ∧ t.shell = s.shell.readLine.shell ∧
      t.interpreter = Interpreter.enter { s.interpreter with
        console := s.interpreter.console.write .shell s.shell.readLine.printed } text := by
  unfold step at h
  dsimp only at h
  split at h
  · next line hline =>
    obtain ⟨hinput, rfl⟩ := Prod.mk.inj h
    rw [hline] at hinput
    cases hinput
    exact ⟨hline, rfl, rfl⟩
  · next hline => exact absurd (Prod.mk.inj h).1 (hline text)

theorem step_ne_line {input : Input} (h : s.step = (input, t))
    (hinput : ∀ text, input ≠ .line text) :
    (∀ text, s.shell.readLine.input ≠ .line text) ∧
      t.interpreter = { s.interpreter with
        console := s.interpreter.console.write .shell s.shell.readLine.printed } := by
  unfold step at h
  dsimp only at h
  split at h
  · next line hline =>
    rw [hline] at h
    exact absurd (Prod.mk.inj h).1.symm (hinput line)
  · next hline =>
    obtain ⟨rfl, rfl⟩ := Prod.mk.inj h
    exact ⟨hinput, rfl⟩

/-- But for the words of the shell, a session comes to its lines entered in order. -/
theorem mute_run (s : Session) :
    s.run.interpreter.mute = s.shell.lines.foldl Interpreter.enter s.interpreter.mute := by
  have hwrite : ∀ (i : Interpreter) (printed : String),
      Interpreter.mute { i with console := i.console.write .shell printed } = i.mute := by
    intro i printed
    rw [Interpreter.mute, Console.mute_write_shell, Interpreter.mute]
  fun_induction run s with
  | case1 s text t hstep ih =>
      obtain ⟨hinput, hshell, hinterpreter⟩ := step_eq_line hstep
      rw [ih, Shell.lines_of_readLine_eq_line hinput, hshell, hinterpreter, List.foldl_cons,
        Interpreter.mute_enter, hwrite]
  | case2 s input t hne hstep =>
      obtain ⟨hinput, hinterpreter⟩ := step_ne_line hstep hne
      rw [Shell.lines_of_readLine_ne_line hinput, hinterpreter, hwrite, List.foldl_nil]

theorem text_shell_run (hquiet : s.shell.interactive = false)
    (h : ∀ raw ∈ s.shell.pending, ¬ Shell.IsBuiltin (lineText raw)) :
    s.run.interpreter.console.text [.shell] = s.interpreter.console.text [.shell] := by
  fun_induction run s with
  | case1 s text t hstep ih =>
      obtain ⟨hinput, hshell, hinterpreter⟩ := step_eq_line hstep
      have hquiet' : t.shell.interactive = false := by
        rw [hshell, Shell.interactive_readLine, hquiet]
      have hpending : ∀ raw ∈ t.shell.pending, ¬ Shell.IsBuiltin (lineText raw) := by
        intro raw hraw
        rw [hshell] at hraw
        exact h raw ((Shell.pending_readLine_suffix s.shell).subset hraw)
      rw [ih hquiet' hpending, hinterpreter, Interpreter.text_shell_enter,
        Shell.printed_readLine hquiet h, Console.text_write_empty]
  | case2 s input t hne hstep =>
      obtain ⟨-, hinterpreter⟩ := step_ne_line hstep hne
      rw [hinterpreter, Shell.printed_readLine hquiet h, Console.text_write_empty]

end Session

end ParkingLot
