import ParkingLot.Proofs.Session.Batch
/-!
# Holding a session again

The history of a session holds its command lines up to `exit` (`Session.history_run`).  Entered into
a fresh shell they are read as the lines they are, since each is trimmed, not blank and of no
meaning to the shell.  So they bring about the same session (`Session.run_historyBytes`): all that
is not in the history has only made the shell speak.
-/

namespace ParkingLot

open Text

/-! ## Trimmed lines -/

structure IsTrimmed (line : String) : Prop where
  newline_not_mem : '\n' ∉ line.toList
  trimLineEnd_eq : trimLineEnd line.toList = line.toList

theorem isTrimmed_ofList_trimLineEnd {cs : List Char} (h : '\n' ∉ cs) :
    IsTrimmed (String.ofList (trimLineEnd cs)) := by
  have hfront : trimLineEnd cs <+: cs := List.rdropWhile_prefix isLineEnd cs
  have hidempotent : trimLineEnd (trimLineEnd cs) = trimLineEnd cs :=
    List.rdropWhile_idempotent isLineEnd cs
  constructor
  · rw [String.toList_ofList]
    exact fun hmem => h (hfront.subset hmem)
  · rw [String.toList_ofList, hidempotent]

theorem isTrimmed_of_mem_trimmedLines {cs : List Char} :
    ∀ line ∈ trimmedLines cs, IsTrimmed line := by
  induction cs using @lines_induction _ _ _ '\n' with
  | last as has =>
      by_cases hempty : as = []
      · simp [hempty, trimmedLines]
      · rw [trimmedLines_eq_singleton hempty has, List.forall_mem_singleton]
        exact isTrimmed_ofList_trimLineEnd has
  | line as bs has ih =>
      rw [trimmedLines_append_newline has, List.forall_mem_cons]
      exact ⟨isTrimmed_ofList_trimLineEnd has, ih⟩

theorem trimmedLines_intercalate {lines : List String}
    (h : ∀ line ∈ lines, IsTrimmed line ∧ line ≠ "") :
    trimmedLines ("\n".intercalate lines).toList = lines := by
  induction lines with
  | nil => rfl
  | cons line lines ih =>
      rw [List.forall_mem_cons] at h
      obtain ⟨⟨htrimmed, hne⟩, hrest⟩ := h
      have hline : String.ofList (trimLineEnd line.toList) = line := by
        rw [htrimmed.trimLineEnd_eq, String.ofList_toList]
      cases lines with
      | nil =>
          have hne' : line.toList ≠ [] := by simpa using hne
          rw [String.intercalate_singleton,
            trimmedLines_eq_singleton hne' htrimmed.newline_not_mem, hline]
      | cons next lines =>
          have htext : ("\n".intercalate (line :: next :: lines)).toList =
              line.toList ++ '\n' :: ("\n".intercalate (next :: lines)).toList := by
            rw [String.intercalate_cons_cons]
            simp
          rw [htext, trimmedLines_append_newline htrimmed.newline_not_mem, hline, ih hrest]

/-! ## Command lines -/

private theorem of_mem_commandLines {lines : List String} :
    ∀ line ∈ commandLines lines, line ∈ lines ∧ LineClass.of line = .command := by
  induction lines with
  | nil => simp [commandLines]
  | cons line lines ih =>
      have hrest : ∀ text ∈ commandLines lines,
          text ∈ line :: lines ∧ LineClass.of text = .command := fun text htext =>
        ⟨List.mem_cons_of_mem _ (ih text htext).1, (ih text htext).2⟩
      cases hclass : LineClass.of line with
      | exit => simp [commandLines_of_exit _ hclass]
      | history => rwa [commandLines_of_history _ hclass]
      | blank => rwa [commandLines_of_blank _ hclass]
      | command =>
          rw [commandLines_of_command _ hclass, List.forall_mem_cons]
          exact ⟨⟨List.mem_cons_self, hclass⟩, hrest⟩

private theorem commandLines_eq_self {lines : List String}
    (h : ∀ line ∈ lines, LineClass.of line = .command) : commandLines lines = lines := by
  induction lines with
  | nil => rfl
  | cons line lines ih =>
      rw [List.forall_mem_cons] at h
      rw [commandLines_of_command _ h.1, ih h.2]

private theorem ne_empty_of_command {line : String} (h : LineClass.of line = .command) : line ≠ "" := by
  rintro rfl
  have hblank : LineClass.of "" = .blank := by decide
  rw [hblank] at h
  contradiction

/-! ## What a shell keeps -/

namespace Shell

variable {shell : Shell}

theorem history_readLine_eq_push {text : String} (h : shell.readLine.input = .line text) :
    shell.readLine.shell.history = shell.history.push text := by
  obtain ⟨raws, interactive, history⟩ := shell
  simp only [readLine] at *
  fun_induction readFrom interactive history raws with
  | case1 | case2 => contradiction
  | case3 raw raws line hclass reading listing ih => exact ih h
  | case4 raw raws line hclass reading ih => exact ih h
  | case5 raw raws line hclass => rw [← Input.line.inj h]

theorem history_readLine_eq_self (h : ∀ text, shell.readLine.input ≠ .line text) :
    shell.readLine.shell.history = shell.history := by
  obtain ⟨raws, interactive, history⟩ := shell
  simp only [readLine] at *
  fun_induction readFrom interactive history raws with
  | case1 | case2 => rfl
  | case3 raw raws line hclass reading listing ih => exact ih h
  | case4 raw raws line hclass reading ih => exact ih h
  | case5 raw raws line hclass => exact absurd rfl (h line)

/-- The history as an input: its lines, with a line feed between each two. -/
def historyBytes (shell : Shell) : List UInt8 :=
  ("\n".intercalate shell.history.toList).toUTF8.data.toList

theorem lines_ofBytes (bytes : List UInt8) (interactive : Bool) :
    (ofBytes bytes interactive).lines = commandLines (trimmedLines (Utf8.decode bytes)) := by
  rw [lines, map_lineText_pending]

example : (ofBytes ("status\r\nhistory\n \nexit \r\r\n".toUTF8.data.toList ++ [0xff]) true).lines =
    ["status", "exit ", "\ufffd"] := by decide +kernel

theorem isTrimmed_of_mem_lines_ofBytes {bytes : List UInt8} {interactive : Bool} :
    ∀ line ∈ (ofBytes bytes interactive).lines, IsTrimmed line ∧ LineClass.of line = .command := by
  intro line hline
  rw [lines_ofBytes] at hline
  obtain ⟨hmem, hclass⟩ := of_mem_commandLines line hline
  exact ⟨isTrimmed_of_mem_trimmedLines line hmem, hclass⟩

theorem lines_ofBytes_historyBytes {interactive : Bool}
    (h : ∀ line ∈ shell.history.toList, IsTrimmed line ∧ LineClass.of line = .command) :
    (ofBytes shell.historyBytes interactive).lines = shell.history.toList := by
  have hlines : trimmedLines ("\n".intercalate shell.history.toList).toList =
      shell.history.toList :=
    trimmedLines_intercalate fun line hline =>
      ⟨(h line hline).1, ne_empty_of_command (h line hline).2⟩
  rw [lines, historyBytes, map_lineText_ofBytes, hlines]
  exact commandLines_eq_self fun line hline => (h line hline).2

end Shell

/-! ## The second session -/

namespace Session

variable {s t : Session}

theorem shell_of_step {input : Input} (h : s.step = (input, t)) :
    t.shell = s.shell.readLine.shell := by
  unfold step at h
  dsimp only at h
  split at h
  all_goals
    obtain ⟨-, rfl⟩ := Prod.mk.inj h
    rfl

/-- All lines that a session runs go into the history, in order, and no others. -/
theorem history_run (s : Session) :
    s.run.shell.history.toList = s.shell.history.toList ++ s.shell.lines := by
  fun_induction run s with
  | case1 s text t hstep ih =>
      obtain ⟨hinput, hshell, -⟩ := step_eq_line hstep
      rw [ih, hshell, Shell.history_readLine_eq_push hinput, Array.toList_push,
        List.append_assoc, List.singleton_append, ← Shell.lines_of_readLine_eq_line hinput]
  | case2 s input t hne hstep =>
      obtain ⟨hinput, -⟩ := step_ne_line hstep hne
      rw [shell_of_step hstep, Shell.history_readLine_eq_self hinput,
        Shell.lines_of_readLine_ne_line hinput, List.append_nil]

/-- The history of a session holds the command lines among the lines that its bytes stand for, up to
`exit`.  A fresh session over it, from the same beginning, shows the same results and the same
diagnostics and ends with the same storage and the same history. -/
theorem run_historyBytes (bytes : List UInt8) (interactive interactive' : Bool)
    (i : Interpreter) :
    let session := run ⟨.ofBytes bytes interactive, i⟩
    let again := run ⟨.ofBytes session.shell.historyBytes interactive', i⟩
    session.shell.history.toList = commandLines (trimmedLines (Utf8.decode bytes)) ∧
    again.interpreter.console.text [.result] = session.interpreter.console.text [.result] ∧
    again.interpreter.console.text [.diagnostic] =
      session.interpreter.console.text [.diagnostic] ∧
    again.interpreter.storage = session.interpreter.storage ∧
    again.shell.history = session.shell.history := by
  intro session again
  have hhistory : session.shell.history.toList = (Shell.ofBytes bytes interactive).lines :=
    history_run ⟨.ofBytes bytes interactive, i⟩
  have hlines : (Shell.ofBytes session.shell.historyBytes interactive').lines =
      session.shell.history.toList := by
    apply Shell.lines_ofBytes_historyBytes
    rw [hhistory]
    exact Shell.isTrimmed_of_mem_lines_ofBytes
  -- Both sessions are the same lines entered one after the other.
  have hmute : again.interpreter.mute = session.interpreter.mute := by
    rw [mute_run, mute_run, hlines, hhistory]
  have hconsole : again.interpreter.console.mute = session.interpreter.console.mute := by
    change again.interpreter.mute.console = session.interpreter.mute.console
    rw [hmute]
  have hstorage : again.interpreter.mute.storage = session.interpreter.mute.storage := by
    rw [hmute]
  have hagain : again.shell.history.toList =
      (Shell.ofBytes session.shell.historyBytes interactive').lines :=
    history_run ⟨.ofBytes session.shell.historyBytes interactive', i⟩
  refine ⟨?_, Console.text_eq_of_mute_eq (by decide) hconsole,
    Console.text_eq_of_mute_eq (by decide) hconsole, hstorage, Array.toList_inj.1 ?_⟩
  · rw [hhistory, Shell.lines_ofBytes]
  · rw [hagain, hlines]

end Session

end ParkingLot
