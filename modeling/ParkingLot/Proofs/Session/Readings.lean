import Mathlib.Data.List.Forall2
import ParkingLot.Proofs.Language.Tokenization
import ParkingLot.Proofs.Session.Replay
/-!
# What a shell hands out

Reading line after line from a shell, said without a reader: how bytes are cut into lines
(`IsCut`), what the text of a line is (`IsTextOf`), and what becomes of the lines that one call uses
up (`IsCall`).  Any number of calls on a shell over any bytes goes by these three
(`Shell.calls_readings`).
-/

namespace ParkingLot

open Text

/-! ## Lines of bytes -/

/-- The lines that bytes are cut into: each ends with its line feed, but for one at the end that has
none. -/
inductive IsCut : List UInt8 → List (List UInt8) → Prop
  | nil : IsCut [] []
  | last {bytes : List UInt8} : bytes ≠ [] → (0x0a : UInt8) ∉ bytes → IsCut bytes [bytes]
  | line {line bytes : List UInt8} {raws : List (List UInt8)} : (0x0a : UInt8) ∉ line →
      IsCut bytes raws → IsCut (line ++ 0x0a :: bytes) ((line ++ [0x0a]) :: raws)

/-- The text is what a line of bytes stands for, and no carriage return or line feed is left at its
end. -/
structure IsTextOf (raw : List UInt8) (text : String) : Prop where
  decode_eq : ∃ ends, Utf8.decode raw = text.toList ++ ends ∧ ∀ c ∈ ends, c = '\n' ∨ c = '\r'
  trimmed : ∀ c ∈ text.toList.getLast?, c ≠ '\n' ∧ c ≠ '\r'

theorem isCut_cutAfter (bytes : List UInt8) : IsCut bytes (cutAfter 0x0a bytes) := by
  induction bytes using @lines_induction _ _ _ (0x0a : UInt8) with
  | last as has =>
      by_cases hne : as = []
      · rw [hne]
        exact .nil
      · rw [cutAfter_eq_singleton hne has]
        exact .last hne has
  | line as bs has ih =>
      rw [cutAfter_append_stop has]
      exact .line has ih

theorem isTextOf_lineText (raw : List UInt8) : IsTextOf raw (lineText raw) := by
  have hiff : ∀ c, isLineEnd c = true ↔ c = '\n' ∨ c = '\r' := by
    intro c
    rw [isLineEnd, Bool.or_eq_true, beq_iff_eq, beq_iff_eq]
  obtain ⟨ends, hline, hends⟩ := exists_append_trimLineEnd (Utf8.decode raw)
  rw [lineText]
  constructor
  · rw [String.toList_ofList]
    exact ⟨ends, hline, fun c hc => (hiff c).1 (hends c hc)⟩
  · rw [String.toList_ofList, trimLineEnd, List.getLast?_reverse]
    intro c hc
    have hkept := not_of_mem_head?_dropWhile c hc
    rw [← Bool.not_eq_true, hiff, not_or] at hkept
    exact hkept

/-! ## One call -/

/-- How a call ends, by the last of the lines that it uses up, if any, and the lines left. -/
inductive Ends : List String → List String → Input → Prop
  | ended : Ends [] [] .ended
  | exit {rest : List String} : Ends ["exit"] rest .exit
  | line {text : String} {rest : List String} : text ≠ "exit" → text ≠ "history" →
      isBlank text.toList = false → Ends [text] rest (.line text)

def printedFor (interactive : Bool) (answered : List String) (text : String) : String :=
  Shell.prompt interactive ++
    if text = "history" then "\n".intercalate answered ++ "\n"
    else if text = "exit" then "Goodbye!\n"
    else ""

/-- One call, when the lines `answered` have been answered before: the lines that it uses up, the
lines left, and what it hands out and prints. -/
structure IsCall (interactive : Bool) (answered consumed rest : List String) (input : Input)
    (printed : String) : Prop where
  consumed_eq : ∃ passed last, consumed = passed ++ last ∧
    (∀ text ∈ passed, text = "history" ∨ isBlank text.toList = true) ∧ Ends last rest input
  printed_eq : printed = String.join (consumed.map (printedFor interactive answered)) ++
    if input = .ended then Shell.prompt interactive else ""

def Input.answer? : Input → Option String
  | line text => some text
  | exit | ended => none

/-- Calls in order, when the lines `answered` have been answered before: they use up the lines of
the input, and after each the history holds what has been answered. -/
inductive Calls (interactive : Bool) : List String → List String → List Reading → Prop
  | nil {answered lines : List String} : Calls interactive answered lines []
  | cons {answered consumed rest : List String} {reading : Reading} {readings : List Reading} :
      IsCall interactive answered consumed rest reading.input reading.printed →
      reading.shell.history.toList = answered ++ reading.input.answer?.toList →
      Calls interactive (answered ++ reading.input.answer?.toList) rest readings →
      Calls interactive answered (consumed ++ rest) (reading :: readings)

section Call

variable {interactive : Bool} {answered consumed rest lines : List String} {input : Input}
  {printed text : String} {readings : List Reading}

private theorem printedFor_of_isBlank (h : isBlank text.toList = true) :
    printedFor interactive answered text = Shell.prompt interactive := by
  have hhistory : text ≠ "history" := by
    rintro rfl
    exact absurd h (by decide)
  have hexit : text ≠ "exit" := by
    rintro rfl
    exact absurd h (by decide)
  rw [printedFor, if_neg hhistory, if_neg hexit, String.append_empty]

theorem IsCall.cons (h : IsCall interactive answered consumed rest input printed)
    (htext : text = "history" ∨ isBlank text.toList = true) :
    IsCall interactive answered (text :: consumed) rest input
      (printedFor interactive answered text ++ printed) := by
  obtain ⟨⟨passed, last, rfl, hpassed, hends⟩, rfl⟩ := h
  refine ⟨⟨text :: passed, last, rfl, List.forall_mem_cons.2 ⟨htext, hpassed⟩, hends⟩, ?_⟩
  rw [List.map_cons, String.join_cons, String.append_assoc]

theorem IsCall.of_nil (h : IsCall interactive answered consumed rest input printed)
    (hnil : consumed ++ rest = []) :
    rest = [] ∧ input = .ended ∧ printed = Shell.prompt interactive := by
  obtain ⟨rfl, rfl⟩ := List.append_eq_nil_iff.1 hnil
  obtain ⟨⟨passed, last, hconsumed, -, hends⟩, rfl⟩ := h
  obtain ⟨rfl, rfl⟩ := List.append_eq_nil_iff.1 hconsumed.symm
  cases hends with
  | ended => exact ⟨rfl, rfl, by simp⟩

theorem Calls.ended (h : Calls interactive answered lines readings) (hlines : lines = []) :
    ∀ reading ∈ readings, reading.input = .ended ∧ reading.printed = Shell.prompt interactive := by
  induction h with
  | nil => simp
  | cons hcall _ _ ih =>
      obtain ⟨hrest, hinput, hprinted⟩ := hcall.of_nil hlines
      rw [List.forall_mem_cons]
      exact ⟨⟨hinput, hprinted⟩, ih hrest⟩

/-- After the end of the input there is nothing but the end of the input. -/
theorem Calls.pairwise (h : Calls interactive answered lines readings) :
    readings.Pairwise fun first later => first.input = .ended →
      later.input = .ended ∧ later.printed = Shell.prompt interactive := by
  induction h with
  | nil => exact .nil
  | cons hcall _ hcalls ih =>
      refine List.pairwise_cons.2 ⟨?_, ih⟩
      intro later hlater hinput
      obtain ⟨⟨passed, last, -, -, hends⟩, -⟩ := hcall
      rw [hinput] at hends
      cases hends with
      | ended => exact hcalls.ended rfl later hlater

end Call

namespace Shell

def readings (shell : Shell) : Nat → List Reading
  | 0 => []
  | n + 1 => shell.readLine :: shell.readLine.shell.readings n

private theorem length_readings (shell : Shell) (n : Nat) : (shell.readings n).length = n := by
  induction n generalizing shell with
  | zero => rfl
  | succ n ih => rw [readings, List.length_cons, ih]

theorem isCall_readLine (shell : Shell) : ∃ consumed,
    shell.pending.map lineText =
      consumed ++ shell.readLine.shell.pending.map lineText ∧
    IsCall shell.interactive shell.history.toList consumed
      (shell.readLine.shell.pending.map lineText) shell.readLine.input shell.readLine.printed := by
  obtain ⟨raws, interactive, history⟩ := shell
  simp only [readLine]
  fun_induction readFrom interactive history raws with
  | case1 => exact ⟨[], rfl, ⟨[], [], rfl, by simp, .ended⟩, by simp⟩
  | case2 raw raws line hclass =>
      obtain hline : line = "exit" := LineClass.of_eq_exit_iff.1 hclass
      refine ⟨[line], rfl, ⟨[], [line], rfl, by simp, ?_⟩, ?_⟩
      · rw [hline]
        exact .exit
      · simp [hline, printedFor]
  | case3 raw raws line hclass reading listing ih =>
      have hline : line = "history" := LineClass.of_eq_history_iff.1 hclass
      obtain ⟨consumed, hconsumed, hcall⟩ := ih
      refine ⟨line :: consumed, congrArg (line :: ·) hconsumed, ?_⟩
      have hprinted : prompt interactive ++ listing =
          printedFor interactive history.toList line := by
        rw [printedFor, if_pos hline]
      rw [hprinted]
      exact hcall.cons (.inl hline)
  | case4 raw raws line hclass reading ih =>
      obtain ⟨consumed, hconsumed, hcall⟩ := ih
      have hblank : isBlank line.toList = true := LineClass.of_eq_blank_iff.1 hclass
      refine ⟨line :: consumed, congrArg (line :: ·) hconsumed, ?_⟩
      have hprinted := @printedFor_of_isBlank interactive history.toList line hblank
      rw [← hprinted]
      exact hcall.cons (.inr hblank)
  | case5 raw raws line hclass =>
      obtain ⟨hexit, hhistory, hblank⟩ := LineClass.of_eq_command_iff.1 hclass
      refine ⟨[line], rfl, ⟨[], [line], rfl, by simp, .line hexit hhistory hblank⟩, ?_⟩
      simp [printedFor, hexit, hhistory]

theorem history_readLine (shell : Shell) : shell.readLine.shell.history.toList =
    shell.history.toList ++ shell.readLine.input.answer?.toList := by
  cases hinput : shell.readLine.input with
  | line text =>
      rw [history_readLine_eq_push hinput, Array.toList_push]
      rfl
  | exit | ended =>
      rw [history_readLine_eq_self (by simp [hinput])]
      exact (List.append_nil _).symm

/-- Calls on a shell, from wherever it stands. -/
theorem calls_readings_of_pending (shell : Shell) (n : Nat) :
    Calls shell.interactive shell.history.toList (shell.pending.map lineText)
      (shell.readings n) := by
  induction n generalizing shell with
  | zero => exact .nil
  | succ n ih =>
      obtain ⟨consumed, hconsumed, hcall⟩ := shell.isCall_readLine
      have hrest := ih shell.readLine.shell
      rw [shell.history_readLine, shell.interactive_readLine] at hrest
      rw [readings, hconsumed]
      exact .cons hcall shell.history_readLine hrest

/-- Any number of calls on a shell over any bytes hands out the lines of the bytes, each trimmed,
that are neither blank nor `history` nor `exit`, in order.  The history holds what was handed out,
`history` lists it, and every line used up is prompted for, as is the end of the input by each call
that meets it. -/
theorem calls_readings (bytes : List UInt8) (interactive : Bool) (n : Nat) :
    ∃ raws texts, IsCut bytes raws ∧ List.Forall₂ IsTextOf raws texts ∧
      ((ofBytes bytes interactive).readings n).length = n ∧
      Calls interactive [] texts ((ofBytes bytes interactive).readings n) ∧
      ((ofBytes bytes interactive).readings n).Pairwise fun first later =>
        first.input = .ended → later.input = .ended ∧ later.printed = prompt interactive := by
  have hcalls := calls_readings_of_pending (ofBytes bytes interactive) n
  refine ⟨cutAfter 0x0a bytes, (cutAfter 0x0a bytes).map lineText, isCut_cutAfter bytes, ?_,
    length_readings _ n, hcalls, hcalls.pairwise⟩
  rw [List.forall₂_map_right_iff, List.forall₂_same]
  exact fun raw _ => isTextOf_lineText raw

example : (readings (ofBytes "status\r\nhistory\n\u00a0\nexit\nleave 1".toUTF8.data.toList true)
      4).map (fun reading => (reading.input, reading.printed)) =
    [(.line "status", "$ "), (.exit, "$ status\n$ $ Goodbye!\n"), (.line "leave 1", "$ "),
      (.ended, "$ ")] := by decide +kernel

end Shell

end ParkingLot
