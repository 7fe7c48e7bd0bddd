import Mathlib.Data.List.DropRight
import ParkingLot.Proofs.Language.Grammar
import ParkingLot.Proofs.Session.Lines
import ParkingLot.Proofs.Text.Utf8
/-!
# Line by line or all at once

A text of which every line is a program is a program, and a session over its bytes does what
running it as a whole does (`run_ofBytes_eq_execute`).  The shell sees trimmed lines, passes over
blank ones and answers some itself; none of this shows in a text whose lines are programs.
-/

namespace ParkingLot

open Text Parse

/-! ## Blank lines -/

private theorem toNat_of_isWhiteSpace {c : Char} (h : isWhiteSpace c = true) :
    c.toNat < 48 ∨ 122 < c.toNat := by
  obtain ⟨r, hr, hlow, hhigh⟩ := CodeRanges.exists_of_contains h
  simp only [whiteSpaceRanges, List.mem_cons, List.not_mem_nil, or_false] at hr
  obtain rfl | rfl | rfl | rfl | rfl | rfl | rfl | rfl | rfl | rfl := hr <;> omega

theorem not_startsWord_of_isWhiteSpace {c : Char} (h : isWhiteSpace c = true) :
    startsWord c = false := by
  have hrange := toNat_of_isWhiteSpace h
  rw [← Bool.not_eq_true, startsWord_iff_toNat]
  omega

theorem not_isDigit_of_isWhiteSpace {c : Char} (h : isWhiteSpace c = true) :
    c.isDigit = false := by
  have hrange := toNat_of_isWhiteSpace h
  rw [← Bool.not_eq_true, isDigit_iff_toNat]
  omega

private theorem Cursor.kind_of_next?_of_isBlank {c d : Cursor} {t : Token}
    (hblank : isBlank c.rest = true) (h : c.next? = some (t, d)) : t.kind = .illegal := by
  unfold next? at h
  split at h
  · contradiction
  · next a as hskip =>
    have hmem : a ∈ c.rest := by
      apply (List.dropWhile_suffix isSeparator).subset
      rw [show c.rest.dropWhile isSeparator = a :: as from hskip]
      exact List.mem_cons_self
    have hspace : isWhiteSpace a = true := List.all_eq_true.1 hblank a hmem
    cases h
    simp [Lexeme.cut, not_startsWord_of_isWhiteSpace hspace, not_isDigit_of_isWhiteSpace hspace]

theorem Program.items_of_isBlank {line : String} {program : Program}
    (hblank : isBlank line.toList = true) (h : ofText line = .ok program) :
    program.items = [] := by
  rw [ofText_eq_ok_iff] at h
  cases hnext : (Cursor.ofText line).next? with
  | none =>
      rw [Cursor.tokens_of_next?_eq_none hnext] at h
      exact h.eq_nil
  | some r =>
      obtain ⟨t, d⟩ := r
      have hkind : t.kind = .illegal := Cursor.kind_of_next?_of_isBlank hblank hnext
      rw [Cursor.tokens_of_next?_eq_some hnext] at h
      obtain ⟨k, hk⟩ := h.kind_head
      rw [hk] at hkind
      contradiction

/-! ## The lines of a text -/

private theorem isSeparator_of_isLineEnd {c : Char} (h : isLineEnd c = true) : isSeparator c = true := by
  simp only [isLineEnd, Bool.or_eq_true, beq_iff_eq] at h
  obtain rfl | rfl := h <;> rfl

theorem Program.ofText_trimLineEnd {line : List Char} {program : Program} :
    ofText (String.ofList (trimLineEnd line)) = .ok program ↔
      ofText (String.ofList line) = .ok program := by
  obtain ⟨ends, hline, hends⟩ := exists_append_trimLineEnd line
  have htokens := Cursor.tokens_append_separators ⟨0, trimLineEnd line⟩ fun w hw =>
    isSeparator_of_isLineEnd (hends w hw)
  simp only [← hline] at htokens
  simp only [ofText_eq_ok_iff, Cursor.ofText, String.toList_ofList, htokens]

def trimmedLines (cs : List Char) : List String :=
  (cutAfter '\n' cs).map fun line => String.ofList (trimLineEnd line)

theorem trimmedLines_eq_singleton {cs : List Char} (hne : cs ≠ []) (h : '\n' ∉ cs) :
    trimmedLines cs = [String.ofList (trimLineEnd cs)] := by
  rw [trimmedLines, cutAfter_eq_singleton hne h, List.map_singleton]

theorem trimmedLines_append_newline {as : List Char} (h : '\n' ∉ as) (bs : List Char) :
    trimmedLines (as ++ '\n' :: bs) = String.ofList (trimLineEnd as) :: trimmedLines bs := by
  have htrim : trimLineEnd (as ++ ['\n']) = trimLineEnd as :=
    List.rdropWhile_concat_pos isLineEnd as '\n' rfl
  rw [trimmedLines, cutAfter_append_stop h, List.map_cons, htrim, trimmedLines]

theorem map_lineText_pending (bytes : List UInt8) (interactive : Bool) :
    (Shell.ofBytes bytes interactive).pending.map lineText = trimmedLines (Utf8.decode bytes) := by
  rw [trimmedLines, ← Utf8.map_decode_cutAfter, List.map_map]
  rfl

theorem map_lineText_ofBytes (text : String) (interactive : Bool) :
    (Shell.ofBytes text.toUTF8.data.toList interactive).pending.map lineText =
      trimmedLines text.toList := by
  rw [map_lineText_pending, Utf8.toList_toUTF8, Utf8.decode_encode]

section Line

variable {line : String} {program : Program} (h : Program.ofText line = .ok program)

include h

theorem Shell.not_isBuiltin_of_ofText : ¬ IsBuiltin line := by
  have hexit : (Program.ofText "exit").toBool = false := by decide +kernel
  have hhistory : (Program.ofText "history").toBool = false := by decide +kernel
  rintro (rfl | rfl)
  · rw [h] at hexit
    contradiction
  · rw [h] at hhistory
    contradiction

theorem foldl_enter_commandLines_cons (lines : List String) (i : Interpreter) :
    (commandLines (line :: lines)).foldl Interpreter.enter i =
      (commandLines lines).foldl Interpreter.enter (i.execute program.statements).2 := by
  cases hclass : LineClass.of line with
  | exit => exact absurd (Shell.isBuiltin_of_exit hclass) (Shell.not_isBuiltin_of_ofText h)
  | history => exact absurd (Shell.isBuiltin_of_history hclass) (Shell.not_isBuiltin_of_ofText h)
  | blank =>
      have hitems := Program.items_of_isBlank (LineClass.of_eq_blank_iff.1 hclass) h
      rw [commandLines_of_blank _ hclass, Program.statements, hitems, List.map_nil,
        Interpreter.execute_nil]
  | command =>
      rw [commandLines_of_command _ hclass, List.foldl_cons,
        Interpreter.enter_of_ofText_eq_ok i h]

end Line

/-- The text is a program that does what its lines do, and none of them is for the shell. -/
theorem exists_program_of_lines (cs : List Char)
    (h : ∀ line ∈ cs.splitOn '\n', ∃ p, Program.ofText (String.ofList line) = .ok p) :
    ∃ program, Program.ofText (String.ofList cs) = .ok program ∧
      (∀ i : Interpreter, (commandLines (trimmedLines cs)).foldl Interpreter.enter i =
        (i.execute program.statements).2) ∧
      ∀ line ∈ trimmedLines cs, ¬ Shell.IsBuiltin line := by
  induction cs using @lines_induction _ _ _ '\n' with
  | last as has =>
      rw [List.splitOn_eq_singleton has, List.forall_mem_singleton] at h
      obtain ⟨p, hp⟩ := h
      refine ⟨p, hp, ?_⟩
      by_cases hempty : as = []
      · subst hempty
        have hitems := Program.items_of_isBlank (by rfl) hp
        refine ⟨fun i => ?_, by simp [trimmedLines]⟩
        rw [Program.statements, hitems]
        exact i.execute_nil.symm
      · have htrim := Program.ofText_trimLineEnd.2 hp
        rw [trimmedLines_eq_singleton hempty has, List.forall_mem_singleton]
        exact ⟨foldl_enter_commandLines_cons htrim [], Shell.not_isBuiltin_of_ofText htrim⟩
  | line as bs has ih =>
      rw [List.splitOn_append_cons_self_of_not_mem has, List.forall_mem_cons] at h
      obtain ⟨⟨p, hp⟩, hrest⟩ := h
      obtain ⟨q, hq, hrun, hplain⟩ := ih hrest
      have htrim := Program.ofText_trimLineEnd.2 hp
      have htext : (String.ofList (as ++ '\n' :: bs)).toList =
          (String.ofList as).toList ++ '\n' :: (String.ofList bs).toList := by simp
      refine ⟨_, Program.ofText_append_separator rfl htext hp hq, ?_, ?_⟩
      · intro i
        rw [trimmedLines_append_newline has, foldl_enter_commandLines_cons htrim, hrun,
          Program.statements_append_shift, Interpreter.execute_append]
      · rw [trimmedLines_append_newline has, List.forall_mem_cons]
        exact ⟨Shell.not_isBuiltin_of_ofText htrim, hplain⟩

/-- A text of which every line is a program is a program, and a session over its bytes ends with
the storage and shows the results and diagnostics that running the program does.  A shell that
does not prompt says nothing meanwhile. -/
theorem run_ofBytes_eq_execute (text : String) (interactive : Bool) (i : Interpreter)
    (h : ∀ line ∈ text.toList.splitOn '\n', ∃ p, Program.ofText (String.ofList line) = .ok p) :
    ∃ program, Program.ofText text = .ok program ∧
      let session := Session.run ⟨.ofBytes text.toUTF8.data.toList interactive, i⟩
      let batch := (i.execute program.statements).2
      session.interpreter.storage = batch.storage ∧
      session.interpreter.console.text [.result] = batch.console.text [.result] ∧
      session.interpreter.console.text [.diagnostic] = batch.console.text [.diagnostic] ∧
      (interactive = false →
        session.interpreter.console.text [.shell] = i.console.text [.shell]) := by
  obtain ⟨program, hprogram, hrun, hplain⟩ := exists_program_of_lines text.toList h
  rw [String.ofList_toList] at hprogram
  refine ⟨program, hprogram, ?_⟩
  intro session batch
  have hlines := map_lineText_ofBytes text interactive
  have hmute : session.interpreter.mute = batch.mute := by
    have hsession := Session.mute_run ⟨.ofBytes text.toUTF8.data.toList interactive, i⟩
    rw [Shell.lines, hlines, hrun, ← Interpreter.mute_execute] at hsession
    exact hsession
  have hstorage : session.interpreter.mute.storage = batch.mute.storage := by rw [hmute]
  have hconsole : session.interpreter.console.mute = batch.console.mute := by
    change session.interpreter.mute.console = batch.mute.console
    rw [hmute]
  have htext : ∀ channels, .shell ∉ channels →
      session.interpreter.console.text channels = batch.console.text channels := by
    intro channels hshell
    calc session.interpreter.console.text channels
        = session.interpreter.console.mute.text channels := (Console.text_mute hshell).symm
      _ = batch.console.mute.text channels := by rw [hconsole]
      _ = batch.console.text channels := Console.text_mute hshell
  refine ⟨hstorage, htext _ (by decide), htext _ (by decide), ?_⟩
  intro hquiet
  apply Session.text_shell_run hquiet
  intro raw hraw
  apply hplain
  rw [← hlines]
  exact List.mem_map_of_mem hraw

/-- Neither carriage returns nor blank lines come between the two. -/
theorem run_ofBytes_eq_execute_crlf :
    (∀ line ∈ "create_parking_lot 1\r\n \t\r\nleave 2\r\r\n\n park Zé White".toList.splitOn '\n',
        ∃ p, Program.ofText (String.ofList line) = .ok p) ∧
      ∃ program, Program.ofText
          "create_parking_lot 1\r\n \t\r\nleave 2\r\r\n\n park Zé White" = .ok program ∧
        let session := Session.run ⟨.ofBytes
          "create_parking_lot 1\r\n \t\r\nleave 2\r\r\n\n park Zé White".toUTF8.data.toList
          false, { storage := .memory .empty }⟩
        let batch := (Interpreter.execute { storage := .memory .empty } program.statements).2
        session.interpreter.storage = batch.storage ∧
        session.interpreter.console.text [.result] = batch.console.text [.result] ∧
        session.interpreter.console.text [.diagnostic] = batch.console.text [.diagnostic] ∧
        (false = false → session.interpreter.console.text [.shell] =
          Console.text {} [.shell]) := by
  have h : ∀ line ∈
      "create_parking_lot 1\r\n \t\r\nleave 2\r\r\n\n park Zé White".toList.splitOn '\n',
      ∃ p, Program.ofText (String.ofList line) = .ok p := by
    have hok : ∀ line ∈
        "create_parking_lot 1\r\n \t\r\nleave 2\r\r\n\n park Zé White".toList.splitOn '\n',
        (Program.ofText (String.ofList line)).toBool = true := by decide +kernel
    intro line hline
    have hline' := hok line hline
    cases hp : Program.ofText (String.ofList line) with
    | ok p => exact ⟨p, rfl⟩
    | error e =>
        rw [hp] at hline'
        contradiction
  exact ⟨h, run_ofBytes_eq_execute _ false { storage := .memory .empty } h⟩

end ParkingLot
