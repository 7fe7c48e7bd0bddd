import ParkingLot.Proofs.Language.Illegal
import ParkingLot.Proofs.Messages
import ParkingLot.Proofs.Session.Replay
import ParkingLot.Proofs.Text.IllFormed
/-!
# Lines that are no UTF-8

A line that is no UTF-8 is handed out with U+FFFD in the place of what is wrong with it, and is read
like any other.  Where a U+FFFD stands free it is an illegal token, and the line is reported and not
run (`Session.run_of_illFormed`).  A word that has begun takes it in, though, and then there may be
nothing to report (`Session.run_illFormed_word`).
-/

namespace ParkingLot

open Text Utf8

/-! ## What the shell makes of such a line -/

section LineText

variable {raw : List UInt8} (h : ¬ raw.toByteArray.IsValidUTF8)

include h

private theorem replacement_mem_lineText : replacement ∈ (lineText raw).toList := by
  obtain ⟨ends, hline, hends⟩ := exists_append_trimLineEnd (decode raw)
  have hmem := replacement_mem_decode h
  rw [hline, List.mem_append] at hmem
  rw [lineText, String.toList_ofList]
  exact hmem.resolve_right fun hend => absurd (hends _ hend) (by decide)

private theorem class_lineText : LineClass.of (lineText raw) = .command := by
  have hmem := replacement_mem_lineText h
  rw [LineClass.of_eq_command_iff]
  refine ⟨?_, ?_, ?_⟩
  · intro hexit
    rw [hexit] at hmem
    exact absurd hmem (by decide)
  · intro hhistory
    rw [hhistory] at hmem
    exact absurd hmem (by decide)
  · rw [← Bool.not_eq_true]
    intro hblank
    exact absurd (List.all_eq_true.1 hblank _ hmem) (by decide)

end LineText

theorem exists_illegal_replacement_iff {line : String} :
    (∃ t ∈ tokenize line, t.kind = .illegal ∧ t.literal.toList = [replacement]) ↔
      StandsFree replacement line.toList := by
  have hiff := @exists_illegal_iff replacement line.toList 0 (by decide) (by decide) (by decide)
  rw [← hiff, tokenize]
  constructor
  · rintro ⟨t, ht, hkind, hliteral⟩
    obtain ht | ht := List.mem_append.1 ht
    · exact ⟨t, ht, hkind, hliteral⟩
    · obtain rfl := List.mem_singleton.1 ht
      contradiction
  · rintro ⟨t, ht, h⟩
    exact ⟨t, List.mem_append_left _ ht, h⟩

theorem ofText_eq_error_of_standsFree {line : String} (h : StandsFree replacement line.toList) :
    ∃ e : SyntaxError, Program.ofText line = .error { first := e } := by
  apply exists_ofText_eq_error
  obtain ⟨t, ht, hkind, -⟩ :=
    (exists_illegal_iff (c := replacement) (o := 0) (by decide) (by decide) (by decide)).2 h
  exact ⟨t, ht, hkind⟩

namespace Session

variable {earlier later : List (List UInt8)} {raw : List UInt8}

private theorem commandLines_map_append (hexit : ∀ r ∈ earlier, lineText r ≠ "exit")
    (pending : List (List UInt8)) :
    commandLines ((earlier ++ pending).map lineText) =
      commandLines (earlier.map lineText) ++ commandLines (pending.map lineText) := by
  rw [List.map_append]
  apply commandLines_append
  rw [List.forall_mem_map]
  exact fun r hr hline => hexit r hr (LineClass.of_eq_exit_iff.1 hline)

theorem mute_run_append (interactive : Bool) (i : Interpreter)
    (hexit : ∀ r ∈ earlier, lineText r ≠ "exit") (pending : List (List UInt8)) :
    (run ⟨{ pending := earlier ++ pending, interactive }, i⟩).interpreter.mute =
      (commandLines (pending.map lineText)).foldl Interpreter.enter
        (run ⟨{ pending := earlier, interactive }, i⟩).interpreter.mute := by
  rw [mute_run, mute_run, Shell.lines, Shell.lines, commandLines_map_append hexit,
    List.foldl_append]

theorem history_run_append (interactive : Bool) (i : Interpreter)
    (hexit : ∀ r ∈ earlier, lineText r ≠ "exit") (pending : List (List UInt8)) :
    (run ⟨{ pending := earlier ++ pending, interactive }, i⟩).shell.history.toList =
      (run ⟨{ pending := earlier, interactive }, i⟩).shell.history.toList ++
        commandLines (pending.map lineText) := by
  rw [history_run, history_run, Shell.lines, Shell.lines, commandLines_map_append hexit,
    List.append_assoc]

/-- A line that is no UTF-8 is handed out with a U+FFFD in it, and it is run after the lines before
it and before the lines behind it like any other.  The U+FFFD is an illegal token exactly if it
stands free.  If one does, the line is not run: it leaves one line of diagnostics, the storage is
as it was, and there is no result. -/
theorem run_of_illFormed {bytes : List UInt8} (interactive : Bool) (i : Interpreter)
    (hbytes : cutAfter 0x0a bytes = earlier ++ raw :: later)
    (hexit : ∀ r ∈ earlier, lineText r ≠ "exit") (hraw : ¬ raw.toByteArray.IsValidUTF8) :
    let line := lineText raw
    let reached := run ⟨{ pending := earlier, interactive }, i⟩
    let passed := run ⟨{ pending := earlier ++ [raw], interactive }, i⟩
    let session := run ⟨.ofBytes bytes interactive, i⟩
    replacement ∈ line.toList ∧
    passed.shell.history.toList = reached.shell.history.toList ++ [line] ∧
    passed.interpreter.mute = reached.interpreter.mute.enter line ∧
    session.interpreter.mute =
      (commandLines (later.map lineText)).foldl Interpreter.enter passed.interpreter.mute ∧
    ((∃ t ∈ tokenize line, t.kind = .illegal ∧ t.literal.toList = [replacement]) ↔
      StandsFree replacement line.toList) ∧
    (StandsFree replacement line.toList → ∃ e : SyntaxError,
      Program.ofText line = .error { first := e } ∧ IsLine e.message ∧
      passed.interpreter.storage = reached.interpreter.storage ∧
      passed.interpreter.console.records .result = reached.interpreter.console.records .result ∧
      passed.interpreter.console.records .diagnostic =
        reached.interpreter.console.records .diagnostic ++
          reached.interpreter.console.delivered .diagnostic
            [s!"parsing error: {e.message}" ++ "\n"]) := by
  intro line reached passed session
  have hcommand : ∀ rest, commandLines ((raw :: rest).map lineText) =
      line :: commandLines (rest.map lineText) := by
    intro rest
    rw [List.map_cons, commandLines_of_command _ (class_lineText hraw)]
  have hpassed : passed.interpreter.mute = reached.interpreter.mute.enter line := by
    have happend := mute_run_append interactive i hexit [raw]
    rwa [hcommand] at happend
  refine ⟨replacement_mem_lineText hraw, ?_, hpassed, ?_, exists_illegal_replacement_iff, ?_⟩
  · have happend := history_run_append interactive i hexit [raw]
    rwa [hcommand] at happend
  · have happend := mute_run_append interactive i hexit (raw :: later)
    rwa [hcommand, ← hbytes, List.foldl_cons, ← hpassed] at happend
  · intro hfree
    obtain ⟨e, he⟩ := ofText_eq_error_of_standsFree hfree
    rw [Interpreter.enter_of_ofText_eq_error _ he] at hpassed
    have hstorage : passed.interpreter.mute.storage = reached.interpreter.mute.storage := by
      rw [hpassed]
      rfl
    have hrecords : ∀ channel ≠ .shell, passed.interpreter.console.records channel =
        (reached.interpreter.mute.report s!"parsing error: {e.message}").console.records
          channel := by
      intro channel hchannel
      rw [← hpassed]
      exact (Console.records_mute hchannel).symm
    refine ⟨e, he, Program.isLine_of_ofText he, hstorage, ?_, ?_⟩
    · rw [hrecords _ (by decide), Interpreter.records_report_of_ne _ (by decide),
        Interpreter.mute, Console.records_mute (by decide)]
    · rw [hrecords _ (by decide), Interpreter.records_report, Interpreter.mute,
        Console.records_mute (by decide)]
      rfl

/-- A byte that is no UTF-8, on its own in the place of an operand. -/
theorem run_of_illFormed_operand :
    let first := "create_parking_lot 1\n".toUTF8.data.toList
    let raw := "leave ".toUTF8.data.toList ++ [0xff] ++ " 1\r\n".toUTF8.data.toList
    let i : Interpreter := { storage := .memory .empty }
    let reached := run ⟨{ pending := [first], interactive := false }, i⟩
    let passed := run ⟨{ pending := [first, raw], interactive := false }, i⟩
    cutAfter 0x0a (first ++ raw ++ "status".toUTF8.data.toList) =
      [first] ++ raw :: ["status".toUTF8.data.toList] ∧
    (∀ r ∈ [first], lineText r ≠ "exit") ∧ ¬ raw.toByteArray.IsValidUTF8 ∧
    StandsFree replacement (lineText raw).toList ∧
    ∃ e : SyntaxError, Program.ofText (lineText raw) = .error { first := e } ∧
      IsLine e.message ∧
      passed.interpreter.storage = reached.interpreter.storage ∧
      passed.interpreter.console.records .result = reached.interpreter.console.records .result ∧
      passed.interpreter.console.records .diagnostic =
        reached.interpreter.console.records .diagnostic ++
          reached.interpreter.console.delivered .diagnostic
            [s!"parsing error: {e.message}" ++ "\n"] := by
  intro first raw i reached passed
  have hlines : cutAfter 0x0a (first ++ raw ++ "status".toUTF8.data.toList) =
      [first] ++ raw :: ["status".toUTF8.data.toList] := by decide +kernel
  have hexit : ∀ r ∈ [first], lineText r ≠ "exit" := by decide +kernel
  have hraw : ¬ raw.toByteArray.IsValidUTF8 := by decide +kernel
  have hline : (lineText raw).toList = "leave".toList ++ ' ' :: replacement :: " 1".toList := by
    decide +kernel
  have hfree : StandsFree replacement (lineText raw).toList := by
    rw [hline]
    exact standsFree_append_separator rfl
  obtain ⟨-, -, -, -, -, hreported⟩ := run_of_illFormed false i hlines hexit hraw
  exact ⟨hlines, hexit, hraw, hfree, hreported hfree⟩

/-- A word that has begun takes the U+FFFD in.  Here a lot is created and asked about a colour that
no car has, and nothing is reported. -/
theorem run_illFormed_word :
    let bytes :=
      "create_parking_lot 3 slot_numbers_for_cars_with_colour a".toUTF8.data.toList ++ [0xff]
    let session := run ⟨.ofBytes bytes false, { storage := .memory .empty }⟩
    cutAfter 0x0a bytes = [bytes] ∧ ¬ bytes.toByteArray.IsValidUTF8 ∧
    session.interpreter.storage ≠ .memory .empty ∧
    session.interpreter.console.text [.result] = "Created a parking lot with 3 slots\n" ∧
    session.interpreter.console.text [.diagnostic] = "Not found\n" := by
  decide +kernel

end Session

end ParkingLot
