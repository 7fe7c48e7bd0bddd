import ParkingLot.Proofs.Language.Joining
import ParkingLot.Proofs.Language.Tokenization
import ParkingLot.Proofs.Session.Diagnostics
/-!
# Blank lines

A line is blank to the shell if it holds white space only, and to the parser if it holds separators
only.  All separators are white space, but there is other white space, which the scanner takes for
illegal.  The shell passes over such a line and the error is lost; that is all that is lost
(`Session.run_blank_lines`).
-/

namespace ParkingLot

open Text Parse

/-! ## What the parser makes of blank lines -/

section Line

variable {line : String} {front back : List Char} {c : Char}

theorem Program.ofText_of_separators (h : ∀ c ∈ line.toList, isSeparator c = true) :
    ofText line = .ok ⟨[]⟩ := by
  have hnone : (Cursor.ofText line).next? = none := Cursor.next?_eq_none_iff.2 h
  rw [ofText_eq_ok_iff, Cursor.tokens_of_next?_eq_none hnone]
  exact .nil

theorem Program.ofText_of_illegal (hline : line.toList = front ++ c :: back)
    (hfront : ∀ w ∈ front, isSeparator w = true) (hc : isSeparator c = false)
    (hstart : startsWord c = false) (hdigit : c.isDigit = false) :
    ofText line = .error { first := ⟨.unexpected, String.singleton c,
      ⟨byteLength front, byteLength front + c.utf8Size⟩⟩ } := by
  have hliteral : (String.singleton c).toList = [c] := String.toList_singleton c
  have hstands : Token.StandsIn ⟨.illegal, ⟨byteLength front, byteLength front + c.utf8Size⟩,
      String.singleton c⟩ 0 line.toList front back := by
    constructor
    · rw [hliteral, hline, List.singleton_append]
    · exact (Nat.zero_add _).symm
    · rw [hliteral]
      rfl
  have hlexeme : IsLexeme .illegal (String.singleton c).toList back := by
    rw [hliteral]
    exact .illegal hc hstart hdigit
  have hnext : (Cursor.ofText line).next? = some _ :=
    Cursor.next?_eq_some_iff.2 ⟨front, back, hfront, hstands, hlexeme, rfl⟩
  rw [ofText_eq_error_iff, Cursor.tokens_of_next?_eq_some hnext]
  exact ⟨_, rfl, statements_of_not_keyword (by simp)⟩

private theorem exists_first_of_not_separators {cs : List Char} (h : ¬ ∀ c ∈ cs, isSeparator c = true) :
    ∃ front c back, cs = front ++ c :: back ∧ (∀ w ∈ front, isSeparator w = true) ∧
      isSeparator c = false := by
  have hfind : cs.find? (!isSeparator ·) ≠ none := by
    rw [Ne, List.find?_eq_none]
    simpa using h
  obtain ⟨c, hc⟩ := Option.ne_none_iff_exists'.1 hfind
  obtain ⟨hsep, front, back, rfl, hfront⟩ := List.find?_eq_some_iff_append.1 hc
  exact ⟨front, c, back, rfl, by simpa using hfront, by simpa using hsep⟩

/-- Whether a line is blank to the shell and not to the parser. -/
def isStray (line : String) : Bool := isBlank line.toList && !line.toList.all isSeparator

private theorem isStray_eq_true_iff :
    isStray line = true ↔
      isBlank line.toList = true ∧ ¬ ∀ c ∈ line.toList, isSeparator c = true := by
  simp [isStray]

private theorem separators_of_isBlank (hblank : isBlank line.toList = true) (h : isStray line = false) :
    ∀ c ∈ line.toList, isSeparator c = true := by
  by_contra hstray
  rw [isStray_eq_true_iff.2 ⟨hblank, hstray⟩] at h
  contradiction

theorem Program.ofText_of_isStray (h : isStray line = true) : ∃ front c back,
    line.toList = front ++ c :: back ∧ (∀ w ∈ front, isSeparator w = true) ∧
      isSeparator c = false ∧ ofText line = .error { first := ⟨.unexpected, String.singleton c,
        ⟨byteLength front, byteLength front + c.utf8Size⟩⟩ } := by
  obtain ⟨hblank, hstray⟩ := isStray_eq_true_iff.1 h
  obtain ⟨front, c, back, hline, hfront, hc⟩ := exists_first_of_not_separators hstray
  have hspace : isWhiteSpace c = true := by
    apply List.all_eq_true.1 hblank
    simp [hline]
  exact ⟨front, c, back, hline, hfront, hc, ofText_of_illegal hline hfront hc
    (not_startsWord_of_isWhiteSpace hspace) (not_isDigit_of_isWhiteSpace hspace)⟩

theorem Program.ofText_eq_empty_iff (hblank : isBlank line.toList = true) :
    ofText line = .ok ⟨[]⟩ ↔ isStray line = false := by
  constructor
  · intro hok
    rw [← Bool.not_eq_true]
    intro hstray
    obtain ⟨front, c, back, -, -, -, herror⟩ := ofText_of_isStray hstray
    rw [hok] at herror
    contradiction
  · intro hstray
    exact ofText_of_separators (separators_of_isBlank hblank hstray)

end Line

/-! ## Lines entered one after the other -/

namespace Interpreter

variable {line : String} (i : Interpreter)

/-- A blank line leaves the storage as it is, whether it is reported or not. -/
theorem enter_of_isBlank (hblank : isBlank line.toList = true) :
    i.enter line = i ∨ ∃ message, i.enter line = i.report message := by
  cases h : isStray line with
  | false =>
      left
      rw [enter_of_ofText_eq_ok i ((Program.ofText_eq_empty_iff hblank).2 h)]
      exact i.execute_nil
  | true =>
      right
      obtain ⟨front, c, back, -, -, -, herror⟩ := Program.ofText_of_isStray h
      exact ⟨_, enter_of_ofText_eq_error i herror⟩

theorem storage_enter_of_isBlank (hblank : isBlank line.toList = true) :
    (i.enter line).storage = i.storage := by
  rcases i.enter_of_isBlank hblank with henter | ⟨message, henter⟩
  · rw [henter]
  · rw [henter]
    rfl

end Interpreter

namespace Storage

variable {storage : Storage} {line : String} {channel : Channel}

def output (storage : Storage) (channel : Channel) (line : String) : List String :=
  (Interpreter.enter { storage } line).console.records channel

theorem output_of_ofText_eq_empty (h : Program.ofText line = .ok ⟨[]⟩) :
    storage.output channel line = [] := by
  rw [output, Interpreter.enter_of_ofText_eq_ok _ h]
  rfl

theorem output_of_isBlank (hblank : isBlank line.toList = true) (h : channel ≠ .diagnostic) :
    storage.output channel line = [] := by
  rw [output]
  rcases Interpreter.enter_of_isBlank { storage } hblank with henter | ⟨message, henter⟩
  · rw [henter]
    rfl
  · rw [henter, Interpreter.records_report_of_ne _ h]
    rfl

theorem output_of_isStray (h : isStray line = true) : ∃ front c back,
    line.toList = front ++ c :: back ∧ (∀ w ∈ front, isSeparator w = true) ∧
      isSeparator c = false ∧ ∀ before : Storage, before.output .diagnostic line =
        ["parsing error: " ++
          s!"unexpected token {quote (String.singleton c)} at pos {byteLength front}" ++ "\n"] := by
  obtain ⟨front, c, back, hline, hfront, hc, herror⟩ := Program.ofText_of_isStray h
  refine ⟨front, c, back, hline, hfront, hc, ?_⟩
  intro before
  rw [output, Interpreter.enter_of_ofText_eq_error _ herror]
  rfl

theorem complaints_of_isBlank (hblank : isBlank line.toList = true) :
    storage.complaints line = if isStray line then 1 else 0 := by
  unfold complaints
  cases h : isStray line with
  | false =>
      rw [(Program.ofText_eq_empty_iff hblank).2 h]
      rfl
  | true =>
      obtain ⟨front, c, back, -, -, -, herror⟩ := Program.ofText_of_isStray h
      rw [herror]
      rfl

end Storage

namespace Interpreter

theorem records_enter (i : Interpreter) (channel : Channel) (line : String) :
    (i.enter line).console.records channel =
      i.console.records channel ++
        i.console.delivered channel (i.storage.output channel line) := by
  have hfresh : ∀ texts, Console.records {} channel ++ Console.delivered {} channel texts =
      texts := fun _ => rfl
  unfold Storage.output enter
  cases Program.ofText line with
  | ok program => exact (records_execute i _ channel).trans (by rw [records_execute, hfresh])
  | error es =>
      dsimp only
      by_cases h : channel = .diagnostic
      · subst h
        rw [records_report, records_report, hfresh]
      · rw [records_report_of_ne _ h, records_report_of_ne _ h]
        simp [Console.records, Console.delivered]

theorem records_foldl_enter (i : Interpreter) (channel : Channel) (lines : List String) :
    (lines.foldl enter i).console.records channel =
      i.console.records channel ++ i.console.delivered channel
        ((i.storage.entries lines).flatMap fun (before, line) => before.output channel line) := by
  induction lines generalizing i with
  | nil => simp [Storage.entries, trail, Console.delivered]
  | cons line lines ih =>
      have hdelivered : ∀ texts, (i.enter line).console.delivered channel texts =
          i.console.delivered channel texts := by
        intro texts
        rw [Console.delivered, closed_enter, Console.delivered]
      rw [List.foldl_cons, ih, records_enter, hdelivered, i.storage.entries_cons,
        ← storage_enter, List.flatMap_cons, Console.delivered_append, List.append_assoc]

theorem storage_foldl_enter (i : Interpreter) (lines : List String) :
    (lines.foldl enter i).storage =
      lines.foldl (fun before line => (enter { storage := before } line).storage) i.storage := by
  induction lines generalizing i with
  | nil => rfl
  | cons line lines ih => rw [List.foldl_cons, ih, storage_enter, List.foldl_cons]

end Interpreter

/-! ## Sessions with and without blank lines -/

/-- The lines of an input, up to `exit`, that are not for the shell itself.  Blank ones are among
them. -/
def enteredLines : List String → List String
  | [] => []
  | line :: lines =>
    match LineClass.of line with
    | .exit => []
    | .history => enteredLines lines
    | .blank | .command => line :: enteredLines lines

def withoutBlank (lines : List String) : List String :=
  lines.filter fun line => !isBlank line.toList

theorem commandLines_eq_withoutBlank (lines : List String) :
    commandLines lines = withoutBlank (enteredLines lines) := by
  unfold withoutBlank
  induction lines with
  | nil => rfl
  | cons line lines ih =>
      rw [enteredLines]
      cases hclass : LineClass.of line with
      | exit => exact commandLines_of_exit _ hclass
      | history => exact (commandLines_of_history _ hclass).trans ih
      | blank =>
          have hblank := LineClass.of_eq_blank_iff.1 hclass
          rw [commandLines_of_blank _ hclass, ih, List.filter_cons_of_neg (by simp [hblank])]
      | command =>
          obtain ⟨-, -, hblank⟩ := LineClass.of_eq_command_iff.1 hclass
          rw [commandLines_of_command _ hclass, ih, List.filter_cons_of_pos (by simp [hblank])]

section Filter

variable {σ α β : Type} {step : σ → α → σ} {p : α → Bool}

private theorem foldl_filter_of_unchanged (h : ∀ state a, p a = false → step state a = state)
    (state : σ) (as : List α) : (as.filter p).foldl step state = as.foldl step state := by
  induction as generalizing state with
  | nil => rfl
  | cons a as ih =>
      cases hp : p a with
      | true => rw [List.filter_cons_of_pos hp, List.foldl_cons, ih, List.foldl_cons]
      | false => rw [List.filter_cons_of_neg (by simp [hp]), ih, List.foldl_cons, h state a hp]

private theorem trail_filter_of_unchanged (h : ∀ state a, p a = false → step state a = state)
    (state : σ) (as : List α) :
    trail step state (as.filter p) = (trail step state as).filter fun (_, a) => p a := by
  induction as generalizing state with
  | nil => rfl
  | cons a as ih =>
      cases hp : p a with
      | true => simp [trail, hp, ih]
      | false => simp [trail, hp, ih, h state a hp]

private theorem flatMap_filter_of_eq_nil {f : α → List β} {as : List α}
    (h : ∀ a ∈ as, p a = false → f a = []) : (as.filter p).flatMap f = as.flatMap f := by
  induction as with
  | nil => rfl
  | cons a as ih =>
      rw [List.forall_mem_cons] at h
      cases hp : p a with
      | true => rw [List.filter_cons_of_pos hp, List.flatMap_cons, ih h.2, List.flatMap_cons]
      | false =>
          rw [List.filter_cons_of_neg (by simp [hp]), ih h.2, List.flatMap_cons, h.1 hp,
            List.nil_append]

end Filter

/-! ## Passing over blank lines -/

section PassingOver

variable (storage : Storage) (lines : List String)

theorem Storage.enter_blank_unchanged (line : String) (h : (!isBlank line.toList) = false) :
    (Interpreter.enter { storage } line).storage = storage :=
  Interpreter.storage_enter_of_isBlank _ (by simpa using h)

theorem Storage.entries_withoutBlank : storage.entries (withoutBlank lines) =
    (storage.entries lines).filter fun (_, line) => !isBlank line.toList :=
  trail_filter_of_unchanged enter_blank_unchanged storage lines

private theorem Storage.mem_of_mem_entries {entry : Storage × String} (h : entry ∈ storage.entries lines) :
    entry.2 ∈ lines := by
  have hlines : (storage.entries lines).map Prod.snd = lines := map_snd_trail _ _ _
  rw [← hlines]
  exact List.mem_map_of_mem h

theorem Storage.sum_complaints :
    ((storage.entries lines).map fun (before, line) => before.complaints line).sum =
      ((storage.entries (withoutBlank lines)).map fun (before, line) =>
        before.complaints line).sum + (lines.filter isStray).length := by
  induction lines generalizing storage with
  | nil => rfl
  | cons line lines ih =>
      rw [withoutBlank] at *
      cases hblank : isBlank line.toList with
      | false =>
          have hstray : isStray line = false := by simp [isStray, hblank]
          simp [hblank, hstray, entries_cons, ih, Nat.add_assoc]
      | true =>
          -- the storage is the same for the lines behind it, whether or not it is entered
          have hunchanged := storage.enter_blank_unchanged line (by simp [hblank])
          have hcomplaints := @complaints_of_isBlank storage line hblank
          rw [List.filter_cons_of_neg (by simp [hblank]), entries_cons, List.map_cons,
            List.sum_cons, hunchanged, ih]
          cases hstray : isStray line with
          | false =>
              rw [List.filter_cons_of_neg (by simp [hstray])]
              simp [hcomplaints, hstray]
          | true =>
              rw [List.filter_cons_of_pos hstray, List.length_cons]
              simp only [hcomplaints, hstray, if_true]
              omega

namespace Interpreter

theorem storage_withoutBlank :
    ((withoutBlank lines).foldl enter { storage }).storage =
      (lines.foldl enter { storage }).storage := by
  rw [storage_foldl_enter, storage_foldl_enter]
  exact foldl_filter_of_unchanged Storage.enter_blank_unchanged storage lines

private theorem records_fresh (channel : Channel) :
    (lines.foldl enter { storage }).console.records channel =
      (storage.entries lines).flatMap fun (before, line) => before.output channel line := by
  rw [records_foldl_enter]
  rfl

theorem records_withoutBlank {channel : Channel} (h : channel ≠ .diagnostic) :
    ((withoutBlank lines).foldl enter { storage }).console.records channel =
      (lines.foldl enter { storage }).console.records channel := by
  rw [records_fresh, records_fresh, Storage.entries_withoutBlank]
  apply flatMap_filter_of_eq_nil
  intro entry _ hentry
  exact Storage.output_of_isBlank (by simpa using hentry) h

/-- Only what strays have to say is lost. -/
theorem records_diagnostic_withoutBlank :
    ((withoutBlank lines).foldl enter { storage }).console.records .diagnostic =
      ((storage.entries lines).filter fun (_, line) => !isStray line).flatMap
        fun (before, line) => before.output .diagnostic line := by
  have hfilter : (storage.entries lines).filter (fun (_, line) => !isBlank line.toList) =
      ((storage.entries lines).filter fun (_, line) => !isStray line).filter
        fun (_, line) => !isBlank line.toList := by
    rw [List.filter_filter]
    apply List.filter_congr
    intro entry _
    cases hblank : isBlank entry.2.toList <;> simp [isStray, hblank]
  rw [records_fresh, Storage.entries_withoutBlank, hfilter]
  apply flatMap_filter_of_eq_nil
  intro entry hentry hblank
  obtain ⟨-, hstray⟩ := List.mem_filter.1 hentry
  apply Storage.output_of_ofText_eq_empty
  rw [Program.ofText_eq_empty_iff (by simpa using hblank)]
  simpa using hstray

theorem newlines_withoutBlank :
    newlines ((lines.foldl enter { storage }).console.text [.diagnostic]) =
      newlines (((withoutBlank lines).foldl enter { storage }).console.text [.diagnostic]) +
        (lines.filter isStray).length := by
  have hopen : Channel.diagnostic ∉ (Interpreter.mk storage {}).console.closed :=
    List.not_mem_nil
  rw [newlines_foldl_enter hopen, newlines_foldl_enter hopen, storage.sum_complaints,
    Nat.add_assoc]

end Interpreter

end PassingOver

namespace Session

/-- Blank lines do nothing to the storage and lead to no results.  To pass over them loses the
diagnostics about strays, one line for each of them, and nothing else.  So nothing is lost just if
each blank line is an empty program. -/
theorem run_blank_lines (storage : Storage) (bytes : List UInt8) (interactive : Bool) :
    let session := (run ⟨.ofBytes bytes interactive, { storage }⟩).interpreter
    let lines := enteredLines (trimmedLines (Utf8.decode bytes))
    let plain := lines.foldl Interpreter.enter { storage }
    let entries := storage.entries lines
    session.storage = plain.storage ∧
    session.console.text [.result] = plain.console.text [.result] ∧
    plain.console.records .diagnostic =
      entries.flatMap (fun (before, line) => before.output .diagnostic line) ∧
    session.console.records .diagnostic = (entries.filter fun (_, line) => !isStray line).flatMap
      (fun (before, line) => before.output .diagnostic line) ∧
    (∀ line, isBlank line.toList = true →
      (Program.ofText line = .ok ⟨[]⟩ ↔ isStray line = false)) ∧
    (∀ line, isStray line = true → ∃ front c back,
      line.toList = front ++ c :: back ∧ (∀ w ∈ front, isSeparator w = true) ∧
        isSeparator c = false ∧ ∀ before : Storage, before.output .diagnostic line =
          ["parsing error: " ++
            s!"unexpected token {quote (String.singleton c)} at pos {byteLength front}" ++ "\n"]) ∧
    newlines (plain.console.text [.diagnostic]) =
      newlines (session.console.text [.diagnostic]) + (lines.filter isStray).length ∧
    (session.console.text [.diagnostic] = plain.console.text [.diagnostic] ↔
      ∀ line ∈ lines, isStray line = false) := by
  intro session lines plain entries
  -- The session is the fold that leaves blank lines out, but for the words of the shell.
  have hmute : session.mute = (withoutBlank lines).foldl Interpreter.enter { storage } := by
    rw [mute_run, Shell.lines_ofBytes, commandLines_eq_withoutBlank]
    rfl
  have hrecords : ∀ channel ≠ .shell, session.console.records channel =
      ((withoutBlank lines).foldl Interpreter.enter { storage }).console.records channel := by
    intro channel h
    rw [← hmute]
    exact (Console.records_mute h).symm
  have hstorage : session.storage = plain.storage := by
    rw [← Interpreter.storage_withoutBlank, ← hmute]
    rfl
  have hresult : session.console.text [.result] = plain.console.text [.result] := by
    rw [Console.text_singleton, Console.text_singleton, hrecords _ (by decide),
      Interpreter.records_withoutBlank storage lines (by decide)]
  have hplain : plain.console.records .diagnostic =
      entries.flatMap (fun (before, line) => before.output .diagnostic line) :=
    Interpreter.records_fresh storage lines .diagnostic
  have hsession : session.console.records .diagnostic =
      (entries.filter fun (_, line) => !isStray line).flatMap
        (fun (before, line) => before.output .diagnostic line) := by
    rw [hrecords _ (by decide), Interpreter.records_diagnostic_withoutBlank]
  have hnewlines : newlines (plain.console.text [.diagnostic]) =
      newlines (session.console.text [.diagnostic]) + (lines.filter isStray).length := by
    rw [Console.text_singleton session.console, hrecords _ (by decide), ← Console.text_singleton]
    exact Interpreter.newlines_withoutBlank storage lines
  refine ⟨hstorage, hresult, hplain, hsession, fun _ => Program.ofText_eq_empty_iff,
    fun _ => Storage.output_of_isStray, hnewlines, ?_⟩
  constructor
  · intro htext line hline
    rw [htext] at hnewlines
    have hnone : lines.filter isStray = [] := List.length_eq_zero_iff.1 (by omega)
    rw [← Bool.not_eq_true]
    exact List.filter_eq_nil_iff.1 hnone line hline
  · intro hnone
    have hall : entries.filter (fun (_, line) => !isStray line) = entries := by
      apply List.filter_eq_self.2
      intro entry hentry
      simp [hnone entry.2 (storage.mem_of_mem_entries lines hentry)]
    rw [Console.text_singleton, Console.text_singleton, hsession, hplain, hall]

/-- U+00A0 is white space and no separator.  A line of it is an error that the session loses. -/
theorem run_no_break_space :
    let bytes := [0xc2, 0xa0]
    let lines := enteredLines (trimmedLines (Utf8.decode bytes))
    let plain := lines.foldl Interpreter.enter { storage := .ofKind .memory }
    let session := (run ⟨.ofBytes bytes false, { storage := .ofKind .memory }⟩).interpreter
    lines = ["\u00a0"] ∧ lines.all (fun line => isBlank line.toList) = true ∧
    Program.ofText "\u00a0" ≠ .ok ⟨[]⟩ ∧
    plain.console.text [.diagnostic] =
      "parsing error: unexpected token \"\\u\x7ba0\x7d\" at pos 0\n" ∧
    session.console.text [.diagnostic] = "" := by
  decide +kernel

end Session

end ParkingLot
