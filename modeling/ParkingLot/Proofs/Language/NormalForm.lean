import ParkingLot.CommandLine.Run
import ParkingLot.Proofs.Language.Joining
import ParkingLot.Proofs.Language.RoundTrip
import ParkingLot.Proofs.Storage.Changes
/-!
# Canonical text is a normal form

What is read from a text can be written (`Program.isWritable_of_ofText`), so every program that is
read comes back from its canonical text, and two of them share that text only if they are the same
statements (`canonicalText_isNormalForm`).
-/

namespace ParkingLot

open Text Parse

/-! ## What is read can be written -/

variable {w : String} {after : List Char} {n : Int64} {head : Token} {args ts : List Token}
  {s : Statement} {ss : List Statement} {items : List Located}

private theorem isPlainWord_of_isLexeme (h : IsLexeme .word w.toList after) : IsPlainWord w := by
  generalize hw : w.toList = lexeme at h
  cases h with
  | word hword hne =>
      obtain ⟨c, hc, hstart⟩ := hword.starts
      subst hw
      refine ⟨?_, hword.unbroken, ?_⟩
      · rw [Option.mem_def.1 hc]
        exact hstart
      · rintro k - rfl
        exact hne k rfl

private theorem nonneg_of_isLexeme (h : IsLexeme .int w.toList after) (hn : readInt64? w = some n) :
    0 ≤ n.toInt := by
  generalize hw : w.toList = lexeme at h
  cases h with
  | int _ hdigits _ =>
      rw [readInt64?_of_isDigit (hw ▸ hdigits), Sign.read?_eq_some_iff] at hn
      rw [hn.2, Sign.unit, Int.one_mul]
      exact Int.natCast_nonneg _

def Token.IsScanned (t : Token) : Prop := ∃ after, IsLexeme t.kind t.literal.toList after

theorem Token.IsScanned.isPlainWord {t : Token} (h : t.IsScanned) (hkind : t.kind = .word) :
    IsPlainWord t.literal := by
  obtain ⟨after, hlexeme⟩ := h
  rw [hkind] at hlexeme
  exact isPlainWord_of_isLexeme hlexeme

theorem Token.IsScanned.nonneg {t : Token} (h : t.IsScanned) (hkind : t.kind = .int)
    (hn : readInt64? t.literal = some n) : 0 ≤ n.toInt := by
  obtain ⟨after, hlexeme⟩ := h
  rw [hkind] at hlexeme
  exact nonneg_of_isLexeme hlexeme hn

theorem isScanned_of_mem_tokens (text : String) :
    ∀ t ∈ (Cursor.ofText text).tokens, t.IsScanned := by
  intro t ht
  have hlexes : Lexes 0 text.toList (Cursor.ofText text).tokens := lexes_iff_eq_tokens.2 rfl
  obtain ⟨before, after, -, hlexeme⟩ := hlexes.lexemes t ht
  exact ⟨after, hlexeme⟩

theorem Parse.Block.isWritable (h : Block head args s) (hargs : ∀ t ∈ args, t.IsScanned) :
    s.IsWritable := by
  cases h with
  | createParkingLot _ hkind hn | leave _ hkind hn =>
      exact (hargs _ List.mem_cons_self).nonneg hkind hn
  | park _ hr hc =>
      rw [List.forall_mem_cons, List.forall_mem_singleton] at hargs
      exact ⟨hargs.1.isPlainWord hr, hargs.2.isPlainWord hc⟩
  | status => trivial
  | registrationNumbersWithColour _ hkind | slotNumbersWithColour _ hkind
  | slotNumberWithRegistration _ hkind => exact (hargs _ List.mem_cons_self).isPlainWord hkind

theorem Parse.Blocks.isWritable (h : Blocks ts items) (hts : ∀ t ∈ ts, t.IsScanned) :
    ∀ item ∈ items, item.statement.IsWritable := by
  induction h with
  | nil => simp
  | cons hblock _ ih =>
      rw [List.forall_mem_cons, List.forall_mem_append] at hts
      rw [List.forall_mem_cons]
      exact ⟨hblock.isWritable hts.2.1, ih hts.2.2⟩

theorem Program.isWritable_of_ofText {text : String} {p : Program} (h : ofText text = .ok p) :
    ∀ s ∈ p.statements, s.IsWritable := by
  rw [Program.ofText_eq_ok_iff] at h
  intro s hs
  obtain ⟨item, hitem, rfl⟩ := List.mem_map.1 hs
  exact h.isWritable (isScanned_of_mem_tokens text) item hitem

/-! ## Capacities that are read are not negative -/

theorem Storage.run_ne_invalidCapacity (storage : Storage) (hs : s.IsWritable) (n : Int) :
    (storage.run s).1 ≠ .error (.lot (.invalidCapacity n)) := by
  intro hrun
  cases storage with
  | memory lot =>
      obtain ⟨o, after, hstep, h⟩ := lot.step_of_run s
      rw [hstep] at hrun
      dsimp only at hrun
      subst hrun
      cases h with
      | refused hrefusal =>
          cases hrefusal with
          | negative hneg => exact absurd hs (Int.not_le.2 hneg)
  | file =>
      rw [run_file] at hrun
      have hfailure : fileFailure s = .lot (.invalidCapacity n) := Except.error.inj hrun
      cases s with
      | createParkingLot m =>
          rw [fileFailure, if_neg (Int.not_lt.2 hs)] at hfailure
          cases hfailure
      | park registration colour =>
          rw [fileFailure] at hfailure
          split at hfailure <;> cases hfailure
      | leave _ | status | registrationNumbersWithColour _ | slotNumbersWithColour _
      | slotNumberWithRegistration _ => simp [fileFailure] at hfailure

theorem Storage.runAll_ne_invalidCapacity (h : ∀ s ∈ ss, s.IsWritable) (storage : Storage) :
    ∀ o ∈ (storage.runAll ss).1, ∀ n, o ≠ .error (.lot (.invalidCapacity n)) := by
  induction ss generalizing storage with
  | nil => simp [runAll]
  | cons s ss ih =>
      rw [List.forall_mem_cons] at h
      rw [runAll_cons, List.forall_mem_cons]
      exact ⟨storage.run_ne_invalidCapacity h.1, ih h.2 _⟩

/-! ## One line to a statement -/

private theorem splitOn_canonicalText (h : ∀ s ∈ ss, s.IsWritable) (hne : ss ≠ []) :
    (canonicalText ss).toList.splitOn '\n' = ss.map fun s => s.text.toList := by
  have htext : (canonicalText ss).toList =
      ['\n'].intercalate (ss.map fun s => s.text.toList) := by
    rw [canonicalText, String.toList_intercalate, List.map_map]
    rfl
  rw [htext]
  apply List.splitOn_intercalate
  · intro line hline
    obtain ⟨s, hs, rfl⟩ := List.mem_map.1 hline
    exact (h s hs).newline_not_mem
  · simpa using hne

/-! ## Reading what was printed -/

section Ends

variable {ends : String} (hends : ∀ c ∈ ends.toList, isSeparator c = true)

include hends

private theorem ofText_append_ends_iff {text : String} {p : Program} :
    Program.ofText (text ++ ends) = .ok p ↔ Program.ofText text = .ok p := by
  have htokens := Cursor.tokens_append_separators (Cursor.ofText text) hends
  rw [Program.ofText_eq_ok_iff, Program.ofText_eq_ok_iff, ← htokens]
  simp only [Cursor.ofText, String.toList_append]

/-- Canonical text is read as what it was written for, and separators may follow it. -/
theorem exists_ofText_canonicalText_append (h : ∀ s ∈ ss, s.IsWritable) :
    ∃ q, Program.ofText (canonicalText ss ++ ends) = .ok q ∧ q.statements = ss := by
  induction ss with
  | nil =>
      have hempty : Program.ofText (canonicalText []) = .ok ⟨[]⟩ := by decide +kernel
      exact ⟨⟨[]⟩, (ofText_append_ends_iff hends).2 hempty, rfl⟩
  | cons s ss ih =>
      rw [List.forall_mem_cons] at h
      have hfirst := h.1.ofText_text
      cases ss with
      | nil =>
          have htext : canonicalText [s] = s.text := String.intercalate_singleton
          rw [htext]
          exact ⟨_, (ofText_append_ends_iff hends).2 hfirst, rfl⟩
      | cons t ss =>
          obtain ⟨q, hq, hstatements⟩ := ih h.2
          have htext : canonicalText (s :: t :: ss) ++ ends =
              s.text ++ "\n" ++ (canonicalText (t :: ss) ++ ends) := by
            unfold canonicalText
            rw [List.map_cons, List.map_cons, String.intercalate_cons_cons, String.append_assoc]
          have hgap : ∀ c ∈ "\n".toList, isSeparator c = true := by simp [isSeparator]
          rw [htext]
          refine ⟨_, ofText_append_of_ok (by decide) hgap hfirst hq, ?_⟩
          rw [Program.statements_append_shift, hstatements]
          rfl

end Ends

theorem exists_ofText_canonicalText (h : ∀ s ∈ ss, s.IsWritable) :
    ∃ q, Program.ofText (canonicalText ss) = .ok q ∧ q.statements = ss := by
  have hnone : ∀ c ∈ "".toList, isSeparator c = true := by simp
  obtain ⟨q, hq, hstatements⟩ := exists_ofText_canonicalText_append hnone h
  rw [String.append_empty] at hq
  exact ⟨q, hq, hstatements⟩

/-- Canonical text tells apart all that can be written. -/
theorem canonicalText_inj {ts : List Statement} (hs : ∀ s ∈ ss, s.IsWritable)
    (ht : ∀ t ∈ ts, t.IsWritable) : canonicalText ss = canonicalText ts ↔ ss = ts := by
  refine ⟨fun heq => ?_, congrArg canonicalText⟩
  obtain ⟨p, hp, rfl⟩ := exists_ofText_canonicalText hs
  obtain ⟨q, hq, rfl⟩ := exists_ofText_canonicalText ht
  rw [heq, hq] at hp
  rw [Except.ok.inj hp]

def printedText (ss : List Statement) : String :=
  if ss.isEmpty then "" else canonicalText ss ++ "\n"

theorem exists_ofText_printedText (h : ∀ s ∈ ss, s.IsWritable) :
    ∃ q, Program.ofText (printedText ss) = .ok q ∧ q.statements = ss := by
  unfold printedText
  split
  · next hempty =>
    rw [List.isEmpty_iff] at hempty
    subst hempty
    exact ⟨⟨[]⟩, by decide +kernel, rfl⟩
  · exact exists_ofText_canonicalText_append (by simp [isSeparator]) h

theorem printProgram_eq {files : FileSystem} {path text : String} {p : Program}
    (hread : readSource files path = .ok text) (hp : Program.ofText text = .ok p) :
    printProgram files path = .ok { out := printedText p.statements } := by
  have hempty : p.isEmpty = p.statements.isEmpty := by
    rw [Program.isEmpty, Program.statements, List.isEmpty_map]
  rw [printProgram, readProgram, hread]
  simp only [Except.mapError, bind, Except.bind, hp, pure, Except.pure, hempty]
  rfl

/-- What is read from a text can be written, and its canonical text is its normal form: it is read
as the same statements, one from each line, and printing it again changes nothing.  Two programs
that are read have one canonical text only if they are the same statements. -/
theorem canonicalText_isNormalForm {text : String} {p : Program}
    (h : Program.ofText text = .ok p) :
    (∀ s ∈ p.statements, s.IsWritable) ∧
      (∀ storage : Storage, ∀ o ∈ (storage.runAll p.statements).1,
        ∀ n, o ≠ .error (.lot (.invalidCapacity n))) ∧
      (∃ q, Program.ofText (canonicalText p.statements) = .ok q ∧
        q.statements = p.statements ∧
        canonicalText q.statements = canonicalText p.statements) ∧
      (∀ files path, readSource files path = .ok text →
        ∃ output, printProgram files path = .ok output ∧
          ∀ files' path', readSource files' path' = .ok output.out →
            printProgram files' path' = .ok output) ∧
      (p.statements = [] → canonicalText p.statements = "") ∧
      (p.statements ≠ [] → (canonicalText p.statements).toList.splitOn '\n' =
        p.statements.map fun s => s.text.toList) ∧
      ∀ other q, Program.ofText other = .ok q →
        (canonicalText p.statements = canonicalText q.statements ↔
          p.statements = q.statements) := by
  have hwritable := Program.isWritable_of_ofText h
  refine ⟨hwritable, Storage.runAll_ne_invalidCapacity hwritable, ?_, ?_, ?_,
    splitOn_canonicalText hwritable, ?_⟩
  · obtain ⟨q, hq, hstatements⟩ := exists_ofText_canonicalText hwritable
    exact ⟨q, hq, hstatements, congrArg canonicalText hstatements⟩
  · intro files path hread
    refine ⟨_, printProgram_eq hread h, ?_⟩
    intro files' path' hread'
    obtain ⟨q, hq, hstatements⟩ := exists_ofText_printedText hwritable
    rw [printProgram_eq hread' hq, hstatements]
  · intro hempty
    rw [hempty]
    rfl
  · intro other q hq
    exact canonicalText_inj hwritable (Program.isWritable_of_ofText hq)

/-- Leading zeros go and glued words come apart; a word keeps whatever is in it. -/
theorem canonicalText_isNormalForm_glued :
    ∃ p, Program.ofText "leave 007park a\u00a0! B\tstatus" = .ok p ∧
      (∀ s ∈ p.statements, s.IsWritable) ∧
      (∀ storage : Storage, ∀ o ∈ (storage.runAll p.statements).1,
        ∀ n, o ≠ .error (.lot (.invalidCapacity n))) ∧
      (∃ q, Program.ofText (canonicalText p.statements) = .ok q ∧
        q.statements = p.statements ∧
        canonicalText q.statements = canonicalText p.statements) ∧
      (∀ files path, readSource files path = .ok "leave 007park a\u00a0! B\tstatus" →
        ∃ output, printProgram files path = .ok output ∧
          ∀ files' path', readSource files' path' = .ok output.out →
            printProgram files' path' = .ok output) ∧
      (p.statements = [] → canonicalText p.statements = "") ∧
      (p.statements ≠ [] → (canonicalText p.statements).toList.splitOn '\n' =
        p.statements.map fun s => s.text.toList) ∧
      ∀ other q, Program.ofText other = .ok q →
        (canonicalText p.statements = canonicalText q.statements ↔
          p.statements = q.statements) :=
  have h : Program.ofText "leave 007park a\u00a0! B\tstatus" =
      .ok ⟨[⟨.leave 7, ⟨0, 9⟩⟩, ⟨.park "a\u00a0!" "B", ⟨9, 20⟩⟩, ⟨.status, ⟨21, 27⟩⟩]⟩ := by
    decide +kernel
  ⟨_, h, canonicalText_isNormalForm h⟩

end ParkingLot
