import ParkingLot.Language.Diagnostic
import ParkingLot.Proofs.Language.FirstFault
import ParkingLot.Proofs.Language.Joining
/-!
# What spans cover

The span of a statement covers the slice of the text that the statement is read from, and would be
read from if there were nothing else (`statement_spans`).  The span of a fault covers the token at
fault, or nothing at all at the end of a text that breaks off (`fault_span`).
-/

namespace ParkingLot

open Text Parse

/-- The span covers this slice of the text, with whole characters before and behind it. -/
def Text.Span.Covers (span : Span) (text slice : String) : Prop :=
  ∃ before after, text = before ++ slice ++ after ∧
    span = ⟨before.utf8ByteSize, (before ++ slice).utf8ByteSize⟩

private theorem covers_ofList {span : Span} {text : String} {before slice after : List Char}
    (htext : text.toList = before ++ (slice ++ after))
    (hspan : span = ⟨byteLength before, byteLength before + byteLength slice⟩) :
    span.Covers text (String.ofList slice) := by
  refine ⟨String.ofList before, String.ofList after, ?_, ?_⟩
  · rw [← String.toList_inj, htext]
    simp
  · rw [hspan, ← byteLength_toList, ← byteLength_toList]
    simp

namespace Text.Span.Covers

variable {span : Span} {text slice : String}

theorem start_le_stop (h : span.Covers text slice) : span.start ≤ span.stop := by
  obtain ⟨before, after, -, rfl⟩ := h
  rw [String.utf8ByteSize_append]
  exact Nat.le_add_right _ _

theorem stop_le (h : span.Covers text slice) : span.stop ≤ text.utf8ByteSize := by
  obtain ⟨before, after, rfl, rfl⟩ := h
  rw [String.utf8ByteSize_append (t := after)]
  exact Nat.le_add_right _ _

end Text.Span.Covers

variable {o : Nat} {cs gap slice lexeme after after' : List Char} {kind : TokenKind}
  {head : Token} {args ts : List Token} {s : Statement} {item : Located} {items : List Located}

/-! ## Slices by tokens -/

theorem IsLexeme.of_head? (h : IsLexeme kind lexeme after)
    (hhead : ∀ c ∈ after'.head?, c ∈ after.head?) : IsLexeme kind lexeme after' := by
  have hword : ∀ {lexeme}, IsWord lexeme after → IsWord lexeme after' := fun h =>
    ⟨h.starts, h.unbroken, fun c hc => h.ends c (hhead c hc)⟩
  cases h with
  | keyword h => exact .keyword (hword h)
  | word h hne => exact .word (hword h) hne
  | int hne hdigits hends => exact .int hne hdigits fun c hc => hends c (hhead c hc)
  | illegal hsep hstart hdigit => exact .illegal hsep hstart hdigit

theorem Lexes.gap_append (hgap : ∀ c ∈ gap, isSeparator c = true)
    (h : Lexes (o + byteLength gap) cs ts) : Lexes o (gap ++ cs) ts := by
  rw [lexes_iff_eq_tokens] at *
  rw [h, Cursor.tokens_separators_append hgap]

/-- Some first tokens of a text are the tokens of a slice of it, and the others are those of what
stands behind the slice. -/
theorem Lexes.exists_slice (h : Lexes o cs (head :: (args ++ ts))) :
    ∃ gap slice after, cs = gap ++ (slice ++ after) ∧ (∀ c ∈ gap, isSeparator c = true) ∧
      head.span.start = o + byteLength gap ∧
      (lastToken head args).span.stop = o + byteLength gap + byteLength slice ∧
      Lexes (o + byteLength gap) slice (head :: args) ∧
      Lexes (o + byteLength gap + byteLength slice) after ts := by
  -- token by token: the gap before a token belongs to the slice unless the token is the first
  induction args generalizing o cs head with
  | nil =>
      obtain ⟨gap, rest, hgap, hstands, hlexeme, hrest⟩ := h.uncons
      have hstart := hstands.start_eq
      have hstop := hstands.stop_eq
      rw [hstart] at hstop
      rw [hstop] at hrest
      refine ⟨gap, head.literal.toList, rest, hstands.chars_eq, hgap, hstart, hstop, ?_, hrest⟩
      have halone : head.StandsIn (o + byteLength gap) head.literal.toList [] [] :=
        ⟨(List.append_nil _).symm, hstart, hstands.stop_eq⟩
      exact .cons (by simp) halone (hlexeme.of_head? (by simp)) (lexes_nil_iff.2 (by simp))
  | cons arg args ih =>
      obtain ⟨gap, rest, hgap, hstands, hlexeme, hrest⟩ := h.uncons
      obtain ⟨gap', slice, after, rfl, hgap', -, hstop, hslice, hafter⟩ := ih hrest
      have hstart := hstands.start_eq
      have hlength : head.span.stop + byteLength gap' + byteLength slice = o + byteLength gap +
          byteLength (head.literal.toList ++ (gap' ++ slice)) := by
        rw [hstands.stop_eq, hstart, byteLength_append, byteLength_append]
        omega
      rw [hlength] at hstop hafter
      refine ⟨gap, head.literal.toList ++ (gap' ++ slice), after, ?_, hgap, hstart, ?_, ?_, hafter⟩
      · rw [hstands.chars_eq, List.append_assoc, List.append_assoc]
      · rw [lastToken_cons, hstop]
      · have hfirst : head.StandsIn (o + byteLength gap)
            (head.literal.toList ++ (gap' ++ slice)) [] (gap' ++ slice) :=
          ⟨rfl, hstart, hstands.stop_eq⟩
        have hlexeme' : IsLexeme head.kind head.literal.toList (gap' ++ slice) := by
          apply hlexeme.of_head?
          intro c hc
          rw [← List.append_assoc]
          exact List.mem_head?_append_of_mem_head? hc
        exact .cons (by simp) hfirst hlexeme' (hslice.gap_append hgap')

/-- The tokens of a slice are a program if they are one where the slice comes from. -/
theorem ofText_of_lexes (h : Lexes o cs ts) (hblocks : Blocks ts items) :
    ∃ others, Program.ofText (String.ofList cs) = .ok ⟨others⟩ ∧
      items = others.map (Located.shift o) := by
  have htokens : ts = (Cursor.ofText (String.ofList cs)).tokens.map (Token.shift o) := by
    rw [lexes_iff_eq_tokens.1 h, ← Cursor.tokens_shift, Cursor.ofText, String.toList_ofList,
      Cursor.shift, Nat.add_zero]
  have hmoved := statements_shift o (.eof 0) (Cursor.ofText (String.ofList cs)).tokens
  rw [← htokens, statements_eq_ok_iff.2 hblocks] at hmoved
  cases hread : statements (.eof 0) (Cursor.ofText (String.ofList cs)).tokens with
  | error e =>
      rw [hread] at hmoved
      contradiction
  | ok others =>
      rw [hread] at hmoved
      exact ⟨others, Program.ofText_eq_ok_iff.2 (statements_eq_ok_iff.1 hread),
        Except.ok.inj hmoved⟩

private theorem Located.shift_injective (m : Nat) : Function.Injective (Located.shift m) := by
  rintro ⟨s, start, stop⟩ ⟨s', start', stop'⟩ h
  simpa [Located.shift, Span.shift] using h

theorem ofText_of_block (hlexes : Lexes o slice (head :: args)) (hblock : Block head args s)
    (hstart : head.span.start = o)
    (hstop : (lastToken head args).span.stop = o + byteLength slice) :
    Program.ofText (String.ofList slice) = .ok ⟨[⟨s, ⟨0, byteLength slice⟩⟩]⟩ := by
  have hblocks := Blocks.cons hblock .nil
  rw [List.append_nil] at hblocks
  obtain ⟨others, hread, hitems⟩ := ofText_of_lexes hlexes hblocks
  have hplace : Located.shift o ⟨s, ⟨0, byteLength slice⟩⟩ =
      ⟨s, head.span.enclose (lastToken head args).span⟩ := by
    rw [Span.enclose, hstart, hstop]
    rfl
  rw [← hplace, ← List.map_singleton] at hitems
  rw [hread, ← List.map_injective_iff.2 (Located.shift_injective o) hitems]

theorem byteLength_pos_of_ofText
    (h : Program.ofText (String.ofList slice) = .ok ⟨item :: items⟩) : 0 < byteLength slice := by
  apply Nat.pos_of_ne_zero
  intro hzero
  have hnone : (Cursor.ofText "").tokens = [] := Cursor.tokens_of_next?_eq_none rfl
  rw [eq_nil_of_byteLength_eq_zero hzero, String.ofList_nil, Program.ofText_eq_ok_iff, hnone] at h
  cases h.eq_nil

/-! ## Statements by tokens -/

private theorem lastToken_mem (head : Token) (args : List Token) : lastToken head args ∈ head :: args := by
  induction args generalizing head with
  | nil => exact List.mem_cons_self
  | cons arg args ih =>
      rw [lastToken_cons]
      exact List.mem_cons_of_mem _ (ih arg)

theorem Lexes.start_le_stop (h : Lexes o cs ts) : ∀ t ∈ ts, t.span.start ≤ t.span.stop := by
  intro t ht
  obtain ⟨before, after, hstands, -⟩ := h.lexemes t ht
  rw [hstands.stop_eq]
  exact Nat.le_add_right _ _

theorem stop_le_lastToken {t : Token}
    (hordered : (head :: args).Pairwise fun t u => t.span.stop ≤ u.span.start)
    (hle : ∀ t ∈ head :: args, t.span.start ≤ t.span.stop) (ht : t ∈ head :: args) :
    t.span.stop ≤ (lastToken head args).span.stop := by
  induction args generalizing head with
  | nil =>
      obtain rfl := List.mem_singleton.1 ht
      exact Nat.le_refl _
  | cons arg args ih =>
      rw [List.pairwise_cons] at hordered
      have hle' := fun u hu => hle u (List.mem_cons_of_mem head hu)
      rw [lastToken_cons]
      rcases List.mem_cons.1 ht with rfl | ht
      · have hlast := lastToken_mem arg args
        exact Nat.le_trans (hordered.1 _ hlast) (hle' _ hlast)
      · exact ih hordered.2 hle' ht

namespace Parse.Blocks

theorem exists_start (h : Blocks ts items) (hitem : item ∈ items) :
    ∃ t ∈ ts, item.span.start = t.span.start := by
  induction h with
  | nil => cases hitem
  | @cons head args ts s items _ _ ih =>
      rcases List.mem_cons.1 hitem with rfl | hitem
      · exact ⟨head, List.mem_cons_self, rfl⟩
      · obtain ⟨t, ht, hstart⟩ := ih hitem
        exact ⟨t, List.mem_append_right (head :: args) ht, hstart⟩

/-- A statement stands in a slice of the text that says this statement and no more. -/
theorem exists_slice (h : Blocks ts items) (hlexes : Lexes o cs ts) (hitem : item ∈ items) :
    ∃ before slice after, cs = before ++ (slice ++ after) ∧
      item.span = ⟨o + byteLength before, o + byteLength before + byteLength slice⟩ ∧
      Program.ofText (String.ofList slice) = .ok ⟨[⟨item.statement, ⟨0, byteLength slice⟩⟩]⟩ := by
  induction h generalizing o cs with
  | nil => cases hitem
  | cons hblock _ ih =>
      obtain ⟨gap, slice, after, rfl, -, hstart, hstop, hslice, hafter⟩ := hlexes.exists_slice
      rcases List.mem_cons.1 hitem with rfl | hitem
      · refine ⟨gap, slice, after, rfl, ?_, ofText_of_block hslice hblock hstart hstop⟩
        rw [Span.enclose, hstart, hstop]
      · obtain ⟨before, slice', after', rfl, hspan, hread⟩ := ih hafter hitem
        refine ⟨gap ++ (slice ++ before), slice', after', by simp, ?_, hread⟩
        rw [hspan, byteLength_append, byteLength_append, Nat.add_assoc, Nat.add_assoc,
          ← Nat.add_assoc (byteLength gap)]

variable (h : Blocks ts items) (hordered : ts.Pairwise fun t u => t.span.stop ≤ u.span.start)

include h hordered

theorem pairwise_span : items.Pairwise fun a b => a.span.stop ≤ b.span.start := by
  induction h with
  | nil => exact .nil
  | @cons head args ts s items _ hblocks ih =>
      rw [← List.cons_append, List.pairwise_append] at hordered
      obtain ⟨-, hrest, hbetween⟩ := hordered
      refine List.pairwise_cons.2 ⟨?_, ih hrest⟩
      intro item hitem
      obtain ⟨t, ht, hstart⟩ := hblocks.exists_start hitem
      rw [hstart]
      exact hbetween _ (lastToken_mem head args) t ht

/-- Every token belongs to a statement, and its span lies within that of the statement. -/
theorem exists_around (hle : ∀ t ∈ ts, t.span.start ≤ t.span.stop) {t : Token} (ht : t ∈ ts) :
    ∃ item ∈ items, item.span.start ≤ t.span.start ∧ t.span.stop ≤ item.span.stop := by
  induction h with
  | nil => cases ht
  | @cons head args ts s items _ hblocks ih =>
      rw [← List.cons_append] at hordered hle ht
      obtain ⟨hblock, hrest, -⟩ := List.pairwise_append.1 hordered
      obtain ⟨hle, hle'⟩ := List.forall_mem_append.1 hle
      rcases List.mem_append.1 ht with ht | ht
      · refine ⟨_, List.mem_cons_self, ?_, stop_le_lastToken hblock hle ht⟩
        rcases List.mem_cons.1 ht with rfl | ht
        · exact Nat.le_refl _
        · have hlater := (List.pairwise_cons.1 hblock).1 t ht
          exact Nat.le_trans (hle head List.mem_cons_self) hlater
      · obtain ⟨item, hitem, haround⟩ := ih hrest hle' ht
        exact ⟨item, List.mem_cons_of_mem _ hitem, haround⟩

end Parse.Blocks

/-- The statements of a text stand in it in order and do not overlap, with only separators before,
between and after them.  Each covers a slice of the text that is this one statement by itself. -/
theorem statement_spans {text : String} {p : Program} (h : Program.ofText text = .ok p) :
    (p.items.Pairwise fun a b => a.span.stop ≤ b.span.start) ∧
      (∀ item ∈ p.items, item.span.start < item.span.stop ∧
        ∃ slice, item.span.Covers text slice ∧
          Program.ofText slice = .ok ⟨[⟨item.statement, ⟨0, slice.utf8ByteSize⟩⟩]⟩) ∧
      ∀ before c after, text.toList = before ++ c :: after → isSeparator c = true ∨
        ∃ item ∈ p.items, item.span.start ≤ byteLength before ∧
          byteLength before < item.span.stop := by
  have hblocks := Program.ofText_eq_ok_iff.1 h
  have hlexes : Lexes 0 text.toList (Cursor.ofText text).tokens := lexes_iff_eq_tokens.2 rfl
  refine ⟨hblocks.pairwise_span hlexes.ordered, ?_, ?_⟩
  · intro item hitem
    obtain ⟨before, slice, after, htext, hspan, hread⟩ := hblocks.exists_slice hlexes hitem
    rw [Nat.zero_add] at hspan
    refine ⟨?_, String.ofList slice, covers_ofList htext hspan, ?_⟩
    · rw [hspan]
      exact Nat.lt_add_of_pos_right (byteLength_pos_of_ofText hread)
    · rw [hread, ← byteLength_toList, String.toList_ofList]
  · intro before c after htext
    rcases hlexes.gaps before c after htext with hsep | ⟨t, ht, hle, hlt⟩
    · exact .inl hsep
    · obtain ⟨item, hitem, hstart, hstop⟩ :=
        hblocks.exists_around hlexes.ordered hlexes.start_le_stop ht
      rw [Nat.zero_add] at hle hlt
      exact .inr ⟨item, hitem, Nat.le_trans hstart hle, Nat.lt_of_lt_of_le hlt hstop⟩

/-- Statements may touch, and characters have more than one byte. -/
theorem statement_spans_touching :
    let text := "leave 1status\r\n\tpark aé😀 White"
    let p : Program := ⟨[⟨.leave 1, ⟨0, 7⟩⟩, ⟨.status, ⟨7, 13⟩⟩, ⟨.park "aé😀" "White", ⟨16, 34⟩⟩]⟩
    Program.ofText text = .ok p ∧ (p.items.Pairwise fun a b => a.span.stop ≤ b.span.start) ∧
      (∀ item ∈ p.items, item.span.start < item.span.stop ∧
        ∃ slice, item.span.Covers text slice ∧
          Program.ofText slice = .ok ⟨[⟨item.statement, ⟨0, slice.utf8ByteSize⟩⟩]⟩) ∧
      ∀ before c after, text.toList = before ++ c :: after → isSeparator c = true ∨
        ∃ item ∈ p.items, item.span.start ≤ byteLength before ∧
          byteLength before < item.span.stop :=
  have h : Program.ofText "leave 1status\r\n\tpark aé😀 White" = .ok
      ⟨[⟨.leave 1, ⟨0, 7⟩⟩, ⟨.status, ⟨7, 13⟩⟩, ⟨.park "aé😀" "White", ⟨16, 34⟩⟩]⟩ := by
    decide +kernel
  ⟨h, statement_spans h⟩

/-! ## The place of a fault -/

variable {text : String} {t : Token} {e : SyntaxError}

theorem covers_of_mem_tokens (ht : t ∈ (Cursor.ofText text).tokens) :
    t.span.Covers text t.literal ∧ t.span.isEmpty = false := by
  have hlexes : Lexes 0 text.toList (Cursor.ofText text).tokens := lexes_iff_eq_tokens.2 rfl
  obtain ⟨before, after, hstands, hlexeme⟩ := hlexes.lexemes t ht
  obtain ⟨c, lexeme, hliteral, -⟩ := hlexeme.exists_cons
  have hstart := hstands.start_eq
  have hstop := hstands.stop_eq
  rw [Nat.zero_add] at hstart
  constructor
  · rw [← t.literal.ofList_toList]
    refine covers_ofList hstands.chars_eq ?_
    rw [← hstart, ← hstop]
  · have hpos := c.utf8Size_pos
    rw [hliteral, byteLength_cons] at hstop
    rw [← Bool.not_eq_true, Span.isEmpty_iff]
    omega

private theorem covers_end (text : String) :
    Span.Covers ⟨text.utf8ByteSize, text.utf8ByteSize⟩ text "" :=
  ⟨text, "", by simp, by simp⟩

/-- The fault is at a token of the text, or the text ends where an operand is due. -/
theorem fault_cases
    (h : statements (.eof text.utf8ByteSize) (Cursor.ofText text).tokens = .error e) :
    (∃ t ∈ (Cursor.ofText text).tokens, e.literal = t.literal ∧ e.span = t.span) ∨
      (∃ cls, Awaits (Cursor.ofText text).tokens (.operand cls)) ∧ e.literal = "" ∧
        e.span = ⟨text.utf8ByteSize, text.utf8ByteSize⟩ := by
  obtain ⟨done, rest, due, htokens, hawaits, hmisfit⟩ := statements_eq_error_iff.1 h
  cases rest with
  | nil =>
      rw [List.append_nil] at htokens
      obtain ⟨hliteral, hspan⟩ := hmisfit.at_stop
      cases hmisfit with
      | @missing cls => exact .inr ⟨⟨cls, htokens ▸ hawaits⟩, hliteral, hspan⟩
  | cons t rest =>
      have ht : t ∈ (Cursor.ofText text).tokens := by simp [htokens]
      exact .inl ⟨t, ht, hmisfit.at_head t rfl⟩

/-- The one fault of a text that is no program covers its literal in the text, and so does its
diagnostic.  It covers nothing exactly if the text ends where an operand is due, and then it is at
the end, behind all separators. -/
theorem fault_span {es : SyntaxErrors} (h : Program.ofText text = .error es) :
    ∃ e, es.toList = [e] ∧ e.span.Covers text e.literal ∧ e.span.start ≤ e.span.stop ∧
      e.span.stop ≤ text.utf8ByteSize ∧
      (∀ path, ∃ d, es.diagnostics path = [d] ∧ d.offset = e.span.start ∧
        d.offset + d.length = e.span.stop) ∧
      (e.span.isEmpty = true ↔ ∃ cls, Awaits (Cursor.ofText text).tokens (.operand cls)) ∧
      (e.span.isEmpty = true → e.span = ⟨text.utf8ByteSize, text.utf8ByteSize⟩) := by
  obtain ⟨e, rfl, herror⟩ := Program.ofText_eq_error_iff.1 h
  have hcovers : e.span.Covers text e.literal := by
    rcases fault_cases herror with ⟨t, ht, hliteral, hspan⟩ | ⟨-, hliteral, hspan⟩
    · rw [hliteral, hspan]
      exact (covers_of_mem_tokens ht).1
    · rw [hliteral, hspan]
      exact covers_end text
  have hempty : e.span.isEmpty = true → (∃ cls, Awaits (Cursor.ofText text).tokens
      (.operand cls)) ∧ e.span = ⟨text.utf8ByteSize, text.utf8ByteSize⟩ := by
    intro hempty
    rcases fault_cases herror with ⟨t, ht, -, hspan⟩ | ⟨hawaits, -, hspan⟩
    · rw [hspan, (covers_of_mem_tokens ht).2] at hempty
      contradiction
    · exact ⟨hawaits, hspan⟩
  refine ⟨e, rfl, hcovers, hcovers.start_le_stop, hcovers.stop_le, ?_, ?_, fun h => (hempty h).2⟩
  · intro path
    exact ⟨e.diagnostic path, rfl, rfl, Nat.add_sub_cancel' hcovers.start_le_stop⟩
  · refine ⟨fun h => (hempty h).1, ?_⟩
    rintro ⟨cls, hawaits⟩
    rw [hawaits.statements_eq_error] at herror
    cases herror
    exact (Span.isEmpty_iff _).2 (Nat.le_refl _)

/-- Separators at the end of the text are passed over. -/
theorem fault_span_end :
    let text := "park aé \n"
    let es : SyntaxErrors := { first := ⟨.expected .word, "", ⟨10, 10⟩⟩ }
    Program.ofText text = .error es ∧
      ∃ e, es.toList = [e] ∧ e.span.Covers text e.literal ∧ e.span.start ≤ e.span.stop ∧
        e.span.stop ≤ text.utf8ByteSize ∧
        (∀ path, ∃ d, es.diagnostics path = [d] ∧ d.offset = e.span.start ∧
          d.offset + d.length = e.span.stop) ∧
        (e.span.isEmpty = true ↔ ∃ cls, Awaits (Cursor.ofText text).tokens (.operand cls)) ∧
        (e.span.isEmpty = true → e.span = ⟨text.utf8ByteSize, text.utf8ByteSize⟩) :=
  have h : Program.ofText "park aé \n" =
      .error { first := ⟨.expected .word, "", ⟨10, 10⟩⟩ } := by decide +kernel
  ⟨h, fault_span h⟩

end ParkingLot
