import ParkingLot.Proofs.Language.Contents
import ParkingLot.Proofs.Language.Tokenization
/-!
# Texts joined by separators

Two texts with separators between them are read one after the other: the tokens of the second move
by the bytes before it, and so do its statements or its fault, while a fault at a token of the
first is not changed by anything that follows (`read_append_separators`).
-/

namespace ParkingLot

open Text Parse

def SyntaxError.shift (m : Nat) (e : SyntaxError) : SyntaxError :=
  { e with span := e.span.shift m }

def SyntaxErrors.shift (m : Nat) (es : SyntaxErrors) : SyntaxErrors :=
  ⟨es.first.shift m, es.others.map (SyntaxError.shift m)⟩

variable {stop : Token} {ts : List Token} {e : SyntaxError}

/-! ## Reading moved and longer lists of tokens -/

namespace Parse

theorem statements_shift (m : Nat) (stop : Token) (ts : List Token) :
    statements (stop.shift m) (ts.map (Token.shift m)) =
      ((statements stop ts).mapError (SyntaxError.shift m)).map (List.map (Located.shift m)) :=
  statements_mapSpan (Span.shift m) stop ts (Span.enclose_shift m)

/-- A fault at a token is there whatever follows. -/
theorem statements_append_of_error (h : statements stop ts = .error e)
    (hne : e.literal ≠ stop.literal) (stop' : Token) (us : List Token) :
    statements stop' (ts ++ us) = .error e := by
  obtain ⟨done, rest, due, rfl, hawaits, hmisfit⟩ := statements_eq_error_iff.1 h
  cases rest with
  | nil => exact absurd hmisfit.at_stop.1 hne
  | cons t rest =>
      rw [List.append_assoc]
      exact statements_eq_error_iff.2 ⟨done, _, due, rfl, hawaits, hmisfit.of_cons _ _⟩

end Parse

/-! ## Tokens of joined texts -/

theorem Cursor.tokens_separators_append {gap : List Char} (h : ∀ c ∈ gap, isSeparator c = true)
    (o : Nat) (cs : List Char) : tokens ⟨o, gap ++ cs⟩ = tokens ⟨o + byteLength gap, cs⟩ := by
  apply tokens_eq_of_skip_eq
  simp [skip, List.takeWhile_append_of_pos h, List.dropWhile_append_of_pos h, Nat.add_assoc]

section Gap

variable {first gap last : String} (hne : gap ≠ "")
  (hgap : ∀ c ∈ gap.toList, isSeparator c = true)

include hne hgap

theorem tokens_ofText_append : (Cursor.ofText (first ++ gap ++ last)).tokens =
    (Cursor.ofText first).tokens ++
      (Cursor.ofText last).tokens.map (Token.shift (first ++ gap).utf8ByteSize) := by
  obtain ⟨w, ws, hws⟩ : ∃ w ws, gap.toList = w :: ws := by
    apply List.exists_cons_of_ne_nil
    simpa using hne
  have hsplit : ∀ c ∈ w :: ws, isSeparator c = true := hws ▸ hgap
  rw [List.forall_mem_cons] at hsplit
  have htext : (first ++ gap ++ last).toList = first.toList ++ w :: (ws ++ last.toList) := by
    simp [hws]
  have hmove := Cursor.tokens_shift (first ++ gap).utf8ByteSize (Cursor.ofText last)
  have hoffset : (first ++ gap).utf8ByteSize =
      0 + byteLength first.toList + w.utf8Size + byteLength ws := by
    rw [← byteLength_toList, String.toList_append, byteLength_append, hws, byteLength_cons]
    omega
  rw [← hmove]
  unfold Cursor.ofText Cursor.shift
  rw [htext, Cursor.tokens_append_separator hsplit.1 ⟨0, first.toList⟩,
    Cursor.tokens_separators_append hsplit.2, hoffset]
  rfl

theorem tokenize_append_separators : tokenize (first ++ gap ++ last) =
    (tokenize first).dropLast ++ (tokenize last).map (Token.shift (first ++ gap).utf8ByteSize) := by
  rw [tokenize_eq, tokenize_eq, tokenize_eq, List.dropLast_concat, List.map_append,
    ← List.append_assoc, ← tokens_ofText_append hne hgap]
  simp [Token.shift, Span.shift]

end Gap

/-! ## Programs in joined texts -/

private theorem endMark_tokenize (text : String) : endMark (tokenize text) = .eof text.utf8ByteSize := by
  have hnone : (Cursor.ofText text).tokens.find? (·.kind == .eof) = none := by
    rw [List.find?_eq_none]
    intro t ht
    simpa using Cursor.kind_ne_eof_of_mem_tokens ht
  rw [endMark, tokenize_eq, List.find?_append, hnone]
  rfl

theorem Program.ofText_eq_error_iff {text : String} {es : SyntaxErrors} :
    ofText text = .error es ↔ ∃ e, es = { first := e } ∧
      Parse.statements (.eof text.utf8ByteSize) (Cursor.ofText text).tokens = .error e := by
  rw [ofText, ofTokens_eq_error_iff, endMark_tokenize, body_tokenize]

section Programs

variable {first gap last : String} {p : Program} {es : SyntaxErrors} (hne : gap ≠ "")
  (hgap : ∀ c ∈ gap.toList, isSeparator c = true)

include hne hgap

theorem ofText_append_of_ok {q : Program} (hp : Program.ofText first = .ok p)
    (hq : Program.ofText last = .ok q) : Program.ofText (first ++ gap ++ last) =
      .ok ⟨p.items ++ q.items.map (Located.shift (first ++ gap).utf8ByteSize)⟩ := by
  rw [Program.ofText_eq_ok_iff] at *
  rw [tokens_ofText_append hne hgap]
  exact hp.append (hq.shift _)

private theorem ofText_append_of_ok_of_error (hp : Program.ofText first = .ok p)
    (hes : Program.ofText last = .error es) : Program.ofText (first ++ gap ++ last) =
      .error (es.shift (first ++ gap).utf8ByteSize) := by
  rw [Program.ofText_eq_ok_iff] at hp
  obtain ⟨e, rfl, he⟩ := Program.ofText_eq_error_iff.1 hes
  have hsize : (first ++ gap ++ last).utf8ByteSize =
      (first ++ gap).utf8ByteSize + last.utf8ByteSize := String.utf8ByteSize_append
  have hstop : (Token.eof last.utf8ByteSize).shift (first ++ gap).utf8ByteSize =
      .eof (first ++ gap ++ last).utf8ByteSize := by rw [hsize]; rfl
  have hmoved := statements_shift (first ++ gap).utf8ByteSize (.eof last.utf8ByteSize)
    (Cursor.ofText last).tokens
  rw [he] at hmoved
  rw [Program.ofText_eq_error_iff]
  refine ⟨e.shift (first ++ gap).utf8ByteSize, rfl, ?_⟩
  rw [tokens_ofText_append hne hgap, statements_append hp, map_eq_error_iff, ← hstop, hmoved]
  rfl

theorem ofText_append_of_error (hes : Program.ofText first = .error es)
    (hliteral : es.first.literal ≠ "") : Program.ofText (first ++ gap ++ last) = .error es := by
  obtain ⟨e, rfl, he⟩ := Program.ofText_eq_error_iff.1 hes
  rw [Program.ofText_eq_error_iff, tokens_ofText_append hne hgap]
  exact ⟨e, rfl, statements_append_of_error he hliteral _ _⟩

end Programs

/-- Two texts with separators between them are read as if the second followed the first: its
tokens, statements or fault only move.  A fault of the first is a fault of the whole, unless it is
that the text ends. -/
theorem read_append_separators (first gap last : String) (hne : gap ≠ "")
    (hgap : ∀ c ∈ gap.toList, isSeparator c = true) :
    let whole := first ++ gap ++ last
    let moved := (first ++ gap).utf8ByteSize
    tokenize whole = (tokenize first).dropLast ++ (tokenize last).map (Token.shift moved) ∧
      (∀ p, Program.ofText first = .ok p →
        (∀ r, Program.ofText whole = .ok r ↔ ∃ q, Program.ofText last = .ok q ∧
          r = ⟨p.items ++ q.items.map (Located.shift moved)⟩) ∧
        ∀ es, Program.ofText whole = .error es ↔ ∃ es', Program.ofText last = .error es' ∧
          es = es'.shift moved) ∧
      ∀ es, Program.ofText first = .error es → es.first.literal ≠ "" →
        Program.ofText whole = .error es := by
  intro whole moved
  refine ⟨tokenize_append_separators hne hgap, fun p hp => ?_, fun es hes hliteral =>
    ofText_append_of_error hne hgap hes hliteral⟩
  cases hlast : Program.ofText last with
  | ok q =>
      have hwhole := ofText_append_of_ok hne hgap hp hlast
      simp [whole, moved, hwhole, eq_comm]
  | error es =>
      have hwhole := ofText_append_of_ok_of_error hne hgap hp hlast
      simp [whole, moved, hwhole, eq_comm]

/-- The bytes of the first text count, not its characters, and its last token may touch its end. -/
theorem read_append_separators_bytes :
    "\r\n" ≠ "" ∧ (∀ c ∈ "\r\n".toList, isSeparator c = true) ∧
      let whole := "park é😀 White leave 12" ++ "\r\n" ++ "34 status"
      let moved := ("park é😀 White leave 12" ++ "\r\n").utf8ByteSize
      tokenize whole = (tokenize "park é😀 White leave 12").dropLast ++
          (tokenize "34 status").map (Token.shift moved) ∧
        (∀ p, Program.ofText "park é😀 White leave 12" = .ok p →
          (∀ r, Program.ofText whole = .ok r ↔ ∃ q, Program.ofText "34 status" = .ok q ∧
            r = ⟨p.items ++ q.items.map (Located.shift moved)⟩) ∧
          ∀ es, Program.ofText whole = .error es ↔ ∃ es', Program.ofText "34 status" = .error es' ∧
            es = es'.shift moved) ∧
        ∀ es, Program.ofText "park é😀 White leave 12" = .error es → es.first.literal ≠ "" →
          Program.ofText whole = .error es :=
  have hgap : ∀ c ∈ "\r\n".toList, isSeparator c = true := by simp [isSeparator]
  ⟨by decide, hgap, read_append_separators _ _ _ (by decide) hgap⟩

end ParkingLot
