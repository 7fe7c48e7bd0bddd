import ParkingLot.Proofs.Language.FirstFault
import ParkingLot.Proofs.Language.Tokenization
/-!
# Characters that start nothing

A word takes in whatever comes before the next separator, and so a character that starts no lexeme
is an illegal token only where no word has begun in front of it (`exists_illegal_iff`).  With such
a token a text is no program.
-/

namespace ParkingLot

open Text Parse

/-- The character occurs where no word can take it in: a separator stands between it and each
character before it that starts a word. -/
def StandsFree (c : Char) (cs : List Char) : Prop :=
  ∃ before after, cs = before ++ c :: after ∧
    ∀ d run, d :: run <:+ before → startsWord d = true → ∃ w ∈ run, isSeparator w = true

variable {c : Char} {cs lexeme before after left right front back : List Char} {kind : TokenKind}
  {o n : Nat} {t u : Token} {ts : List Token}

theorem standsFree_append_separator {w : Char} (hw : isSeparator w = true) :
    StandsFree c (left ++ w :: c :: right) := by
  refine ⟨left ++ [w], right, by simp, ?_⟩
  intro d run hsuffix hd
  obtain hnil | ⟨chars, hchars, -⟩ := List.suffix_concat_iff.1 hsuffix
  · contradiction
  · cases chars with
    | nil =>
        obtain ⟨rfl, -⟩ := List.cons.inj hchars
        rw [not_isSeparator_of_startsWord hd] at hw
        contradiction
    | cons e chars =>
        obtain ⟨-, rfl⟩ := List.cons.inj hchars
        exact ⟨w, by simp, hw⟩

/-! ## The token over a character -/

theorem Token.StandsIn.of_covers (h : t.StandsIn o cs before after) (hcs : cs = left ++ c :: right)
    (hstart : t.span.start ≤ o + byteLength left) (hstop : o + byteLength left < t.span.stop) :
    ∃ front back, t.literal.toList = front ++ c :: back ∧ left = before ++ front ∧
      right = back ++ after := by
  have hpos := c.utf8Size_pos
  rw [h.start_eq] at hstart
  rw [h.stop_eq_append] at hstop
  have hchars := h.chars_eq.symm.trans hcs
  rcases append_cons_eq_append hchars.symm with ⟨mid, rfl, -⟩ | ⟨mid, rfl, hmid⟩
  · rw [byteLength_append, byteLength_cons] at hstart
    omega
  · rcases append_cons_eq_append hmid.symm with ⟨back, hliteral, hright⟩ | ⟨mid', rfl, -⟩
    · exact ⟨mid, back, hliteral, rfl, hright⟩
    · rw [byteLength_append, byteLength_append, byteLength_append] at hstop
      omega

theorem Token.StandsIn.covers (h : t.StandsIn o cs before after)
    (hliteral : t.literal.toList = front ++ c :: back) :
    t.span.start ≤ o + byteLength (before ++ front) ∧
      o + byteLength (before ++ front) < t.span.stop := by
  have hpos := c.utf8Size_pos
  have hstart := h.start_eq
  have hstop := h.stop_eq
  rw [hliteral, byteLength_append, byteLength_cons] at hstop
  rw [byteLength_append]
  omega

private theorem eq_of_covers (h : ts.Pairwise fun t u => t.span.stop ≤ u.span.start) (ht : t ∈ ts)
    (hu : u ∈ ts) (htcovers : t.span.start ≤ n ∧ n < t.span.stop)
    (hucovers : u.span.start ≤ n ∧ n < u.span.stop) : t = u := by
  induction h with
  | nil => contradiction
  | @cons first ts hfirst _ ih =>
      rcases List.mem_cons.1 ht with rfl | ht'
      · rcases List.mem_cons.1 hu with rfl | hu'
        · rfl
        · have hle := hfirst u hu'
          omega
      · rcases List.mem_cons.1 hu with rfl | hu'
        · have hle := hfirst t ht'
          omega
        · exact ih ht' hu'

/-- Each character that is no separator is part of a lexeme. -/
theorem Lexes.exists_lexeme (h : Lexes o cs ts) (hcs : cs = left ++ c :: right)
    (hc : isSeparator c = false) :
    ∃ t ∈ ts, ∃ before front back after, t.StandsIn o cs before after ∧
      t.literal.toList = front ++ c :: back ∧ left = before ++ front ∧ right = back ++ after ∧
      IsLexeme t.kind (front ++ c :: back) after := by
  obtain hsep | ⟨t, ht, hstart, hstop⟩ := h.gaps left c right hcs
  · rw [hc] at hsep
    contradiction
  · obtain ⟨before, after, hstands, hlexeme⟩ := h.lexemes t ht
    obtain ⟨front, back, hliteral, hleft, hright⟩ := hstands.of_covers hcs hstart hstop
    rw [hliteral] at hlexeme
    exact ⟨t, ht, before, front, back, after, hstands, hliteral, hleft, hright, hlexeme⟩

/-- What is no digit is in a word or on its own. -/
theorem IsLexeme.of_not_isDigit (h : IsLexeme kind (front ++ c :: back) after)
    (hdigit : c.isDigit = false) :
    IsWord (front ++ c :: back) after ∨
      kind = .illegal ∧ front = [] ∧ back = [] ∧ startsWord c = false := by
  generalize hlexeme : front ++ c :: back = lexeme at h
  cases h with
  | keyword hword => exact .inl hword
  | word hword _ => exact .inl hword
  | int _ hdigits _ =>
      have hc := hdigits c (by rw [← hlexeme]; simp)
      rw [hdigit] at hc
      contradiction
  | @illegal d _ _ hstart _ =>
      obtain ⟨hfront, hchars⟩ := List.append_eq_singleton_iff.1 hlexeme |>.resolve_right (by simp)
      obtain ⟨rfl, hback⟩ := List.cons.inj hchars
      exact .inr ⟨rfl, hfront, hback, hstart⟩

/-! ## Where a character is a token -/

section StartsNothing

variable (hsep : isSeparator c = false)

include hsep

/-- A word that has begun takes the character in. -/
theorem Lexes.standsFree (h : Lexes o cs ts) (ht : t ∈ ts) (hliteral : t.literal.toList = [c]) :
    StandsFree c cs := by
  obtain ⟨before, after, hstands, -⟩ := h.lexemes t ht
  have hcs : cs = before ++ c :: after := by
    rw [hstands.chars_eq, hliteral, List.singleton_append]
  refine ⟨before, after, hcs, ?_⟩
  rintro d run ⟨gap, hgap⟩ hd
  by_contra hrun
  have hunbroken : ∀ w ∈ run, isSeparator w = false := by
    intro w hw
    rw [← Bool.not_eq_true]
    exact fun hsep => hrun ⟨w, hw, hsep⟩
  have hcs' : cs = gap ++ d :: (run ++ c :: after) := by
    rw [hcs, ← hgap, List.append_assoc, List.cons_append]
  obtain ⟨u, hu, before', front, back, after', hustands, huliteral, hleft, hright, hlexeme⟩ :=
    h.exists_lexeme hcs' (not_isSeparator_of_startsWord hd)
  obtain hword | ⟨-, -, -, hd'⟩ := hlexeme.of_not_isDigit (not_isDigit_of_startsWord hd)
  · rcases append_cons_eq_append hright with ⟨mid, rfl, -⟩ | ⟨mid, rfl, rfl⟩
    · -- then two tokens lie over the character
      have hliteral' : u.literal.toList = (front ++ d :: run) ++ c :: mid := by
        rw [huliteral, List.append_assoc, List.cons_append]
      have hbefore : before = before' ++ (front ++ d :: run) := by
        rw [← hgap, hleft, List.append_assoc]
      have hucovers := hustands.covers hliteral'
      have halone : t.literal.toList = [] ++ [c] := hliteral
      have htcovers := hstands.covers halone
      rw [← hbefore] at hucovers
      rw [List.append_nil] at htcovers
      obtain rfl := eq_of_covers h.ordered ht hu htcovers hucovers
      have hlength := congrArg List.length (hliteral.symm.trans hliteral')
      simp only [List.length_append, List.length_cons, List.length_nil] at hlength
      omega
    · -- then the word ends at no separator
      cases mid with
      | nil =>
          have hends := hword.ends c rfl
          rw [hsep] at hends
          contradiction
      | cons w mid =>
          have hends := hword.ends w rfl
          rw [hunbroken w (by simp)] at hends
          contradiction
  · rw [hd] at hd'
    contradiction

/-- A character that starts nothing is a token of its own exactly where it stands free. -/
theorem exists_illegal_iff (hstart : startsWord c = false) (hdigit : c.isDigit = false) :
    (∃ t ∈ Cursor.tokens ⟨o, cs⟩, t.kind = .illegal ∧ t.literal.toList = [c]) ↔
      StandsFree c cs := by
  have hlexes : Lexes o cs (Cursor.tokens ⟨o, cs⟩) := lexes_iff_eq_tokens.2 rfl
  constructor
  · rintro ⟨t, ht, -, hliteral⟩
    exact hlexes.standsFree hsep ht hliteral
  · rintro ⟨left, right, hcs, hfree⟩
    obtain ⟨t, ht, before, front, back, after, hstands, hliteral, rfl, rfl, hlexeme⟩ :=
      hlexes.exists_lexeme hcs hsep
    obtain hword | ⟨hkind, rfl, rfl, -⟩ := hlexeme.of_not_isDigit hdigit
    · exfalso
      obtain ⟨d, hd, hdstart⟩ := hword.starts
      cases front with
      | nil =>
          obtain rfl := Option.some.inj hd
          rw [hstart] at hdstart
          contradiction
      | cons first front =>
          obtain rfl := Option.some.inj hd
          obtain ⟨w, hw, hwsep⟩ := hfree first front (List.suffix_append _ _) hdstart
          rw [hword.unbroken w (by simp [hw])] at hwsep
          contradiction
    · exact ⟨t, ht, hkind, hliteral⟩

end StartsNothing

/-- An illegal token is nothing that a program has a place for. -/
theorem exists_ofText_eq_error {text : String}
    (h : ∃ t ∈ (Cursor.ofText text).tokens, t.kind = .illegal) :
    ∃ e : SyntaxError, Program.ofText text = .error { first := e } := by
  obtain ⟨t, ht, hkind⟩ := h
  cases hprogram : Program.ofText text with
  | ok program =>
      have hblocks := Program.ofText_eq_ok_iff.1 hprogram
      obtain ⟨k, hk⟩ | ⟨cls, hcls⟩ := hblocks.kind_cases t ht
      · rw [hkind] at hk
        contradiction
      · rw [hkind] at hcls
        cases cls <;> contradiction
  | error es =>
      obtain ⟨e, rfl, -⟩ := Program.ofTokens_eq_error_iff.1 hprogram
      exact ⟨e, rfl⟩

end ParkingLot
