import ParkingLot.Proofs.Language.Scanning
/-!
# What the tokens of a text are

`IsTokenization` says what a scanner owes: spans in order, literals cut out of the text at
character boundaries, nothing but separators left over, and each lexeme as long as its class lets
it be.  There is one list of tokens like that for every text, the one that is read
(`isTokenization_iff`).
-/

namespace ParkingLot

open Text

/-- A letter or `_` comes first, no separator is in it, and a separator or the end follows. -/
structure IsWord (lexeme after : List Char) : Prop where
  starts : ∃ c ∈ lexeme.head?, startsWord c = true
  unbroken : ∀ c ∈ lexeme, isSeparator c = false
  ends : ∀ c ∈ after.head?, isSeparator c = true

/-- A lexeme, its kind, and the characters that follow it. -/
inductive IsLexeme : TokenKind → List Char → List Char → Prop
  | keyword {k : Keyword} {after : List Char} :
      IsWord k.spelling.toList after → IsLexeme (.keyword k) k.spelling.toList after
  | word {lexeme after : List Char} :
      IsWord lexeme after → (∀ k : Keyword, lexeme ≠ k.spelling.toList) →
      IsLexeme .word lexeme after
  | int {lexeme after : List Char} :
      lexeme ≠ [] → (∀ c ∈ lexeme, c.isDigit = true) → (∀ c ∈ after.head?, c.isDigit = false) →
      IsLexeme .int lexeme after
  | illegal {c : Char} {after : List Char} :
      isSeparator c = false → startsWord c = false → c.isDigit = false →
      IsLexeme .illegal [c] after

/-- The token stands between `before` and `after` in a text that starts at byte `o`: its literal is
the slice of the text that its span covers, from one character boundary to another. -/
structure Token.StandsIn (t : Token) (o : Nat) (cs before after : List Char) : Prop where
  chars_eq : cs = before ++ (t.literal.toList ++ after)
  start_eq : t.span.start = o + byteLength before
  stop_eq : t.span.stop = t.span.start + byteLength t.literal.toList

/-- Tokens that make up a text, but for the separators, without the end marker. -/
structure Lexes (o : Nat) (cs : List Char) (ts : List Token) : Prop where
  ordered : ts.Pairwise fun t u => t.span.stop ≤ u.span.start
  lexemes : ∀ t ∈ ts, ∃ before after, t.StandsIn o cs before after ∧
    IsLexeme t.kind t.literal.toList after
  gaps : ∀ before c after, cs = before ++ c :: after →
    isSeparator c = true ∨ ∃ t ∈ ts, t.span.start ≤ o + byteLength before ∧
      o + byteLength before < t.span.stop

/-- The tokens of a text, the end marker included. -/
structure IsTokenization (text : String) (ts : List Token) : Prop where
  ordered : ts.Pairwise fun t u => t.span.stop ≤ u.span.start
  slices : ∀ t ∈ ts, ∃ before after, t.StandsIn 0 text.toList before after
  gaps : ∀ before c after, text.toList = before ++ c :: after →
    isSeparator c = true ∨ ∃ t ∈ ts, t.span.start ≤ byteLength before ∧
      byteLength before < t.span.stop
  lexemes : ∃ body, ts = body ++ [⟨.eof, ⟨text.utf8ByteSize, text.utf8ByteSize⟩, ""⟩] ∧
    ∀ t ∈ body, ∃ before after, t.StandsIn 0 text.toList before after ∧
      IsLexeme t.kind t.literal.toList after

/-! ## The first lexeme -/

variable {kind : TokenKind} {lexeme before after gap rest cs : List Char} {c : Char} {o : Nat}
  {t : Token} {ts : List Token}

theorem takeWhile_append_of_stop {p : Char → Bool} {as bs : List Char}
    (has : ∀ a ∈ as, p a = true) (hbs : ∀ b ∈ bs.head?, p b = false) :
    (as ++ bs).takeWhile p = as := by
  rw [List.takeWhile_append_of_pos has]
  cases bs with
  | nil => rw [List.takeWhile_nil, List.append_nil]
  | cons b bs => rw [List.takeWhile_cons_of_neg (by simp [hbs b rfl]), List.append_nil]

theorem dropWhile_append_of_stop {p : Char → Bool} {as bs : List Char}
    (has : ∀ a ∈ as, p a = true) (hbs : ∀ b ∈ bs.head?, p b = false) :
    (as ++ bs).dropWhile p = bs := by
  rw [List.dropWhile_append_of_pos has]
  cases bs with
  | nil => rfl
  | cons b bs => rw [List.dropWhile_cons_of_neg (by simp [hbs b rfl])]

theorem not_of_mem_head?_dropWhile {p : Char → Bool} {as : List Char} :
    ∀ b ∈ (as.dropWhile p).head?, p b = false := by
  intro b hb
  have h := List.head?_dropWhile_not p as
  rw [Option.mem_def.1 hb] at h
  exact h

theorem IsLexeme.exists_cons (h : IsLexeme kind lexeme after) :
    ∃ c cs, lexeme = c :: cs ∧ isSeparator c = false := by
  have hword : ∀ {lexeme}, IsWord lexeme after → ∃ c cs, lexeme = c :: cs ∧
      isSeparator c = false := by
    intro lexeme h
    obtain ⟨c, hc, -⟩ := h.starts
    obtain ⟨cs, rfl⟩ := List.head?_eq_some_iff.1 hc
    exact ⟨c, cs, rfl, h.unbroken c List.mem_cons_self⟩
  cases h with
  | keyword h => exact hword h
  | word h _ => exact hword h
  | int hne hdigits _ =>
      obtain ⟨c, cs, rfl⟩ := List.exists_cons_of_ne_nil hne
      exact ⟨c, cs, rfl, not_isSeparator_of_isDigit (hdigits c List.mem_cons_self)⟩
  | illegal h _ _ => exact ⟨_, [], rfl, h⟩

theorem isLexeme_ofWord (h : IsWord lexeme after) :
    IsLexeme (.ofWord (String.ofList lexeme)) lexeme after := by
  unfold TokenKind.ofWord
  split
  · next k hk =>
    obtain rfl : lexeme = k.spelling.toList := by
      rw [← Keyword.ofSpelling?_eq_some_iff.1 hk, String.toList_ofList]
    exact .keyword h
  · next hnone =>
    refine .word h ?_
    rintro k rfl
    rw [String.ofList_toList, Keyword.ofSpelling?_spelling] at hnone
    contradiction

theorem Lexeme.isLexeme_cut (hc : isSeparator c = false) :
    IsLexeme (Lexeme.cut c cs).kind (Lexeme.cut c cs).text (Lexeme.cut c cs).rest := by
  unfold Lexeme.cut
  split
  · next hstart =>
    apply isLexeme_ofWord
    refine ⟨⟨c, rfl, hstart⟩, ?_, ?_⟩
    · rw [List.forall_mem_cons]
      refine ⟨hc, fun d hd => ?_⟩
      have h := List.mem_takeWhile_imp hd
      simpa using h
    · intro d hd
      have h := not_of_mem_head?_dropWhile d hd
      simpa using h
  · next hstart =>
    split
    · next hdigit =>
      refine .int (List.cons_ne_nil _ _) ?_ not_of_mem_head?_dropWhile
      rw [List.forall_mem_cons]
      exact ⟨hdigit, fun d hd => List.mem_takeWhile_imp hd⟩
    · next hdigit =>
      exact .illegal hc (Bool.not_eq_true _ ▸ hstart) (Bool.not_eq_true _ ▸ hdigit)

theorem IsWord.cut_eq (h : IsWord (c :: lexeme) rest) :
    Lexeme.cut c (lexeme ++ rest) = ⟨.ofWord (String.ofList (c :: lexeme)), c :: lexeme, rest⟩ := by
  obtain ⟨d, hd, hstart⟩ := h.starts
  obtain rfl : c = d := Option.some.inj hd
  have hall : ∀ a ∈ lexeme, (!isSeparator a) = true := by
    intro a ha
    rw [h.unbroken a (List.mem_cons_of_mem c ha)]
    rfl
  have hstop : ∀ b ∈ rest.head?, (!isSeparator b) = false := by
    intro b hb
    rw [h.ends b hb]
    rfl
  rw [Lexeme.cut, if_pos hstart, takeWhile_append_of_stop hall hstop,
    dropWhile_append_of_stop hall hstop]

/-- What follows a lexeme settles where it ends. -/
theorem IsLexeme.cut_eq (h : IsLexeme kind (c :: lexeme) rest) :
    Lexeme.cut c (lexeme ++ rest) = ⟨kind, c :: lexeme, rest⟩ := by
  generalize hchars : c :: lexeme = chars at h
  cases h with
  | @keyword k _ hword =>
      rw [← hchars] at hword
      rw [hword.cut_eq, hchars, String.ofList_toList, TokenKind.ofWord_spelling]
  | word hword hk =>
      have hkind : TokenKind.ofWord (String.ofList (c :: lexeme)) = .word := by
        rw [TokenKind.ofWord_eq_word_iff]
        intro k heq
        apply hk k
        rw [← hchars, ← heq, String.toList_ofList]
      rw [← hchars] at hword
      rw [hword.cut_eq, hchars, ← hchars, hkind]
  | int hne hdigits hstop =>
      subst hchars
      rw [List.forall_mem_cons] at hdigits
      have hstart := not_startsWord_of_isDigit hdigits.1
      rw [Lexeme.cut, if_neg (by simp [hstart]), if_pos hdigits.1,
        takeWhile_append_of_stop hdigits.2 hstop, dropWhile_append_of_stop hdigits.2 hstop]
  | illegal _ hstart hdigit =>
      cases hchars
      rw [Lexeme.cut, if_neg (by simp [hstart]), if_neg (by simp [hdigit])]
      rfl

/-! ## The first token -/

private theorem Cursor.skip_gap (hgap : ∀ a ∈ gap, isSeparator a = true) (hc : isSeparator c = false) :
    skip ⟨o, gap ++ c :: cs⟩ = ⟨o + byteLength gap, c :: cs⟩ := by
  have hstop : ∀ b ∈ (c :: cs).head?, isSeparator b = false := by
    intro b hb
    obtain rfl := Option.some.inj hb
    exact hc
  rw [skip, takeWhile_append_of_stop hgap hstop, dropWhile_append_of_stop hgap hstop]

theorem Cursor.next?_eq_some_iff {d : Cursor} :
    next? ⟨o, cs⟩ = some (t, d) ↔ ∃ gap rest, (∀ a ∈ gap, isSeparator a = true) ∧
      t.StandsIn o cs gap rest ∧ IsLexeme t.kind t.literal.toList rest ∧
      d = ⟨t.span.stop, rest⟩ := by
  constructor
  · intro h
    unfold next? at h
    split at h
    · contradiction
    · next a as hskip =>
      cases h
      have hdrop : cs.dropWhile isSeparator = a :: as := hskip
      have ha : isSeparator a = false := by
        apply @not_of_mem_head?_dropWhile isSeparator cs
        rw [hdrop]
        rfl
      refine ⟨cs.takeWhile isSeparator, (Lexeme.cut a as).rest, fun b hb =>
        List.mem_takeWhile_imp hb, ⟨?_, rfl, ?_⟩, ?_, rfl⟩
      · rw [String.toList_ofList, Lexeme.text_append_rest, ← hdrop]
        exact List.takeWhile_append_dropWhile.symm
      · rw [String.toList_ofList]
      · rw [String.toList_ofList]
        exact Lexeme.isLexeme_cut ha
  · rintro ⟨gap, rest, hgap, hstands, hlexeme, rfl⟩
    obtain ⟨c, lexeme, hliteral, hc⟩ := hlexeme.exists_cons
    obtain ⟨kind, ⟨start, stop⟩, literal⟩ := t
    obtain ⟨rfl, hstart, hstop⟩ := hstands
    dsimp only at hliteral hlexeme hstart hstop ⊢
    have hskip : skip ⟨o, gap ++ (literal.toList ++ rest)⟩ = ⟨start, c :: (lexeme ++ rest)⟩ := by
      rw [hliteral, List.cons_append, skip_gap hgap hc, hstart]
    rw [hliteral] at hlexeme hstop
    have hofList : String.ofList (c :: lexeme) = literal := by
      rw [← hliteral, String.ofList_toList]
    unfold next?
    rw [hskip]
    dsimp only
    rw [hlexeme.cut_eq, hofList, hstop]

/-! ## One token after the other -/

theorem append_cons_eq_append {left right : List Char}
    (h : before ++ c :: after = left ++ right) :
    (∃ mid, left = before ++ c :: mid ∧ after = mid ++ right) ∨
      ∃ mid, before = left ++ mid ∧ right = mid ++ c :: after := by
  rcases List.append_eq_append_iff.1 h with ⟨mid, hleft, hmid⟩ | ⟨mid, hbefore, hright⟩
  · cases mid with
    | nil =>
        rw [List.append_nil] at hleft
        exact .inr ⟨[], by rw [hleft, List.append_nil], hmid.symm⟩
    | cons d mid =>
        obtain ⟨rfl, hafter⟩ := List.cons.inj hmid
        exact .inl ⟨mid, hleft, hafter⟩
  · exact .inr ⟨mid, hbefore, hright⟩

theorem eq_nil_of_byteLength_eq_zero (h : byteLength cs = 0) : cs = [] := by
  cases cs with
  | nil => rfl
  | cons c cs =>
      have hpos := c.utf8Size_pos
      rw [byteLength_cons] at h
      omega

namespace Token.StandsIn

theorem chars_eq_append (h : t.StandsIn o cs before after) :
    cs = (before ++ t.literal.toList) ++ after := by
  rw [h.chars_eq, List.append_assoc]

theorem stop_eq_append (h : t.StandsIn o cs before after) :
    t.span.stop = o + byteLength (before ++ t.literal.toList) := by
  rw [h.stop_eq, h.start_eq, byteLength_append, Nat.add_assoc]

theorem stop_le (h : t.StandsIn o cs before after) : t.span.stop ≤ o + byteLength cs := by
  rw [h.stop_eq_append, h.chars_eq_append, byteLength_append _ after]
  omega

theorem append_left {left right : List Char}
    (h : t.StandsIn (o + byteLength left) right before after) :
    t.StandsIn o (left ++ right) (left ++ before) after := by
  refine ⟨?_, ?_, h.stop_eq⟩
  · rw [h.chars_eq, List.append_assoc]
  · rw [h.start_eq, byteLength_append, Nat.add_assoc]

theorem of_append {left right : List Char} (h : t.StandsIn o (left ++ right) before after)
    (hle : o + byteLength left ≤ t.span.start) :
    ∃ mid, t.StandsIn (o + byteLength left) right mid after := by
  have hstart := h.start_eq
  rcases List.append_eq_append_iff.1 h.chars_eq with ⟨mid, hbefore, hright⟩ | ⟨mid, hleft, hmid⟩
  · rw [hbefore, byteLength_append] at hstart
    exact ⟨mid, hright, by omega, h.stop_eq⟩
  · have hlength : byteLength mid = 0 := by
      rw [hleft, byteLength_append] at hle
      omega
    obtain rfl := eq_nil_of_byteLength_eq_zero hlength
    rw [List.append_nil] at hleft
    rw [← hleft] at hstart
    exact ⟨[], hmid.symm, hstart, h.stop_eq⟩

theorem position {left right : List Char} (h : t.StandsIn o cs before after)
    (hcs : cs = left ++ c :: right) :
    c ∈ before ∨ (t.span.start ≤ o + byteLength left ∧ o + byteLength left < t.span.stop) ∨
      ∃ mid, left = (before ++ t.literal.toList) ++ mid ∧ after = mid ++ c :: right := by
  rw [h.chars_eq] at hcs
  rcases append_cons_eq_append hcs.symm with ⟨mid, rfl, -⟩ | ⟨mid, rfl, hmid⟩
  · exact .inl (by simp)
  · rcases append_cons_eq_append hmid.symm with ⟨mid', hliteral, -⟩ | ⟨mid', rfl, hafter⟩
    · have hpos := c.utf8Size_pos
      have hstart := h.start_eq
      have hstop := h.stop_eq
      rw [hliteral, byteLength_append, byteLength_cons] at hstop
      rw [byteLength_append]
      exact .inr (.inl ⟨by omega, by omega⟩)
    · exact .inr (.inr ⟨mid', (List.append_assoc ..).symm, hafter⟩)

end Token.StandsIn

theorem lexes_nil_iff : Lexes o cs [] ↔ ∀ a ∈ cs, isSeparator a = true := by
  constructor
  · intro h a ha
    obtain ⟨before, after, rfl⟩ := List.append_of_mem ha
    rcases h.gaps before a after rfl with hsep | ⟨t, ht, -⟩
    · exact hsep
    · contradiction
  · intro h
    refine ⟨.nil, by simp, ?_⟩
    rintro before a after rfl
    exact .inl (h a (by simp))

theorem Lexes.isSeparator_of_mem_gap (h : Lexes o cs (t :: ts))
    (hstands : t.StandsIn o cs gap rest) : ∀ a ∈ gap, isSeparator a = true := by
  intro a ha
  obtain ⟨left, right, rfl⟩ := List.append_of_mem ha
  have hcs : cs = left ++ a :: (right ++ (t.literal.toList ++ rest)) := by
    rw [hstands.chars_eq, List.append_assoc, List.cons_append]
  have hbefore : o + byteLength left < t.span.start := by
    have hpos := a.utf8Size_pos
    rw [hstands.start_eq, byteLength_append, byteLength_cons]
    omega
  rcases h.gaps left a _ hcs with hsep | ⟨u, hu, hle, -⟩
  · exact hsep
  · -- no token starts before the first
    rcases List.mem_cons.1 hu with rfl | hu
    · omega
    · have hlater := (List.pairwise_cons.1 h.ordered).1 u hu
      have hlength := hstands.stop_eq
      omega

theorem Lexes.tail (h : Lexes o cs (t :: ts)) (hstands : t.StandsIn o cs gap rest) :
    Lexes t.span.stop rest ts := by
  obtain ⟨hfirst, hordered⟩ := List.pairwise_cons.1 h.ordered
  have hstop := hstands.stop_eq_append
  have hchars := hstands.chars_eq_append
  refine ⟨hordered, ?_, ?_⟩
  · intro u hu
    obtain ⟨before, after, hustands, hulexeme⟩ := h.lexemes u (List.mem_cons_of_mem t hu)
    have hlater := hfirst u hu
    rw [hchars] at hustands
    rw [hstop] at hlater ⊢
    obtain ⟨mid, hmid⟩ := hustands.of_append hlater
    exact ⟨mid, after, hmid, hulexeme⟩
  · rintro before c after rfl
    rw [hstop, Nat.add_assoc, ← byteLength_append]
    have hcs : cs = (gap ++ t.literal.toList ++ before) ++ c :: after := by
      rw [hchars, List.append_assoc, List.append_assoc, List.append_assoc]
    rcases h.gaps _ c after hcs with hsep | ⟨u, hu, hle, hlt⟩
    · exact .inl hsep
    · rcases List.mem_cons.1 hu with rfl | hu
      · -- the first token ends before the rest begins
        rw [hstop, byteLength_append _ before] at hlt
        omega
      · exact .inr ⟨u, hu, hle, hlt⟩

theorem Lexes.uncons (h : Lexes o cs (t :: ts)) :
    ∃ gap rest, (∀ a ∈ gap, isSeparator a = true) ∧ t.StandsIn o cs gap rest ∧
      IsLexeme t.kind t.literal.toList rest ∧ Lexes t.span.stop rest ts := by
  obtain ⟨gap, rest, hstands, hlexeme⟩ := h.lexemes t List.mem_cons_self
  exact ⟨gap, rest, h.isSeparator_of_mem_gap hstands, hstands, hlexeme, h.tail hstands⟩

theorem Lexes.cons (hgap : ∀ a ∈ gap, isSeparator a = true)
    (hstands : t.StandsIn o cs gap rest) (hlexeme : IsLexeme t.kind t.literal.toList rest)
    (hrest : Lexes t.span.stop rest ts) : Lexes o cs (t :: ts) := by
  have hstop := hstands.stop_eq_append
  have hchars := hstands.chars_eq_append
  refine ⟨List.pairwise_cons.2 ⟨?_, hrest.ordered⟩, ?_, ?_⟩
  · intro u hu
    obtain ⟨before, after, hustands, -⟩ := hrest.lexemes u hu
    rw [hustands.start_eq]
    exact Nat.le_add_right _ _
  · rw [List.forall_mem_cons]
    refine ⟨⟨gap, rest, hstands, hlexeme⟩, ?_⟩
    intro u hu
    obtain ⟨before, after, hustands, hulexeme⟩ := hrest.lexemes u hu
    rw [hstop] at hustands
    exact ⟨_, after, hchars ▸ hustands.append_left, hulexeme⟩
  · intro before c after hcs
    rcases hstands.position hcs with hmem | hcovers | ⟨mid, rfl, hrest'⟩
    · exact .inl (hgap c hmem)
    · exact .inr ⟨t, List.mem_cons_self, hcovers⟩
    · rw [byteLength_append, ← Nat.add_assoc, ← hstop]
      rcases hrest.gaps mid c after hrest' with hsep | ⟨u, hu, hcovers⟩
      · exact .inl hsep
      · exact .inr ⟨u, List.mem_cons_of_mem t hu, hcovers⟩

/-- The conditions leave no choice: each next token is the one that is read. -/
theorem lexes_iff_eq_tokens : Lexes o cs ts ↔ ts = Cursor.tokens ⟨o, cs⟩ := by
  induction ts generalizing o cs with
  | nil =>
      rw [lexes_nil_iff, ← Cursor.next?_eq_none_iff (c := ⟨o, cs⟩)]
      constructor
      · intro h
        rw [Cursor.tokens_of_next?_eq_none h]
      · intro h
        cases hnext : Cursor.next? ⟨o, cs⟩ with
        | none => rfl
        | some r =>
            rw [Cursor.tokens_of_next?_eq_some hnext] at h
            contradiction
  | cons t ts ih =>
      constructor
      · intro h
        obtain ⟨gap, rest, hgap, hstands, hlexeme, hrest⟩ := h.uncons
        have hnext := Cursor.next?_eq_some_iff.2 ⟨gap, rest, hgap, hstands, hlexeme, rfl⟩
        rw [Cursor.tokens_of_next?_eq_some hnext, ← ih.1 hrest]
      · intro h
        cases hnext : Cursor.next? ⟨o, cs⟩ with
        | none =>
            rw [Cursor.tokens_of_next?_eq_none hnext] at h
            contradiction
        | some r =>
            rw [Cursor.tokens_of_next?_eq_some hnext] at h
            obtain ⟨rfl, htokens⟩ := List.cons.inj h
            obtain ⟨gap, rest, hgap, hstands, hlexeme, hd⟩ := Cursor.next?_eq_some_iff.1 hnext
            rw [hd] at htokens
            exact .cons hgap hstands hlexeme (ih.2 htokens)

/-! ## Whole texts -/

theorem byteLength_toList (text : String) : byteLength text.toList = text.utf8ByteSize := by
  obtain ⟨cs, rfl⟩ : ∃ cs, text = String.ofList cs := ⟨text.toList, String.ofList_toList.symm⟩
  rw [String.toList_ofList]
  induction cs with
  | nil => rfl
  | cons c cs ih =>
      have hcons : String.ofList (c :: cs) = String.singleton c ++ String.ofList cs := by
        rw [← String.toList_inj]
        simp
      rw [hcons, String.utf8ByteSize_append, String.utf8ByteSize_singleton, byteLength_cons, ih]

theorem tokenize_eq (text : String) : tokenize text = (Cursor.ofText text).tokens ++
    [⟨.eof, ⟨text.utf8ByteSize, text.utf8ByteSize⟩, ""⟩] := by
  rw [tokenize, Cursor.finish, Cursor.ofText, Nat.zero_add, byteLength_toList, Token.eof]

/-- A text has one tokenization, and it is the one that is read. -/
theorem isTokenization_iff (text : String) (ts : List Token) :
    IsTokenization text ts ↔ ts = tokenize text := by
  rw [tokenize_eq]
  constructor
  · intro h
    obtain ⟨body, rfl, hbody⟩ := h.lexemes
    have hlexes : Lexes 0 text.toList body := by
      refine ⟨(List.pairwise_append.1 h.ordered).1, hbody, ?_⟩
      intro before c after htext
      rw [Nat.zero_add]
      rcases h.gaps before c after htext with hsep | ⟨t, ht, hle, hlt⟩
      · exact .inl hsep
      · rcases List.mem_append.1 ht with ht | ht
        · exact .inr ⟨t, ht, hle, hlt⟩
        · -- the end marker covers nothing
          obtain rfl := List.mem_singleton.1 ht
          exact absurd hlt (Nat.not_lt.2 hle)
    rw [lexes_iff_eq_tokens.1 hlexes]
    rfl
  · rintro rfl
    have hlexes : Lexes 0 text.toList (Cursor.ofText text).tokens := lexes_iff_eq_tokens.2 rfl
    refine ⟨List.pairwise_append.2 ⟨hlexes.ordered, List.pairwise_singleton _ _, ?_⟩, ?_, ?_,
      _, rfl, hlexes.lexemes⟩
    · intro t ht u hu
      obtain rfl := List.mem_singleton.1 hu
      obtain ⟨before, after, hstands, -⟩ := hlexes.lexemes t ht
      have hle := hstands.stop_le
      rwa [Nat.zero_add, byteLength_toList] at hle
    · intro t ht
      rcases List.mem_append.1 ht with ht | ht
      · obtain ⟨before, after, hstands, -⟩ := hlexes.lexemes t ht
        exact ⟨before, after, hstands⟩
      · obtain rfl := List.mem_singleton.1 ht
        refine ⟨text.toList, [], by simp, ?_, rfl⟩
        rw [Nat.zero_add, byteLength_toList]
    · intro before c after htext
      rcases hlexes.gaps before c after htext with hsep | ⟨t, ht, hcovers⟩
      · exact .inl hsep
      · rw [Nat.zero_add] at hcovers
        exact .inr ⟨t, List.mem_append_left _ ht, hcovers⟩

end ParkingLot
