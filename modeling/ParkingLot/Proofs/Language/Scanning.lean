import Mathlib.Data.List.TakeWhile
import ParkingLot.Language.Cursor
import ParkingLot.Proofs.Text.Ascii
/-!
# Texts side by side

A separator ends every lexeme, so the tokens of two texts with a separator between them are the
tokens of the one followed by the tokens of the other.  Where a text starts only moves its tokens.

* `tokens_append_separator`: reading goes through a text piece by piece;
* `tokens_shift`: an offset is added to every span and changes nothing else;
* `tokens_word`, `tokens_digits`: a word, or a run of digits, is one token.
-/

namespace ParkingLot

open Text

/-! ## Runs that end at a separator -/

section Runs

variable {p : Char → Bool} {w : Char} (hw : p w = false)

include hw

private theorem takeWhile_append_stop (as bs : List Char) :
    (as ++ w :: bs).takeWhile p = as.takeWhile p := by
  induction as with
  | nil => simp [hw]
  | cons a as ih =>
      rw [List.cons_append, List.takeWhile_cons, List.takeWhile_cons, ih]

private theorem dropWhile_append_stop (as bs : List Char) :
    (as ++ w :: bs).dropWhile p = as.dropWhile p ++ w :: bs := by
  induction as with
  | nil => simp [hw]
  | cons a as ih =>
      rw [List.cons_append, List.dropWhile_cons, List.dropWhile_cons, ih]
      split <;> rfl

end Runs

theorem not_isDigit_of_isSeparator {c : Char} (h : isSeparator c = true) :
    c.isDigit = false := by
  simp only [isSeparator, Bool.or_eq_true, beq_iff_eq] at h
  obtain ((rfl | rfl) | rfl) | rfl := h <;> rfl

theorem not_isSeparator_of_isDigit {c : Char} (h : c.isDigit = true) :
    isSeparator c = false := by
  by_contra hsep
  rw [Bool.not_eq_false] at hsep
  rw [not_isDigit_of_isSeparator hsep] at h
  contradiction

theorem startsWord_iff_toNat {c : Char} :
    startsWord c = true ↔
      (65 ≤ c.toNat ∧ c.toNat ≤ 90 ∨ 97 ≤ c.toNat ∧ c.toNat ≤ 122) ∨ c.toNat = 95 := by
  have hunderscore : c = '_' ↔ c.toNat = 95 := Char.toNat_inj.symm
  rw [startsWord, Bool.or_eq_true, beq_iff_eq, ← isUpper_iff_toNat, ← isLower_iff_toNat,
    ← hunderscore, ← Bool.or_eq_true]
  rfl

theorem not_startsWord_of_isDigit {c : Char} (h : c.isDigit = true) : startsWord c = false := by
  rw [isDigit_iff_toNat] at h
  rw [← Bool.not_eq_true, startsWord_iff_toNat]
  omega

theorem not_isDigit_of_startsWord {c : Char} (h : startsWord c = true) : c.isDigit = false := by
  by_contra hdigit
  rw [Bool.not_eq_false] at hdigit
  rw [not_startsWord_of_isDigit hdigit] at h
  contradiction

theorem not_isSeparator_of_startsWord {c : Char} (h : startsWord c = true) :
    isSeparator c = false := by
  by_contra hsep
  rw [Bool.not_eq_false] at hsep
  simp only [isSeparator, Bool.or_eq_true, beq_iff_eq] at hsep
  obtain ((rfl | rfl) | rfl) | rfl := hsep <;> contradiction

theorem TokenKind.ofWord_eq_word_iff {w : String} :
    ofWord w = word ↔ ∀ k : Keyword, w ≠ k.spelling := by
  constructor
  · rintro h k rfl
    rw [ofWord_spelling] at h
    contradiction
  · intro h
    unfold ofWord
    split
    · next k hk => exact absurd (Keyword.ofSpelling?_eq_some_iff.1 hk) (h k)
    · rfl

/-- What stands behind a separator has no say in the lexeme before it. -/
theorem Lexeme.cut_append_separator {w : Char} (hw : isSeparator w = true) (c : Char)
    (cs bs : List Char) :
    cut c (cs ++ w :: bs) = { cut c cs with rest := (cut c cs).rest ++ w :: bs } := by
  have hword : (!isSeparator w) = false := by simp [hw]
  have hdigit := not_isDigit_of_isSeparator hw
  unfold cut
  split
  · rw [takeWhile_append_stop hword, dropWhile_append_stop hword]
  · split
    · rw [takeWhile_append_stop hdigit, dropWhile_append_stop hdigit]
    · rfl

theorem Lexeme.byteLength_cut (c : Char) (cs : List Char) :
    byteLength (cut c cs).text + byteLength (cut c cs).rest = byteLength (c :: cs) := by
  rw [← byteLength_append, text_append_rest]

namespace Cursor

/-! ## One token at a time -/

theorem tokens_of_next?_eq_none {c : Cursor} (h : c.next? = none) : c.tokens = [] := by
  unfold tokens
  split
  · rfl
  · next t d hsome => rw [h] at hsome; contradiction

theorem tokens_of_next?_eq_some {c d : Cursor} {t : Token} (h : c.next? = some (t, d)) :
    c.tokens = t :: d.tokens := by
  rw [tokens]
  split
  · next hnone => rw [h] at hnone; contradiction
  · next t' d' hsome =>
    rw [h] at hsome
    cases hsome
    rfl

/-- Separators before a token count for nothing but their length. -/
theorem tokens_eq_of_skip_eq {c d : Cursor} (h : c.skip = d.skip) : c.tokens = d.tokens := by
  have hnext : c.next? = d.next? := by unfold next?; rw [h]
  cases hd : d.next? with
  | none => rw [tokens_of_next?_eq_none hd, tokens_of_next?_eq_none (hnext.trans hd)]
  | some r => rw [tokens_of_next?_eq_some hd, tokens_of_next?_eq_some (hnext.trans hd)]

theorem next?_eq_none_iff {c : Cursor} :
    c.next? = none ↔ ∀ a ∈ c.rest, isSeparator a = true := by
  rw [← List.dropWhile_eq_nil_iff]
  unfold next? skip
  split <;> simp_all

theorem end_of_next? {c d : Cursor} {t : Token} (h : c.next? = some (t, d)) :
    d.offset + byteLength d.rest = c.offset + byteLength c.rest := by
  unfold next? at h
  split at h
  · contradiction
  · next a as hskip =>
    cases h
    have hcut := Lexeme.byteLength_cut a as
    have hrest : c.rest = c.rest.takeWhile isSeparator ++ (a :: as) := by
      rw [← hskip]
      exact List.takeWhile_append_dropWhile.symm
    have hlen : byteLength c.rest =
        byteLength (c.rest.takeWhile isSeparator) + byteLength (a :: as) := by
      rw [← byteLength_append, ← hrest]
    simp only [skip] at *
    omega

/-! ## Texts with a separator between them -/

section Separator

variable {w : Char} (hw : isSeparator w = true)

include hw

theorem next?_append_separator {c d : Cursor} {t : Token} (h : c.next? = some (t, d))
    (bs : List Char) :
    next? { c with rest := c.rest ++ w :: bs } =
      some (t, { d with rest := d.rest ++ w :: bs }) := by
  unfold next? at h
  split at h
  · contradiction
  · next a as hskip =>
    cases h
    have hrest : c.rest.dropWhile isSeparator = a :: as := hskip
    have htake : (c.rest ++ w :: bs).takeWhile isSeparator = c.rest.takeWhile isSeparator := by
      have hlt : (c.rest.takeWhile isSeparator).length ≠ c.rest.length := by
        intro hlen
        have := congrArg List.length (List.takeWhile_append_dropWhile (p := isSeparator)
          (l := c.rest))
        rw [List.length_append, hlen, hrest, List.length_cons] at this
        omega
      rw [List.takeWhile_append, if_neg hlt]
    have hdrop : (c.rest ++ w :: bs).dropWhile isSeparator = a :: (as ++ w :: bs) := by
      rw [List.dropWhile_append, hrest]
      rfl
    unfold next? skip
    simp only [hdrop, htake, Lexeme.cut_append_separator hw]

/-- The tokens of two texts with a separator between them. -/
theorem tokens_append_separator (c : Cursor) (bs : List Char) :
    tokens { c with rest := c.rest ++ w :: bs } =
      c.tokens ++ tokens ⟨c.offset + byteLength c.rest + w.utf8Size, bs⟩ := by
  fun_induction tokens c with
  | case1 c hnone =>
      have hall := next?_eq_none_iff.1 hnone
      apply tokens_eq_of_skip_eq
      simp [skip, List.takeWhile_append_of_pos hall, List.dropWhile_append_of_pos hall, hw,
        Nat.add_assoc]
  | case2 c t d hsome ih =>
      rw [tokens_of_next?_eq_some (next?_append_separator hw hsome bs), ih, end_of_next? hsome]
      rfl

end Separator

theorem tokens_append_separators (c : Cursor) {ends : List Char}
    (h : ∀ w ∈ ends, isSeparator w = true) :
    tokens { c with rest := c.rest ++ ends } = c.tokens := by
  cases ends with
  | nil => rw [List.append_nil]
  | cons w bs =>
      rw [List.forall_mem_cons] at h
      have hnone : next? ⟨c.offset + byteLength c.rest + w.utf8Size, bs⟩ = none :=
        next?_eq_none_iff.2 h.2
      rw [tokens_append_separator h.1, tokens_of_next?_eq_none hnone, List.append_nil]

end Cursor

/-! ## Moving a text -/

/-- The span of the same bytes when `k` bytes are put before them. -/
def Text.Span.shift (k : Nat) (s : Span) : Span := ⟨k + s.start, k + s.stop⟩

def Token.shift (k : Nat) (t : Token) : Token := { t with span := t.span.shift k }

@[simp] theorem Token.kind_shift (k : Nat) (t : Token) : (t.shift k).kind = t.kind := rfl

@[simp] theorem Token.literal_shift (k : Nat) (t : Token) :
    (t.shift k).literal = t.literal := rfl

@[simp] theorem Token.span_shift (k : Nat) (t : Token) :
    (t.shift k).span = t.span.shift k := rfl

theorem Text.Span.enclose_shift (k : Nat) (s t : Span) :
    (s.shift k).enclose (t.shift k) = (s.enclose t).shift k := rfl

namespace Cursor

def shift (k : Nat) (c : Cursor) : Cursor := { c with offset := k + c.offset }

theorem skip_shift (k : Nat) (c : Cursor) : (c.shift k).skip = c.skip.shift k := by
  simp [skip, shift, Nat.add_assoc]

theorem next?_shift (k : Nat) (c : Cursor) :
    (c.shift k).next? = c.next?.map fun (t, d) => (t.shift k, d.shift k) := by
  unfold next?
  rw [skip_shift]
  cases hrest : c.skip.rest with
  | nil => simp [shift, hrest]
  | cons a as => simp [shift, hrest, Token.shift, Span.shift, Nat.add_assoc]

theorem tokens_shift (k : Nat) (c : Cursor) :
    (c.shift k).tokens = c.tokens.map (Token.shift k) := by
  fun_induction tokens c with
  | case1 c hnone =>
      have h : (c.shift k).next? = none := by rw [next?_shift, hnone]; rfl
      rw [tokens_of_next?_eq_none h, List.map_nil]
  | case2 c t d hsome ih =>
      have h : (c.shift k).next? = some (t.shift k, d.shift k) := by
        rw [next?_shift, hsome]; rfl
      rw [tokens_of_next?_eq_some h, ih, List.map_cons]

/-! ## Texts of one token -/

theorem skip_of_not_isSeparator {o : Nat} {a : Char} {as : List Char}
    (ha : isSeparator a = false) : skip ⟨o, a :: as⟩ = ⟨o, a :: as⟩ := by
  simp [skip, ha]

theorem tokens_of_cut {o : Nat} {a : Char} {as : List Char} {kind : TokenKind}
    (ha : isSeparator a = false) (hcut : Lexeme.cut a as = ⟨kind, a :: as, []⟩) :
    tokens ⟨o, a :: as⟩ =
      [⟨kind, ⟨o, o + byteLength (a :: as)⟩, String.ofList (a :: as)⟩] := by
  have hnext : next? ⟨o, a :: as⟩ = some (⟨kind, ⟨o, o + byteLength (a :: as)⟩,
      String.ofList (a :: as)⟩, ⟨o + byteLength (a :: as), []⟩) := by
    unfold next?
    simp only [skip_of_not_isSeparator ha, hcut]
  have hend : next? ⟨o + byteLength (a :: as), []⟩ = none := by
    rw [next?_eq_none_iff]
    simp
  rw [tokens_of_next?_eq_some hnext, tokens_of_next?_eq_none hend]

theorem tokens_digits {o : Nat} {a : Char} {as : List Char}
    (h : ∀ c ∈ a :: as, c.isDigit = true) :
    tokens ⟨o, a :: as⟩ =
      [⟨.int, ⟨o, o + byteLength (a :: as)⟩, String.ofList (a :: as)⟩] := by
  have ha : a.isDigit = true := h a (by simp)
  have has : ∀ c ∈ as, c.isDigit = true := fun c hc => h c (by simp [hc])
  have hword : startsWord a = false := not_startsWord_of_isDigit ha
  apply tokens_of_cut (not_isSeparator_of_isDigit ha)
  simp [Lexeme.cut, hword, ha, List.takeWhile_eq_self_iff.2 has, List.dropWhile_eq_nil_iff.2 has]

theorem tokens_word {o : Nat} {a : Char} {as : List Char} (ha : startsWord a = true)
    (h : ∀ c ∈ a :: as, isSeparator c = false) :
    tokens ⟨o, a :: as⟩ =
      [⟨.ofWord (String.ofList (a :: as)), ⟨o, o + byteLength (a :: as)⟩,
        String.ofList (a :: as)⟩] := by
  have has : ∀ c ∈ as, (!isSeparator c) = true := fun c hc => by simp [h c (by simp [hc])]
  apply tokens_of_cut (h a (by simp))
  simp [Lexeme.cut, ha, List.takeWhile_eq_self_iff.2 has, List.dropWhile_eq_nil_iff.2 has]

end Cursor

end ParkingLot
