import ParkingLot.Proofs.Language.Joining
/-!
# Texts with other gaps

How wide the gaps of a text are, and which separators they are made of, does not matter.  Two
cursors before texts that differ in this only go in step: they come upon the same lexemes, and what
is left differs in its gaps only (`Respaced.next?`).  So the tokens have the same contents, and the
reader goes by nothing else (`read_respaced`).
-/

namespace ParkingLot

open Text Parse

/-- The characters are the same, and there is a gap in the one where there is a gap in the other.
Separators at the end are no gap. -/
inductive Respaced : List Char → List Char → Prop
  | ends {gap gap' : List Char} : (∀ c ∈ gap, isSeparator c = true) →
      (∀ c ∈ gap', isSeparator c = true) → Respaced gap gap'
  | gap {gap gap' cs ds : List Char} : gap ≠ [] → gap' ≠ [] →
      (∀ c ∈ gap, isSeparator c = true) → (∀ c ∈ gap', isSeparator c = true) →
      Respaced cs ds → Respaced (gap ++ cs) (gap' ++ ds)
  | char {c : Char} {cs ds : List Char} : isSeparator c = false →
      Respaced cs ds → Respaced (c :: cs) (c :: ds)

/-- The texts differ in their gaps and in the separators before and behind all else. -/
def DifferInGaps (s t : String) : Prop :=
  Respaced (s.toList.dropWhile isSeparator) (t.toList.dropWhile isSeparator)

variable {p : Char → Bool} {cs ds gap : List Char} {c d : Cursor}

namespace Respaced

/-! ## Cutting both texts -/

/-- What holds of no separator does not hold where a gap starts. -/
theorem takeWhile_of_separator (hp : ∀ c, isSeparator c = true → p c = false)
    (hhead : ∀ c ∈ cs.head?, isSeparator c = true) :
    cs.takeWhile p = [] ∧ cs.dropWhile p = cs := by
  have hstop : ∀ c ∈ cs.head?, p c = false := fun c hc => hp c (hhead c hc)
  exact ⟨@takeWhile_append_of_stop p [] cs (by simp) hstop,
    @dropWhile_append_of_stop p [] cs (by simp) hstop⟩

theorem takeWhile_eq (hp : ∀ c, isSeparator c = true → p c = false) (h : Respaced cs ds) :
    cs.takeWhile p = ds.takeWhile p ∧ Respaced (cs.dropWhile p) (ds.dropWhile p) := by
  have hends : ∀ {gap : List Char}, (∀ c ∈ gap, isSeparator c = true) →
      ∀ c ∈ gap.head?, isSeparator c = true := fun hgap c hc =>
    hgap c (List.mem_of_mem_head? hc)
  have hstarts : ∀ {gap : List Char}, gap ≠ [] → (∀ c ∈ gap, isSeparator c = true) →
      ∀ (cs : List Char), ∀ c ∈ (gap ++ cs).head?, isSeparator c = true := by
    intro gap hne hgap cs
    rw [List.head?_append_of_ne_nil _ hne]
    exact hends hgap
  induction h with
  | ends hgap hgap' =>
      obtain ⟨htake, hdrop⟩ := takeWhile_of_separator hp (hends hgap)
      obtain ⟨htake', hdrop'⟩ := takeWhile_of_separator hp (hends hgap')
      rw [htake, hdrop, htake', hdrop']
      exact ⟨rfl, .ends hgap hgap'⟩
  | gap hne hne' hgap hgap' h _ =>
      obtain ⟨htake, hdrop⟩ := takeWhile_of_separator hp (hstarts hne hgap _)
      obtain ⟨htake', hdrop'⟩ := takeWhile_of_separator hp (hstarts hne' hgap' _)
      rw [htake, hdrop, htake', hdrop']
      exact ⟨rfl, .gap hne hne' hgap hgap' h⟩
  | @char c cs ds hc h ih =>
      cases hpc : p c with
      | true => simpa [hpc] using ih
      | false => simpa [hpc] using Respaced.char hc h

theorem cut (c : Char) (h : Respaced cs ds) :
    (Lexeme.cut c cs).kind = (Lexeme.cut c ds).kind ∧
      (Lexeme.cut c cs).text = (Lexeme.cut c ds).text ∧
      Respaced (Lexeme.cut c cs).rest (Lexeme.cut c ds).rest := by
  obtain ⟨hword, hbehind⟩ := h.takeWhile_eq (p := (!isSeparator ·)) (by simp)
  obtain ⟨hdigits, hbehind'⟩ := h.takeWhile_eq fun _ => not_isDigit_of_isSeparator
  unfold Lexeme.cut
  split
  · rw [hword]
    exact ⟨rfl, rfl, hbehind⟩
  · split
    · rw [hdigits]
      exact ⟨rfl, rfl, hbehind'⟩
    · exact ⟨rfl, rfl, h⟩

theorem skip (h : Respaced cs ds) :
    Respaced (cs.dropWhile isSeparator) (ds.dropWhile isSeparator) := by
  induction h with
  | ends hgap hgap' =>
      rw [List.dropWhile_eq_nil_iff.2 hgap, List.dropWhile_eq_nil_iff.2 hgap']
      exact .ends (by simp) (by simp)
  | gap _ _ hgap hgap' _ ih =>
      rwa [List.dropWhile_append_of_pos hgap, List.dropWhile_append_of_pos hgap']
  | char hc h _ => simpa [hc] using Respaced.char hc h

/-- Without a gap in front the texts start with the same character, or both end. -/
theorem head_cases (h : Respaced cs ds) (hcs : ∀ c ∈ cs.head?, isSeparator c = false)
    (hds : ∀ c ∈ ds.head?, isSeparator c = false) :
    (cs = [] ∧ ds = []) ∨ ∃ c cs' ds', cs = c :: cs' ∧ ds = c :: ds' ∧ Respaced cs' ds' := by
  have hnil : ∀ {gap rest : List Char}, (∀ c ∈ gap, isSeparator c = true) →
      (∀ c ∈ (gap ++ rest).head?, isSeparator c = false) → gap = [] := by
    intro gap rest hgap hhead
    cases gap with
    | nil => rfl
    | cons c gap =>
        have hc := hhead c rfl
        rw [hgap c List.mem_cons_self] at hc
        contradiction
  cases h with
  | ends hgap hgap' =>
      rw [← cs.append_nil] at hcs
      rw [← ds.append_nil] at hds
      exact .inl ⟨hnil hgap hcs, hnil hgap' hds⟩
  | gap hne _ hgap _ _ => exact absurd (hnil hgap hcs) hne
  | char _ h => exact .inr ⟨_, _, _, rfl, rfl, h⟩

/-! ## Reading both texts -/

theorem next? (h : Respaced c.skip.rest d.skip.rest) :
    (c.next? = none ∧ d.next? = none) ∨ ∃ t u c' d', c.next? = some (t, c') ∧
      d.next? = some (u, d') ∧ t.content = u.content ∧ Respaced c'.skip.rest d'.skip.rest := by
  unfold Cursor.next?
  rcases h.head_cases not_of_mem_head?_dropWhile not_of_mem_head?_dropWhile with
    ⟨hc, hd⟩ | ⟨a, as, bs, hc, hd, hrest⟩
  · rw [hc, hd]
    exact .inl ⟨rfl, rfl⟩
  · obtain ⟨hkind, htext, hbehind⟩ := hrest.cut a
    rw [hc, hd]
    refine .inr ⟨_, _, _, _, rfl, rfl, ?_, hbehind.skip⟩
    rw [Token.content, Token.content, hkind, htext]

theorem tokens (h : Respaced c.skip.rest d.skip.rest) :
    c.tokens.map Token.content = d.tokens.map Token.content := by
  fun_induction Cursor.tokens c generalizing d with
  | case1 c hnone =>
      rcases h.next? with ⟨-, hd⟩ | ⟨t, u, c', d', hc, -⟩
      · rw [Cursor.tokens_of_next?_eq_none hd]
      · rw [hnone] at hc
        contradiction
  | case2 c t c' hsome ih =>
      rcases h.next? with ⟨hc, -⟩ | ⟨t', u, c'', d', hc, hd, hcontent, hbehind⟩
      · rw [hsome] at hc
        contradiction
      · rw [hsome] at hc
        cases hc
        rw [Cursor.tokens_of_next?_eq_some hd, List.map_cons, List.map_cons, hcontent, ih hbehind]

end Respaced

/-- The gaps of a text do not count: its tokens have the same contents with other gaps, and it has
the same statements, or the same fault. -/
theorem read_respaced {s t : String} (h : DifferInGaps s t) :
    (tokenize s).map Token.content = (tokenize t).map Token.content ∧
      ((∃ p q, Program.ofText s = .ok p ∧ Program.ofText t = .ok q ∧
          p.statements = q.statements) ∨
        ∃ e f, Program.ofText s = .error { first := e } ∧ Program.ofText t = .error { first := f } ∧
          e.cause = f.cause ∧ e.literal = f.literal) := by
  have hcontents : (Cursor.ofText s).tokens.map Token.content =
      (Cursor.ofText t).tokens.map Token.content := Respaced.tokens h
  constructor
  · rw [tokenize_eq, tokenize_eq, List.map_append, List.map_append, hcontents]
    rfl
  · have hstop : (Token.eof s.utf8ByteSize).content = (Token.eof t.utf8ByteSize).content := rfl
    rcases statements_of_map_content_eq hstop hcontents with
      ⟨items, items', hs, ht, hitems⟩ | ⟨e, f, hs, ht, hcause, hliteral⟩
    · exact .inl ⟨⟨items⟩, ⟨items'⟩, Program.ofText_eq_ok_iff.2 (statements_eq_ok_iff.1 hs),
        Program.ofText_eq_ok_iff.2 (statements_eq_ok_iff.1 ht), hitems⟩
    · exact .inr ⟨e, f, Program.ofText_eq_error_iff.2 ⟨e, rfl, hs⟩,
        Program.ofText_eq_error_iff.2 ⟨f, rfl, ht⟩, hcause, hliteral⟩

theorem Respaced.word_append {word : List Char} (hword : ∀ c ∈ word, isSeparator c = false)
    (h : Respaced cs ds) : Respaced (word ++ cs) (word ++ ds) := by
  induction word with
  | nil => exact h
  | cons c word ih =>
      rw [List.forall_mem_cons] at hword
      exact .char hword.1 (ih hword.2)

/-- A gap made wider, with gaps put at both ends; where two lexemes touch there is none. -/
theorem read_respaced_touching :
    let s := "leave 1status"
    let t := "\r\nleave\t 1status\n"
    DifferInGaps s t ∧ (tokenize s).map Token.content = (tokenize t).map Token.content ∧
      ((∃ p q, Program.ofText s = .ok p ∧ Program.ofText t = .ok q ∧
          p.statements = q.statements) ∨
        ∃ e f, Program.ofText s = .error { first := e } ∧ Program.ofText t = .error { first := f } ∧
          e.cause = f.cause ∧ e.literal = f.literal) := by
  intro s t
  have hs : s.toList.dropWhile isSeparator =
      "leave".toList ++ ([' '] ++ ("1status".toList ++ [])) := by decide +kernel
  have ht : t.toList.dropWhile isSeparator =
      "leave".toList ++ (['\t', ' '] ++ ("1status".toList ++ ['\n'])) := by decide +kernel
  have h : DifferInGaps s t := by
    unfold DifferInGaps
    rw [hs, ht]
    have hends : Respaced [] ['\n'] := .ends (by simp) (by simp [isSeparator])
    have hlast : Respaced ("1status".toList ++ []) ("1status".toList ++ ['\n']) :=
      hends.word_append (by simp [isSeparator])
    have hgap : Respaced ([' '] ++ ("1status".toList ++ []))
        (['\t', ' '] ++ ("1status".toList ++ ['\n'])) :=
      .gap (by simp) (by simp) (by simp [isSeparator]) (by simp [isSeparator]) hlast
    exact hgap.word_append (by simp [isSeparator])
  exact ⟨h, read_respaced h⟩

end ParkingLot
