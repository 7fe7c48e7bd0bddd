import ParkingLot.Language.Reader
import ParkingLot.Proofs.Language.FirstFault
/-!
# Where tokens end

A list of tokens may end with an end marker or just end, and it is the same program either way
(`ends_agree`).  The reader by position never comes past the first end marker: at each step it does
what the reader of lists does with the tokens that are left before it (`Reader.program_eq`).
-/

namespace ParkingLot

open Text Parse

inductive Agree {α β : Type} (R : α → β → Prop) :
    Except SyntaxError α → Except SyntaxError β → Prop
  | error (e : SyntaxError) : Agree R (.error e) (.error e)
  | ok {a : α} {b : β} : R a b → Agree R (.ok a) (.ok b)

theorem Agree.bind {α β γ δ : Type} {R : α → β → Prop} {S : γ → δ → Prop}
    {x : Except SyntaxError α} {y : Except SyntaxError β} {f : α → Except SyntaxError γ}
    {g : β → Except SyntaxError δ} (h : Agree R x y) (hnext : ∀ a b, R a b → Agree S (f a) (g b)) :
    Agree S (x >>= f) (y >>= g) := by
  cases h with
  | error e => exact .error e
  | ok hab => exact hnext _ _ hab

theorem Agree.eq_error {α β : Type} {R : α → β → Prop} {e : SyntaxError}
    {y : Except SyntaxError β} (h : Agree R (.error e) y) : y = .error e := by
  cases h
  rfl

theorem Agree.exists_ok {α β : Type} {R : α → β → Prop} {a : α} {y : Except SyntaxError β}
    (h : Agree R (.ok a) y) : ∃ b, y = .ok b ∧ R a b := by
  cases h with
  | ok hab => exact ⟨_, rfl, hab⟩

variable {ts xs done rest : List Token} {t : Token}

/-! ## Lists with an end marker -/

private theorem endMark_append (h : ∀ t ∈ ts, t.kind ≠ .eof) (ht : t.kind = .eof) (xs : List Token) :
    endMark (ts ++ t :: xs) = t := by
  rw [endMark, List.find?_append, find?_eof_eq_none h, Option.none_or,
    List.find?_cons_of_pos (by simp [ht])]
  rfl

private theorem body_append_cons (h : ∀ t ∈ ts, t.kind ≠ .eof) (ht : t.kind = .eof) (xs : List Token) :
    body (ts ++ t :: xs) = ts := by
  have hstop : body (t :: xs) = [] := List.takeWhile_cons_of_neg (by simp [ht])
  rw [body_append h, hstop, List.append_nil]

/-! ## Reading by position -/

theorem kind_endMark (ts : List Token) : (endMark ts).kind = .eof := by
  unfold endMark
  cases hfind : ts.find? (·.kind == .eof) with
  | none => rfl
  | some t => simpa using List.find?_some hfind

private theorem kind_ne_eof_of_mem_body (h : t ∈ body ts) : t.kind ≠ .eof := by
  simpa using List.mem_takeWhile_imp h

namespace Reader

variable {tokens : List Token} {pos : Nat} {last : Token}

private theorem getElem?_of_body_eq (h : body tokens = done ++ rest) :
    tokens[done.length]? = (rest ++ tokens.dropWhile (·.kind != .eof)).head? := by
  have htokens : tokens = done ++ (rest ++ tokens.dropWhile (·.kind != .eof)) := by
    rw [← List.append_assoc, ← h]
    exact List.takeWhile_append_dropWhile.symm
  have hget := @List.getElem?_append_right _ done (rest ++ tokens.dropWhile (·.kind != .eof))
    done.length (Nat.le_refl _)
  rwa [← htokens, Nat.sub_self, ← List.head?_eq_getElem?] at hget

/-- Up to the first end marker the token at a position is the one that stands there.  At the end it
is the end marker, be it in the list or not. -/
theorem peek_eq (h : body tokens = done ++ rest) :
    peek tokens done.length = rest.head?.getD (endMark tokens) := by
  rw [peek, getElem?_of_body_eq h]
  cases rest with
  | cons t rest => rfl
  | nil =>
      have hmark : tokens.find? (·.kind == .eof) = (tokens.dropWhile (·.kind != .eof)).head? :=
        List.find?_eq_head?_dropWhile_not _ tokens
      rw [endMark, hmark]
      rfl

theorem advance_eq (h : body tokens = done ++ t :: rest) :
    advance tokens done.length = done.length + 1 := by
  have hmem : t ∈ body tokens := by simp [h]
  rw [advance, peek_eq h, if_neg]
  exact kind_ne_eof_of_mem_body hmem

/-- The position is right behind the token `last`, and `rest` is left before the end. -/
private def Behind (tokens : List Token) (last : Token) (rest : List Token) (pos : Nat) : Prop :=
  ∃ done, body tokens = done ++ last :: rest ∧ pos = done.length + 1

namespace Behind

theorem previousStop_eq (h : Behind tokens last rest pos) :
    previousStop tokens pos = last.span.stop := by
  obtain ⟨done, hbody, rfl⟩ := h
  rw [previousStop, getElem?_of_body_eq hbody]
  rfl

theorem expect (h : Behind tokens last ts pos) {kind : TokenKind} (hkind : kind ≠ .eof) :
    Agree (fun r s => r.1 = s.1 ∧ Behind tokens r.1 r.2 s.2)
      (Parse.expect (endMark tokens) kind ts) (Reader.expect tokens kind pos) := by
  obtain ⟨done, hbody, rfl⟩ := h
  have hsplit : body tokens = (done ++ [last]) ++ ts := by simp [hbody]
  have hpos : done.length + 1 = (done ++ [last]).length := by simp
  rw [hpos, Reader.expect, peek_eq hsplit]
  cases ts with
  | nil =>
      -- what is seen is the end marker, and no operand is one
      have hend : (endMark tokens).kind ≠ kind := by
        rw [kind_endMark]
        exact hkind.symm
      rw [List.head?_nil, Option.getD_none, if_neg hend]
      exact .error _
  | cons t ts =>
      rw [List.head?_cons, Option.getD_some, Parse.expect]
      split
      · exact .ok ⟨rfl, _, hsplit, advance_eq hsplit⟩
      · exact .error _

theorem word (h : Behind tokens last ts pos) :
    Agree (fun r s => r.1.literal = s.1 ∧ Behind tokens r.1 r.2 s.2)
      (Parse.word (endMark tokens) ts) (Reader.word tokens pos) := by
  rw [← bind_pure (Parse.word (endMark tokens) ts)]
  exact (h.expect (by decide)).bind fun _ _ hread => .ok ⟨congrArg _ hread.1, hread.2⟩

theorem int (h : Behind tokens last ts pos) :
    Agree (fun r s => r.1.1 = s.1 ∧ Behind tokens r.1.2 r.2 s.2)
      (Parse.int (endMark tokens) ts) (Reader.int tokens pos) := by
  refine (h.expect (by decide)).bind ?_
  rintro ⟨t, rest⟩ ⟨u, after⟩ ⟨rfl, hbehind⟩
  dsimp only
  cases readInt64? t.literal with
  | none => exact .error _
  | some n => exact .ok ⟨rfl, hbehind⟩

theorem operands (h : Behind tokens last ts pos) (k : Keyword) :
    Agree (fun r s => r.1.1 = s.1 ∧ Behind tokens r.1.2 r.2 s.2)
      (Parse.operands (endMark tokens) last k ts) (Reader.operands tokens k pos) := by
  cases k with
  | createParkingLot | leave =>
      exact h.int.bind fun _ _ hread => .ok ⟨congrArg _ hread.1, hread.2⟩
  | park =>
      refine h.word.bind fun _ _ hfirst => ?_
      refine hfirst.2.word.bind fun _ _ hsecond => ?_
      exact .ok ⟨congrArg₂ _ hfirst.1 hsecond.1, hsecond.2⟩
  | status => exact .ok ⟨rfl, h⟩
  | registrationNumbersWithColour | slotNumbersWithColour | slotNumberWithRegistration =>
      exact h.word.bind fun _ _ hread => .ok ⟨congrArg _ hread.1, hread.2⟩

end Behind

private theorem items_of_eof (h : (peek tokens pos).kind = .eof) : items tokens pos = .ok [] := by
  rw [items, dif_pos h]

section

variable (h : (peek tokens pos).kind ≠ .eof)

include h

private theorem items_of_error {e : SyntaxError} (hfail : statement tokens pos = .error e) :
    items tokens pos = .error e := by
  rw [items, dif_neg h]
  split
  · next e' he =>
    rw [hfail] at he
    exact congrArg _ (Except.error.inj he).symm
  · next hok =>
    rw [hfail] at hok
    contradiction

private theorem items_of_ok {item : Located} {after : Nat}
    (hread : statement tokens pos = .ok (item, after)) :
    items tokens pos = (items tokens after).map (item :: ·) := by
  rw [items, dif_neg h]
  split
  · next he =>
    rw [hread] at he
    contradiction
  · next hok =>
    rw [hread] at hok
    cases hok
    rfl

end

/-- In front of any token before the end, the reader goes on as the reader of lists does. -/
theorem items_eq (h : body tokens = done ++ ts) :
    items tokens done.length = statements (endMark tokens) ts := by
  have hpeek := peek_eq h
  -- by the recursion of the reader of lists, as it says where the position comes to stand next
  fun_induction statements (endMark tokens) ts generalizing done with
  | case1 =>
      refine items_of_eof ?_
      rw [hpeek]
      exact kind_endMark tokens
  | case2 head ts k hk e he =>
      have hbehind : Behind tokens head ts (done.length + 1) := ⟨done, h, rfl⟩
      have hfail := (he ▸ hbehind.operands k).eq_error
      change peek tokens done.length = head at hpeek
      refine items_of_error (by simp [hpeek, hk]) ?_
      simp only [statement, hpeek, hk, advance_eq h, hfail]
      rfl
  | case3 head ts k hk s last rest hok ih =>
      have hbehind : Behind tokens head ts (done.length + 1) := ⟨done, h, rfl⟩
      obtain ⟨⟨s', after⟩, hread, rfl, hafter⟩ := (hok ▸ hbehind.operands k).exists_ok
      change peek tokens done.length = head at hpeek
      have hnext : statement tokens done.length =
          .ok (⟨s, head.span.enclose last.span⟩, after) := by
        simp only [statement, hpeek, hk, advance_eq h, hread, bind, Except.bind,
          hafter.previousStop_eq]
        rfl
      rw [items_of_ok (by simp [hpeek, hk]) hnext]
      obtain ⟨before, hbody, rfl⟩ := hafter
      have hsplit : body tokens = (before ++ [last]) ++ rest := by simp [hbody]
      have hlater := ih hsplit (peek_eq hsplit)
      rw [List.length_append, List.length_singleton] at hlater
      rw [hlater]
  | case4 head ts hk =>
      change peek tokens done.length = head at hpeek
      have hmem : head ∈ body tokens := by simp [h]
      refine items_of_error ?_ ?_
      · rw [hpeek]
        exact kind_ne_eof_of_mem_body hmem
      · rw [statement, hpeek]
        split
        · next k hk' => exact absurd hk' (hk k)
        · rfl

/-- Reading by position comes to what reading the list does. -/
theorem program_eq (tokens : List Token) : program tokens = Program.ofTokens tokens := by
  have hitems : items tokens 0 = statements (endMark tokens) (body tokens) :=
    items_eq (List.nil_append _).symm
  rw [program, hitems]
  rfl

end Reader

/-! ## Both ends -/

/-- Tokens that just end are the same program, or have the same fault, as with an end marker behind
the last one, whatever follows that.  The reader by position says the same of both.  If they are
cut short where an operand is due, the fault is there, where the last of them stops. -/
theorem ends_agree (h : ∀ t ∈ ts, t.kind ≠ .eof) (xs : List Token) :
    let stop := (ts.getLast?.map (·.span.stop)).getD 0
    Program.ofTokens (ts ++ .eof stop :: xs) = Program.ofTokens ts ∧
      Reader.program (ts ++ .eof stop :: xs) = Program.ofTokens ts ∧
      Reader.program ts = Program.ofTokens ts ∧
      ∀ cls, Awaits ts (.operand cls) →
        Program.ofTokens ts = .error { first := ⟨.expected cls.kind, "", ⟨stop, stop⟩⟩ } := by
  intro stop
  have hmark : endMark ts = .eof stop := endMark_of_kind_ne_eof h
  have hagree : Program.ofTokens (ts ++ .eof stop :: xs) = Program.ofTokens ts := by
    unfold Program.ofTokens
    rw [endMark_append h rfl, body_append_cons h rfl, hmark, body_eq_self h]
  refine ⟨hagree, ?_, Reader.program_eq ts, ?_⟩
  · rw [Reader.program_eq, hagree]
  · intro cls hawaits
    rw [Program.ofTokens, hmark, body_eq_self h, hawaits.statements_eq_error]
    rfl

/-- A car without a colour, with a colour behind the end marker. -/
theorem ends_agree_cut_short :
    let ts : List Token := [⟨.keyword .park, ⟨3, 7⟩, "park"⟩, ⟨.word, ⟨9, 4⟩, "A"⟩]
    let xs : List Token := [⟨.word, ⟨5, 6⟩, "White"⟩, .eof 6]
    (∀ t ∈ ts, t.kind ≠ .eof) ∧ Awaits ts (.operand .word) ∧
      Program.ofTokens (ts ++ .eof 4 :: xs) = Program.ofTokens ts ∧
      Program.ofTokens ts = .error { first := ⟨.expected .word, "", ⟨4, 4⟩⟩ } := by
  intro ts xs
  have h : ∀ t ∈ ts, t.kind ≠ .eof := by decide
  have hawaits : Awaits ts (.operand .word) :=
    @Awaits.operand [] ⟨.park, ⟨.keyword .park, ⟨3, 7⟩, "park"⟩, [⟨.word, ⟨9, 4⟩, "A"⟩]⟩ [.word] []
      .word (by simp) rfl rfl (.cons rfl .nil)
  obtain ⟨hagree, -, -, hfault⟩ := ends_agree h xs
  exact ⟨h, hawaits, hagree, hfault .word hawaits⟩

end ParkingLot
