import ParkingLot.Proofs.Language.Faults
/-!
# The first fault

The one fault that is reported about a list of tokens is the earliest that there can be: what comes
before it is the beginning of a program, no program goes on with the token at fault, and what is
said about it is what the tokens before it await (`exists_isFirstFault`).
-/

namespace ParkingLot

open Text Parse

variable {stop t : Token} {ts us done rest args : List Token}
  {items : List Located} {e : SyntaxError} {due : Due} {cls : OperandClass}
  {classes : List OperandClass}

/-! ## What is due -/

private theorem OperandClass.kind_inj {cls cls' : OperandClass} (h : cls.kind = cls'.kind) :
    cls = cls' := by
  cases cls <;> cases cls' <;> first | rfl | contradiction

theorem OperandClass.kind_ne_eof (cls : OperandClass) : cls.kind ≠ .eof := by
  cases cls <;> exact TokenKind.noConfusion

theorem OperandClass.Accepts.kind_eq (h : cls.Accepts t) : t.kind = cls.kind := by
  cases cls with
  | int => exact h.1
  | word => exact h

theorem Awaits.exists_blocks (h : Awaits ts .statement) : ∃ items, Blocks ts items := by
  cases h with
  | statement hwell =>
      obtain ⟨items, hblocks, -⟩ := ParkingLot.exists_blocks hwell
      exact ⟨items, hblocks⟩

theorem Awaits.statements_eq_error (h : Awaits ts (.operand cls)) (stop : Token) :
    statements stop ts = .error (.ofToken stop (.expected cls.kind)) :=
  statements_eq_error_iff.2 ⟨ts, [], .operand cls, (List.append_nil ts).symm, h, .missing⟩

/-- The tokens before a place settle what is due there. -/
theorem Awaits.unique {due' : Due} (h : Awaits ts due) (h' : Awaits ts due') : due = due' := by
  have hexclusive : ∀ {cls}, Awaits ts .statement → Awaits ts (.operand cls) → False := by
    intro cls hstatement hoperand
    obtain ⟨items, hblocks⟩ := hstatement.exists_blocks
    have hok := (@statements_eq_ok_iff (.eof 0)).2 hblocks
    rw [hoperand.statements_eq_error] at hok
    contradiction
  cases due with
  | statement =>
      cases due' with
      | statement => rfl
      | operand cls => exact absurd h' (hexclusive h)
  | operand cls =>
      cases due' with
      | statement => exact absurd h (hexclusive h')
      | operand cls' =>
          have herror := h.statements_eq_error (.eof 0)
          rw [h'.statements_eq_error] at herror
          have hkind : cls'.kind = cls.kind := by
            simpa [SyntaxError.ofToken] using herror
          rw [OperandClass.kind_inj hkind]

/-! ## Going on -/

private theorem exists_forall₂_accepts (classes : List OperandClass) :
    ∃ args, List.Forall₂ OperandClass.Accepts classes args := by
  have hread : readInt64? "0" = some 0 := by decide +kernel
  induction classes with
  | nil => exact ⟨[], .nil⟩
  | cons cls classes ih =>
      obtain ⟨args, hargs⟩ := ih
      cases cls with
      | int => exact ⟨⟨.int, ⟨0, 0⟩, "0"⟩ :: args, .cons ⟨rfl, 0, hread⟩ hargs⟩
      | word => exact ⟨⟨.word, ⟨0, 0⟩, ""⟩ :: args, .cons rfl hargs⟩

private theorem map_kind_of_accepts (h : List.Forall₂ OperandClass.Accepts classes args) :
    args.map Token.kind = classes.map OperandClass.kind := by
  induction h with
  | nil => rfl
  | cons haccepts _ ih => rw [List.map_cons, List.map_cons, haccepts.kind_eq, ih]

private theorem readable_of_accepts (h : List.Forall₂ OperandClass.Accepts classes args) :
    ∀ t ∈ args, t.kind = .int → ∃ n, readInt64? t.literal = some n := by
  induction h with
  | nil => simp
  | @cons cls t _ _ haccepts _ ih =>
      rw [List.forall_mem_cons]
      refine ⟨fun hkind => ?_, ih⟩
      cases cls with
      | int => exact haccepts.2
      | word => exact absurd (hkind.symm.trans haccepts) (by decide)

/-- Whatever is due, there are tokens that go on to a program. -/
theorem Awaits.exists_append (h : Awaits ts due) : ∃ more items, Blocks (ts ++ more) items := by
  cases h with
  | statement hwell =>
      obtain ⟨items, hblocks, -⟩ := ParkingLot.exists_blocks hwell
      exact ⟨[], items, (List.append_nil _).symm ▸ hblocks⟩
  | @operand phrases p given later cls hwell hhead hoperands hargs =>
      obtain ⟨more, hmore⟩ := exists_forall₂_accepts (cls :: later)
      have hall : List.Forall₂ OperandClass.Accepts p.keyword.operands (p.args ++ more) := by
        rw [hoperands]
        exact List.rel_append hargs hmore
      let completed : Phrase := ⟨p.keyword, p.head, p.args ++ more⟩
      have hphrase : completed.IsWellFormed :=
        ⟨hhead, map_kind_of_accepts hall, readable_of_accepts hall⟩
      have hphrases : ∀ q ∈ phrases ++ [completed], q.IsWellFormed :=
        List.forall_mem_append.2 ⟨hwell, List.forall_mem_singleton.2 hphrase⟩
      obtain ⟨items, hblocks, -⟩ := ParkingLot.exists_blocks hphrases
      refine ⟨more, items, ?_⟩
      rw [List.flatMap_append, List.flatMap_singleton] at hblocks
      rw [List.append_assoc]
      exact hblocks

theorem Parse.Blocks.kind_cases (h : Blocks ts items) :
    ∀ t ∈ ts, (∃ k, t.kind = .keyword k) ∨ ∃ cls : OperandClass, t.kind = cls.kind := by
  induction h with
  | nil => simp
  | @cons head args ts s items hblock _ ih =>
      rw [List.forall_mem_cons, List.forall_mem_append]
      refine ⟨.inl ⟨_, hblock.kind_head⟩, ?_, ih⟩
      intro t ht
      have hkinds := (Phrase.isWellFormed_of_block hblock).kind_args
      have hmem : t.kind ∈ s.keyword.operands.map OperandClass.kind := by
        rw [← hkinds]
        exact List.mem_map_of_mem ht
      obtain ⟨cls, -, hcls⟩ := List.mem_map.1 hmem
      exact .inr ⟨cls, hcls.symm⟩

theorem Parse.Blocks.kind_ne_eof (h : Blocks ts items) : ∀ t ∈ ts, t.kind ≠ .eof := by
  intro t ht heof
  obtain ⟨k, hk⟩ | ⟨cls, hcls⟩ := h.kind_cases t ht
  · rw [heof] at hk
    contradiction
  · exact cls.kind_ne_eof (hcls.symm.trans heof)

theorem Awaits.kind_ne_eof (h : Awaits ts due) : ∀ t ∈ ts, t.kind ≠ .eof := by
  obtain ⟨more, items, hblocks⟩ := h.exists_append
  exact fun t ht => hblocks.kind_ne_eof t (List.mem_append_left more ht)

/-! ## What is wrong with a misfit -/

namespace Misfit

variable (h : Misfit stop due ts e)

include h

theorem cause_eq_unexpected_iff : e.cause = .unexpected ↔ due = .statement := by
  cases h <;> simp [SyntaxError.ofToken]

theorem cause_eq_expected_iff (kind : TokenKind) : e.cause = .expected kind ↔
    ∃ cls, cls.kind = kind ∧ due = .operand cls ∧ ∀ t ∈ ts.head?, t.kind ≠ kind := by
  cases h with
  | unexpected => simp [SyntaxError.ofToken]
  | missing => simp [SyntaxError.ofToken]
  | @expected cls t ts hkind =>
      constructor
      · intro hcause
        obtain rfl := SyntaxError.Cause.expected.inj hcause
        exact ⟨cls, rfl, rfl, by simpa using hkind⟩
      · rintro ⟨cls', rfl, hdue, -⟩
        obtain rfl := Due.operand.inj hdue
        rfl
  | invalidNumber hkind _ => simp [SyntaxError.ofToken, hkind, OperandClass.kind]

theorem cause_eq_invalidNumber_iff : e.cause = .invalidNumber ↔
    due = .operand .int ∧ ∃ t ∈ ts.head?, t.kind = .int ∧ readInt64? t.literal = none := by
  cases h with
  | unexpected => simp [SyntaxError.ofToken]
  | missing => simp [SyntaxError.ofToken]
  | expected hkind =>
      constructor
      · intro hcause
        contradiction
      · rintro ⟨hdue, t, ht, hint, -⟩
        obtain rfl := Due.operand.inj hdue
        obtain rfl := Option.some.inj ht
        exact absurd hint hkind
  | invalidNumber hkind hnone => simp [SyntaxError.ofToken, hkind, hnone]

theorem at_head : ∀ t ∈ ts.head?, e.literal = t.literal ∧ e.span = t.span := by
  cases h <;> simp [SyntaxError.ofToken]

end Misfit

/-! ## The fault of a list of tokens -/

theorem body_append (h : ∀ t ∈ ts, t.kind ≠ .eof) (us : List Token) :
    body (ts ++ us) = ts ++ body us :=
  List.takeWhile_append_of_pos fun t ht => bne_iff_ne.2 (h t ht)

theorem body_eq_self (h : ∀ t ∈ ts, t.kind ≠ .eof) : body ts = ts :=
  List.takeWhile_eq_self_iff.2 fun t ht => bne_iff_ne.2 (h t ht)

private theorem endMark_of_dropWhile_eq_cons (h : ts.dropWhile (·.kind != .eof) = t :: us) :
    endMark ts = t ∧ t.kind = .eof := by
  have hfind : ts.find? (·.kind == .eof) = some t := by
    rw [← List.head?_cons (a := t) (l := us), ← h]
    exact List.find?_eq_head?_dropWhile_not _ ts
  have hkind := List.find?_some hfind
  exact ⟨by rw [endMark, hfind, Option.getD_some], by simpa using hkind⟩

theorem find?_eof_eq_none (h : ∀ t ∈ ts, t.kind ≠ .eof) : ts.find? (·.kind == .eof) = none := by
  rw [List.find?_eq_none]
  intro t ht
  simpa using h t ht

theorem endMark_of_kind_ne_eof (h : ∀ t ∈ ts, t.kind ≠ .eof) :
    endMark ts = .eof ((ts.getLast?.map (·.span.stop)).getD 0) := by
  rw [endMark, find?_eof_eq_none h, Option.getD_none]

theorem Misfit.of_body (h : Misfit (endMark ts) due rest e) :
    Misfit (endMark ts) due (rest ++ ts.dropWhile (·.kind != .eof)) e := by
  cases rest with
  | cons t rest => exact h.of_cons _ _
  | nil =>
      rw [List.nil_append]
      cases hdrop : ts.dropWhile (·.kind != .eof) with
      | nil => exact h
      | cons t us =>
          obtain ⟨hmark, hkind⟩ := endMark_of_dropWhile_eq_cons hdrop
          cases h with
          | @missing cls =>
              rw [hmark]
              exact .expected (hkind ▸ cls.kind_ne_eof.symm)

def IsProgram (ts : List Token) : Prop := ∃ program, Program.ofTokens ts = .ok program

theorem isProgram_iff : IsProgram ts ↔ ∃ items, Blocks (body ts) items := by
  constructor
  · rintro ⟨program, h⟩
    exact ⟨program.items, Program.ofTokens_eq_ok_iff.1 h⟩
  · rintro ⟨items, h⟩
    exact ⟨⟨items⟩, Program.ofTokens_eq_ok_iff.2 h⟩

theorem Awaits.exists_isProgram (h : Awaits done due) : ∃ more, IsProgram (done ++ more) := by
  obtain ⟨more, items, hblocks⟩ := h.exists_append
  refine ⟨more, isProgram_iff.2 ⟨items, ?_⟩⟩
  rw [body_eq_self hblocks.kind_ne_eof]
  exact hblocks

theorem Awaits.not_isProgram (h : Awaits done due) (hmisfit : Misfit stop due (body us) e) :
    ¬ IsProgram (done ++ us) := by
  rw [isProgram_iff, body_append h.kind_ne_eof]
  rintro ⟨items, hblocks⟩
  have herror := statements_eq_error_iff.2 ⟨done, body us, due, rfl, h, hmisfit⟩
  rw [statements_eq_ok_iff.2 hblocks] at herror
  contradiction

/-- No program goes on with a token that is not what is due. -/
theorem Awaits.not_isProgram_cons (h : Awaits done due) (hmisfit : Misfit stop due (t :: us) e)
    (ht : t.kind ≠ .eof) (more : List Token) : ¬ IsProgram (done ++ t :: more) := by
  have hbody : body (t :: more) = t :: body more :=
    List.takeWhile_cons_of_pos (bne_iff_ne.2 ht)
  have hfirst : Misfit stop due (body (t :: more)) e := by
    rw [hbody]
    exact hmisfit.of_cons stop (body more)
  exact h.not_isProgram hfirst

/-- Token `i` is the first that stands where no program can have it, and the error says so.  If all
tokens are the beginning of a program, then `i` is where they end. -/
structure IsFirstFault (ts : List Token) (i : Nat) (e : SyntaxError) : Prop where
  le_length : i ≤ (ts.takeWhile (·.kind != .eof)).length
  at_token : ∀ t, ts[i]? = some t → e.literal = t.literal ∧ e.span = t.span
  at_end : ts[i]? = none → e.literal = "" ∧
    e.span = ⟨(ts.getLast?.map (·.span.stop)).getD 0, (ts.getLast?.map (·.span.stop)).getD 0⟩
  viable : ∃ more, IsProgram (ts.take i ++ more)
  fatal : i < (ts.takeWhile (·.kind != .eof)).length →
    ∀ more, ¬ IsProgram (ts.take (i + 1) ++ more)
  incomplete : i = (ts.takeWhile (·.kind != .eof)).length → ¬ IsProgram (ts.take i)
  unexpected_iff : e.cause = .unexpected ↔ Awaits (ts.take i) .statement
  expected_iff : ∀ kind, e.cause = .expected kind ↔ ∃ cls : OperandClass, cls.kind = kind ∧
    Awaits (ts.take i) (.operand cls) ∧ ∀ t ∈ ts[i]?, t.kind ≠ kind
  invalidNumber_iff : e.cause = .invalidNumber ↔ Awaits (ts.take i) (.operand .int) ∧
    ∃ t ∈ ts[i]?, t.kind = .int ∧ readInt64? t.literal = none

/-- A list of tokens that is no program has one fault, and it is the first that there is. -/
theorem exists_isFirstFault {ts : List Token} {es : SyntaxErrors}
    (h : Program.ofTokens ts = .error es) : ∃ e i, es.toList = [e] ∧ IsFirstFault ts i e := by
  obtain ⟨e, rfl, herror⟩ := Program.ofTokens_eq_error_iff.1 h
  obtain ⟨done, rest, due, hbody, hawaits, hmisfit⟩ := statements_eq_error_iff.1 herror
  have hus := hmisfit.of_body
  have hts : done ++ (rest ++ ts.dropWhile (·.kind != .eof)) = ts := by
    rw [← List.append_assoc, ← hbody]
    exact List.takeWhile_append_dropWhile
  generalize ts.dropWhile (·.kind != .eof) = after at hus hts
  have htake : ts.take done.length = done := by rw [← hts, List.take_left]
  have hget : ts[done.length]? = (rest ++ after).head? := by
    rw [← hts, List.getElem?_append_right (Nat.le_refl _), Nat.sub_self, List.head?_eq_getElem?]
  have hlength : (ts.takeWhile (·.kind != .eof)).length = done.length + rest.length := by
    rw [← List.length_append, ← hbody]
    rfl
  have hdue : ∀ due', due = due' ↔ Awaits (ts.take done.length) due' := by
    intro due'
    rw [htake]
    exact ⟨fun heq => heq ▸ hawaits, hawaits.unique⟩
  refine ⟨e, done.length, rfl, ?_⟩
  constructor
  case le_length =>
    rw [hlength]
    exact Nat.le_add_right _ _
  case at_token =>
    intro t ht
    rw [hget] at ht
    exact hus.at_head t ht
  case at_end =>
    intro hnone
    rw [hget, List.head?_eq_none_iff] at hnone
    have hdone : ts = done := by rw [← hts, hnone, List.append_nil]
    have hmark := endMark_of_kind_ne_eof (hdone ▸ hawaits.kind_ne_eof)
    rw [hnone, hmark] at hus
    exact hus.at_stop
  case viable =>
    rw [htake]
    exact hawaits.exists_isProgram
  case fatal =>
    intro hlt more
    cases rest with
    | nil => exact absurd hlt (by simp [hlength])
    | cons t rest =>
        have hmem : t ∈ body ts := by simp [hbody]
        have ht : t.kind ≠ .eof := by simpa using List.mem_takeWhile_imp hmem
        have hsucc : ts.take (done.length + 1) ++ more = done ++ t :: more := by
          rw [← hts, List.take_length_add_append]
          simp
        rw [hsucc]
        exact hawaits.not_isProgram_cons hmisfit ht more
  case incomplete =>
    intro heq
    obtain rfl : rest = [] := by
      rw [hlength] at heq
      exact List.length_eq_zero_iff.1 (by omega)
    rw [htake, ← List.append_nil done]
    exact hawaits.not_isProgram hmisfit
  case unexpected_iff => rw [hus.cause_eq_unexpected_iff, hdue]
  case expected_iff =>
    intro kind
    simp only [hus.cause_eq_expected_iff, hget, hdue]
  case invalidNumber_iff => rw [hus.cause_eq_invalidNumber_iff, hget, hdue]

/-- An end marker in place of an operand is at fault like any other token. -/
theorem exists_isFirstFault_end :
    Program.ofTokens [⟨.keyword .park, ⟨0, 4⟩, "park"⟩, ⟨.word, ⟨5, 6⟩, "A"⟩,
        ⟨.eof, ⟨9, 7⟩, "?"⟩, ⟨.word, ⟨8, 9⟩, "White"⟩] =
      .error { first := ⟨.expected .word, "?", ⟨9, 7⟩⟩ } ∧
    ∃ e i, SyntaxErrors.toList { first := ⟨.expected .word, "?", ⟨9, 7⟩⟩ } = [e] ∧
      IsFirstFault [⟨.keyword .park, ⟨0, 4⟩, "park"⟩, ⟨.word, ⟨5, 6⟩, "A"⟩,
        ⟨.eof, ⟨9, 7⟩, "?"⟩, ⟨.word, ⟨8, 9⟩, "White"⟩] i e :=
  have h : Program.ofTokens [⟨.keyword .park, ⟨0, 4⟩, "park"⟩, ⟨.word, ⟨5, 6⟩, "A"⟩,
      ⟨.eof, ⟨9, 7⟩, "?"⟩, ⟨.word, ⟨8, 9⟩, "White"⟩] =
      .error { first := ⟨.expected .word, "?", ⟨9, 7⟩⟩ } := by decide +kernel
  ⟨h, exists_isFirstFault h⟩

end ParkingLot
