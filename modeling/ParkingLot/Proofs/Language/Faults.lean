import ParkingLot.Proofs.Language.Phrases
/-!
# Why tokens are no program

What is due at a place in a list of tokens is settled by the tokens before it (`Awaits`), and a
token is at fault when it is not that (`Misfit`).  The reader goes by these two and by nothing
else: it fails exactly at a token that is not what the tokens before it await
(`statements_eq_error_iff`).
-/

namespace ParkingLot

open Text Parse

/-- The token may stand for an operand of the class. -/
def OperandClass.Accepts : OperandClass → Token → Prop
  | int, t => t.kind = .int ∧ ∃ n, readInt64? t.literal = some n
  | word, t => t.kind = .word

inductive Due where
  | statement
  | operand (cls : OperandClass)
deriving DecidableEq, Repr

/-- The tokens are phrases and perhaps the beginning of one more, and `due` is what goes on with
them. -/
inductive Awaits : List Token → Due → Prop
  | statement {phrases : List Phrase} : (∀ p ∈ phrases, p.IsWellFormed) →
      Awaits (phrases.flatMap Phrase.tokens) .statement
  | operand {phrases : List Phrase} {p : Phrase} {given later : List OperandClass}
      {cls : OperandClass} : (∀ p ∈ phrases, p.IsWellFormed) →
      p.head.kind = .keyword p.keyword → p.keyword.operands = given ++ cls :: later →
      List.Forall₂ OperandClass.Accepts given p.args →
      Awaits (phrases.flatMap Phrase.tokens ++ p.tokens) (.operand cls)

/-- The first of the tokens is not what is due, and the error says so.  If there is none, `stop` is
in its place. -/
inductive Misfit (stop : Token) : Due → List Token → SyntaxError → Prop
  | unexpected {t : Token} {ts : List Token} : (∀ k, t.kind ≠ .keyword k) →
      Misfit stop .statement (t :: ts) (.ofToken t .unexpected)
  | missing {cls : OperandClass} :
      Misfit stop (.operand cls) [] (.ofToken stop (.expected cls.kind))
  | expected {cls : OperandClass} {t : Token} {ts : List Token} : t.kind ≠ cls.kind →
      Misfit stop (.operand cls) (t :: ts) (.ofToken t (.expected cls.kind))
  | invalidNumber {t : Token} {ts : List Token} : t.kind = .int → readInt64? t.literal = none →
      Misfit stop (.operand .int) (t :: ts) (.ofToken t .invalidNumber)

variable {stop head t : Token} {k : Keyword} {ts us done rest args : List Token}
  {items : List Located} {e : SyntaxError} {due : Due} {cls : OperandClass}
  {classes : List OperandClass}

/-- What stands behind a misfit does not matter, nor how the tokens end. -/
theorem Misfit.of_cons (h : Misfit stop due (t :: ts) e) (stop' : Token) (us : List Token) :
    Misfit stop' due (t :: us) e := by
  cases h with
  | unexpected hkeyword => exact .unexpected hkeyword
  | expected hkind => exact .expected hkind
  | invalidNumber hkind hnone => exact .invalidNumber hkind hnone

theorem Misfit.at_stop (h : Misfit stop due [] e) :
    e.literal = stop.literal ∧ e.span = stop.span := by
  cases h with
  | missing => exact ⟨rfl, rfl⟩

namespace Parse

/-! ## Where operands are missing -/

private theorem bind_eq_error_iff {ε α β : Type} {x : Except ε α} {f : α → Except ε β} {e : ε} :
    x.bind f = .error e ↔ x = .error e ∨ ∃ a, x = .ok a ∧ f a = .error e := by
  cases x <;> simp [Except.bind]

theorem map_eq_error_iff {ε α β : Type} {x : Except ε α} {f : α → β} {e : ε} :
    x.map f = .error e ↔ x = .error e := by
  cases x <;> simp [Except.map]

theorem expect_eq_error_iff : expect stop cls.kind ts = .error e ↔
    (ts = [] ∧ e = .ofToken stop (.expected cls.kind)) ∨
      ∃ t us, ts = t :: us ∧ t.kind ≠ cls.kind ∧ e = .ofToken t (.expected cls.kind) := by
  cases ts with
  | nil => simp [expect, eq_comm]
  | cons t us =>
      unfold expect
      split <;> simp <;> grind

theorem word_eq_error_iff : word stop ts = .error e ↔ Misfit stop (.operand .word) ts e := by
  change expect stop OperandClass.word.kind ts = _ ↔ _
  rw [expect_eq_error_iff]
  constructor
  · rintro (⟨rfl, rfl⟩ | ⟨t, us, rfl, hkind, rfl⟩)
    · exact .missing
    · exact .expected hkind
  · intro h
    cases h with
    | missing => exact .inl ⟨rfl, rfl⟩
    | expected hkind => exact .inr ⟨_, _, rfl, hkind, rfl⟩

theorem int_eq_error_iff : int stop ts = .error e ↔ Misfit stop (.operand .int) ts e := by
  unfold int
  change Except.bind (expect stop OperandClass.int.kind ts) _ = _ ↔ _
  rw [bind_eq_error_iff, expect_eq_error_iff]
  constructor
  · rintro ((⟨rfl, rfl⟩ | ⟨t, us, rfl, hkind, rfl⟩) | ⟨⟨t, us⟩, hexpect, hread⟩)
    · exact .missing
    · exact .expected hkind
    · obtain ⟨rfl, hkind⟩ := expect_eq_ok_iff.1 hexpect
      dsimp only at hread
      split at hread
      · contradiction
      · next hnone =>
        cases hread
        exact .invalidNumber hkind hnone
  · intro h
    cases h with
    | missing => exact .inl (.inl ⟨rfl, rfl⟩)
    | expected hkind => exact .inl (.inr ⟨_, _, rfl, hkind, rfl⟩)
    | invalidNumber hkind hnone =>
        exact .inr ⟨_, expect_eq_ok_iff.2 ⟨rfl, hkind⟩, by simp [hnone]⟩

/-- Operands of these classes are due, and the tokens do not give them all. -/
inductive Stuck (stop : Token) : List OperandClass → List Token → SyntaxError → Prop
  | here {cls : OperandClass} {classes : List OperandClass} {ts : List Token} {e : SyntaxError} :
      Misfit stop (.operand cls) ts e → Stuck stop (cls :: classes) ts e
  | later {cls : OperandClass} {classes : List OperandClass} {t : Token} {ts : List Token}
      {e : SyntaxError} : cls.Accepts t → Stuck stop classes ts e →
      Stuck stop (cls :: classes) (t :: ts) e

private theorem not_stuck_nil : ¬ Stuck stop [] ts e := nofun

private theorem stuck_cons_iff : Stuck stop (cls :: classes) ts e ↔
    Misfit stop (.operand cls) ts e ∨
      ∃ t us, ts = t :: us ∧ cls.Accepts t ∧ Stuck stop classes us e := by
  constructor
  · intro h
    cases h with
    | here hmisfit => exact .inl hmisfit
    | later haccepts hstuck => exact .inr ⟨_, _, rfl, haccepts, hstuck⟩
  · rintro (hmisfit | ⟨t, us, rfl, haccepts, hstuck⟩)
    · exact .here hmisfit
    · exact .later haccepts hstuck

private theorem stuck_singleton_iff : Stuck stop [cls] ts e ↔ Misfit stop (.operand cls) ts e := by
  rw [stuck_cons_iff]
  constructor
  · rintro (hmisfit | ⟨_, _, _, _, hstuck⟩)
    · exact hmisfit
    · exact absurd hstuck not_stuck_nil
  · exact .inl

theorem stuck_iff : Stuck stop classes ts e ↔ ∃ given cls later args rest,
    classes = given ++ cls :: later ∧ ts = args ++ rest ∧
      List.Forall₂ OperandClass.Accepts given args ∧ Misfit stop (.operand cls) rest e := by
  constructor
  · intro h
    induction h with
    | @here cls classes ts e hmisfit => exact ⟨[], cls, classes, [], ts, rfl, rfl, .nil, hmisfit⟩
    | @later first _ t _ _ haccepts _ ih =>
        obtain ⟨given, cls, later, args, rest, rfl, rfl, hargs, hmisfit⟩ := ih
        exact ⟨first :: given, cls, later, t :: args, rest, rfl, rfl, .cons haccepts hargs, hmisfit⟩
  · rintro ⟨given, cls, later, args, rest, rfl, rfl, hargs, hmisfit⟩
    induction hargs with
    | nil => exact .here hmisfit
    | cons haccepts _ ih => exact .later haccepts ih

/-- Reading the operands of a keyword fails exactly where those from the table are not given. -/
theorem operands_eq_error_iff :
    operands stop head k ts = .error e ↔ Stuck stop k.operands ts e := by
  -- with a single operand nothing can fail but reading it
  have hsingle : ∀ {α β : Type} {x : Except SyntaxError α} {f : α → β},
      (x.bind fun a => .ok (f a)) = .error e ↔ x = .error e := by
    intro α β x f
    cases x <;> simp [Except.bind]
  cases k with
  | createParkingLot | leave =>
      exact hsingle.trans (int_eq_error_iff.trans stuck_singleton_iff.symm)
  | status =>
      constructor
      · intro h
        contradiction
      · exact fun h => absurd h not_stuck_nil
  | registrationNumbersWithColour | slotNumbersWithColour | slotNumberWithRegistration =>
      exact hsingle.trans (word_eq_error_iff.trans stuck_singleton_iff.symm)
  | park =>
      have hoperands : Keyword.park.operands = [.word, .word] := rfl
      unfold operands
      change Except.bind _ _ = _ ↔ _
      rw [bind_eq_error_iff, word_eq_error_iff, hoperands, stuck_cons_iff]
      apply or_congr Iff.rfl
      constructor
      · rintro ⟨⟨r, us⟩, hr, hrest⟩
        obtain ⟨rfl, hkind⟩ := expect_eq_ok_iff.1 hr
        exact ⟨r, us, rfl, hkind, stuck_singleton_iff.2 (word_eq_error_iff.1 (hsingle.1 hrest))⟩
      · rintro ⟨r, us, rfl, hkind, hstuck⟩
        exact ⟨(r, us), expect_eq_ok_iff.2 ⟨rfl, hkind⟩,
          hsingle.2 (word_eq_error_iff.2 (stuck_singleton_iff.1 hstuck))⟩

/-! ## Where reading stops -/

theorem statements_append (h : Blocks ts items) (us : List Token) :
    statements stop (ts ++ us) = (statements stop us).map (items ++ ·) := by
  induction h with
  | nil =>
      rw [List.nil_append]
      cases statements stop us <;> rfl
  | @cons head args ts s items hblock _ ih =>
      have hok : operands stop head s.keyword (args ++ (ts ++ us)) =
          .ok ((s, lastToken head args), ts ++ us) :=
        (operands_eq_ok_iff hblock.kind_head).2 ⟨args, rfl, hblock, rfl⟩
      rw [List.cons_append, List.append_assoc, statements_cons hblock.kind_head hok, ih]
      cases statements stop us <;> rfl

theorem statements_of_stuck (hk : head.kind = .keyword k) (h : Stuck stop k.operands ts e) :
    statements stop (head :: ts) = .error e := by
  have herror : operands stop head k ts = .error e := operands_eq_error_iff.2 h
  rw [statements]
  simp only [hk]
  split
  · next e' he =>
    rw [herror] at he
    cases he
    rfl
  · next hok =>
    rw [herror] at hok
    contradiction

theorem statements_of_not_keyword (h : ∀ k, head.kind ≠ .keyword k) :
    statements stop (head :: ts) = .error (.ofToken head .unexpected) := by
  rw [statements]
  split
  · next k hk => exact absurd hk (h k)
  · rfl

end Parse

theorem Awaits.of_blocks (hblocks : Blocks ts items) (h : Awaits us due) :
    Awaits (ts ++ us) due := by
  obtain ⟨phrases, hwell, rfl⟩ := exists_phrases hblocks
  cases h with
  | statement hmore =>
      rw [← List.flatMap_append]
      exact .statement (List.forall_mem_append.2 ⟨hwell, hmore⟩)
  | operand hmore hhead hoperands hargs =>
      rw [← List.append_assoc, ← List.flatMap_append]
      exact .operand (List.forall_mem_append.2 ⟨hwell, hmore⟩) hhead hoperands hargs

/-- Reading fails exactly at a token that is not what the tokens before it await. -/
theorem Parse.statements_eq_error_iff : statements stop ts = .error e ↔
    ∃ done rest due, ts = done ++ rest ∧ Awaits done due ∧ Misfit stop due rest e := by
  constructor
  · intro h
    fun_induction statements stop ts with
    | case1 => contradiction
    | case2 head ts k hk e' he =>
        cases h
        obtain ⟨given, cls, later, args, rest, hoperands, rfl, hargs, hmisfit⟩ :=
          stuck_iff.1 (operands_eq_error_iff.1 he)
        have hawaits := @Awaits.operand [] ⟨k, head, args⟩ given later cls (by simp) hk hoperands
          hargs
        exact ⟨head :: args, rest, .operand cls, rfl, hawaits, hmisfit⟩
    | case3 head ts k hk s last rest hok ih =>
        obtain ⟨done, rest, due, rfl, hawaits, hmisfit⟩ := ih (map_eq_error_iff.1 h)
        obtain ⟨args, rfl, hblock, -⟩ := (operands_eq_ok_iff hk).1 hok
        have hblocks := Blocks.cons hblock .nil
        rw [List.append_nil] at hblocks
        exact ⟨(head :: args) ++ done, rest, due, by simp, hawaits.of_blocks hblocks, hmisfit⟩
    | case4 head ts hk =>
        cases h
        have hawaits := @Awaits.statement [] (by simp)
        exact ⟨[], head :: ts, .statement, rfl, hawaits, .unexpected hk⟩
  · rintro ⟨done, rest, due, rfl, hawaits, hmisfit⟩
    cases hawaits with
    | statement hwell =>
        obtain ⟨items, hblocks, -⟩ := exists_blocks hwell
        rw [statements_append hblocks, map_eq_error_iff]
        cases hmisfit with
        | unexpected hkeyword => exact statements_of_not_keyword hkeyword
    | operand hwell hhead hoperands hargs =>
        obtain ⟨items, hblocks, -⟩ := exists_blocks hwell
        rw [List.append_assoc, statements_append hblocks, map_eq_error_iff]
        exact statements_of_stuck hhead
          (stuck_iff.2 ⟨_, _, _, _, _, hoperands, rfl, hargs, hmisfit⟩)

theorem Program.ofTokens_eq_error_iff {es : SyntaxErrors} : ofTokens ts = .error es ↔
    ∃ e, es = { first := e } ∧ Parse.statements (endMark ts) (body ts) = .error e := by
  unfold ofTokens
  cases Parse.statements (endMark ts) (body ts) <;> simp [eq_comm]

end ParkingLot
