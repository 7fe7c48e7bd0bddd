import Mathlib.Data.List.Forall2
import ParkingLot.Proofs.Language.Grammar
/-!
# The table of keywords as a grammar

The reader goes by a case for each keyword, the table of keywords lists the operands of each.  The
two agree: a list of tokens is a program exactly when its tokens up to the first end marker fall
into phrases, that is keywords with the operands from the table, and they do so in one way only
(`ofTokens_iff_phrases`).
-/

namespace ParkingLot

open Text Parse

def OperandClass.kind : OperandClass → TokenKind
  | int => .int
  | word => .word

inductive Operand where
  | int (n : Int64)
  | word (text : String)
deriving DecidableEq, Repr

/-- The token is a way to write the operand: a word is its literal as it stands, a number the value
of the literal. -/
def Operand.IsWritten : Operand → Token → Prop
  | int n, t => t.kind = .int ∧ readInt64? t.literal = some n
  | word text, t => t.kind = .word ∧ text = t.literal

def Statement.operands : Statement → List Operand
  | createParkingLot capacity => [.int capacity]
  | park registration colour => [.word registration, .word colour]
  | leave slot => [.int slot]
  | status => []
  | registrationNumbersWithColour colour => [.word colour]
  | slotNumbersWithColour colour => [.word colour]
  | slotNumberWithRegistration registration => [.word registration]

/-- A token that is to be a keyword, and the tokens that are to be its operands. -/
structure Phrase where
  keyword : Keyword
  head : Token
  args : List Token

namespace Phrase

def tokens (p : Phrase) : List Token := p.head :: p.args

theorem tokens_ne_nil (p : Phrase) : p.tokens ≠ [] := List.cons_ne_nil _ _

/-- The operands are those that the table has for the keyword, and numbers fit into 64 bits. -/
structure IsWellFormed (p : Phrase) : Prop where
  kind_head : p.head.kind = .keyword p.keyword
  kind_args : p.args.map Token.kind = p.keyword.operands.map OperandClass.kind
  readable : ∀ t ∈ p.args, t.kind = .int → ∃ n, readInt64? t.literal = some n

/-- The statement is what the phrase means, and it stands where the phrase does. -/
structure Means (p : Phrase) (item : Located) : Prop where
  keyword_eq : item.statement.keyword = p.keyword
  operands : List.Forall₂ Operand.IsWritten item.statement.operands p.args
  start_eq : item.span.start = p.head.span.start
  stop_eq : item.span.stop = (p.tokens.getLast p.tokens_ne_nil).span.stop

end Phrase

/-- The tokens up to the first end marker, or all if there is none, are these phrases in a row. -/
structure FallsInto (ts : List Token) (phrases : List Phrase) : Prop where
  wellFormed : ∀ p ∈ phrases, p.IsWellFormed
  tokens_eq : ts.takeWhile (·.kind != .eof) = phrases.flatMap Phrase.tokens

/-! ## Blocks are phrases -/

variable {head t : Token} {args : List Token} {s : Statement} {p : Phrase} {phrases : List Phrase}

private theorem Operand.isWritten_int (hkind : t.kind = .int) {n : Int64}
    (hn : readInt64? t.literal = some n) : (Operand.int n).IsWritten t := ⟨hkind, hn⟩

private theorem Operand.isWritten_word (hkind : t.kind = .word) : (Operand.word t.literal).IsWritten t :=
  ⟨hkind, rfl⟩

theorem Operand.leftUnique_isWritten : Relator.LeftUnique Operand.IsWritten := by
  intro o o' t h h'
  cases o with
  | int n =>
      cases o' with
      | int n' => exact congrArg int (Option.some.inj (h.2.symm.trans h'.2))
      | word text => exact absurd (h.1.symm.trans h'.1) (by decide)
  | word text =>
      cases o' with
      | int n => exact absurd (h.1.symm.trans h'.1) (by decide)
      | word text' => exact congrArg word (h.2.trans h'.2.symm)

theorem Statement.eq_of_operands {s s' : Statement} (hkeyword : s.keyword = s'.keyword)
    (hoperands : s.operands = s'.operands) : s = s' := by
  cases s <;> cases s' <;> simp_all [keyword, operands]

/-- A block is a keyword with written operands. -/
theorem block_iff :
    Block head args s ↔
      head.kind = .keyword s.keyword ∧ List.Forall₂ Operand.IsWritten s.operands args := by
  constructor
  · intro h
    refine ⟨h.kind_head, ?_⟩
    cases h with
    | createParkingLot _ hkind hn | leave _ hkind hn =>
        exact .cons (Operand.isWritten_int hkind hn) .nil
    | park _ hr hc =>
        exact .cons (Operand.isWritten_word hr) (.cons (Operand.isWritten_word hc) .nil)
    | status => exact .nil
    | registrationNumbersWithColour _ hkind | slotNumbersWithColour _ hkind
    | slotNumberWithRegistration _ hkind => exact .cons (Operand.isWritten_word hkind) .nil
  · rintro ⟨hk, hargs⟩
    cases s with
    | createParkingLot n =>
        rcases hargs with _ | ⟨⟨hkind, hn⟩, _ | _⟩
        exact .createParkingLot hk hkind hn
    | park registration colour =>
        rcases hargs with _ | ⟨⟨hr, rfl⟩, _ | ⟨⟨hc, rfl⟩, _ | _⟩⟩
        exact .park hk hr hc
    | leave n =>
        rcases hargs with _ | ⟨⟨hkind, hn⟩, _ | _⟩
        exact .leave hk hkind hn
    | status =>
        rcases hargs with _ | _
        exact .status hk
    | registrationNumbersWithColour colour =>
        rcases hargs with _ | ⟨⟨hkind, rfl⟩, _ | _⟩
        exact .registrationNumbersWithColour hk hkind
    | slotNumbersWithColour colour =>
        rcases hargs with _ | ⟨⟨hkind, rfl⟩, _ | _⟩
        exact .slotNumbersWithColour hk hkind
    | slotNumberWithRegistration registration =>
        rcases hargs with _ | ⟨⟨hkind, rfl⟩, _ | _⟩
        exact .slotNumberWithRegistration hk hkind

theorem exists_statement {k : Keyword}
    (hkinds : args.map Token.kind = k.operands.map OperandClass.kind)
    (hread : ∀ t ∈ args, t.kind = .int → ∃ n, readInt64? t.literal = some n) :
    ∃ s : Statement, s.keyword = k ∧ List.Forall₂ Operand.IsWritten s.operands args := by
  have hint : args.map Token.kind = [.int] →
      ∃ n, List.Forall₂ Operand.IsWritten [.int n] args := by
    intro h
    obtain ⟨t, rfl, hkind⟩ := List.map_eq_singleton_iff.1 h
    obtain ⟨n, hn⟩ := hread t List.mem_cons_self hkind
    exact ⟨n, .cons (Operand.isWritten_int hkind hn) .nil⟩
  have hword : args.map Token.kind = [.word] →
      ∃ w, List.Forall₂ Operand.IsWritten [.word w] args := by
    intro h
    obtain ⟨t, rfl, hkind⟩ := List.map_eq_singleton_iff.1 h
    exact ⟨_, .cons (Operand.isWritten_word hkind) .nil⟩
  cases k with
  | createParkingLot =>
      obtain ⟨n, hn⟩ := hint hkinds
      exact ⟨.createParkingLot n, rfl, hn⟩
  | park =>
      obtain ⟨r, rest, rfl, hr, hrest⟩ := List.map_eq_cons_iff.1 hkinds
      obtain ⟨c, rfl, hc⟩ := List.map_eq_singleton_iff.1 hrest
      exact ⟨.park r.literal c.literal, rfl,
        .cons (Operand.isWritten_word hr) (.cons (Operand.isWritten_word hc) .nil)⟩
  | leave =>
      obtain ⟨n, hn⟩ := hint hkinds
      exact ⟨.leave n, rfl, hn⟩
  | status =>
      obtain rfl := List.map_eq_nil_iff.1 hkinds
      exact ⟨.status, rfl, .nil⟩
  | registrationNumbersWithColour =>
      obtain ⟨w, hw⟩ := hword hkinds
      exact ⟨.registrationNumbersWithColour w, rfl, hw⟩
  | slotNumbersWithColour =>
      obtain ⟨w, hw⟩ := hword hkinds
      exact ⟨.slotNumbersWithColour w, rfl, hw⟩
  | slotNumberWithRegistration =>
      obtain ⟨w, hw⟩ := hword hkinds
      exact ⟨.slotNumberWithRegistration w, rfl, hw⟩

namespace Phrase

theorem getLast_tokens (p : Phrase) :
    p.tokens.getLast p.tokens_ne_nil = lastToken p.head p.args := by
  apply Option.some.inj
  rw [← List.getLast?_eq_some_getLast p.tokens_ne_nil]
  exact List.getLast?_cons

theorem rightUnique_means : Relator.RightUnique Means := by
  intro p item item' h h'
  have hoperands : item.statement.operands = item'.statement.operands :=
    Operand.leftUnique_isWritten.forall₂ h.operands h'.operands
  have hstatement : item.statement = item'.statement :=
    Statement.eq_of_operands (h.keyword_eq.trans h'.keyword_eq.symm) hoperands
  have hstart : item.span.start = item'.span.start := h.start_eq.trans h'.start_eq.symm
  have hstop : item.span.stop = item'.span.stop := h.stop_eq.trans h'.stop_eq.symm
  obtain ⟨s, start, stop⟩ := item
  obtain ⟨s', start', stop'⟩ := item'
  dsimp only at hstatement hstart hstop
  rw [hstatement, hstart, hstop]

theorem means_of_block (h : Block p.head p.args s) (hkeyword : s.keyword = p.keyword) :
    p.Means ⟨s, p.head.span.enclose (lastToken p.head p.args).span⟩ where
  keyword_eq := hkeyword
  operands := (block_iff.1 h).2
  start_eq := rfl
  stop_eq := by rw [getLast_tokens]; rfl

theorem IsWellFormed.exists_meaning (h : p.IsWellFormed) :
    ∃ s, Block p.head p.args s ∧
      p.Means ⟨s, p.head.span.enclose (lastToken p.head p.args).span⟩ := by
  obtain ⟨s, hkeyword, hoperands⟩ := exists_statement h.kind_args h.readable
  have hblock : Block p.head p.args s := block_iff.2 ⟨hkeyword ▸ h.kind_head, hoperands⟩
  exact ⟨s, hblock, means_of_block hblock hkeyword⟩

theorem isWellFormed_of_block (h : Block head args s) :
    IsWellFormed ⟨s.keyword, head, args⟩ := by
  refine ⟨h.kind_head, ?_, ?_⟩
  · cases h with
    | createParkingLot _ hkind _ | leave _ hkind _ | registrationNumbersWithColour _ hkind
    | slotNumbersWithColour _ hkind | slotNumberWithRegistration _ hkind =>
        exact congrArg (· :: []) hkind
    | park _ hr hc => exact congrArg₂ (· :: [·]) hr hc
    | status => rfl
  · cases h with
    | createParkingLot _ _ hn | leave _ _ hn =>
        rw [List.forall_mem_singleton]
        exact fun _ => ⟨_, hn⟩
    | park _ hr hc => simp [hr, hc]
    | status => simp
    | registrationNumbersWithColour _ hkind | slotNumbersWithColour _ hkind
    | slotNumberWithRegistration _ hkind => simp [hkind]

end Phrase

/-! ## Rows of phrases -/

theorem exists_blocks (h : ∀ p ∈ phrases, p.IsWellFormed) :
    ∃ items, Blocks (phrases.flatMap Phrase.tokens) items ∧
      List.Forall₂ Phrase.Means phrases items := by
  induction phrases with
  | nil => exact ⟨[], .nil, .nil⟩
  | cons p phrases ih =>
      rw [List.forall_mem_cons] at h
      obtain ⟨s, hblock, hmeans⟩ := h.1.exists_meaning
      obtain ⟨items, hblocks, hall⟩ := ih h.2
      exact ⟨_, .cons hblock hblocks, .cons hmeans hall⟩

theorem exists_phrases {ts : List Token} {items : List Located} (h : Blocks ts items) :
    ∃ phrases : List Phrase, (∀ p ∈ phrases, p.IsWellFormed) ∧
      ts = phrases.flatMap Phrase.tokens := by
  induction h with
  | nil => exact ⟨[], by simp, rfl⟩
  | @cons head args ts s items hblock _ ih =>
      obtain ⟨phrases, hwell, rfl⟩ := ih
      refine ⟨⟨s.keyword, head, args⟩ :: phrases, ?_, rfl⟩
      rw [List.forall_mem_cons]
      exact ⟨Phrase.isWellFormed_of_block hblock, hwell⟩

/-- The keyword says how many operands follow, so tokens fall into phrases in one way only. -/
theorem phrases_unique {others : List Phrase} (h : ∀ p ∈ phrases, p.IsWellFormed)
    (h' : ∀ p ∈ others, p.IsWellFormed)
    (heq : phrases.flatMap Phrase.tokens = others.flatMap Phrase.tokens) : phrases = others := by
  induction phrases generalizing others with
  | nil =>
      cases others with
      | nil => rfl
      | cons q others => contradiction
  | cons p phrases ih =>
      cases others with
      | nil => contradiction
      | cons q others =>
          rw [List.forall_mem_cons] at h h'
          obtain ⟨hhead, htail⟩ := List.cons.inj heq
          -- the same head is the same keyword, and that has as many operands on both sides
          have hkeyword : p.keyword = q.keyword := by
            apply TokenKind.keyword.inj
            rw [← h.1.kind_head, ← h'.1.kind_head, hhead]
          have hlength : p.args.length = q.args.length := by
            have hp := congrArg List.length h.1.kind_args
            have hq := congrArg List.length h'.1.kind_args
            rw [List.length_map, List.length_map] at hp hq
            rw [hp, hq, hkeyword]
          obtain ⟨hargs, hrest⟩ := List.append_inj htail hlength
          obtain ⟨keyword, head, args⟩ := p
          obtain ⟨keyword', head', args'⟩ := q
          dsimp only at hhead hkeyword hargs
          subst hhead hkeyword hargs
          rw [ih h.2 h'.2 hrest]

/-- A list of tokens is a program if and only if its tokens up to the first end marker fall into
phrases.  They do so in one way, and the statements of the program are what the phrases mean, one
after the other. -/
theorem ofTokens_iff_phrases (ts : List Token) :
    ((∃ program, Program.ofTokens ts = .ok program) ↔ ∃ phrases, FallsInto ts phrases) ∧
      (∀ program, Program.ofTokens ts = .ok program ↔
        ∃ phrases, FallsInto ts phrases ∧ List.Forall₂ Phrase.Means phrases program.items) ∧
      ∀ phrases others, FallsInto ts phrases → FallsInto ts others → phrases = others := by
  have hread : ∀ phrases, FallsInto ts phrases → ∃ program, Program.ofTokens ts = .ok program ∧
      List.Forall₂ Phrase.Means phrases program.items := by
    intro phrases h
    obtain ⟨items, hblocks, hmeans⟩ := exists_blocks h.wellFormed
    refine ⟨⟨items⟩, Program.ofTokens_eq_ok_iff.2 ?_, hmeans⟩
    rw [body, h.tokens_eq]
    exact hblocks
  have hsplit : ∀ program, Program.ofTokens ts = .ok program → ∃ phrases, FallsInto ts phrases := by
    intro program h
    obtain ⟨phrases, hwell, htokens⟩ := exists_phrases (Program.ofTokens_eq_ok_iff.1 h)
    exact ⟨phrases, hwell, htokens⟩
  refine ⟨⟨?_, ?_⟩, fun program => ⟨?_, ?_⟩, ?_⟩
  · rintro ⟨program, h⟩
    exact hsplit program h
  · rintro ⟨phrases, h⟩
    obtain ⟨program, hprogram, -⟩ := hread phrases h
    exact ⟨program, hprogram⟩
  · intro h
    obtain ⟨phrases, hphrases⟩ := hsplit program h
    obtain ⟨program', hprogram', hmeans⟩ := hread phrases hphrases
    rw [h] at hprogram'
    cases hprogram'
    exact ⟨phrases, hphrases, hmeans⟩
  · rintro ⟨phrases, hphrases, hmeans⟩
    obtain ⟨⟨items⟩, hprogram', hmeans'⟩ := hread phrases hphrases
    have hitems : items = program.items := Phrase.rightUnique_means.forall₂ hmeans' hmeans
    rw [hprogram', hitems]
  · intro phrases others h h'
    exact phrases_unique h.wellFormed h'.wellFormed (h.tokens_eq.symm.trans h'.tokens_eq)

end ParkingLot
