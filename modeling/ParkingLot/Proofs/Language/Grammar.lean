import ParkingLot.Language.Parse
import ParkingLot.Proofs.Language.Scanning
/-!
# The grammar of programs

Which lists of tokens are programs, said without a reader: a program is a row of blocks, and a
block is a keyword with the operands that belong to it.  `statements_eq_ok_iff` ties the reader to
this grammar, and everything about programs that are read without a fault follows from it: rows of
blocks can be put side by side (`Blocks.append`) and moved (`Blocks.shift`).
-/

namespace ParkingLot

open Text

namespace Parse

/-- A keyword token and the tokens after it make up a statement. -/
inductive Block (head : Token) : List Token → Statement → Prop
  | createParkingLot {t : Token} {n : Int64} :
      head.kind = .keyword .createParkingLot → t.kind = .int → readInt64? t.literal = some n →
      Block head [t] (.createParkingLot n)
  | park {r c : Token} :
      head.kind = .keyword .park → r.kind = .word → c.kind = .word →
      Block head [r, c] (.park r.literal c.literal)
  | leave {t : Token} {n : Int64} :
      head.kind = .keyword .leave → t.kind = .int → readInt64? t.literal = some n →
      Block head [t] (.leave n)
  | status : head.kind = .keyword .status → Block head [] .status
  | registrationNumbersWithColour {c : Token} :
      head.kind = .keyword .registrationNumbersWithColour → c.kind = .word →
      Block head [c] (.registrationNumbersWithColour c.literal)
  | slotNumbersWithColour {c : Token} :
      head.kind = .keyword .slotNumbersWithColour → c.kind = .word →
      Block head [c] (.slotNumbersWithColour c.literal)
  | slotNumberWithRegistration {r : Token} :
      head.kind = .keyword .slotNumberWithRegistration → r.kind = .word →
      Block head [r] (.slotNumberWithRegistration r.literal)

theorem Block.kind_head {head : Token} {args : List Token} {s : Statement}
    (h : Block head args s) : head.kind = .keyword s.keyword := by
  cases h <;> assumption

def lastToken (head : Token) (args : List Token) : Token := args.getLast?.getD head

theorem lastToken_cons (head arg : Token) (args : List Token) :
    lastToken head (arg :: args) = lastToken arg args := by
  unfold lastToken
  rw [List.getLast?_cons, Option.getD_some]

/-- The tokens are a row of blocks, with these statements at these places. -/
inductive Blocks : List Token → List Located → Prop
  | nil : Blocks [] []
  | cons {head : Token} {args ts : List Token} {s : Statement} {items : List Located} :
      Block head args s → Blocks ts items →
      Blocks (head :: (args ++ ts)) (⟨s, head.span.enclose (lastToken head args).span⟩ :: items)

theorem Blocks.eq_nil {items : List Located} (h : Blocks [] items) : items = [] := by
  generalize hts : [] = ts at h
  cases h with
  | nil => rfl
  | cons => contradiction

theorem Blocks.kind_head {head : Token} {ts : List Token} {items : List Located}
    (h : Blocks (head :: ts) items) : ∃ k, head.kind = .keyword k := by
  generalize hts : head :: ts = us at h
  cases h with
  | nil => contradiction
  | cons hblock _ =>
      obtain ⟨rfl, -⟩ := List.cons.inj hts
      exact ⟨_, hblock.kind_head⟩

/-! ## The reader follows the grammar -/

variable {stop head last t : Token} {kind : TokenKind} {k : Keyword} {s : Statement} {n : Int64}
  {args ts rest : List Token} {items : List Located}

private theorem bind_eq_ok_iff {ε α β : Type} {x : Except ε α} {f : α → Except ε β} {b : β} :
    x.bind f = .ok b ↔ ∃ a, x = .ok a ∧ f a = .ok b := by
  cases x <;> simp [Except.bind]

private theorem map_eq_ok_iff {ε α β : Type} {x : Except ε α} {f : α → β} {b : β} :
    x.map f = .ok b ↔ ∃ a, x = .ok a ∧ f a = b := by
  cases x <;> simp [Except.map]

theorem expect_eq_ok_iff :
    expect stop kind ts = .ok (t, rest) ↔ ts = t :: rest ∧ t.kind = kind := by
  cases ts with
  | nil => simp [expect]
  | cons a as =>
      unfold expect
      split <;> simp <;> grind

theorem expect_cons (h : t.kind = kind) : expect stop kind (t :: rest) = .ok (t, rest) :=
  expect_eq_ok_iff.2 ⟨rfl, h⟩

theorem int_eq_ok_iff :
    int stop ts = .ok ((n, t), rest) ↔
      ts = t :: rest ∧ t.kind = .int ∧ readInt64? t.literal = some n := by
  unfold int
  change Except.bind _ _ = _ ↔ _
  rw [bind_eq_ok_iff]
  constructor
  · rintro ⟨⟨t', ts'⟩, hexpect, hread⟩
    obtain ⟨hts, hkind⟩ := expect_eq_ok_iff.1 hexpect
    dsimp only at hread
    split at hread
    · next hn =>
      cases hread
      exact ⟨hts, hkind, hn⟩
    · contradiction
  · rintro ⟨hts, hkind, hn⟩
    exact ⟨(t, rest), expect_eq_ok_iff.2 ⟨hts, hkind⟩, by simp [hn]⟩

theorem int_cons (h : t.kind = .int) (hn : readInt64? t.literal = some n) :
    int stop (t :: rest) = .ok ((n, t), rest) :=
  int_eq_ok_iff.2 ⟨rfl, h, hn⟩

/-- The operands of a keyword are read exactly when they make up a block with it. -/
theorem operands_eq_ok_iff (hk : head.kind = .keyword k) :
    operands stop head k ts = .ok ((s, last), rest) ↔
      ∃ args, ts = args ++ rest ∧ Block head args s ∧ last = lastToken head args := by
  constructor
  · intro h
    cases k <;> unfold operands at h
    case createParkingLot =>
      obtain ⟨⟨⟨n, t⟩, ts'⟩, hint, heq⟩ := bind_eq_ok_iff.1 h
      obtain ⟨rfl, hkind, hn⟩ := int_eq_ok_iff.1 hint
      cases heq
      exact ⟨_, rfl, .createParkingLot hk hkind hn, rfl⟩
    case park =>
      obtain ⟨⟨r, ts'⟩, hr, h⟩ := bind_eq_ok_iff.1 h
      obtain ⟨⟨c, ts''⟩, hc, heq⟩ := bind_eq_ok_iff.1 h
      obtain ⟨rfl, hrkind⟩ := expect_eq_ok_iff.1 hr
      obtain ⟨hts, hckind⟩ := expect_eq_ok_iff.1 hc
      cases heq
      exact ⟨_, congrArg (r :: ·) hts, .park hk hrkind hckind, rfl⟩
    case leave =>
      obtain ⟨⟨⟨n, t⟩, ts'⟩, hint, heq⟩ := bind_eq_ok_iff.1 h
      obtain ⟨rfl, hkind, hn⟩ := int_eq_ok_iff.1 hint
      cases heq
      exact ⟨_, rfl, .leave hk hkind hn, rfl⟩
    case status =>
      cases h
      exact ⟨[], rfl, .status hk, rfl⟩
    case registrationNumbersWithColour =>
      obtain ⟨⟨c, ts'⟩, hc, heq⟩ := bind_eq_ok_iff.1 h
      obtain ⟨rfl, hkind⟩ := expect_eq_ok_iff.1 hc
      cases heq
      exact ⟨_, rfl, .registrationNumbersWithColour hk hkind, rfl⟩
    case slotNumbersWithColour =>
      obtain ⟨⟨c, ts'⟩, hc, heq⟩ := bind_eq_ok_iff.1 h
      obtain ⟨rfl, hkind⟩ := expect_eq_ok_iff.1 hc
      cases heq
      exact ⟨_, rfl, .slotNumbersWithColour hk hkind, rfl⟩
    case slotNumberWithRegistration =>
      obtain ⟨⟨r, ts'⟩, hr, heq⟩ := bind_eq_ok_iff.1 h
      obtain ⟨rfl, hkind⟩ := expect_eq_ok_iff.1 hr
      cases heq
      exact ⟨_, rfl, .slotNumberWithRegistration hk hkind, rfl⟩
  · rintro ⟨args, rfl, hblock, rfl⟩
    have hkey : ∀ l, head.kind = .keyword l → k = l := by
      intro l hl
      rw [hk] at hl
      exact TokenKind.keyword.inj hl
    cases hblock with
    | createParkingLot hl hkind hn =>
        cases hkey _ hl
        simp [operands, int_cons hkind hn, bind, Except.bind, pure, Except.pure, lastToken]
    | park hl hr hc =>
        cases hkey _ hl
        simp [operands, word, expect_cons hr, expect_cons hc, bind, Except.bind, pure,
          Except.pure, lastToken]
    | leave hl hkind hn =>
        cases hkey _ hl
        simp [operands, int_cons hkind hn, bind, Except.bind, pure, Except.pure, lastToken]
    | status hl =>
        cases hkey _ hl
        rfl
    | registrationNumbersWithColour hl hc | slotNumbersWithColour hl hc
    | slotNumberWithRegistration hl hc =>
        cases hkey _ hl
        simp [operands, word, expect_cons hc, bind, Except.bind, pure, Except.pure, lastToken]

theorem statements_cons (hk : head.kind = .keyword k)
    (hok : operands stop head k ts = .ok ((s, last), rest)) :
    statements stop (head :: ts) =
      (statements stop rest).map (⟨s, head.span.enclose last.span⟩ :: ·) := by
  rw [statements]
  simp only [hk]
  split
  · next e he => rw [hok] at he; contradiction
  · next s' last' rest' hok' =>
    rw [hok] at hok'
    cases hok'
    rfl

theorem statements_eq_ok_iff :
    statements stop ts = .ok items ↔ Blocks ts items := by
  constructor
  · intro h
    fun_induction statements stop ts generalizing items with
    | case1 =>
        cases h
        exact .nil
    | case2 head ts k hk e he => simp at h
    | case3 head ts k hk s last rest hok ih =>
        obtain ⟨tail, htail, rfl⟩ := map_eq_ok_iff.1 h
        obtain ⟨args, rfl, hblock, rfl⟩ := (operands_eq_ok_iff hk).1 hok
        exact .cons hblock (ih htail)
    | case4 head ts hk => simp at h
  · intro h
    induction h with
    | nil => unfold statements; rfl
    | @cons head args ts s items hblock _ ih =>
        have hok : operands stop head s.keyword (args ++ ts) = .ok ((s, lastToken head args), ts) :=
          (operands_eq_ok_iff hblock.kind_head).2 ⟨args, rfl, hblock, rfl⟩
        rw [statements_cons hblock.kind_head hok, ih]
        rfl

/-! ## Programs side by side -/

theorem Blocks.append {us : List Token} {others : List Located} (h : Blocks ts items)
    (h' : Blocks us others) : Blocks (ts ++ us) (items ++ others) := by
  induction h with
  | nil => exact h'
  | cons hblock _ ih =>
      rw [List.cons_append, List.append_assoc]
      exact .cons hblock ih

theorem Block.shift (m : Nat) (h : Block head args s) :
    Block (head.shift m) (args.map (Token.shift m)) s := by
  cases h <;> constructor <;> assumption

theorem lastToken_shift (m : Nat) (head : Token) (args : List Token) :
    lastToken (head.shift m) (args.map (Token.shift m)) = (lastToken head args).shift m := by
  unfold lastToken
  rw [List.getLast?_map]
  cases args.getLast? <;> rfl

end Parse

def Located.shift (m : Nat) (item : Located) : Located :=
  { item with span := item.span.shift m }

@[simp] theorem Located.statement_shift (m : Nat) (item : Located) :
    (item.shift m).statement = item.statement := rfl

@[simp] theorem Located.span_shift (m : Nat) (item : Located) :
    (item.shift m).span = item.span.shift m := rfl

theorem Parse.Blocks.shift {ts : List Token} {items : List Located} (m : Nat)
    (h : Blocks ts items) : Blocks (ts.map (Token.shift m)) (items.map (Located.shift m)) := by
  induction h with
  | nil => exact .nil
  | cons hblock _ ih =>
      have hcons := Blocks.cons (hblock.shift m) ih
      rw [lastToken_shift, Token.span_shift, Token.span_shift, Span.enclose_shift] at hcons
      rw [List.map_cons, List.map_append]
      exact hcons

/-! ## Programs in a text -/

theorem Lexeme.kind_cut_ne_eof (c : Char) (cs : List Char) : (cut c cs).kind ≠ .eof := by
  unfold cut
  split
  · dsimp only [TokenKind.ofWord]
    split <;> simp
  · split <;> simp

theorem Cursor.kind_ne_eof_of_mem_tokens {c : Cursor} {t : Token} (h : t ∈ c.tokens) :
    t.kind ≠ .eof := by
  fun_induction tokens c with
  | case1 => contradiction
  | case2 c t' d hsome ih =>
      rw [List.mem_cons] at h
      obtain rfl | h := h
      · unfold next? at hsome
        split at hsome
        · contradiction
        · cases hsome
          exact Lexeme.kind_cut_ne_eof _ _
      · exact ih h

namespace Program

open Parse

theorem body_tokenize (text : String) : body (tokenize text) = (Cursor.ofText text).tokens := by
  unfold body tokenize
  have hall : ∀ t ∈ (Cursor.ofText text).tokens, (t.kind != .eof) = true := fun t ht =>
    bne_iff_ne.2 (Cursor.kind_ne_eof_of_mem_tokens ht)
  rw [List.takeWhile_append_of_pos hall]
  exact List.append_nil _

/-- A list of tokens is a program exactly when it is a row of blocks up to its first end marker. -/
theorem ofTokens_eq_ok_iff {ts : List Token} {program : Program} :
    ofTokens ts = .ok program ↔ Blocks (body ts) program.items := by
  unfold ofTokens
  rw [← @statements_eq_ok_iff (endMark ts)]
  obtain ⟨items⟩ := program
  cases Parse.statements (endMark ts) (body ts) <;> simp

/-- A text is a program exactly when its tokens are a row of blocks. -/
theorem ofText_eq_ok_iff {text : String} {program : Program} :
    ofText text = .ok program ↔ Blocks (Cursor.ofText text).tokens program.items := by
  unfold ofText
  rw [ofTokens_eq_ok_iff, body_tokenize]

theorem statements_append_shift (items others : List Located) (m : Nat) :
    statements ⟨items ++ others.map (Located.shift m)⟩ =
      statements ⟨items⟩ ++ statements ⟨others⟩ := by
  unfold statements
  rw [List.map_append, List.map_map]
  rfl

theorem ofText_append_separator {text first last : String} {w : Char} {p q : Program}
    (hw : isSeparator w = true) (htext : text.toList = first.toList ++ w :: last.toList)
    (hp : ofText first = .ok p) (hq : ofText last = .ok q) :
    ofText text =
      .ok ⟨p.items ++ q.items.map (Located.shift (byteLength first.toList + w.utf8Size))⟩ := by
  rw [ofText_eq_ok_iff] at *
  have htokens := Cursor.tokens_append_separator hw (Cursor.ofText first) last.toList
  have hshift := Cursor.tokens_shift (byteLength first.toList + w.utf8Size) (Cursor.ofText last)
  simp only [Cursor.shift, Cursor.ofText, Nat.zero_add, Nat.add_zero] at *
  rw [htext, htokens, hshift]
  exact hp.append (hq.shift _)

end Program

end ParkingLot
