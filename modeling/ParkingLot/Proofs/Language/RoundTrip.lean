import ParkingLot.Proofs.Language.Grammar
import ParkingLot.Proofs.Text.Numeral
/-!
# Reading canonical text

The canonical text of a list of statements is a program with these statements, and each statement
is found on the line that it was written on.  This needs operands that can be written: words that
the scanner takes whole and does not take for keywords, and integers without a sign.
-/

namespace ParkingLot

open Text Parse

def IsPlainWord (w : String) : Prop :=
  w.toList.head?.any startsWord = true ∧ (∀ c ∈ w.toList, isSeparator c = false) ∧
    ∀ k ∈ Keyword.all, w ≠ k.spelling

instance (w : String) : Decidable (IsPlainWord w) :=
  decidable_of_iff
    (w.toList.head?.any startsWord && w.toList.all (!isSeparator ·) &&
      Keyword.all.all (w != ·.spelling))
    (by simp [IsPlainWord, and_assoc])

/-- Whether the operands of a statement can be written down. -/
def Statement.IsWritable : Statement → Prop
  | createParkingLot capacity => 0 ≤ capacity.toInt
  | park registration colour => IsPlainWord registration ∧ IsPlainWord colour
  | leave slot => 0 ≤ slot.toInt
  | status => True
  | registrationNumbersWithColour colour => IsPlainWord colour
  | slotNumbersWithColour colour => IsPlainWord colour
  | slotNumberWithRegistration registration => IsPlainWord registration

instance (s : Statement) : Decidable s.IsWritable :=
  match s with
  | .createParkingLot capacity => inferInstanceAs (Decidable (0 ≤ capacity.toInt))
  | .park registration colour =>
    inferInstanceAs (Decidable (IsPlainWord registration ∧ IsPlainWord colour))
  | .leave slot => inferInstanceAs (Decidable (0 ≤ slot.toInt))
  | .status => inferInstanceAs (Decidable True)
  | .registrationNumbersWithColour colour | .slotNumbersWithColour colour =>
    inferInstanceAs (Decidable (IsPlainWord colour))
  | .slotNumberWithRegistration registration =>
    inferInstanceAs (Decidable (IsPlainWord registration))

theorem IsPlainWord.unbroken {w : String} (h : IsPlainWord w) :
    ∀ c ∈ w.toList, isSeparator c = false := h.2.1

/-- The span covers one line of the text, the one with `i` line feeds before it. -/
def Text.Span.CoversLine (span : Span) (text : String) (i : Nat) : Prop :=
  ∃ before line after, text.toList = before ++ line ++ after ∧
    span = ⟨byteLength before, byteLength before + byteLength line⟩ ∧
    before.count '\n' = i ∧ (∀ c ∈ before.getLast?, c = '\n') ∧
    '\n' ∉ line ∧ ∀ c ∈ after.head?, c = '\n'

/-! ## One word after the other -/

def wordToken (o : Nat) (word : TokenKind × String) : Token :=
  ⟨word.1, ⟨o, o + byteLength word.2.toList⟩, word.2⟩

/-- Wherever it stands, the text is one token of this kind. -/
def ReadsAs (kind : TokenKind) (w : String) : Prop :=
  ∀ o, Cursor.tokens ⟨o, w.toList⟩ = [wordToken o (kind, w)]

private theorem readsAs_of_startsWord {w : String} {c : Char} {cs : List Char} (hw : w.toList = c :: cs)
    (hc : startsWord c = true) (h : ∀ d ∈ w.toList, isSeparator d = false) :
    ReadsAs (.ofWord w) w := by
  intro o
  have hofList : String.ofList (c :: cs) = w := by rw [← hw, String.ofList_toList]
  rw [hw] at h
  rw [wordToken, hw, Cursor.tokens_word hc h, hofList]

private theorem not_isSeparator_of_mem_spelling (k : Keyword) :
    ∀ c ∈ k.spelling.toList, isSeparator c = false := by
  have hall : k.spelling.toList.all (!isSeparator ·) = true := by cases k <;> decide
  simpa using hall

theorem readsAs_spelling (k : Keyword) : ReadsAs (.keyword k) k.spelling := by
  have hword : ∃ c cs, k.spelling.toList = c :: cs ∧ startsWord c = true := by
    cases k <;> exact ⟨_, _, rfl, by decide⟩
  obtain ⟨c, cs, hcs, hc⟩ := hword
  have h := readsAs_of_startsWord hcs hc (not_isSeparator_of_mem_spelling k)
  rwa [TokenKind.ofWord_spelling] at h

theorem IsPlainWord.readsAs {w : String} (h : IsPlainWord w) : ReadsAs .word w := by
  obtain ⟨hstart, hall, hne⟩ := h
  have hkind : TokenKind.ofWord w = .word :=
    TokenKind.ofWord_eq_word_iff.2 fun k => hne k (Keyword.mem_all k)
  cases hw : w.toList with
  | nil =>
      rw [hw] at hstart
      contradiction
  | cons c cs =>
      rw [hw] at hstart
      have hread := readsAs_of_startsWord hw hstart hall
      rwa [hkind] at hread

theorem readsAs_digits {w : String} (h : IsDigits w.toList) : ReadsAs .int w := by
  intro o
  obtain ⟨c, cs, hcs⟩ := List.exists_cons_of_ne_nil h.1
  have hofList : String.ofList (c :: cs) = w := by rw [← hcs, String.ofList_toList]
  have hdigits : ∀ d ∈ c :: cs, d.isDigit = true := fun d hd =>
    isDigit_iff.2 (h.2 d (hcs ▸ hd))
  rw [wordToken, hcs, Cursor.tokens_digits hdigits, hofList]

private def spacedTokens : Nat → List (TokenKind × String) → List Token
  | _, [] => []
  | o, word :: words => wordToken o word :: spacedTokens (o + byteLength word.2.toList + 1) words

private theorem toList_intercalate_cons_cons (s v w : String) (ws : List String) :
    (s.intercalate (v :: w :: ws)).toList =
      v.toList ++ (s.toList ++ (s.intercalate (w :: ws)).toList) := by
  rw [String.intercalate_cons_cons, String.toList_append, String.toList_append,
    List.append_assoc]

private theorem forall_mem_intercalate {p : Char → Prop} {s : String} {ws : List String}
    (hs : ∀ c ∈ s.toList, p c) (hws : ∀ w ∈ ws, ∀ c ∈ w.toList, p c) :
    ∀ c ∈ (s.intercalate ws).toList, p c := by
  induction ws with
  | nil => simp
  | cons v ws ih =>
      rw [List.forall_mem_cons] at hws
      cases ws with
      | nil => simpa using hws.1
      | cons w ws =>
          intro c hc
          rw [toList_intercalate_cons_cons, List.mem_append, List.mem_append] at hc
          obtain hc | hc | hc := hc
          · exact hws.1 c hc
          · exact hs c hc
          · exact ih hws.2 c hc

theorem tokens_intercalate {words : List (TokenKind × String)} (hne : words ≠ [])
    (h : ∀ word ∈ words, ReadsAs word.1 word.2) (o : Nat) :
    Cursor.tokens ⟨o, (" ".intercalate (words.map Prod.snd)).toList⟩ = spacedTokens o words := by
  induction words generalizing o with
  | nil => contradiction
  | cons word words ih =>
      have hword := h word (by simp)
      cases words with
      | nil => simpa [spacedTokens] using hword o
      | cons next words =>
          have htokens := Cursor.tokens_append_separator (w := ' ') rfl ⟨o, word.2.toList⟩
            (" ".intercalate ((next :: words).map Prod.snd)).toList
          have hrest := ih (by simp) (fun word' h' => h word' (by simp [h']))
            (o + byteLength word.2.toList + 1)
          rw [hword o] at htokens
          rw [List.map_cons, List.map_cons, toList_intercalate_cons_cons]
          exact htokens.trans (congrArg _ hrest)

theorem stop_lastToken (word : TokenKind × String) (words : List (TokenKind × String)) (o : Nat) :
    (lastToken (wordToken o word)
        (spacedTokens (o + byteLength word.2.toList + 1) words)).span.stop =
      o + byteLength (" ".intercalate ((word :: words).map Prod.snd)).toList := by
  induction words generalizing word o with
  | nil => rw [List.map_cons, List.map_nil, String.intercalate_singleton]; rfl
  | cons next words ih =>
      have hstop := ih next (o + byteLength word.2.toList + 1)
      have hspace : byteLength " ".toList = 1 := rfl
      rw [spacedTokens, lastToken_cons, hstop, List.map_cons, List.map_cons, List.map_cons,
        toList_intercalate_cons_cons, byteLength_append, byteLength_append, hspace]
      omega

namespace Statement

def operandWords : Statement → List (TokenKind × String)
  | createParkingLot capacity => [(.int, toString capacity.toInt)]
  | park registration colour => [(.word, registration), (.word, colour)]
  | leave slot => [(.int, toString slot.toInt)]
  | status => []
  | registrationNumbersWithColour colour => [(.word, colour)]
  | slotNumbersWithColour colour => [(.word, colour)]
  | slotNumberWithRegistration registration => [(.word, registration)]

def words (s : Statement) : List (TokenKind × String) :=
  (.keyword s.keyword, s.keyword.spelling) :: s.operandWords

theorem text_eq_intercalate (s : Statement) :
    s.text = " ".intercalate (s.words.map Prod.snd) := by
  cases s <;> rfl

theorem IsWritable.readsAs {s : Statement} (h : s.IsWritable) :
    ∀ word ∈ s.words, ReadsAs word.1 word.2 := by
  unfold words
  rw [List.forall_mem_cons]
  refine ⟨readsAs_spelling s.keyword, ?_⟩
  cases s with
  | createParkingLot n | leave n =>
      have hint : ReadsAs .int (toString n.toInt) := readsAs_digits (isDigits_toString h)
      simpa [operandWords] using hint
  | park r c =>
      have hr : ReadsAs .word r := h.1.readsAs
      have hc : ReadsAs .word c := h.2.readsAs
      simpa [operandWords] using ⟨hr, hc⟩
  | status => simp [operandWords]
  | registrationNumbersWithColour w | slotNumbersWithColour w | slotNumberWithRegistration w =>
      have hw : ReadsAs .word w := IsPlainWord.readsAs h
      simpa [operandWords] using hw

theorem IsWritable.block {s : Statement} (h : s.IsWritable) {head : Token} (o : Nat)
    (hk : head.kind = .keyword s.keyword) : Block head (spacedTokens o s.operandWords) s := by
  cases s with
  | createParkingLot n => exact .createParkingLot hk rfl (readInt64?_toString h)
  | park r c => exact .park hk rfl rfl
  | leave n => exact .leave hk rfl (readInt64?_toString h)
  | status => exact .status hk
  | registrationNumbersWithColour w => exact .registrationNumbersWithColour hk rfl
  | slotNumbersWithColour w => exact .slotNumbersWithColour hk rfl
  | slotNumberWithRegistration w => exact .slotNumberWithRegistration hk rfl

theorem IsWritable.ofText_text {s : Statement} (h : s.IsWritable) :
    Program.ofText s.text = .ok ⟨[⟨s, ⟨0, byteLength s.text.toList⟩⟩]⟩ := by
  let first : TokenKind × String := (.keyword s.keyword, s.keyword.spelling)
  have hne : s.words ≠ [] := List.cons_ne_nil _ _
  have htokens := tokens_intercalate hne h.readsAs 0
  have hstop := (stop_lastToken first s.operandWords 0).trans (Nat.zero_add _)
  have hblock : Block (wordToken 0 first)
      (spacedTokens (0 + byteLength first.2.toList + 1) s.operandWords) s := h.block _ rfl
  have hblocks := Blocks.cons hblock Blocks.nil
  rw [Span.enclose, hstop, List.append_nil] at hblocks
  rw [Program.ofText_eq_ok_iff, Cursor.ofText, text_eq_intercalate, htokens]
  exact hblocks

theorem IsWritable.not_isSeparator_of_mem {s : Statement} (h : s.IsWritable) :
    ∀ word ∈ s.words, ∀ c ∈ word.2.toList, isSeparator c = false := by
  have hint : ∀ n : Int, 0 ≤ n → ∀ c ∈ (toString n).toList, isSeparator c = false :=
    fun n hn c hc => not_isSeparator_of_isDigit (isDigit_of_mem_toString hn hc)
  unfold words
  rw [List.forall_mem_cons]
  refine ⟨not_isSeparator_of_mem_spelling s.keyword, ?_⟩
  cases s with
  | createParkingLot n | leave n => simpa [operandWords] using hint n.toInt h
  | park r c => simpa [operandWords] using ⟨h.1.unbroken, h.2.unbroken⟩
  | status => simp [operandWords]
  | registrationNumbersWithColour w | slotNumbersWithColour w | slotNumberWithRegistration w =>
      simpa [operandWords] using IsPlainWord.unbroken h

theorem IsWritable.newline_not_mem {s : Statement} (h : s.IsWritable) :
    '\n' ∉ s.text.toList := by
  have hspace : ∀ c ∈ " ".toList, c ≠ '\n' := by simp
  have hwords : ∀ w ∈ s.words.map Prod.snd, ∀ c ∈ w.toList, c ≠ '\n' := by
    intro w hw c hc hnewline
    obtain ⟨word, hword, rfl⟩ := List.mem_map.1 hw
    have hsep := h.not_isSeparator_of_mem word hword c hc
    rw [hnewline] at hsep
    exact absurd hsep (by decide)
  intro hmem
  rw [text_eq_intercalate] at hmem
  exact forall_mem_intercalate hspace hwords '\n' hmem rfl

end Statement

/-! ## Line by line -/

private theorem coversLine_zero {text : String} {line after : List Char}
    (htext : text.toList = line ++ after) (hline : '\n' ∉ line)
    (hafter : ∀ c ∈ after.head?, c = '\n') :
    (⟨0, byteLength line⟩ : Span).CoversLine text 0 :=
  ⟨[], line, after, htext, by simp, rfl, by simp, hline, hafter⟩

theorem Text.Span.CoversLine.shift {span : Span} {text last : String} {first : List Char} {i : Nat}
    (htext : text.toList = first ++ '\n' :: last.toList) (hfirst : '\n' ∉ first)
    (h : span.CoversLine last i) :
    (span.shift (byteLength first + 1)).CoversLine text (i + 1) := by
  obtain ⟨before, line, after, hlast, rfl, hcount, hbefore, hline, hafter⟩ := h
  refine ⟨first ++ '\n' :: before, line, after, ?_, ?_, ?_, ?_, hline, hafter⟩
  · rw [htext, hlast]
    simp
  · have hnewline : '\n'.utf8Size = 1 := rfl
    simp only [Span.shift, byteLength_append, byteLength_cons, hnewline, Span.mk.injEq]
    omega
  · rw [List.count_append, List.count_eq_zero_of_not_mem hfirst, List.count_cons_self, hcount,
      Nat.zero_add]
  · have hlast' : before.getLast?.getD '\n' = '\n' := by
      cases hb : before.getLast? with
      | none => rfl
      | some d => exact hbefore d hb
    intro c hc
    rw [List.getLast?_append, List.getLast?_cons, hlast'] at hc
    exact (Option.some.inj hc).symm

private theorem toList_canonicalText_cons_cons (s t : Statement) (ss : List Statement) :
    (canonicalText (s :: t :: ss)).toList =
      s.text.toList ++ '\n' :: (canonicalText (t :: ss)).toList := by
  unfold canonicalText
  rw [List.map_cons, List.map_cons, toList_intercalate_cons_cons]
  rfl

/-- Every list of statements that can be written down is read back from its canonical text, each
statement from a line of its own. -/
theorem ofText_canonicalText (ss : List Statement) (h : ∀ s ∈ ss, s.IsWritable) :
    ∃ program, Program.ofText (canonicalText ss) = .ok program ∧ program.statements = ss ∧
      ∀ i (hi : i < program.items.length),
        program.items[i].span.CoversLine (canonicalText ss) i := by
  induction ss with
  | nil =>
      have hempty : Program.ofText (canonicalText []) = .ok ⟨[]⟩ := by decide +kernel
      exact ⟨⟨[]⟩, hempty, rfl, by simp⟩
  | cons s ss ih =>
      rw [List.forall_mem_cons] at h
      have hfirst := h.1.ofText_text
      cases ss with
      | nil =>
          have htext : canonicalText [s] = s.text := String.intercalate_singleton
          rw [htext]
          refine ⟨_, hfirst, rfl, ?_⟩
          rintro (_ | i) hi
          · exact coversLine_zero (List.append_nil _).symm h.1.newline_not_mem (by simp)
          · contradiction
      | cons t ss =>
          obtain ⟨rest, hrest, hstatements, hlines⟩ := ih h.2
          have htext := toList_canonicalText_cons_cons s t ss
          refine ⟨_, Program.ofText_append_separator rfl htext hfirst hrest, ?_, ?_⟩
          · rw [Program.statements_append_shift, hstatements]
            rfl
          · rintro (_ | i) hi
            · exact coversLine_zero htext h.1.newline_not_mem (by simp)
            · have hi' : i < rest.items.length := by simpa using hi
              have hcovers := (hlines i hi').shift htext h.1.newline_not_mem
              simpa [Char.utf8Size] using hcovers

/-- Words may hold any characters but separators, and numbers may be as large as they come. -/
theorem ofText_canonicalText_unicode :
    (∀ s ∈ [Statement.createParkingLot 9223372036854775807, .park "_\u00a0é😀" "status-",
        .leave 0, .status], s.IsWritable) ∧
      ∃ program, Program.ofText (canonicalText [.createParkingLot 9223372036854775807,
          .park "_\u00a0é😀" "status-", .leave 0, .status]) = .ok program ∧
        program.statements = [.createParkingLot 9223372036854775807,
          .park "_\u00a0é😀" "status-", .leave 0, .status] ∧
        ∀ i (hi : i < program.items.length), program.items[i].span.CoversLine
          (canonicalText [.createParkingLot 9223372036854775807, .park "_\u00a0é😀" "status-",
            .leave 0, .status]) i :=
  have h : ∀ s ∈ [Statement.createParkingLot 9223372036854775807, .park "_\u00a0é😀" "status-",
      .leave 0, .status], s.IsWritable := by decide +kernel
  ⟨h, ofText_canonicalText _ h⟩

end ParkingLot
