import ParkingLot.Proofs.Language.FirstFault
import ParkingLot.Proofs.Language.Joining
import ParkingLot.Proofs.Language.RoundTrip
/-!
# Integer operands

An integer operand has the value that is written, or it is refused: none is cut down to 64 bits
(`integer_operands_exact`).  In a text the operand is a run of digits, as long as it may be, and the
scanner hands over all of it.  Tokens that come from elsewhere may have a sign.
-/

namespace ParkingLot

open Text Parse

/-- The keyword takes one integer, and this is the statement that it makes of it. -/
inductive Keyword.TakesInt : Keyword → (Int64 → Statement) → Prop
  | createParkingLot : TakesInt .createParkingLot .createParkingLot
  | leave : TakesInt .leave .leave

variable {k : Keyword} {make : Int64 → Statement} {stop head t : Token} {n : Int64}

theorem Keyword.TakesInt.operands_eq (h : k.TakesInt make) : k.operands = [.int] := by
  cases h <;> rfl

theorem Keyword.TakesInt.block (h : k.TakesInt make) (hhead : head.kind = .keyword k)
    (hkind : t.kind = .int) (hread : readInt64? t.literal = some n) : Block head [t] (make n) := by
  cases h with
  | createParkingLot => exact .createParkingLot hhead hkind hread
  | leave => exact .leave hhead hkind hread

/-! ## The operand as a token -/

section Tokens

variable (h : k.TakesInt make) (hhead : head.kind = .keyword k) (hkind : t.kind = .int)

include h hhead hkind

private theorem statements_int_of_some (hread : readInt64? t.literal = some n) (ts : List Token) :
    statements stop (head :: t :: ts) =
      (statements stop ts).map (⟨make n, head.span.enclose t.span⟩ :: ·) :=
  statements_append (.cons (h.block hhead hkind hread) .nil) ts

private theorem statements_int_of_none (hread : readInt64? t.literal = none) (ts : List Token) :
    statements stop (head :: t :: ts) = .error (.ofToken t .invalidNumber) := by
  apply statements_of_stuck hhead
  rw [h.operands_eq]
  exact .here (.invalidNumber hkind hread)

variable {before after : List Token} {earlier : List Located} (hbefore : Blocks before earlier)

omit h in
include hbefore in
private theorem body_int : body (before ++ head :: t :: after) = before ++ head :: t :: body after := by
  rw [body_append hbefore.kind_ne_eof]
  simp [body, hhead, hkind]

include hbefore

theorem ofTokens_int_eq_ok_iff (items : List Located) :
    Program.ofTokens (before ++ head :: t :: after) = .ok ⟨items⟩ ↔
      ∃ (n : Int64) (later : List Located), readInt64? t.literal = some n ∧
        Program.ofTokens after = .ok ⟨later⟩ ∧
        items = earlier ++ ⟨make n, head.span.enclose t.span⟩ :: later := by
  simp only [Program.ofTokens_eq_ok_iff, body_int hhead hkind hbefore,
    ← @statements_eq_ok_iff (.eof 0)]
  rw [statements_append hbefore]
  cases hread : readInt64? t.literal with
  | none =>
      rw [statements_int_of_none h hhead hkind hread]
      simp [Except.map]
  | some n =>
      rw [statements_int_of_some h hhead hkind hread]
      cases statements (.eof 0) (body after) <;> simp [Except.map, eq_comm]

private theorem ofTokens_int_of_none (hread : readInt64? t.literal = none) :
    Program.ofTokens (before ++ head :: t :: after) =
      .error { first := .ofToken t .invalidNumber } := by
  rw [Program.ofTokens_eq_error_iff, body_int hhead hkind hbefore, statements_append hbefore,
    statements_int_of_none h hhead hkind hread]
  exact ⟨_, rfl, rfl⟩

end Tokens

/-! ## The operand in a text -/

section Digits

variable {gap digits : String} (hne : gap ≠ "") (hgap : ∀ c ∈ gap.toList, isSeparator c = true)
  (hdigits : IsDigits digits.toList)

include hne hgap hdigits

theorem tokens_keyword_digits (k : Keyword) :
    (Cursor.ofText (k.spelling ++ gap ++ digits)).tokens =
      [⟨.keyword k, ⟨0, k.spelling.utf8ByteSize⟩, k.spelling⟩,
        ⟨.int, ⟨(k.spelling ++ gap).utf8ByteSize, (k.spelling ++ gap ++ digits).utf8ByteSize⟩,
          digits⟩] := by
  have hkeyword : (Cursor.ofText k.spelling).tokens = [wordToken 0 (.keyword k, k.spelling)] :=
    readsAs_spelling k 0
  have hint : (Cursor.ofText digits).tokens = [wordToken 0 (.int, digits)] :=
    readsAs_digits hdigits 0
  have hsize : (k.spelling ++ gap ++ digits).utf8ByteSize =
      (k.spelling ++ gap).utf8ByteSize + digits.utf8ByteSize := String.utf8ByteSize_append
  rw [tokens_ofText_append hne hgap, hkeyword, hint, hsize]
  simp [wordToken, Token.shift, Span.shift, byteLength_toList]

variable (h : k.TakesInt make)

include h

private theorem ofText_int_of_some (hread : readInt64? digits = some n) :
    Program.ofText (k.spelling ++ gap ++ digits) =
      .ok ⟨[⟨make n, ⟨0, (k.spelling ++ gap ++ digits).utf8ByteSize⟩⟩]⟩ := by
  rw [Program.ofText_eq_ok_iff, tokens_keyword_digits hne hgap hdigits]
  exact .cons (h.block rfl rfl hread) .nil

private theorem ofText_int_of_none (hread : readInt64? digits = none) :
    Program.ofText (k.spelling ++ gap ++ digits) =
      .error { first := ⟨.invalidNumber, digits,
        ⟨(k.spelling ++ gap).utf8ByteSize, (k.spelling ++ gap ++ digits).utf8ByteSize⟩⟩ } := by
  rw [Program.ofText_eq_error_iff, tokens_keyword_digits hne hgap hdigits]
  exact ⟨_, rfl, statements_int_of_none h rfl rfl hread []⟩

end Digits

/-- A keyword that takes an integer makes its statement of it, with the value as it is written, and
refuses the numerals whose value does not fit into 64 bits.  So it is with a run of digits behind
the keyword in a text, and with an integer token of any literal that stands behind a keyword token
anywhere in a list. -/
theorem integer_operands_exact {k : Keyword} {make : Int64 → Statement} (h : k.TakesInt make) :
    (∀ gap digits : String, gap ≠ "" → (∀ c ∈ gap.toList, isSeparator c = true) →
      IsDigits digits.toList →
      let text := k.spelling ++ gap ++ digits
      let value := Nat.ofDigitChars 10 digits.toList 0
      (∀ program, Program.ofText text = .ok program ↔ value ≤ 2 ^ 63 - 1 ∧
        ∃ n : Int64, n.toInt = value ∧ program = ⟨[⟨make n, ⟨0, text.utf8ByteSize⟩⟩]⟩) ∧
      ∀ es, Program.ofText text = .error es ↔ 2 ^ 63 - 1 < value ∧
        es = { first := ⟨.invalidNumber, digits,
          ⟨(k.spelling ++ gap).utf8ByteSize, text.utf8ByteSize⟩⟩ }) ∧
    ∀ (before after : List Token) (earlier : List Located) (head t : Token),
      Blocks before earlier → head.kind = .keyword k → t.kind = .int →
      (∀ items, Program.ofTokens (before ++ head :: t :: after) = .ok ⟨items⟩ ↔
        ∃ (n : Int64) (later : List Located), IsNumeral t.literal.toList n.toInt ∧
          Program.ofTokens after = .ok ⟨later⟩ ∧
          items = earlier ++ ⟨make n, head.span.enclose t.span⟩ :: later) ∧
      ((∀ v, IsNumeral t.literal.toList v → ¬ (-2 ^ 63 ≤ v ∧ v ≤ 2 ^ 63 - 1)) →
        Program.ofTokens (before ++ head :: t :: after) =
          .error { first := .ofToken t .invalidNumber }) := by
  constructor
  · intro gap digits hne hgap hdigits text value
    have hvalue : ∀ {n}, readInt64? digits = some n ↔ n.toInt = value :=
      readInt64?_eq_some_iff.trans hdigits.isNumeral_iff
    cases hread : readInt64? digits with
    | some n =>
        have htext : Program.ofText text = _ := ofText_int_of_some hne hgap hdigits h hread
        have hn := hvalue.1 hread
        have hle : value ≤ 2 ^ 63 - 1 := by
          have hlt := n.toInt_lt
          omega
        rw [htext]
        constructor
        · intro program
          rw [Except.ok.injEq, and_iff_right hle]
          constructor
          · rintro rfl
            exact ⟨n, hn, rfl⟩
          · rintro ⟨m, hm, rfl⟩
            rw [Int64.toInt_inj.1 (hm.trans hn.symm)]
        · exact fun es => iff_of_false nofun fun hes => absurd hes.1 (Nat.not_lt.2 hle)
    | none =>
        have htext : Program.ofText text = _ := ofText_int_of_none hne hgap hdigits h hread
        have hlarge : 2 ^ 63 - 1 < value := by
          have hrange := readInt64?_eq_none_iff.1 hread value (hdigits.isNumeral_iff.2 rfl)
          omega
        rw [htext]
        constructor
        · exact fun program => iff_of_false nofun fun hp => absurd hp.1 (Nat.not_le.2 hlarge)
        · intro es
          rw [Except.error.injEq, and_iff_right hlarge, eq_comm]
  · intro before after earlier head t hbefore hhead hkind
    constructor
    · intro items
      simp only [← readInt64?_eq_some_iff]
      exact ofTokens_int_eq_ok_iff h hhead hkind hbefore items
    · intro hrange
      exact ofTokens_int_of_none h hhead hkind hbefore (readInt64?_eq_none_iff.2 hrange)

/-- Leading zeros make no numeral too large, and the least word can be written with a sign. -/
theorem integer_operands_exact_bounds :
    Keyword.TakesInt .leave .leave ∧
      Program.ofText ("leave" ++ "\t\n" ++ "009223372036854775807") =
        .ok ⟨[⟨.leave Int64.maxValue, ⟨0, 28⟩⟩]⟩ ∧
      Program.ofText ("leave" ++ "\t\n" ++ "009223372036854775808") =
        .error { first := ⟨.invalidNumber, "009223372036854775808", ⟨7, 28⟩⟩ } ∧
      Program.ofTokens [⟨.keyword .leave, ⟨0, 5⟩, "leave"⟩,
          ⟨.int, ⟨6, 26⟩, "-9223372036854775808"⟩] =
        .ok ⟨[⟨.leave Int64.minValue, ⟨0, 26⟩⟩]⟩ := by
  have hgap : ∀ c ∈ "\t\n".toList, isSeparator c = true := by simp [isSeparator]
  have hlast : IsDigits "009223372036854775807".toList :=
    isDigits_iff.2 ⟨by decide, by decide +kernel⟩
  have hbeyond : IsDigits "009223372036854775808".toList :=
    isDigits_iff.2 ⟨by decide, by decide +kernel⟩
  have hleast : IsNumeral "-9223372036854775808".toList Int64.minValue.toInt :=
    readInt64?_eq_some_iff.1 (by decide +kernel)
  obtain ⟨htexts, htokens⟩ := integer_operands_exact .leave
  refine ⟨.leave, ?_, ?_, ?_⟩
  · have hread := (htexts "\t\n" _ (by decide) hgap hlast).1
    exact (hread _).2 ⟨by decide +kernel, Int64.maxValue, by decide +kernel, by decide +kernel⟩
  · have hread := (htexts "\t\n" _ (by decide) hgap hbeyond).2
    exact (hread _).2 ⟨by decide +kernel, by decide +kernel⟩
  · have hread := (htokens [] [] [] ⟨.keyword .leave, ⟨0, 5⟩, "leave"⟩
      ⟨.int, ⟨6, 26⟩, "-9223372036854775808"⟩ .nil rfl rfl).1
    exact (hread _).2 ⟨Int64.minValue, [], hleast, by decide +kernel, rfl⟩

end ParkingLot
