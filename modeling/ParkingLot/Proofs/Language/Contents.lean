import ParkingLot.Proofs.Language.Faults
/-!
# Reading without regard to places

The reader goes by the kinds and literals of the tokens and hands their spans on.  When the tokens
are moved about, its statements or its fault move along and are otherwise the same
(`statements_mapSpan`), so what it makes of tokens with the same contents can differ in spans only
(`statements_of_map_content_eq`).
-/

namespace ParkingLot

open Text Parse

def Token.mapSpan (f : Span → Span) (t : Token) : Token := { t with span := f t.span }

@[simp] theorem Token.kind_mapSpan (f : Span → Span) (t : Token) :
    (t.mapSpan f).kind = t.kind := rfl

private def Located.mapSpan (f : Span → Span) (item : Located) : Located :=
  { item with span := f item.span }

def SyntaxError.mapSpan (f : Span → Span) (e : SyntaxError) : SyntaxError :=
  { e with span := f e.span }

/-- What a token says, wherever it stands. -/
def Token.content (t : Token) : TokenKind × String := (t.kind, t.literal)

namespace Parse

/-! ## Moving what is read -/

section MapSpan

variable (f : Span → Span) (stop head : Token) (k : Keyword) (ts : List Token)

theorem expect_mapSpan (kind : TokenKind) :
    expect (stop.mapSpan f) kind (ts.map (Token.mapSpan f)) =
      ((expect stop kind ts).mapError (SyntaxError.mapSpan f)).map fun (t, rest) =>
        (t.mapSpan f, rest.map (Token.mapSpan f)) := by
  cases ts with
  | nil => rfl
  | cons t ts =>
      rw [List.map_cons, expect, expect, Token.kind_mapSpan]
      split <;> rfl

theorem int_mapSpan : int (stop.mapSpan f) (ts.map (Token.mapSpan f)) =
    ((int stop ts).mapError (SyntaxError.mapSpan f)).map fun ((n, t), rest) =>
      ((n, t.mapSpan f), rest.map (Token.mapSpan f)) := by
  unfold int
  rw [expect_mapSpan]
  cases expect stop .int ts with
  | error e => rfl
  | ok r =>
      obtain ⟨t, rest⟩ := r
      have hliteral : (t.mapSpan f).literal = t.literal := rfl
      simp only [Except.mapError, Except.map, bind, Except.bind, hliteral]
      cases readInt64? t.literal <;> rfl

theorem operands_mapSpan :
    operands (stop.mapSpan f) (head.mapSpan f) k (ts.map (Token.mapSpan f)) =
      ((operands stop head k ts).mapError (SyntaxError.mapSpan f)).map fun ((s, last), rest) =>
        ((s, last.mapSpan f), rest.map (Token.mapSpan f)) := by
  cases k with
  | createParkingLot | leave =>
      unfold operands
      rw [int_mapSpan]
      cases int stop ts <;> rfl
  | status => rfl
  | registrationNumbersWithColour | slotNumbersWithColour | slotNumberWithRegistration =>
      unfold operands word
      rw [expect_mapSpan]
      cases expect stop .word ts <;> rfl
  | park =>
      unfold operands word
      rw [expect_mapSpan]
      cases expect stop .word ts with
      | error e => rfl
      | ok r =>
          obtain ⟨registration, rest⟩ := r
          simp only [Except.mapError, Except.map, bind, Except.bind, expect_mapSpan f stop rest]
          cases expect stop .word rest <;> rfl

theorem statements_mapSpan (hf : ∀ a b : Span, (f a).enclose (f b) = f (a.enclose b)) :
    statements (stop.mapSpan f) (ts.map (Token.mapSpan f)) =
      ((statements stop ts).mapError (SyntaxError.mapSpan f)).map
        (List.map (Located.mapSpan f)) := by
  fun_induction statements stop ts with
  | case1 => unfold statements; rfl
  | case2 head ts k hk e he =>
      have herror := operands_mapSpan f stop head k ts
      rw [he] at herror
      exact statements_of_stuck hk (operands_eq_error_iff.1 herror)
  | case3 head ts k hk s last rest hok ih =>
      have hk' : (head.mapSpan f).kind = .keyword k := hk
      have hspan : (head.mapSpan f).span.enclose (last.mapSpan f).span =
          f (head.span.enclose last.span) := hf _ _
      have hok' := operands_mapSpan f stop head k ts
      rw [hok] at hok'
      rw [List.map_cons, statements_cons hk' hok', ih, hspan]
      cases statements stop rest <;> rfl
  | case4 head ts hk => exact statements_of_not_keyword hk

end MapSpan

/-! ## Tokens with the same contents -/

variable {stop stop' : Token} {ts us : List Token}

private theorem mapSpan_const (place : Span) (t : Token) :
    t.mapSpan (fun _ => place) = ⟨t.content.1, place, t.content.2⟩ := rfl

private theorem map_mapSpan_const (place : Span) (ts : List Token) :
    ts.map (Token.mapSpan fun _ => place) =
      (ts.map Token.content).map fun (kind, literal) => ⟨kind, place, literal⟩ := by
  rw [List.map_map]
  rfl

/-- Tokens with the same contents are read as the same statements or have the same fault, but for
the places. -/
theorem statements_of_map_content_eq (hstop : stop.content = stop'.content)
    (h : ts.map Token.content = us.map Token.content) :
    (∃ items items', statements stop ts = .ok items ∧ statements stop' us = .ok items' ∧
        items.map Located.statement = items'.map Located.statement) ∨
      ∃ e e', statements stop ts = .error e ∧ statements stop' us = .error e' ∧
        e.cause = e'.cause ∧ e.literal = e'.literal := by
  -- with all tokens at one place the two readings are the same
  let f : Span → Span := fun _ => ⟨0, 0⟩
  have hf : ∀ a b : Span, (f a).enclose (f b) = f (a.enclose b) := fun _ _ => rfl
  have hsame := statements_mapSpan f stop ts hf
  rw [mapSpan_const, map_mapSpan_const, hstop, h, ← mapSpan_const, ← map_mapSpan_const,
    statements_mapSpan f stop' us hf] at hsame
  cases hts : statements stop ts with
  | ok items =>
      rw [hts] at hsame
      cases hus : statements stop' us with
      | ok items' =>
          rw [hus] at hsame
          have hitems := congrArg (List.map Located.statement) (Except.ok.inj hsame)
          rw [List.map_map, List.map_map] at hitems
          exact .inl ⟨items, items', rfl, rfl, hitems.symm⟩
      | error e' =>
          rw [hus] at hsame
          contradiction
  | error e =>
      rw [hts] at hsame
      cases hus : statements stop' us with
      | ok items' =>
          rw [hus] at hsame
          contradiction
      | error e' =>
          rw [hus] at hsame
          have herror := Except.error.inj hsame
          exact .inr ⟨e, e', rfl, rfl, (congrArg SyntaxError.cause herror).symm,
            (congrArg SyntaxError.literal herror).symm⟩

end Parse

end ParkingLot
