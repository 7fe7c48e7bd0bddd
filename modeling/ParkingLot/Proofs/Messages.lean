import ParkingLot.Execution
import ParkingLot.Proofs.Language.Faults
import ParkingLot.Proofs.Text.Quoted
/-!
# Messages are lines

Every complaint is a single line.  What a user wrote gets into one only as a number or between
quotes, and a text has no more than one fault to report.
-/

namespace ParkingLot

open Text

def IsLine (s : String) : Prop := '\n' ∉ s.toList

instance (s : String) : Decidable (IsLine s) := inferInstanceAs (Decidable ('\n' ∉ s.toList))

variable {s t : String}

theorem isLine_append : IsLine (s ++ t) ↔ IsLine s ∧ IsLine t := by
  simp [IsLine]

theorem isLine_quote : IsLine (toString (quote s)) := newline_not_mem_quote s

private theorem isLine_toString_nat (n : Nat) : IsLine (toString n) := by
  have hdigits : '\n' ∉ Nat.toDigits 10 n := newline_not_mem_toDigits (by decide) (by decide) n
  rwa [← Nat.toList_repr] at hdigits

private theorem isLine_toString_int (n : Int) : IsLine (toString n) := by
  rw [Int.toString_eq_repr, Int.repr_eq_if]
  split
  · exact isLine_toString_nat n.toNat
  · exact isLine_append.2 ⟨by decide, isLine_toString_nat (-n).toNat⟩

/-! ## What goes wrong when statements are run -/

theorem CarError.isLine_message (e : CarError) : IsLine e.message := by
  unfold message
  split
  all_goals
    simp only [isLine_append]
    exact ⟨⟨by decide, isLine_quote⟩, by decide⟩

theorem LotError.isLine_message (e : LotError) : IsLine e.message := by
  unfold message
  split
  any_goals decide
  · next slot capacity =>
    simp only [isLine_append]
    exact ⟨⟨⟨⟨by decide, isLine_toString_int slot⟩, by decide⟩, isLine_toString_nat capacity⟩,
      by decide⟩
  · next capacity =>
    simp only [isLine_append]
    exact ⟨by decide, isLine_toString_int capacity⟩
  · next capacity =>
    simp only [isLine_append]
    exact ⟨⟨⟨⟨by decide, isLine_toString_nat capacity⟩, by decide⟩,
      isLine_toString_nat Lot.maxCapacity⟩, by decide⟩

theorem Failure.isLine_message (e : Failure) : IsLine e.message := by
  cases e with
  | car e => exact e.isLine_message
  | lot e => exact e.isLine_message

theorem Outcome.isLine_line {o : Outcome} (h : o.channel = .diagnostic) : IsLine o.line := by
  cases o with
  | error e => exact e.isLine_message
  | ok reply =>
      cases reply with
      | text s => contradiction
      | notFound => decide

/-! ## What goes wrong when texts are read -/

theorem TokenKind.isLine_name (kind : TokenKind) : IsLine kind.name := by
  cases kind with
  | keyword k => cases k <;> decide
  | illegal | eof | int | word => decide

theorem SyntaxError.isLine_message (e : SyntaxError) : IsLine e.message := by
  have hpos : IsLine (toString e.span.start) := isLine_toString_nat e.span.start
  unfold message
  split
  · next kind _ =>
    simp only [isLine_append]
    exact ⟨⟨⟨⟨⟨by decide, isLine_quote⟩, by decide⟩, hpos⟩, by decide⟩, kind.isLine_name⟩
  all_goals
    simp only [isLine_append]
    exact ⟨⟨⟨by decide, isLine_quote⟩, by decide⟩, hpos⟩

/-- A text that is no program has one fault, and so the report about it is one line. -/
theorem Program.isLine_of_ofText {text : String} {es : SyntaxErrors}
    (h : ofText text = .error es) : IsLine es.message := by
  obtain ⟨e, rfl, -⟩ := ofTokens_eq_error_iff.1 h
  exact e.isLine_message

end ParkingLot
