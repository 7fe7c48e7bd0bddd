/-!
# Spans

A stretch of a text, given by byte offsets.
-/

namespace ParkingLot.Text

/-- The bytes of a text from `start` up to, not including, `stop`. Tokens may come from elsewhere
than the scanner, so `stop` is free to lie before `start`; such a span is empty. -/
structure Span where
  start : Nat
  stop : Nat
deriving DecidableEq, Repr, Inhabited

namespace Span

def length (s : Span) : Nat := s.stop - s.start

def isEmpty (s : Span) : Bool := s.length == 0

def enclose (first last : Span) : Span := ⟨first.start, last.stop⟩

@[simp] theorem start_enclose (first last : Span) : (first.enclose last).start = first.start := rfl

@[simp] theorem stop_enclose (first last : Span) : (first.enclose last).stop = last.stop := rfl

theorem isEmpty_iff (s : Span) : s.isEmpty = true ↔ s.stop ≤ s.start := by
  simp only [isEmpty, length, beq_iff_eq]
  omega

end Span

end ParkingLot.Text
