import Mathlib.Data.List.TakeWhile
import ParkingLot.Text.Lines
/-!
# Cutting into lines

A text is either a single line or a line, a line feed and another text, and everything about its
lines goes by that (`lines_induction`).  Cutting after line feeds and splitting at them differ in
the line feeds that are kept, and in an empty last line.
-/

namespace ParkingLot.Text

section Cut

variable {α : Type} [BEq α] [LawfulBEq α] {stop : α}

private theorem cutAfter_cons_stop (as : List α) :
    cutAfter stop (stop :: as) = [stop] :: cutAfter stop as := by
  simp [cutAfter]

theorem cutAfter_eq_singleton {as : List α} (hne : as ≠ []) (h : stop ∉ as) :
    cutAfter stop as = [as] := by
  induction as with
  | nil => contradiction
  | cons a as ih =>
      rw [List.mem_cons, not_or] at h
      have ha : (a == stop) = false := beq_false_of_ne (Ne.symm h.1)
      unfold cutAfter
      rw [ha]
      by_cases has : as = []
      · simp [has]
      · simp [ih has h.2]

theorem cutAfter_append_stop {as : List α} (h : stop ∉ as) (bs : List α) :
    cutAfter stop (as ++ stop :: bs) = (as ++ [stop]) :: cutAfter stop bs := by
  induction as with
  | nil => exact cutAfter_cons_stop bs
  | cons a as ih =>
      rw [List.mem_cons, not_or] at h
      have ha : (a == stop) = false := beq_false_of_ne (Ne.symm h.1)
      rw [List.cons_append, cutAfter, ha, ih h.2]
      rfl

/-- A text is one line, or a line with another text behind its line feed. -/
theorem lines_induction {motive : List α → Prop} (last : ∀ as, stop ∉ as → motive as)
    (line : ∀ as bs, stop ∉ as → motive bs → motive (as ++ stop :: bs)) (as : List α) :
    motive as := by
  induction hn : as.length using Nat.strongRecOn generalizing as with
  | _ n ih =>
      by_cases hmem : stop ∈ as
      · obtain ⟨cs, bs, rfl, hcs⟩ := List.eq_append_cons_of_mem hmem
        have hlt : bs.length < n := by
          rw [← hn, List.length_append, List.length_cons]
          omega
        exact line cs bs hcs (ih bs.length hlt bs rfl)
      · exact last as hmem

end Cut

theorem exists_append_trimLineEnd (line : List Char) :
    ∃ ends, line = trimLineEnd line ++ ends ∧ ∀ c ∈ ends, isLineEnd c = true := by
  refine ⟨(line.reverse.takeWhile isLineEnd).reverse, ?_, ?_⟩
  · rw [trimLineEnd, ← List.reverse_append, List.takeWhile_append_dropWhile, List.reverse_reverse]
  · intro c hc
    exact List.mem_takeWhile_imp (List.mem_reverse.1 hc)

end ParkingLot.Text
