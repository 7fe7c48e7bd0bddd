/-!
# Ranges of code points

Character properties are kept as ascending lists of inclusive ranges.
-/

namespace ParkingLot.Text

abbrev CodeRanges := List (Nat × Nat)

namespace CodeRanges

/-- Whether a code point lies in one of the ranges. The ranges ascend, so the search ends at the
first one that starts beyond the code point. -/
def contains : CodeRanges → Nat → Bool
  | [], _ => false
  | (lo, hi) :: ranges, n => decide (lo ≤ n) && (decide (n ≤ hi) || contains ranges n)

theorem exists_of_contains {ranges : CodeRanges} {n : Nat} (h : ranges.contains n = true) :
    ∃ r ∈ ranges, r.1 ≤ n ∧ n ≤ r.2 := by
  induction ranges with
  | nil => simp [contains] at h
  | cons r ranges ih =>
    obtain ⟨lo, hi⟩ := r
    simp only [contains, Bool.and_eq_true, Bool.or_eq_true, decide_eq_true_eq] at h
    obtain ⟨hlo, hhi | hrest⟩ := h
    · exact ⟨(lo, hi), by simp, hlo, hhi⟩
    · obtain ⟨r, hr, hn⟩ := ih hrest
      exact ⟨r, by simp [hr], hn⟩

end CodeRanges

end ParkingLot.Text
