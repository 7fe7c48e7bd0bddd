import Mathlib.Tactic.SplitIfs
import ParkingLot.Text.Quoted
/-!
# Quoted text stays on its line

Whatever is quoted, no line feed is left in what is shown (`newline_not_mem_quote`).
-/

namespace ParkingLot.Text

theorem newline_not_mem_toDigits {base : Nat} (hlow : 1 < base) (hhigh : base ≤ 16) (n : Nat) :
    '\n' ∉ Nat.toDigits base n := by
  have hdigit : ∀ d < 16, '\n' ≠ d.digitChar := by decide
  induction n using Nat.strongRecOn with
  | ind n ih =>
      rw [Nat.toDigits_eq_if hlow]
      split
      · next hlt =>
        rw [List.mem_singleton]
        exact hdigit n (by omega)
      · next hge =>
        have hlt : n / base < n := Nat.div_lt_self (by omega) hlow
        have hmod : n % base < base := Nat.mod_lt n (by omega)
        rw [List.mem_append, List.mem_singleton, not_or]
        exact ⟨ih (n / base) hlt, hdigit (n % base) (by omega)⟩

private theorem newline_not_mem_escape (c : Char) : '\n' ∉ escape c := by
  by_cases hnewline : c = '\n'
  · subst hnewline
    decide
  · unfold escape
    split_ifs
    any_goals decide
    · rw [List.mem_singleton]
      exact Ne.symm hnewline
    · simp [codePointEscape, newline_not_mem_toDigits]

theorem newline_not_mem_quote (s : String) : '\n' ∉ (quote s).toList := by
  simp [quote, newline_not_mem_escape]

end ParkingLot.Text
