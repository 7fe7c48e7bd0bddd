import Mathlib.Algebra.Group.Int.Defs
import Mathlib.Algebra.Group.Nat.Defs
import ParkingLot.Proofs.Text.Ascii
import ParkingLot.Text.Numeral
/-!
# Numerals and their values

The value of a numeral is worked out in words that have room for 64 bits only.  Nothing is lost by
that: the words grow with the digits, so the first one that runs over shows that the value does not
fit (`Sign.foldlM_append?`), and a numeral is read exactly if its value fits
(`readInt64?_eq_some_iff`, `readInt64?_eq_none_iff`).  A number that is not negative is written as a
run of digits, and reading gives it back.
-/

namespace ParkingLot.Text

def IsDigits (digits : List Char) : Prop := digits ≠ [] ∧ ∀ d ∈ digits, '0' ≤ d ∧ d ≤ '9'

/-- The characters are an optional sign and decimal digits, and the number is their value. -/
inductive IsNumeral : List Char → Int → Prop
  | bare {digits : List Char} : IsDigits digits → IsNumeral digits (Nat.ofDigitChars 10 digits 0)
  | plus {digits : List Char} : IsDigits digits →
      IsNumeral ('+' :: digits) (Nat.ofDigitChars 10 digits 0)
  | minus {digits : List Char} : IsDigits digits →
      IsNumeral ('-' :: digits) (-Nat.ofDigitChars 10 digits 0)

theorem isDigits_iff {digits : List Char} :
    IsDigits digits ↔ digits ≠ [] ∧ digits.all Char.isDigit = true := by
  simp only [IsDigits, List.all_eq_true, isDigit_iff]

theorem IsDigits.isNumeral_iff {digits : List Char} (h : IsDigits digits) {v : Int} :
    IsNumeral digits v ↔ v = Nat.ofDigitChars 10 digits 0 := by
  constructor
  · intro hv
    cases hv with
    | bare => rfl
    | plus => exact absurd (h.2 '+' List.mem_cons_self) (by decide)
    | minus => exact absurd (h.2 '-' List.mem_cons_self) (by decide)
  · rintro rfl
    exact .bare h

/-! ## Reading in words -/

theorem toInt64?_eq_none_iff {n : Int} :
    toInt64? n = none ↔ ¬ (-2 ^ 63 ≤ n ∧ n ≤ 2 ^ 63 - 1) := by
  rw [toInt64?, Int64.toInt_minValue, Int64.toInt_maxValue]
  split
  · next hfits => exact iff_of_false (Option.some_ne_none _) (not_not_intro hfits)
  · next hfits => exact iff_of_true rfl hfits

private theorem le_ofDigitChars (digits : List Char) (m : Nat) : m ≤ Nat.ofDigitChars 10 digits m := by
  rw [Nat.ofDigitChars_eq_ofDigitChars_zero]
  have hpow : 0 < 10 ^ digits.length := Nat.pow_pos (by decide)
  exact Nat.le_trans (Nat.le_mul_of_pos_left m hpow) (Nat.le_add_right _ _)

namespace Sign

theorem toInt64?_unit_mul_eq_none {sign : Sign} {m k : Nat} (hle : m ≤ k)
    (h : toInt64? (sign.unit * m) = none) : toInt64? (sign.unit * k) = none := by
  rw [toInt64?_eq_none_iff] at *
  cases sign <;> simp only [unit] at * <;> omega

/-- The tens run over only if the sum does, as the digit counts the same way. -/
theorem append?_eq {sign : Sign} {value : Int64} {m : Nat} (hvalue : value.toInt = sign.unit * m)
    {digit : Char} (hdigit : digit.isDigit = true) :
    sign.append? value digit =
      toInt64? (sign.unit * (10 * m + (digit.toNat - '0'.toNat) : Nat)) := by
  have htens : value.toInt * 10 = sign.unit * (10 * m : Nat) := by
    rw [hvalue]
    cases sign <;> simp only [unit] <;> omega
  rw [append?, if_pos hdigit, htens]
  cases hfits : toInt64? (sign.unit * (10 * m : Nat)) with
  | none => exact (toInt64?_unit_mul_eq_none (Nat.le_add_right _ _) hfits).symm
  | some tens =>
      have hsum : tens.toInt + sign.unit * (digit.toNat - '0'.toNat : Nat) =
          sign.unit * (10 * m + (digit.toNat - '0'.toNat) : Nat) := by
        rw [toInt64?_eq_some_iff.1 hfits, Int.natCast_add, Int.mul_add]
      exact congrArg toInt64? hsum

theorem foldlM_append? {sign : Sign} (digits : List Char) {value : Int64} {m : Nat}
    (hvalue : value.toInt = sign.unit * m) :
    digits.foldlM sign.append? value =
      if digits.all Char.isDigit = true then
        toInt64? (sign.unit * Nat.ofDigitChars 10 digits m)
      else none := by
  induction digits generalizing value m with
  | nil =>
      rw [Nat.ofDigitChars_nil, ← hvalue, toInt64?_toInt]
      rfl
  | cons digit digits ih =>
      rw [List.foldlM_cons, List.all_cons, Nat.ofDigitChars_cons]
      by_cases hdigit : digit.isDigit = true
      · rw [append?_eq hvalue hdigit, hdigit, Bool.true_and]
        cases hfits : toInt64? (sign.unit * (10 * m + (digit.toNat - '0'.toNat) : Nat)) with
        | none =>
            have hlast := toInt64?_unit_mul_eq_none (le_ofDigitChars digits _) hfits
            rw [hlast, ite_self]
            rfl
        | some next => exact ih (toInt64?_eq_some_iff.1 hfits)
      · rw [append?, if_neg hdigit, if_neg (by simp [hdigit])]
        rfl

theorem read?_eq_some_iff {sign : Sign} {digits : List Char} {w : Int64} :
    sign.read? digits = some w ↔
      IsDigits digits ∧ w.toInt = sign.unit * Nat.ofDigitChars 10 digits 0 := by
  have hzero : (0 : Int64).toInt = sign.unit * (0 : Nat) := by cases sign <;> rfl
  rw [isDigits_iff, read?]
  split
  · next hnil => exact iff_of_false nofun fun h => h.1.1 hnil
  · next hne =>
    rw [foldlM_append? digits hzero]
    split
    · next hall => rw [toInt64?_eq_some_iff, and_iff_right ⟨hne, hall⟩]
    · next hall => exact iff_of_false nofun fun h => hall h.1.2

end Sign

theorem readInt64?_of_isDigit {s : String} (h : ∀ c ∈ s.toList, c.isDigit = true) :
    readInt64? s = Sign.plus.read? s.toList := by
  unfold readInt64?
  split
  · next hs => exact absurd (h '+' (by simp [hs])) (by decide)
  · next hs => exact absurd (h '-' (by simp [hs])) (by decide)
  · rfl

/-- A text is read exactly if it is a numeral whose value fits, and then to that value. -/
theorem readInt64?_eq_some_iff {s : String} {w : Int64} :
    readInt64? s = some w ↔ IsNumeral s.toList w.toInt := by
  constructor
  · intro h
    unfold readInt64? at h
    split at h
    · next digits hs =>
      obtain ⟨hdigits, hvalue⟩ := Sign.read?_eq_some_iff.1 h
      rw [hs, hvalue, Sign.unit, Int.one_mul]
      exact .plus hdigits
    · next digits hs =>
      obtain ⟨hdigits, hvalue⟩ := Sign.read?_eq_some_iff.1 h
      rw [hs, hvalue, Sign.unit, Int.neg_mul, Int.one_mul]
      exact .minus hdigits
    · obtain ⟨hdigits, hvalue⟩ := Sign.read?_eq_some_iff.1 h
      rw [hvalue, Sign.unit, Int.one_mul]
      exact .bare hdigits
  · intro h
    generalize hs : s.toList = cs at h
    generalize hn : w.toInt = n at h
    cases h with
    | bare hdigits =>
        have hall : ∀ c ∈ s.toList, c.isDigit = true := by
          rw [hs]
          exact fun c hc => isDigit_iff.2 (hdigits.2 c hc)
        rw [readInt64?_of_isDigit hall, hs]
        exact Sign.read?_eq_some_iff.2 ⟨hdigits, by rw [hn, Sign.unit, Int.one_mul]⟩
    | plus hdigits =>
        simp only [readInt64?, hs]
        exact Sign.read?_eq_some_iff.2 ⟨hdigits, by rw [hn, Sign.unit, Int.one_mul]⟩
    | minus hdigits =>
        simp only [readInt64?, hs]
        exact Sign.read?_eq_some_iff.2 ⟨hdigits, by rw [hn, Sign.unit, Int.neg_mul, Int.one_mul]⟩

theorem readInt64?_eq_none_iff {s : String} :
    readInt64? s = none ↔ ∀ n, IsNumeral s.toList n → ¬ (-2 ^ 63 ≤ n ∧ n ≤ 2 ^ 63 - 1) := by
  constructor
  · intro h n hn hfits
    cases hw : toInt64? n with
    | none => exact toInt64?_eq_none_iff.1 hw hfits
    | some w =>
        rw [← toInt64?_eq_some_iff.1 hw, ← readInt64?_eq_some_iff, h] at hn
        contradiction
  · intro h
    cases hread : readInt64? s with
    | none => rfl
    | some w =>
        have hlow := Int64.le_toInt w
        have hhigh := Int64.toInt_lt w
        exact absurd ⟨hlow, by omega⟩ (h w.toInt (readInt64?_eq_some_iff.1 hread))

/-! ## Written numbers -/

theorem toList_toString_of_nonneg {n : Int} (h : 0 ≤ n) :
    (toString n).toList = Nat.toDigits 10 n.toNat := by
  rw [Int.toString_eq_repr, Int.repr_eq_if, if_pos h, Nat.toList_repr]

theorem isDigit_of_mem_toString {n : Int} (h : 0 ≤ n) {c : Char}
    (hc : c ∈ (toString n).toList) : c.isDigit = true := by
  rw [toList_toString_of_nonneg h] at hc
  exact Nat.isDigit_of_mem_toDigits (by decide) (by decide) hc

theorem toList_toString_ne_nil {n : Int} (h : 0 ≤ n) : (toString n).toList ≠ [] := by
  rw [toList_toString_of_nonneg h]
  exact Nat.toDigits_ne_nil

theorem isDigits_toString {n : Int} (h : 0 ≤ n) : IsDigits (toString n).toList :=
  ⟨toList_toString_ne_nil h, fun _ hc => isDigit_iff.1 (isDigit_of_mem_toString h hc)⟩

theorem toString_nat_inj {m n : Nat} : toString m = toString n ↔ m = n := by
  refine ⟨fun h => ?_, congrArg toString⟩
  have hdigits : Nat.toDigits 10 m = Nat.toDigits 10 n := by
    rw [← Nat.toList_repr, ← Nat.toList_repr]
    exact congrArg String.toList h
  have hm := @Nat.ofDigitChars_ten_toDigits m
  rw [hdigits, Nat.ofDigitChars_ten_toDigits] at hm
  exact hm.symm

theorem length_toString_le_iff {n k : Nat} (hk : 0 < k) : (toString n).length ≤ k ↔ n < 10 ^ k :=
  Nat.length_repr_le_iff hk

theorem readInt64?_toString {n : Int64} (h : 0 ≤ n.toInt) :
    readInt64? (toString n.toInt) = some n := by
  have hvalue : (Nat.ofDigitChars 10 (toString n.toInt).toList 0 : Int) = n.toInt := by
    rw [toList_toString_of_nonneg h, Nat.ofDigitChars_ten_toDigits, Int.toNat_of_nonneg h]
  have hnumeral := IsNumeral.bare (isDigits_toString h)
  rw [hvalue] at hnumeral
  exact readInt64?_eq_some_iff.2 hnumeral

end ParkingLot.Text
