/-!
# Decimal numerals

The value of a numeral: an optional sign and at least one ASCII digit, with nothing else around
or between. Leading zeros are allowed. The value is worked out from the left in 64-bit words, and a
numeral has none if a word runs over on the way.
-/

namespace ParkingLot.Text

def toInt64? (n : Int) : Option Int64 :=
  if Int64.minValue.toInt ≤ n ∧ n ≤ Int64.maxValue.toInt then some (Int64.ofInt n) else none

inductive Sign where
  | plus
  | minus
deriving DecidableEq, Repr

namespace Sign

def unit : Sign → Int
  | plus => 1
  | minus => -1

/-- The value of the digits so far with one more digit behind them. Neither ten times the value nor
the sum may run over. -/
def append? (sign : Sign) (value : Int64) (digit : Char) : Option Int64 :=
  if digit.isDigit then do
    let tens ← toInt64? (value.toInt * 10)
    toInt64? (tens.toInt + sign.unit * (digit.toNat - '0'.toNat : Nat))
  else none

def read? (sign : Sign) (digits : List Char) : Option Int64 :=
  if digits = [] then none else digits.foldlM sign.append? 0

end Sign

/-- The 64-bit value of a numeral, or `none` if the text is no numeral or its value does not
fit. -/
def readInt64? (s : String) : Option Int64 :=
  match s.toList with
  | '+' :: digits => Sign.plus.read? digits
  | '-' :: digits => Sign.minus.read? digits
  | digits => Sign.plus.read? digits

/-- A word comes back from its value, so every 64-bit value is accepted. -/
@[simp] theorem toInt64?_toInt (n : Int64) : toInt64? n.toInt = some n := by
  rw [toInt64?, if_pos ⟨Int64.minValue_le_toInt n, Int64.toInt_le n⟩, Int64.ofInt_toInt]

theorem toInt64?_eq_some_iff {n : Int} {w : Int64} : toInt64? n = some w ↔ w.toInt = n := by
  constructor
  · intro h
    simp only [toInt64?] at h
    split at h
    · next hn =>
      cases h
      rw [Int64.toInt_minValue, Int64.toInt_maxValue] at hn
      exact Int64.toInt_ofInt_of_le hn.1 (Int.lt_of_le_sub_one hn.2)
    · contradiction
  · rintro rfl
    exact toInt64?_toInt w

end ParkingLot.Text
