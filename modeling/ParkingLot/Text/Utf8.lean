/-!
# UTF-8

The bytes of a text and their number, and the text that arbitrary bytes stand for.

Decoding never fails. A byte that cannot go on with the sequence before it ends that sequence, and
each sequence that is cut short or can never be completed becomes one U+FFFD. The decoder reads
one byte at a time, and its whole memory is the sequence under way, so what it does after a line
feed does not depend on what came before.
-/

namespace ParkingLot.Text

def byteLength (cs : List Char) : Nat := cs.foldr (fun c n => c.utf8Size + n) 0

@[simp] theorem byteLength_nil : byteLength [] = 0 := rfl

@[simp] theorem byteLength_cons (c : Char) (cs : List Char) :
    byteLength (c :: cs) = c.utf8Size + byteLength cs := rfl

@[simp] theorem byteLength_append (as bs : List Char) :
    byteLength (as ++ bs) = byteLength as + byteLength bs := by
  induction as with
  | nil => simp
  | cons a as ih => simp [ih, Nat.add_assoc]

namespace Utf8

def encode (cs : List Char) : List UInt8 := cs.flatMap String.utf8EncodeChar

def replacement : Char := '\ufffd'

/-- A sequence that has begun and needs at least one byte more. -/
structure Unfinished where
  /-- The bits of the code point read so far. -/
  bits : Nat
  /-- The number of bytes owed after the next one. -/
  owed : Nat
  /-- The least next byte. It shuts out overlong forms. -/
  low : UInt8 := 0x80
  /-- The greatest next byte. It shuts out surrogates and code points above U+10FFFF. -/
  high : UInt8 := 0xbf
deriving DecidableEq, Repr

/-- A byte between sequences: the characters it completes, and the sequence it begins. -/
def lead (b : UInt8) : List Char × Option Unfinished :=
  if b ≤ 0x7f then ([Char.ofNat b.toNat], none)
  else if 0xc2 ≤ b ∧ b ≤ 0xdf then ([], some { bits := b.toNat - 0xc0, owed := 0 })
  else if b = 0xe0 then ([], some { bits := 0, owed := 1, low := 0xa0 })
  else if b = 0xed then ([], some { bits := 0xd, owed := 1, high := 0x9f })
  else if 0xe1 ≤ b ∧ b ≤ 0xef then ([], some { bits := b.toNat - 0xe0, owed := 1 })
  else if b = 0xf0 then ([], some { bits := 0, owed := 2, low := 0x90 })
  else if b = 0xf4 then ([], some { bits := 4, owed := 2, high := 0x8f })
  else if 0xf1 ≤ b ∧ b ≤ 0xf3 then ([], some { bits := b.toNat - 0xf0, owed := 2 })
  else ([replacement], none)

def step : Option Unfinished → UInt8 → List Char × Option Unfinished
  | none, b => lead b
  | some u, b =>
    if u.low ≤ b ∧ b ≤ u.high then
      let bits := u.bits * 64 + (b.toNat - 0x80)
      match u.owed with
      | 0 => ([Char.ofNat bits], none)
      | owed + 1 => ([], some { bits, owed })
    else
      (replacement :: (lead b).1, (lead b).2)

def flush : Option Unfinished → List Char
  | none => []
  | some _ => [replacement]

def decodeFrom : Option Unfinished → List UInt8 → List Char
  | u, [] => flush u
  | u, b :: bs => (step u b).1 ++ decodeFrom (step u b).2 bs

def decode (bytes : List UInt8) : List Char := decodeFrom none bytes

@[simp] theorem decode_nil : decode [] = [] := rfl

theorem lead_of_le {b : UInt8} (h : b ≤ 0x7f) : lead b = ([Char.ofNat b.toNat], none) := by
  simp [lead, h]

theorem step_of_le {u : Option Unfinished} {b : UInt8} (h : b ≤ 0x7f)
    (hu : ∀ v ∈ u, 0x80 ≤ v.low) : step u b = (flush u ++ [Char.ofNat b.toNat], none) := by
  cases u with
  | none => simp [step, flush, lead_of_le h]
  | some v =>
    have hv := hu v rfl
    have hlow : ¬ (v.low ≤ b ∧ b ≤ v.high) := by
      intro ⟨hlo, _⟩
      have := UInt8.le_iff_toNat_le.1 (UInt8.le_trans (UInt8.le_trans hv hlo) h)
      simp at this
    simp [step, hlow, flush, lead_of_le h]

end Utf8

end ParkingLot.Text
