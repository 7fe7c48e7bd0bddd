import ParkingLot.Text.Utf8
/-!
# Registration numbers

A registration number has four fields, joined by hyphens: two capital letters, two digits, one or
two capital letters, three or four digits. Letters and digits are ASCII, and the fields are measured
and looked at byte by byte.
-/

namespace ParkingLot.Registration

open Text

def isCapital (b : UInt8) : Bool := 'A'.toUInt8 ≤ b && b ≤ 'Z'.toUInt8

def isDigit (b : UInt8) : Bool := '0'.toUInt8 ≤ b && b ≤ '9'.toUInt8

/-- Whether a field has at least `least` and at most `most` bytes, all of them in a class. -/
def isField (p : UInt8 → Bool) (least most : Nat) (field : List Char) : Bool :=
  let bytes := Utf8.encode field
  decide (least ≤ bytes.length) && decide (bytes.length ≤ most) && bytes.all p

def isValid (s : String) : Bool :=
  match s.toList.splitOn '-' with
  | [area, district, series, number] =>
    isField isCapital 2 2 area && isField isDigit 2 2 district &&
      isField isCapital 1 2 series && isField isDigit 3 4 number
  | _ => false

end ParkingLot.Registration
