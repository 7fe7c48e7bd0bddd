import ParkingLot.Text.CodeRanges
/-!
# Blank text

The Unicode property White_Space, by which a line counts as blank. It is wider than the four
characters that separate words of the command language.
-/

namespace ParkingLot.Text

/-- The code points with the property White_Space. -/
def whiteSpaceRanges : CodeRanges :=
  [(0x9, 0xd), (0x20, 0x20), (0x85, 0x85), (0xa0, 0xa0), (0x1680, 0x1680), (0x2000, 0x200a),
   (0x2028, 0x2029), (0x202f, 0x202f), (0x205f, 0x205f), (0x3000, 0x3000)]

def isWhiteSpace (c : Char) : Bool := whiteSpaceRanges.contains c.toNat

def isBlank (cs : List Char) : Bool := cs.all isWhiteSpace

end ParkingLot.Text
