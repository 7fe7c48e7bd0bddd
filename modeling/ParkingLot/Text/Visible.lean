import ParkingLot.Text.DefaultIgnorable
import ParkingLot.Text.GraphemeExtend
import ParkingLot.Text.Unprintable
/-!
# Visible characters

A character is visible when it can be told from its looks, standing alone: it has a form, the form
is not blank unless it is the space, and it does not merge with the character before it.
-/

namespace ParkingLot.Text

/-- The halfwidth voiced sound marks of katakana. They extend the character before them, but have
a form and a cell of their own. -/
def isHalfwidthSoundMark (c : Char) : Bool := c == '\uff9e' || c == '\uff9f'

/-- Whether a character merges with the one before it. -/
def mergesLeft (c : Char) : Bool := isGraphemeExtend c && !isHalfwidthSoundMark c

def isVisible (c : Char) : Bool := !(mergesLeft c || isUnprintable c || isDefaultIgnorable c)

end ParkingLot.Text
