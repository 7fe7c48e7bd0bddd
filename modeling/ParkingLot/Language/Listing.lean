import ParkingLot.Language.Token
/-!
# Token listings

One line per token: its offset, the name of its kind and its literal, separated by tabs. Nothing is
escaped: no token read from a text holds a tab or a line feed.
-/

namespace ParkingLot

namespace Token

def listing (t : Token) : String := s!"{t.pos}\t{t.kind.name}\t{t.literal}"

def listings (ts : List Token) : String := String.join (ts.map (·.listing ++ "\n"))

end Token

end ParkingLot
