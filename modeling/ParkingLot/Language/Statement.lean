import ParkingLot.Language.Keyword
import ParkingLot.Text.Span
/-!
# Statements and programs

A program is a flat list of statements, a statement a keyword with its operands. Programs print in
a canonical form: one statement to a line, single spaces between its words.
-/

namespace ParkingLot

open Text

/-- A command with its operands. Whether the operands make sense is not checked here: slot numbers
and capacities are any 64-bit integers, the rest is any text. -/
inductive Statement where
  | createParkingLot (capacity : Int64)
  | park (registration colour : String)
  | leave (slot : Int64)
  | status
  | registrationNumbersWithColour (colour : String)
  | slotNumbersWithColour (colour : String)
  | slotNumberWithRegistration (registration : String)
deriving DecidableEq, Repr

namespace Statement

def keyword : Statement → Keyword
  | createParkingLot _ => .createParkingLot
  | park _ _ => .park
  | leave _ => .leave
  | status => .status
  | registrationNumbersWithColour _ => .registrationNumbersWithColour
  | slotNumbersWithColour _ => .slotNumbersWithColour
  | slotNumberWithRegistration _ => .slotNumberWithRegistration

def operandTexts : Statement → List String
  | createParkingLot capacity => [toString capacity.toInt]
  | park registration colour => [registration, colour]
  | leave slot => [toString slot.toInt]
  | status => []
  | registrationNumbersWithColour colour => [colour]
  | slotNumbersWithColour colour => [colour]
  | slotNumberWithRegistration registration => [registration]

def text (s : Statement) : String := " ".intercalate (s.keyword.spelling :: s.operandTexts)

end Statement

structure Located where
  statement : Statement
  span : Span
deriving DecidableEq, Repr

structure Program where
  items : List Located
deriving DecidableEq, Repr

namespace Program

def statements (p : Program) : List Statement := p.items.map Located.statement

def isEmpty (p : Program) : Bool := p.items.isEmpty

end Program

/-- The canonical text of a list of statements. No statement makes no text. -/
def canonicalText (ss : List Statement) : String := "\n".intercalate (ss.map Statement.text)

end ParkingLot
