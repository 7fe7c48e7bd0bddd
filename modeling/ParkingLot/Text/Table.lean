/-!
# Tables

Rows of cells as aligned columns. A column is as wide as the widest of its cells that have a
neighbour to the right, and four spaces keep it from the next one. The last cell of a row is never
padded and has no say in any width. Widths count characters.
-/

namespace ParkingLot.Text

abbrev Row := List String

namespace Table

def gap : Nat := 4

/-- Widens columns so that the given cell widths fit as well. -/
def widen : List Nat → List Nat → List Nat
  | columns, [] => columns
  | [], cells => cells
  | column :: columns, cell :: cells => max column cell :: widen columns cells

/-- The widths of the columns, from the cells that are not last in their row. -/
def widths (rows : List Row) : List Nat :=
  rows.foldl (fun columns row => widen columns (row.dropLast.map String.length)) []

def pad (width : Nat) (cell : String) : String :=
  cell ++ String.ofList (List.replicate (width - cell.length) ' ')

/-- A row without its line feed, under the given column widths. -/
def renderRow : List Nat → Row → String
  | _, [] => ""
  | _, [cell] => cell
  | columns, cell :: cells => pad (columns.headD 0 + gap) cell ++ renderRow columns.tail cells

def lines (rows : List Row) : List String := rows.map (renderRow (widths rows))

/-- The whole table. Every row ends with a line feed, an empty row too. -/
def render (rows : List Row) : String := String.join ((lines rows).map (· ++ "\n"))

end Table

def withoutLast (s : String) : String := String.ofList s.toList.dropLast

end ParkingLot.Text
