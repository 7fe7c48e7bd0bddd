/-!
# Lines

Input is cut into lines that keep their line feed, so that the pieces join to the input again.
The cut works on bytes and on characters alike.
-/

namespace ParkingLot.Text

variable {α : Type} [BEq α]

/-- Cuts a list after each occurrence of `stop`. Every piece but the last ends with `stop`, and no
piece is empty. -/
def cutAfter (stop : α) : List α → List (List α)
  | [] => []
  | a :: as =>
    if a == stop then [a] :: cutAfter stop as
    else
      match cutAfter stop as with
      | [] => [[a]]
      | line :: lines => (a :: line) :: lines

@[simp] theorem cutAfter_nil (stop : α) : cutAfter stop [] = [] := rfl

@[simp] theorem flatten_cutAfter (stop : α) (as : List α) :
    (cutAfter stop as).flatten = as := by
  induction as with
  | nil => rfl
  | cons a as ih =>
    simp only [cutAfter]
    split
    · simp [ih]
    · split
      · next h =>
        rw [h] at ih
        simp [← ih]
      · next line lines h =>
        rw [h] at ih
        simpa using ih

def isLineEnd (c : Char) : Bool := c == '\n' || c == '\r'

def trimLineEnd (line : List Char) : List Char := (line.reverse.dropWhile isLineEnd).reverse

end ParkingLot.Text
