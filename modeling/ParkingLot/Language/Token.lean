import ParkingLot.Language.Keyword
import ParkingLot.Text.Span
/-!
# Tokens

A token is a classified piece of a text together with the place where it stands.
-/

namespace ParkingLot

/-- The classes of tokens. Each keyword is a class of its own. -/
inductive TokenKind where
  /-- A single character that starts nothing. -/
  | illegal
  /-- The end of the text. -/
  | eof
  /-- A run of digits. -/
  | int
  /-- A word that is no keyword. -/
  | word
  | keyword (k : Keyword)
deriving DecidableEq, Repr

namespace TokenKind

def name : TokenKind → String
  | illegal => "ILLEGAL"
  | eof => "EOF"
  | int => "INT"
  | word => "STRING"
  | keyword k => k.spelling

def all : List TokenKind := [illegal, eof, int, word] ++ Keyword.all.map keyword

def ofName? (s : String) : Option TokenKind := all.find? (·.name == s)

def ofWord (w : String) : TokenKind :=
  match Keyword.ofSpelling? w with
  | some k => keyword k
  | none => word

@[simp] theorem ofWord_spelling (k : Keyword) : ofWord k.spelling = keyword k := by
  simp [ofWord]

end TokenKind

/-- A piece of a text: its class, where it stands, and its characters. Tokens need not come from
a text; then span and literal are what their maker says. -/
structure Token where
  kind : TokenKind
  span : Text.Span
  literal : String
deriving DecidableEq, Repr

namespace Token

def eof (offset : Nat) : Token := ⟨.eof, ⟨offset, offset⟩, ""⟩

def pos (t : Token) : Nat := t.span.start

end Token

end ParkingLot
