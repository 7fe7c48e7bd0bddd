import ParkingLot.Language.Token
import ParkingLot.Text.Quoted
/-!
# Syntax errors

Why a list of tokens is no program, and the token at fault.
-/

namespace ParkingLot

open Text

inductive SyntaxError.Cause where
  /-- A token of this kind should stand in its place. -/
  | expected (kind : TokenKind)
  /-- It stands where a statement starts, but is no keyword. -/
  | unexpected
  /-- It is a numeral without a 64-bit value. -/
  | invalidNumber
deriving DecidableEq, Repr

/-- A token at fault, by its text and place. -/
structure SyntaxError where
  cause : SyntaxError.Cause
  literal : String
  span : Span
deriving DecidableEq, Repr

namespace SyntaxError

def ofToken (found : Token) (cause : Cause) : SyntaxError := ⟨cause, found.literal, found.span⟩

def message (e : SyntaxError) : String :=
  match e.cause with
  | .expected kind =>
    s!"unexpected token {quote e.literal} at pos {e.span.start}, expecting {kind.name}"
  | .unexpected => s!"unexpected token {quote e.literal} at pos {e.span.start}"
  | .invalidNumber => s!"invalid number {quote e.literal} at pos {e.span.start}"

end SyntaxError

/-- The faults of one text. There is at least one. -/
structure SyntaxErrors where
  first : SyntaxError
  others : List SyntaxError := []
deriving DecidableEq, Repr

namespace SyntaxErrors

def toList (es : SyntaxErrors) : List SyntaxError := es.first :: es.others

def message (es : SyntaxErrors) : String :=
  "\n".intercalate (es.toList.map SyntaxError.message)

end SyntaxErrors

end ParkingLot
