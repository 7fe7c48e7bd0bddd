import ParkingLot.Language.SyntaxError
/-!
# Diagnostics

A syntax error prepared for display beside the source it comes from.
-/

namespace ParkingLot

/-- A fault with the source file, the bytes to underline, and a short note to put there. -/
structure Diagnostic where
  message : String
  path : String
  offset : Nat
  length : Nat
  label : String
deriving DecidableEq, Repr

def Diagnostic.code : String := "lot::syntax"

def SyntaxError.label (e : SyntaxError) : String :=
  match e.cause with
  | .expected kind => s!"expected {kind.name} here"
  | .unexpected => "not a statement keyword"
  | .invalidNumber => "does not fit in a 64-bit integer"

def SyntaxError.diagnostic (path : String) (e : SyntaxError) : Diagnostic where
  message := e.message
  path := path
  offset := e.span.start
  length := e.span.length
  label := e.label

def SyntaxErrors.diagnostics (path : String) (es : SyntaxErrors) : List Diagnostic :=
  es.toList.map (SyntaxError.diagnostic path)

end ParkingLot
