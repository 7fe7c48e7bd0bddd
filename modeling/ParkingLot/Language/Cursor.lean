import ParkingLot.Language.Token
import ParkingLot.Text.Utf8
/-!
# Reading tokens

A cursor is a position in a text. Reading from it skips separators and then takes the longest
lexeme that starts there:

* a word, from an ASCII letter or `_` up to the next separator;
* a run of ASCII digits;
* otherwise a single illegal character.

Every lexeme takes at least one character, so reading all tokens ends.
-/

namespace ParkingLot

open Text

def isSeparator (c : Char) : Bool := c == ' ' || c == '\t' || c == '\n' || c == '\r'

def startsWord (c : Char) : Bool := c.isAlpha || c == '_'

structure Lexeme where
  kind : TokenKind
  text : List Char
  rest : List Char
deriving DecidableEq, Repr

/-- The first lexeme of the text `c :: cs`, where `c` is no separator. -/
def Lexeme.cut (c : Char) (cs : List Char) : Lexeme :=
  if startsWord c then
    let word := c :: cs.takeWhile (!isSeparator ·)
    ⟨.ofWord (String.ofList word), word, cs.dropWhile (!isSeparator ·)⟩
  else if c.isDigit then
    ⟨.int, c :: cs.takeWhile Char.isDigit, cs.dropWhile Char.isDigit⟩
  else
    ⟨.illegal, [c], cs⟩

theorem Lexeme.text_append_rest (c : Char) (cs : List Char) :
    (cut c cs).text ++ (cut c cs).rest = c :: cs := by
  simp only [cut]
  split
  · simp
  · split <;> simp

theorem Lexeme.length_rest_le (c : Char) (cs : List Char) :
    (cut c cs).rest.length ≤ cs.length := by
  simp only [cut]
  split
  · exact (List.dropWhile_suffix _).length_le
  · split
    · exact (List.dropWhile_suffix _).length_le
    · exact Nat.le_refl _

/-- A position in a text: the number of bytes before it and the characters after it. -/
structure Cursor where
  offset : Nat
  rest : List Char
deriving DecidableEq, Repr

namespace Cursor

def ofText (text : String) : Cursor := ⟨0, text.toList⟩

def skip (c : Cursor) : Cursor :=
  ⟨c.offset + byteLength (c.rest.takeWhile isSeparator), c.rest.dropWhile isSeparator⟩

def finish (c : Cursor) : Cursor := ⟨c.offset + byteLength c.rest, []⟩

def next? (c : Cursor) : Option (Token × Cursor) :=
  match c.skip.rest with
  | [] => none
  | a :: as =>
    let start := c.skip.offset
    let lexeme := Lexeme.cut a as
    let stop := start + byteLength lexeme.text
    some (⟨lexeme.kind, ⟨start, stop⟩, String.ofList lexeme.text⟩, ⟨stop, lexeme.rest⟩)

/-- The next token and the cursor behind it. At the end of the text this is the end marker, again
and again. -/
def next (c : Cursor) : Token × Cursor :=
  match c.next? with
  | some r => r
  | none => (.eof c.finish.offset, c.finish)

theorem length_rest_skip_le (c : Cursor) : c.skip.rest.length ≤ c.rest.length :=
  (List.dropWhile_suffix _).length_le

theorem length_rest_lt_of_next? {c d : Cursor} {t : Token} (h : c.next? = some (t, d)) :
    d.rest.length < c.rest.length := by
  simp only [next?] at h
  split at h
  · contradiction
  · next a as hskip =>
    cases h
    have hle := c.length_rest_skip_le
    rw [hskip, List.length_cons] at hle
    exact Nat.lt_of_le_of_lt (Lexeme.length_rest_le a as) hle

/-- The tokens between the cursor and the end of the text, the end marker left out. -/
def tokens (c : Cursor) : List Token :=
  match _h : c.next? with
  | none => []
  | some (t, d) => t :: d.tokens
termination_by c.rest.length
decreasing_by exact length_rest_lt_of_next? _h

end Cursor

def tokenize (text : String) : List Token :=
  (Cursor.ofText text).tokens ++ [.eof (Cursor.ofText text).finish.offset]

end ParkingLot
