import ParkingLot.Language.Cursor
import ParkingLot.Language.Statement
import ParkingLot.Language.SyntaxError
import ParkingLot.Text.Numeral
/-!
# From tokens to programs

A list of tokens is read up to its first end marker. A list without one ends where its last token
stops. The first token that does not fit stops the reading, so there is never more than one fault
to report.
-/

namespace ParkingLot

open Text

namespace Parse

/-- Takes a token of the given kind. A missing token is reported at `stop`, the end marker. -/
def expect (stop : Token) (kind : TokenKind) :
    List Token → Except SyntaxError (Token × List Token)
  | [] => .error (.ofToken stop (.expected kind))
  | t :: ts => if t.kind = kind then .ok (t, ts) else .error (.ofToken t (.expected kind))

def word (stop : Token) (ts : List Token) : Except SyntaxError (Token × List Token) :=
  expect stop .word ts

def int (stop : Token) (ts : List Token) :
    Except SyntaxError ((Int64 × Token) × List Token) := do
  let (t, ts) ← expect stop .int ts
  match readInt64? t.literal with
  | some n => .ok ((n, t), ts)
  | none => .error (.ofToken t .invalidNumber)

/-- Takes the operands that a keyword calls for, and gives the statement with its last token. -/
def operands (stop head : Token) (k : Keyword) (ts : List Token) :
    Except SyntaxError ((Statement × Token) × List Token) :=
  match k with
  | .createParkingLot => do
    let ((n, last), ts) ← int stop ts
    return ((.createParkingLot n, last), ts)
  | .park => do
    let (registration, ts) ← word stop ts
    let (colour, ts) ← word stop ts
    return ((.park registration.literal colour.literal, colour), ts)
  | .leave => do
    let ((n, last), ts) ← int stop ts
    return ((.leave n, last), ts)
  | .status => return ((.status, head), ts)
  | .registrationNumbersWithColour => do
    let (colour, ts) ← word stop ts
    return ((.registrationNumbersWithColour colour.literal, colour), ts)
  | .slotNumbersWithColour => do
    let (colour, ts) ← word stop ts
    return ((.slotNumbersWithColour colour.literal, colour), ts)
  | .slotNumberWithRegistration => do
    let (registration, ts) ← word stop ts
    return ((.slotNumberWithRegistration registration.literal, registration), ts)

theorem length_le_of_expect {stop t : Token} {kind : TokenKind} {ts rest : List Token}
    (h : expect stop kind ts = .ok (t, rest)) : rest.length ≤ ts.length := by
  cases ts with
  | nil => simp [expect] at h
  | cons t ts =>
    simp only [expect] at h
    split at h
    · cases h
      simp
    · contradiction

theorem length_le_of_int {stop t : Token} {n : Int64} {ts rest : List Token}
    (h : int stop ts = .ok ((n, t), rest)) : rest.length ≤ ts.length := by
  simp only [int, bind, Except.bind] at h
  split at h
  · contradiction
  · next r hr =>
    split at h
    · cases h
      exact length_le_of_expect hr
    · contradiction

theorem length_le_of_operands {stop head last : Token} {k : Keyword} {s : Statement}
    {ts rest : List Token} (h : operands stop head k ts = .ok ((s, last), rest)) :
    rest.length ≤ ts.length := by
  cases k <;> simp only [operands, bind, Except.bind, pure, Except.pure, word] at h
  case park =>
    split at h
    · contradiction
    · next hr =>
      split at h
      · contradiction
      · next hs =>
        cases h
        exact Nat.le_trans (length_le_of_expect hs) (length_le_of_expect hr)
  case status =>
    cases h
    exact Nat.le_refl _
  all_goals
    split at h
    · contradiction
    · next hr =>
      cases h
      first | exact length_le_of_expect hr | exact length_le_of_int hr

def statements (stop : Token) : List Token → Except SyntaxError (List Located)
  | [] => .ok []
  | head :: ts =>
    match head.kind with
    | .keyword k =>
      match _h : operands stop head k ts with
      | .error e => .error e
      | .ok ((s, last), rest) =>
        (statements stop rest).map (⟨s, head.span.enclose last.span⟩ :: ·)
    | _ => .error (.ofToken head .unexpected)
termination_by ts => ts.length
decreasing_by
  have := length_le_of_operands _h
  simp only [List.length_cons]
  omega

def body (ts : List Token) : List Token := ts.takeWhile (·.kind != .eof)

/-- The first end marker. Without one, it stands where the last token stops. -/
def endMark (ts : List Token) : Token :=
  (ts.find? (·.kind == .eof)).getD (.eof ((ts.getLast?.map (·.span.stop)).getD 0))

end Parse

namespace Program

/-- The program that the tokens make up, or the first fault. -/
def ofTokens (ts : List Token) : Except SyntaxErrors Program :=
  match Parse.statements (Parse.endMark ts) (Parse.body ts) with
  | .ok items => .ok ⟨items⟩
  | .error e => .error { first := e }

def ofText (text : String) : Except SyntaxErrors Program := ofTokens (tokenize text)

end Program

end ParkingLot
