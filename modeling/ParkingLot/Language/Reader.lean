import ParkingLot.Language.Parse
/-!
# Reading by position

The list of tokens stays as it is, and the reader keeps a position in it.  It looks at the token
there and steps over it, unless it is an end marker.  Behind the last token it sees an end marker of
its own making.
-/

namespace ParkingLot

open Text

namespace Reader

variable (tokens : List Token)

def endToken : Token := .eof ((tokens.getLast?.map (·.span.stop)).getD 0)

def peek (pos : Nat) : Token := tokens[pos]?.getD (endToken tokens)

/-- The position behind the token.  An end marker is never stepped over. -/
def advance (pos : Nat) : Nat := if (peek tokens pos).kind = .eof then pos else pos + 1

def previousStop : Nat → Nat
  | 0 => 0
  | i + 1 => (tokens[i]?.map (·.span.stop)).getD 0

def expect (kind : TokenKind) (pos : Nat) : Except SyntaxError (Token × Nat) :=
  let t := peek tokens pos
  if t.kind = kind then .ok (t, advance tokens pos) else .error (.ofToken t (.expected kind))

def word (pos : Nat) : Except SyntaxError (String × Nat) := do
  let (t, pos) ← expect tokens .word pos
  return (t.literal, pos)

def int (pos : Nat) : Except SyntaxError (Int64 × Nat) := do
  let (t, pos) ← expect tokens .int pos
  match readInt64? t.literal with
  | some n => .ok (n, pos)
  | none => .error (.ofToken t .invalidNumber)

def operands (k : Keyword) (pos : Nat) : Except SyntaxError (Statement × Nat) :=
  match k with
  | .createParkingLot => do
    let (n, pos) ← int tokens pos
    return (.createParkingLot n, pos)
  | .park => do
    let (registration, pos) ← word tokens pos
    let (colour, pos) ← word tokens pos
    return (.park registration colour, pos)
  | .leave => do
    let (n, pos) ← int tokens pos
    return (.leave n, pos)
  | .status => return (.status, pos)
  | .registrationNumbersWithColour => do
    let (colour, pos) ← word tokens pos
    return (.registrationNumbersWithColour colour, pos)
  | .slotNumbersWithColour => do
    let (colour, pos) ← word tokens pos
    return (.slotNumbersWithColour colour, pos)
  | .slotNumberWithRegistration => do
    let (registration, pos) ← word tokens pos
    return (.slotNumberWithRegistration registration, pos)

def statement (pos : Nat) : Except SyntaxError (Located × Nat) :=
  let head := peek tokens pos
  match head.kind with
  | .keyword k => do
    let (s, after) ← operands tokens k (advance tokens pos)
    return (⟨s, ⟨head.span.start, previousStop tokens after⟩⟩, after)
  | _ => .error (.ofToken head .unexpected)

variable {tokens} {pos after : Nat}

theorem lt_length_of_peek (h : (peek tokens pos).kind ≠ .eof) : pos < tokens.length := by
  apply Nat.lt_of_not_le
  intro hle
  rw [peek, List.getElem?_eq_none hle] at h
  exact h rfl

theorem le_advance : pos ≤ advance tokens pos := by
  unfold advance
  split
  · exact Nat.le_refl pos
  · exact Nat.le_succ pos

theorem le_of_expect {kind : TokenKind} {t : Token}
    (h : expect tokens kind pos = .ok (t, after)) : pos ≤ after := by
  simp only [expect] at h
  split at h
  · cases h
    exact le_advance
  · contradiction

theorem le_of_word {w : String} (h : word tokens pos = .ok (w, after)) : pos ≤ after := by
  simp only [word, bind, Except.bind] at h
  split at h
  · contradiction
  · next r hr =>
    cases h
    exact le_of_expect hr

theorem le_of_int {n : Int64} (h : int tokens pos = .ok (n, after)) : pos ≤ after := by
  simp only [int, bind, Except.bind] at h
  split at h
  · contradiction
  · next r hr =>
    split at h
    · cases h
      exact le_of_expect hr
    · contradiction

theorem le_of_operands {k : Keyword} {s : Statement}
    (h : operands tokens k pos = .ok (s, after)) : pos ≤ after := by
  cases k <;> simp only [operands, bind, Except.bind, pure, Except.pure] at h
  case park =>
    split at h
    · contradiction
    · next hr =>
      split at h
      · contradiction
      · next hc =>
        cases h
        exact Nat.le_trans (le_of_word hr) (le_of_word hc)
  case status =>
    cases h
    exact Nat.le_refl _
  all_goals
    split at h
    · contradiction
    · next hr =>
      cases h
      first | exact le_of_word hr | exact le_of_int hr

theorem lt_of_statement {item : Located} (h : statement tokens pos = .ok (item, after)) :
    pos < after := by
  simp only [statement] at h
  split at h
  · next k hk =>
    simp only [bind, Except.bind] at h
    split at h
    · contradiction
    · next r hr =>
      cases h
      have hpast : advance tokens pos = pos + 1 := by simp [advance, hk]
      have hle := le_of_operands hr
      omega
  · contradiction

variable (tokens) in
def items (pos : Nat) : Except SyntaxError (List Located) :=
  if _hpeek : (peek tokens pos).kind = .eof then .ok []
  else
    match _hnext : statement tokens pos with
    | .error e => .error e
    | .ok (item, after) => (items after).map (item :: ·)
termination_by tokens.length - pos
decreasing_by
  have hlt := lt_length_of_peek _hpeek
  have hgrow := lt_of_statement _hnext
  omega

variable (tokens) in
def program : Except SyntaxErrors Program :=
  match items tokens 0 with
  | .ok items => .ok ⟨items⟩
  | .error e => .error { first := e }

end Reader

end ParkingLot
