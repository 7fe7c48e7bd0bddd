import ParkingLot.Language.Cursor
/-!
# Asking for tokens

A cursor can be asked for the next token, for the next item, and for all items that are left.  An
item is a token that is no end marker.  All three move the one cursor, and calls of them may come
in any order.
-/

namespace ParkingLot

namespace Cursor

def item (c : Cursor) : Option Token × Cursor :=
  let (t, d) := c.next
  (if t.kind = .eof then none else some t, d)

theorem length_rest_lt_of_item {c d : Cursor} {t : Token} (h : c.item = (some t, d)) :
    d.rest.length < c.rest.length := by
  cases hnext : c.next? with
  | none => simp [item, next, hnext, Token.eof] at h
  | some r =>
    obtain ⟨u, e⟩ := r
    simp only [item, next, hnext, Prod.mk.injEq] at h
    exact h.2 ▸ length_rest_lt_of_next? hnext

def drain (c : Cursor) : List Token × Cursor :=
  match _h : c.item with
  | (none, d) => ([], d)
  | (some t, d) => (t :: d.drain.1, d.drain.2)
termination_by c.rest.length
decreasing_by all_goals exact length_rest_lt_of_item _h

inductive Call where
  /-- The next token, be it the end marker. -/
  | token
  /-- The next item, if there is one. -/
  | item
  /-- All items that are left. -/
  | rest
deriving DecidableEq, Repr

inductive Answer where
  | token (t : Token)
  | item (t : Option Token)
  | rest (ts : List Token)
deriving DecidableEq, Repr

def call (c : Cursor) : Call → Answer × Cursor
  | .token => (.token c.next.1, c.next.2)
  | .item => (.item c.item.1, c.item.2)
  | .rest => (.rest c.drain.1, c.drain.2)

def answers (c : Cursor) : List Call → List Answer
  | [] => []
  | k :: ks => (c.call k).1 :: (c.call k).2.answers ks

end Cursor

end ParkingLot
