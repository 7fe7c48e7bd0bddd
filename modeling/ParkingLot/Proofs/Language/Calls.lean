import ParkingLot.Language.Calls
import ParkingLot.Proofs.Language.Grammar
import ParkingLot.Proofs.Language.Tokenization
/-!
# One cursor behind all calls

However a cursor is asked, an answer takes the tokens that it gives off the front of those that are
left (`tokens_call`).  A call that meets the end of the text leaves the cursor there
(`call_of_metEnd`), and from there every call gives the same answer for good (`answers_finish`).
-/

namespace ParkingLot.Cursor

def Answer.tokens : Answer → List Token
  | token t => if t.kind = .eof then [] else [t]
  | item t => t.toList
  | rest ts => ts

/-- Whether the answer says that the text has come to its end. -/
def Answer.MetEnd : Answer → Prop
  | token t => t.kind = .eof
  | item t => t = none
  | rest _ => True

def Call.atEnd (n : Nat) : Call → Answer
  | token => .token (.eof n)
  | item => .item none
  | rest => .rest []

variable {c d : Cursor} {t : Token}

/-! ## The end of the text -/

@[simp] theorem next?_finish (c : Cursor) : c.finish.next? = none :=
  next?_eq_none_iff.2 (by simp [finish])

@[simp] theorem finish_finish (c : Cursor) : c.finish.finish = c.finish := rfl

@[simp] theorem tokens_finish (c : Cursor) : c.finish.tokens = [] :=
  tokens_of_next?_eq_none c.next?_finish

theorem finish_of_next? (h : c.next? = some (t, d)) : d.finish = c.finish := by
  rw [finish, finish, end_of_next? h]

theorem kind_of_next? (h : c.next? = some (t, d)) : t.kind ≠ .eof := by
  apply kind_ne_eof_of_mem_tokens (c := c)
  rw [tokens_of_next?_eq_some h]
  exact List.mem_cons_self

/-! ## One call -/

theorem next_of_next?_eq_some (h : c.next? = some (t, d)) : c.next = (t, d) := by
  rw [next, h]

theorem next_of_next?_eq_none (h : c.next? = none) :
    c.next = (.eof c.finish.offset, c.finish) := by
  rw [next, h]

theorem item_of_next?_eq_some (h : c.next? = some (t, d)) : c.item = (some t, d) := by
  simp [item, next_of_next?_eq_some h, kind_of_next? h]

theorem item_of_next?_eq_none (h : c.next? = none) : c.item = (none, c.finish) := by
  simp [item, next_of_next?_eq_none h, Token.eof]

private theorem drain_of_item_eq_some (h : c.item = (some t, d)) :
    c.drain = (t :: d.drain.1, d.drain.2) := by
  rw [drain]
  split
  · next hitem => rw [h] at hitem; cases hitem
  · next hitem =>
    rw [h] at hitem
    cases hitem
    rfl

private theorem drain_of_item_eq_none (h : c.item = (none, d)) : c.drain = ([], d) := by
  rw [drain]
  split
  · next hitem =>
    rw [h] at hitem
    cases hitem
    rfl
  · next hitem => rw [h] at hitem; cases hitem

/-- All items that are left are all tokens that are left. -/
theorem drain_eq (c : Cursor) : c.drain = (c.tokens, c.finish) := by
  fun_induction tokens c with
  | case1 c hnone => rw [drain_of_item_eq_none (item_of_next?_eq_none hnone)]
  | case2 c t d hsome ih =>
      rw [drain_of_item_eq_some (item_of_next?_eq_some hsome), ih, finish_of_next? hsome]

/-- An answer takes its tokens off the front of those that are left. -/
theorem tokens_call (c : Cursor) (k : Call) :
    c.tokens = (c.call k).1.tokens ++ (c.call k).2.tokens := by
  cases hnext : c.next? with
  | none =>
      rw [tokens_of_next?_eq_none hnext]
      cases k with
      | token => simp [call, next_of_next?_eq_none hnext, Answer.tokens, Token.eof]
      | item => simp [call, item_of_next?_eq_none hnext, Answer.tokens]
      | rest => simp [call, drain_eq, tokens_of_next?_eq_none hnext, Answer.tokens]
  | some r =>
      obtain ⟨t, d⟩ := r
      rw [tokens_of_next?_eq_some hnext]
      cases k with
      | token =>
          simp [call, next_of_next?_eq_some hnext, Answer.tokens, kind_of_next? hnext]
      | item => simp [call, item_of_next?_eq_some hnext, Answer.tokens]
      | rest => simp [call, drain_eq, tokens_of_next?_eq_some hnext, Answer.tokens]

theorem finish_call (c : Cursor) (k : Call) : (c.call k).2.finish = c.finish := by
  cases hnext : c.next? with
  | none =>
      cases k with
      | token => rw [call, next_of_next?_eq_none hnext, finish_finish]
      | item => rw [call, item_of_next?_eq_none hnext, finish_finish]
      | rest => rw [call, drain_eq, finish_finish]
  | some r =>
      cases k with
      | token => rw [call, next_of_next?_eq_some hnext, finish_of_next? hnext]
      | item => rw [call, item_of_next?_eq_some hnext, finish_of_next? hnext]
      | rest => rw [call, drain_eq, finish_finish]

/-- A call that meets the end leaves the cursor there, separators behind the last token or not. -/
theorem call_of_metEnd {k : Call} (h : (c.call k).1.MetEnd) : (c.call k).2 = c.finish := by
  cases k with
  | rest => rw [call, drain_eq]
  | token =>
      cases hnext : c.next? with
      | none => rw [call, next_of_next?_eq_none hnext]
      | some r =>
          rw [call, next_of_next?_eq_some hnext] at h
          exact absurd h (kind_of_next? hnext)
  | item =>
      cases hnext : c.next? with
      | none => rw [call, item_of_next?_eq_none hnext]
      | some r =>
          rw [call, item_of_next?_eq_some hnext] at h
          cases h

theorem eq_eof_of_call {k : Call} (h : (c.call k).1 = .token t) (ht : t.kind = .eof) :
    t = .eof c.finish.offset := by
  cases k with
  | item => cases h
  | rest => cases h
  | token =>
      cases hnext : c.next? with
      | none =>
          rw [call, next_of_next?_eq_none hnext] at h
          cases h
          rfl
      | some r =>
          rw [call, next_of_next?_eq_some hnext] at h
          cases h
          exact absurd ht (kind_of_next? hnext)

private theorem call_finish (c : Cursor) (k : Call) :
    c.finish.call k = (k.atEnd c.finish.offset, c.finish) := by
  have hnone := c.next?_finish
  cases k with
  | token => rw [call, next_of_next?_eq_none hnone, finish_finish, Call.atEnd]
  | item => rw [call, item_of_next?_eq_none hnone, finish_finish, Call.atEnd]
  | rest => rw [call, drain_eq, tokens_finish, finish_finish, Call.atEnd]

/-! ## One call after the other -/

variable {a : Answer} {i : Nat}

theorem answers_finish (c : Cursor) (ks : List Call) :
    c.finish.answers ks = ks.map (Call.atEnd c.finish.offset) := by
  induction ks with
  | nil => rfl
  | cons k ks ih => rw [answers, call_finish, ih, List.map_cons]

private theorem isPrefixOf_tokens (c : Cursor) (ks : List Call) :
    (c.answers ks).flatMap Answer.tokens <+: c.tokens := by
  induction ks generalizing c with
  | nil => exact List.nil_prefix
  | cons k ks ih =>
      rw [answers, List.flatMap_cons, tokens_call c k, List.prefix_append_right_inj]
      exact ih _

/-- Once a call has met the end, all tokens have come back, and no later call brings any. -/
theorem answers_of_metEnd {ks : List Call} (h : (c.answers ks)[i]? = some a) (ha : a.MetEnd) :
    ((c.answers ks).take (i + 1)).flatMap Answer.tokens = c.tokens ∧
      (c.answers ks).drop (i + 1) = (ks.drop (i + 1)).map (Call.atEnd c.finish.offset) := by
  induction ks generalizing c i with
  | nil => cases h
  | cons k ks ih =>
      rw [answers] at h ⊢
      cases i with
      | zero =>
          cases h
          have hend := call_of_metEnd ha
          have htokens := tokens_call c k
          rw [hend, tokens_finish, List.append_nil] at htokens
          constructor
          · simp [htokens]
          · rw [List.drop_succ_cons, List.drop_zero, hend, answers_finish]
            rfl
      | succ i =>
          obtain ⟨htokens, hlater⟩ := ih h
          constructor
          · rw [List.take_succ_cons, List.flatMap_cons, htokens, ← tokens_call]
          · rw [List.drop_succ_cons, hlater, finish_call, List.drop_succ_cons]

theorem eq_eof_of_mem_answers {ks : List Call} (h : .token t ∈ c.answers ks)
    (ht : t.kind = .eof) : t = .eof c.finish.offset := by
  induction ks generalizing c with
  | nil => cases h
  | cons k ks ih =>
      rw [answers, List.mem_cons] at h
      rcases h with h | h
      · exact eq_eof_of_call h.symm ht
      · rw [ih h, finish_call]

/-- However a text is asked for its tokens, call by call, they come back in order and none twice:
what has come back is a prefix of them, and all of them once a call has met the end.  From then on
every call is answered by the one end marker, by no item or by no items. -/
theorem answers_share_cursor (text : String) (ks : List Call) :
    let answers := (ofText text).answers ks
    answers.flatMap Answer.tokens <+: (tokenize text).dropLast ∧
      (∀ t, .token t ∈ answers → t.kind = .eof → t = .eof text.utf8ByteSize) ∧
      ∀ i a, answers[i]? = some a → a.MetEnd →
        (answers.take (i + 1)).flatMap Answer.tokens = (tokenize text).dropLast ∧
          answers.drop (i + 1) = (ks.drop (i + 1)).map (Call.atEnd text.utf8ByteSize) := by
  intro answers
  have hend : (ofText text).finish.offset = text.utf8ByteSize := by
    rw [finish, ofText, Nat.zero_add, byteLength_toList]
  rw [tokenize_eq, List.dropLast_concat, ← hend]
  exact ⟨isPrefixOf_tokens _ ks, fun t => eq_eof_of_mem_answers,
    fun i a => answers_of_metEnd⟩

example : (ofText "leave 4 status ").answers [.token, .item, .rest, .token, .item, .rest] =
    [.token ⟨.keyword .leave, ⟨0, 5⟩, "leave"⟩, .item (some ⟨.int, ⟨6, 7⟩, "4"⟩),
      .rest [⟨.keyword .status, ⟨8, 14⟩, "status"⟩], .token (.eof 15), .item none, .rest []] := by
  decide +kernel

end ParkingLot.Cursor
