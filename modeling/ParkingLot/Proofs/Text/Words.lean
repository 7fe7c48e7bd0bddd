/-!
# Taking texts apart

The words of a line stand between spaces, the items of a listing between commas with a space
behind them.  Both are found again in a text that is put together from them
(`words_append_spaces`, `items_intercalate`).
-/

namespace ParkingLot.Text

/-- A text that stays in one piece: it is not empty, and spaces, commas and line feeds, which come
before the hyphen in ASCII, are not in it. -/
def IsPlain (s : String) : Prop := s ≠ "" ∧ ∀ c ∈ s.toList, '-' ≤ c

theorem IsPlain.not_mem {s : String} (h : IsPlain s) {c : Char} (hc : c < '-') :
    c ∉ s.toList := by
  intro hmem
  exact Char.not_lt.2 (h.2 c hmem) hc

/-! ## Words -/

def words (line : List Char) : List (List Char) := (line.splitOn ' ').filter (· ≠ [])

private theorem words_space_cons (rest : List Char) : words (' ' :: rest) = words rest := by
  have hsplit : (' ' :: rest).splitOn ' ' = [] :: rest.splitOn ' ' :=
    List.splitOn_append_cons_self_of_not_mem List.not_mem_nil rest
  rw [words, hsplit, List.filter_cons_of_neg (by simp)]
  rfl

theorem words_spaces_append (n : Nat) (rest : List Char) :
    words (List.replicate n ' ' ++ rest) = words rest := by
  induction n with
  | zero => rfl
  | succ n ih => rw [List.replicate_succ, List.cons_append, words_space_cons, ih]

section Word

variable {word : List Char} (hne : word ≠ []) (hspace : ' ' ∉ word)

include hne hspace

theorem words_of_word : words word = [word] := by
  unfold words
  rw [List.splitOn_eq_singleton hspace, List.filter_cons_of_pos (by simp [hne]), List.filter_nil]

theorem words_append_spaces {n : Nat} (hn : 0 < n) (rest : List Char) :
    words (word ++ (List.replicate n ' ' ++ rest)) = word :: words rest := by
  obtain ⟨m, rfl⟩ : ∃ m, n = m + 1 := ⟨n - 1, by omega⟩
  rw [← words_spaces_append m rest, List.replicate_succ, List.cons_append]
  unfold words
  rw [List.splitOn_append_cons_self_of_not_mem hspace, List.filter_cons_of_pos (by simp [hne])]

end Word

/-! ## Items -/

/-- What stands between the separators `", "`. -/
def items : List Char → List (List Char)
  | [] => [[]]
  | ',' :: ' ' :: cs => [] :: items cs
  | c :: cs => (items cs).modifyHead (c :: ·)

private theorem items_cons_of_ne {c : Char} (hc : c ≠ ',') (cs : List Char) :
    items (c :: cs) = (items cs).modifyHead (c :: ·) := by
  rw [items]
  rintro cs' rfl
  contradiction

private theorem items_of_item {item : List Char} (h : ',' ∉ item) : items item = [item] := by
  induction item with
  | nil => rfl
  | cons c cs ih =>
      rw [List.mem_cons, not_or] at h
      rw [items_cons_of_ne (Ne.symm h.1), ih h.2]
      rfl

theorem items_append_separator {item : List Char} (h : ',' ∉ item) (rest : List Char) :
    items (item ++ ',' :: ' ' :: rest) = item :: items rest := by
  induction item with
  | nil => rw [List.nil_append, items]
  | cons c cs ih =>
      rw [List.mem_cons, not_or] at h
      rw [List.cons_append, items_cons_of_ne (Ne.symm h.1), ih h.2]
      rfl

/-- Items without commas are found again. -/
theorem items_intercalate {found : List String} (hne : found ≠ [])
    (h : ∀ item ∈ found, ',' ∉ item.toList) :
    items (", ".intercalate found).toList = found.map String.toList := by
  induction found with
  | nil => contradiction
  | cons item found ih =>
      rw [List.forall_mem_cons] at h
      cases found with
      | nil => rw [String.intercalate_singleton, items_of_item h.1, List.map_singleton]
      | cons next found =>
          have hrest := ih (List.cons_ne_nil _ _) h.2
          rw [String.intercalate_cons_cons, String.toList_append, String.toList_append,
            List.append_assoc]
          exact (items_append_separator h.1 _).trans (congrArg _ hrest)

end ParkingLot.Text
