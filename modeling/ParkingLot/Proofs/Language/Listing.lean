import Mathlib.Data.List.Forall2
import ParkingLot.CommandLine.Run
import ParkingLot.Proofs.Language.Tokenization
/-!
# Reading a listing back

Nothing in a listing is escaped, and still it can be read.  A token of a text has no separator in
it, and neither has an offset or the name of a kind, so line feeds stand between the lines only and
tabs between the fields of a line only.  The offset and the literal give the span, and so the tokens
come back from their listing as they were (`listing_lossless`).
-/

namespace ParkingLot

open Text

def Token.ofListing? (line : List Char) : Option Token :=
  match line.splitOn '\t' with
  | [offset, name, literal] => do
    let kind ← TokenKind.ofName? (String.ofList name)
    let start := Nat.ofDigitChars 10 offset 0
    return ⟨kind, ⟨start, start + byteLength literal⟩, String.ofList literal⟩
  | _ => none

/-- The tokens that a listing is about, one for each line. -/
def Token.ofListings? (listing : String) : Option (List Token) :=
  (listing.toList.splitOn '\n').dropLast.mapM Token.ofListing?

/-! ## The fields of a line -/

@[simp] theorem TokenKind.ofName?_name (kind : TokenKind) : ofName? kind.name = some kind := by
  cases kind with
  | keyword k => cases k <;> decide
  | illegal | eof | int | word => decide

theorem TokenKind.name_injective : Function.Injective TokenKind.name := by
  intro kind kind' h
  apply Option.some.inj
  rw [← ofName?_name kind, h, ofName?_name]

theorem TokenKind.not_isSeparator_of_mem_name (kind : TokenKind) :
    ∀ c ∈ kind.name.toList, isSeparator c = false := by
  have hall : kind.name.toList.all (!isSeparator ·) = true := by
    cases kind with
    | keyword k => cases k <;> decide
    | illegal | eof | int | word => decide
  simpa using hall

private theorem not_isSeparator_of_mem_toString (n : Nat) :
    ∀ c ∈ (toString n).toList, isSeparator c = false := by
  intro c hc
  have hdigits : c ∈ Nat.toDigits 10 n := by rwa [← Nat.toList_repr]
  exact not_isSeparator_of_isDigit (Nat.isDigit_of_mem_toDigits (by decide) (by decide) hdigits)

theorem IsLexeme.not_isSeparator_of_mem {kind : TokenKind} {lexeme after : List Char}
    (h : IsLexeme kind lexeme after) : ∀ c ∈ lexeme, isSeparator c = false := by
  cases h with
  | keyword hword => exact hword.unbroken
  | word hword _ => exact hword.unbroken
  | int _ hdigits _ => exact fun c hc => not_isSeparator_of_isDigit (hdigits c hc)
  | illegal hsep _ _ => exact List.forall_mem_singleton.2 hsep

/-- The literal has no separator in it and takes up the whole span. -/
structure Token.IsListable (t : Token) : Prop where
  unbroken : ∀ c ∈ t.literal.toList, isSeparator c = false
  stop_eq : t.span.stop = t.span.start + byteLength t.literal.toList

theorem isListable_of_mem_tokenize {text : String} : ∀ t ∈ tokenize text, t.IsListable := by
  have hlexes : Lexes 0 text.toList (Cursor.ofText text).tokens := lexes_iff_eq_tokens.2 rfl
  intro t ht
  rcases List.mem_append.1 ht with ht | ht
  · obtain ⟨before, after, hstands, hlexeme⟩ := hlexes.lexemes t ht
    exact ⟨hlexeme.not_isSeparator_of_mem, hstands.stop_eq⟩
  · obtain rfl := List.mem_singleton.1 ht
    exact ⟨by simp [Token.eof], rfl⟩

theorem Token.toList_listing (t : Token) : t.listing.toList =
    (toString t.span.start).toList ++
      '\t' :: (t.kind.name.toList ++ '\t' :: t.literal.toList) := by
  unfold listing pos
  rw [String.toList_append, String.toList_append, String.toList_append, String.toList_append,
    List.append_assoc, List.append_assoc, List.append_assoc]
  rfl

namespace Token.IsListable

variable {t : Token} (h : t.IsListable)

include h

theorem separator_not_mem {w : Char} (hw : isSeparator w = true) :
    w ∉ (toString t.span.start).toList ∧ w ∉ t.kind.name.toList ∧ w ∉ t.literal.toList := by
  have hnot : ∀ {cs : List Char}, (∀ c ∈ cs, isSeparator c = false) → w ∉ cs := by
    intro cs hcs hmem
    rw [hcs w hmem] at hw
    contradiction
  exact ⟨hnot (not_isSeparator_of_mem_toString _), hnot t.kind.not_isSeparator_of_mem_name,
    hnot h.unbroken⟩

theorem splitOn_listing : t.listing.toList.splitOn '\t' =
    [(toString t.span.start).toList, t.kind.name.toList, t.literal.toList] := by
  obtain ⟨hoffset, hname, hliteral⟩ := h.separator_not_mem (w := '\t') rfl
  rw [t.toList_listing, List.splitOn_append_cons_self_of_not_mem hoffset,
    List.splitOn_append_cons_self_of_not_mem hname, List.splitOn_eq_singleton hliteral]

theorem count_tab_listing : t.listing.toList.count '\t' = 2 := by
  obtain ⟨hoffset, hname, hliteral⟩ := h.separator_not_mem (w := '\t') rfl
  rw [t.toList_listing, List.count_append, List.count_cons_self, List.count_append,
    List.count_cons_self, List.count_eq_zero_of_not_mem hoffset,
    List.count_eq_zero_of_not_mem hname, List.count_eq_zero_of_not_mem hliteral]

theorem newline_not_mem_listing : '\n' ∉ t.listing.toList := by
  obtain ⟨hoffset, hname, hliteral⟩ := h.separator_not_mem (w := '\n') rfl
  rw [t.toList_listing, List.mem_append, List.mem_cons, List.mem_append, List.mem_cons]
  simp only [hoffset, hname, hliteral, Char.reduceEq, or_false, not_false_eq_true]

theorem ofListing?_listing : ofListing? t.listing.toList = some t := by
  have hstart : Nat.ofDigitChars 10 (toString t.span.start).toList 0 = t.span.start := by
    have hdigits : (toString t.span.start).toList = Nat.toDigits 10 t.span.start :=
      Nat.toList_repr
    rw [hdigits, Nat.ofDigitChars_ten_toDigits]
  rw [ofListing?, h.splitOn_listing]
  simp only [String.ofList_toList, hstart, TokenKind.ofName?_name, Option.bind_eq_bind,
    Option.bind_some, ← h.stop_eq]
  rfl

end Token.IsListable

/-! ## Lines -/

private theorem splitOn_join_lines {lines : List String} (h : ∀ line ∈ lines, '\n' ∉ line.toList) :
    (String.join (lines.map (· ++ "\n"))).toList.splitOn '\n' =
      lines.map String.toList ++ [[]] := by
  induction lines with
  | nil => rfl
  | cons line lines ih =>
      rw [List.forall_mem_cons] at h
      have hfirst : (String.join ((line :: lines).map (· ++ "\n"))).toList =
          line.toList ++ '\n' :: (String.join (lines.map (· ++ "\n"))).toList := by
        rw [List.map_cons, String.join_cons, String.toList_append, String.toList_append,
          List.append_assoc]
        rfl
      rw [hfirst, List.splitOn_append_cons_self_of_not_mem h.1, ih h.2, List.map_cons,
        List.cons_append]

section Listing

variable {ts : List Token} (h : ∀ t ∈ ts, t.IsListable)

include h

private theorem splitOn_listings :
    (Token.listings ts).toList.splitOn '\n' = ts.map (fun t => t.listing.toList) ++ [[]] := by
  have hlines : ∀ line ∈ ts.map Token.listing, '\n' ∉ line.toList :=
    List.forall_mem_map.2 fun t ht => (h t ht).newline_not_mem_listing
  have hsplit := splitOn_join_lines hlines
  rwa [List.map_map, List.map_map] at hsplit

theorem ofListings?_listings : Token.ofListings? (Token.listings ts) = some ts := by
  rw [Token.ofListings?, splitOn_listings h, List.dropLast_concat]
  induction ts with
  | nil => rfl
  | cons t ts ih =>
      rw [List.forall_mem_cons] at h
      rw [List.map_cons, List.mapM_cons, h.1.ofListing?_listing, ih h.2]
      rfl

end Listing

/-- The listing of a text has one line for each token, the end marker included, and the line has two
tabs in it, between the offset in decimal, the name of the kind and the literal.  No two kinds have
one name, and the tokens of the text are read back from the listing with their spans. -/
theorem listing_lossless (text : String) :
    let listing := Token.listings (tokenize text)
    (∀ files path, readSource files path = .ok text →
      listTokens files path = .ok { out := listing }) ∧
    (∃ lines, listing.toList.splitOn '\n' = lines ++ [[]] ∧
      List.Forall₂ (fun (t : Token) (line : List Char) =>
        line.count '\t' = 2 ∧
        line.splitOn '\t' = [(toString t.span.start).toList, t.kind.name.toList, t.literal.toList])
        (tokenize text) lines) ∧
    Function.Injective TokenKind.name ∧
    Token.ofListings? listing = some (tokenize text) := by
  intro listing
  have hlistable : ∀ t ∈ tokenize text, t.IsListable := isListable_of_mem_tokenize
  refine ⟨?_, ?_, TokenKind.name_injective, ofListings?_listings hlistable⟩
  · intro files path hread
    rw [listTokens, hread]
    rfl
  · refine ⟨_, splitOn_listings hlistable, ?_⟩
    rw [List.forall₂_map_right_iff, List.forall₂_same]
    intro t ht
    exact ⟨(hlistable t ht).count_tab_listing, (hlistable t ht).splitOn_listing⟩

example : Token.ofListings? "0\tleave\tleave\n6\tINT\t4\n7\tILLEGAL\t…\n10\tEOF\t\n" =
    some (tokenize "leave 4…") := by
  decide +kernel

end ParkingLot
