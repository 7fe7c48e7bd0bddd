import ParkingLot.Proofs.Session.Batch
import ParkingLot.Proofs.Text.Replacement
/-!
# Lines first or text first

The shell cuts its input into lines while it is still bytes, and decodes each line by itself.  That
is as good as decoding all of it and cutting the text (`Shell.decode_lines`): a line feed is where a
byte 0x0a is and nowhere else, whatever is wrong with the bytes around it.
-/

namespace ParkingLot

open Text

namespace Text.Utf8

variable {bytes : List UInt8} {before after : List Char}

theorem decode_eq_append_newline_iff : decode bytes = before ++ '\n' :: after ↔
    ∃ as bs, bytes = as ++ 0x0a :: bs ∧ decode as = before ∧ decode bs = after := by
  constructor
  · intro h
    induction bytes using @lines_induction _ _ _ (0x0a : UInt8) generalizing before with
    | last as has =>
        have hmem : '\n' ∈ decode as := by simp [h]
        exact absurd hmem (newline_not_mem_decode has)
    | line as bs has ih =>
        rw [decode_append_newline, List.append_eq_append_iff] at h
        obtain ⟨_ | ⟨c, mid⟩, hbefore, hrest⟩ | ⟨_ | ⟨c, mid⟩, hline, hrest⟩ := h
        · -- the line feed of this line
          obtain ⟨-, rfl⟩ := List.cons.inj hrest
          exact ⟨as, bs, rfl, by rw [hbefore, List.append_nil], rfl⟩
        · -- one behind it
          obtain ⟨rfl, hlater⟩ := List.cons.inj hrest
          obtain ⟨first, last, rfl, rfl, rfl⟩ := ih hlater
          refine ⟨as ++ 0x0a :: first, last, by simp, ?_, rfl⟩
          rw [decode_append_newline, hbefore]
        · obtain ⟨-, rfl⟩ := List.cons.inj hrest
          exact ⟨as, bs, rfl, by rw [hline, List.append_nil], rfl⟩
        · -- none is in the line itself
          obtain ⟨rfl, -⟩ := List.cons.inj hrest
          have hmem : '\n' ∈ decode as := by simp [hline]
          exact absurd hmem (newline_not_mem_decode has)
  · rintro ⟨as, bs, rfl, rfl, rfl⟩
    exact decode_append_newline as bs

private theorem map_decode_splitOn (bytes : List UInt8) :
    (bytes.splitOn 0x0a).map decode = (decode bytes).splitOn '\n' := by
  induction bytes using @lines_induction _ _ _ (0x0a : UInt8) with
  | last as has =>
      rw [List.splitOn_eq_singleton has, List.splitOn_eq_singleton (newline_not_mem_decode has),
        List.map_singleton]
  | line as bs has ih =>
      rw [decode_append_newline, List.splitOn_append_cons_self_of_not_mem has,
        List.splitOn_append_cons_self_of_not_mem (newline_not_mem_decode has), List.map_cons, ih]

end Text.Utf8

open Utf8

/-- Decoding, be it of all bytes or of one line, replaces each maximal part that is no character by
one U+FFFD.  The lines of the shell, decoded one by one, are the lines of the decoded bytes.  A line
feed in the text is one in the bytes and the other way round, with the same text before it and after
it.  The lines of bytes that are UTF-8 are those of the text. -/
theorem Shell.decode_lines (bytes : List UInt8) (interactive : Bool) :
    let raws := (Shell.ofBytes bytes interactive).pending
    (∀ piece ∈ bytes :: raws, ∀ cs, Replaces piece cs ↔ cs = decode piece) ∧
      raws.map decode = cutAfter '\n' (decode bytes) ∧
      raws.map lineText = trimmedLines (decode bytes) ∧
      (bytes.splitOn 0x0a).map decode = (decode bytes).splitOn '\n' ∧
      (∀ before after, decode bytes = before ++ '\n' :: after ↔
        ∃ as bs, bytes = as ++ 0x0a :: bs ∧ decode as = before ∧ decode bs = after) ∧
      ∀ text : String, bytes = text.toUTF8.data.toList →
        raws.map decode = cutAfter '\n' text.toList ∧
          raws.map lineText = trimmedLines text.toList := by
  intro raws
  have hdecode : raws.map decode = cutAfter '\n' (decode bytes) := map_decode_cutAfter bytes
  have hlines : raws.map lineText = trimmedLines (decode bytes) :=
    map_lineText_pending bytes interactive
  refine ⟨fun _ _ _ => replaces_iff, hdecode, hlines, map_decode_splitOn bytes,
    fun _ _ => decode_eq_append_newline_iff, ?_⟩
  intro text htext
  rw [hdecode, hlines, htext, toList_toUTF8, decode_encode]
  exact ⟨rfl, rfl⟩

/-- A sequence that is cut short by a line feed does not go on behind it. -/
example : (Shell.ofBytes [0xe2, 0x82, 0x0a, 0xac, 0x0a] false).pending.map decode =
    [[replacement, '\n'], [replacement, '\n']] := by decide

end ParkingLot
