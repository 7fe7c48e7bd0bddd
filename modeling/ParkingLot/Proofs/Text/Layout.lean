import Mathlib.Algebra.Ring.Nat
import Mathlib.Data.List.Forall2
import ParkingLot.Proofs.Text.Table
/-!
# Where the cells of a table stand

The start of a column depends on the columns before it only, so the cells of a column stand below
each other in every row that has one, however long the other rows are (`render_aligned`).
-/

namespace ParkingLot.Text.Table

/-- The place where a column starts: behind the columns before it, each with four spaces. -/
def columnStart (width : Nat → Nat) (i : Nat) : Nat :=
  ((List.range i).map fun j => width j + 4).sum

theorem columnStart_succ (width : Nat → Nat) (i : Nat) :
    columnStart width (i + 1) = width 0 + 4 + columnStart (fun j => width (j + 1)) i := by
  unfold columnStart
  rw [List.range_succ_eq_map, List.map_cons, List.sum_cons, List.map_map]
  rfl

/-- The characters of a line on which each cell of a row stands at the start of its column. From one
cell to the next there are spaces only, at least four of them, and the last cell ends the line. -/
structure IsLaidOut (start : Nat → Nat) (row : Row) (cs : List Char) : Prop where
  cell_at : ∀ i (_ : i < row.length), row[i].toList <+: cs.drop (start i)
  gap_after : ∀ i (_ : i + 1 < row.length),
    start i + row[i].length + 4 ≤ start (i + 1) ∧
      ∀ k, start i + row[i].length ≤ k → k < start (i + 1) → cs[k]? = some ' '
  ends : ∀ i (_ : i + 1 = row.length), cs.length = start i + row[i].length
  empty : row = [] → cs = []

section Row

variable {start start' : Nat → Nat} {row : Row} {line : List Char}

theorem IsLaidOut.congr (h : IsLaidOut start row line)
    (hstart : ∀ i < row.length, start i = start' i) : IsLaidOut start' row line where
  cell_at i hi := by
    rw [← hstart i hi]
    exact h.cell_at i hi
  gap_after i hi := by
    rw [← hstart i (by omega), ← hstart (i + 1) hi]
    exact h.gap_after i hi
  ends i hi := by
    rw [← hstart i (by omega)]
    exact h.ends i hi
  empty := h.empty

private theorem isLaidOut_nil (start : Nat → Nat) : IsLaidOut start [] [] where
  cell_at i hi := by contradiction
  gap_after i hi := by contradiction
  ends i hi := by contradiction
  empty _ := rfl

private theorem isLaidOut_singleton (cell : String) (hzero : start 0 = 0) :
    IsLaidOut start [cell] cell.toList where
  cell_at i hi := by
    obtain rfl : i = 0 := by simpa using hi
    rw [hzero]
    exact List.prefix_refl _
  gap_after i hi := by simp at hi
  ends i hi := by
    obtain rfl : i = 0 := by simpa using hi
    rw [hzero, Nat.zero_add]
    exact String.length_toList
  empty hrow := by contradiction

private theorem length_toList_pad {cell : String} {width : Nat} (hwidth : cell.length ≤ width) :
    (pad width cell).toList.length = width := by
  rw [toList_pad, List.length_append, List.length_replicate, String.length_toList]
  omega

/-- A padded cell moves the rest of the row to the right by its width. -/
theorem IsLaidOut.cons (h : IsLaidOut start row line) (hrow : row ≠ []) {cell : String}
    {width : Nat} (hwidth : cell.length + 4 ≤ width) (hstart : start 0 = 0)
    (hzero : start' 0 = 0) (hsucc : ∀ i, start' (i + 1) = width + start i) :
    IsLaidOut start' (cell :: row) ((pad width cell).toList ++ line) := by
  have hlength : (pad width cell).toList.length = width := length_toList_pad (by omega)
  constructor
  case cell_at =>
    intro i hi
    cases i with
    | zero =>
        rw [hzero, List.drop_zero, toList_pad, List.append_assoc]
        exact List.prefix_append _ _
    | succ i =>
        rw [hsucc, ← List.drop_drop, List.drop_left' hlength]
        exact h.cell_at i (Nat.lt_of_succ_lt_succ hi)
  case gap_after =>
    intro i hi
    cases i with
    | zero =>
        rw [hsucc, hstart, hzero, Nat.zero_add, List.getElem_cons_zero]
        refine ⟨hwidth, ?_⟩
        intro k hk hlt
        rw [List.getElem?_append_left (by omega), toList_pad,
          List.getElem?_append_right (by rwa [String.length_toList]), String.length_toList,
          List.getElem?_replicate, if_pos (by omega)]
    | succ i =>
        obtain ⟨hgap, hspaces⟩ := h.gap_after i (Nat.lt_of_succ_lt_succ hi)
        rw [hsucc, hsucc, List.getElem_cons_succ]
        refine ⟨by omega, ?_⟩
        intro k hk hlt
        rw [List.getElem?_append_right (by omega), hlength]
        exact hspaces (k - width) (by omega) (by omega)
  case ends =>
    intro i hi
    cases i with
    | zero => exact absurd (List.eq_nil_of_length_eq_zero (Nat.succ.inj hi).symm) hrow
    | succ i =>
        have hend := h.ends i (Nat.succ.inj hi)
        rw [hsucc, List.length_append, hlength, List.getElem_cons_succ]
        omega
  case empty =>
    intro hnil
    contradiction

theorem isLaidOut_renderRow {columns : List Nat}
    (hfit : ∀ j, (cellWidths row).getD j 0 ≤ columns.getD j 0) :
    IsLaidOut (columnStart (columns.getD · 0)) row (renderRow columns row).toList := by
  fun_induction renderRow columns row with
  | case1 => exact isLaidOut_nil _
  | case2 columns cell => exact isLaidOut_singleton cell rfl
  | case3 columns cell cells hcells ih =>
      obtain ⟨next, rest, rfl⟩ := List.exists_cons_of_ne_nil hcells
      obtain ⟨hwidth, htail⟩ := fits_cons hfit
      rw [String.toList_append]
      refine (ih htail).cons hcells (Nat.add_le_add_right hwidth 4) rfl rfl ?_
      intro i
      rw [columnStart_succ]
      cases columns <;> rfl

end Row

/-- A table is the lines of its rows, one behind the other and each with a line feed. Whatever the
rows hold and however many cells each has, the cells stand at the starts of their columns. A column
is as wide as the widest of its cells that are not last in their row. -/
theorem render_aligned (rows : List Row) :
    ∃ pieces : List String, render rows = String.join pieces ∧
      List.Forall₂ (fun row piece => ∃ line : String, piece = line ++ "\n" ∧
        IsLaidOut (columnStart (columnWidth rows)) row line.toList) rows pieces := by
  refine ⟨(lines rows).map (· ++ "\n"), rfl, ?_⟩
  rw [lines, List.map_map, List.forall₂_map_right_iff, List.forall₂_same]
  intro row hrow
  refine ⟨renderRow (widths rows) row, rfl, ?_⟩
  have hlaid := isLaidOut_renderRow (getD_cellWidths_le hrow)
  simp only [getD_widths] at hlaid
  exact hlaid

example : render [["é", "b"], [], ["long", "x", "y"], ["a last cell"]] =
    "é       b\n\nlong    x    y\na last cell\n" := by decide

end ParkingLot.Text.Table
