import ParkingLot.Proofs.Text.Words
import ParkingLot.Text.Table
/-!
# Reading tables back

No cell is wider than its column, so at least one space stands between two cells, and a row of
cells without spaces is read back as the words of its line (`words_renderRow`).
-/

namespace ParkingLot.Text.Table

def cellWidths (row : Row) : List Nat := row.dropLast.map String.length

private theorem getD_widen (columns cells : List Nat) (j : Nat) :
    (widen columns cells).getD j 0 = max (columns.getD j 0) (cells.getD j 0) := by
  induction columns generalizing cells j with
  | nil => cases cells <;> simp [widen]
  | cons column columns ih =>
      cases cells with
      | nil => simp [widen]
      | cons cell cells =>
          cases j with
          | zero => rfl
          | succ j => exact ih cells j

def columnCells (rows : List Row) (j : Nat) : List String := rows.filterMap (·.dropLast[j]?)

/-- The width of the widest cell of a column that is not last in its row, and zero if there is no
such cell. -/
def columnWidth (rows : List Row) (j : Nat) : Nat :=
  ((columnCells rows j).map String.length).foldr max 0

theorem columnWidth_cons (row : Row) (rows : List Row) (j : Nat) :
    columnWidth (row :: rows) j = max ((cellWidths row).getD j 0) (columnWidth rows j) := by
  unfold columnWidth columnCells cellWidths
  rw [List.filterMap_cons, List.getD_eq_getElem?_getD, List.getElem?_map]
  cases row.dropLast[j]? with
  | none => exact (Nat.zero_max _).symm
  | some cell => rfl

theorem columnWidth_le {rows : List Row} {j n : Nat}
    (h : ∀ row ∈ rows, (cellWidths row).getD j 0 ≤ n) : columnWidth rows j ≤ n := by
  induction rows with
  | nil => exact Nat.zero_le n
  | cons row rows ih =>
      rw [List.forall_mem_cons] at h
      rw [columnWidth_cons]
      exact Nat.max_le.2 ⟨h.1, ih h.2⟩

private theorem getD_foldl_widen (rows : List Row) (columns : List Nat) (j : Nat) :
    (rows.foldl (fun columns row => widen columns (cellWidths row)) columns).getD j 0 =
      max (columns.getD j 0) (columnWidth rows j) := by
  induction rows generalizing columns with
  | nil => exact (Nat.max_zero _).symm
  | cons row rows ih =>
      rw [List.foldl_cons, ih, getD_widen, columnWidth_cons, Nat.max_assoc]

/-- The pass over the rows finds the width of each column, however many columns the rows before
had. -/
theorem getD_widths (rows : List Row) (j : Nat) :
    (widths rows).getD j 0 = columnWidth rows j :=
  (getD_foldl_widen rows [] j).trans (Nat.zero_max _)

theorem getD_cellWidths_le {rows : List Row} {row : Row} (h : row ∈ rows) (j : Nat) :
    (cellWidths row).getD j 0 ≤ (widths rows).getD j 0 := by
  rw [getD_widths]
  induction h with
  | head rows =>
      rw [columnWidth_cons]
      exact Nat.le_max_left _ _
  | tail other _ ih =>
      rw [columnWidth_cons]
      exact Nat.le_trans ih (Nat.le_max_right _ _)

theorem toList_pad (width : Nat) (cell : String) :
    (pad width cell).toList = cell.toList ++ List.replicate (width - cell.length) ' ' := by
  rw [pad, String.toList_append, String.toList_ofList]

theorem fits_cons {columns : List Nat} {cell next : String} {rest : Row}
    (hfit : ∀ j, (cellWidths (cell :: next :: rest)).getD j 0 ≤ columns.getD j 0) :
    cell.length ≤ columns.headD 0 ∧
      ∀ j, (cellWidths (next :: rest)).getD j 0 ≤ columns.tail.getD j 0 := by
  constructor
  · have hzero := hfit 0
    cases columns <;> exact hzero
  · intro j
    have hsucc := hfit (j + 1)
    cases columns <;> exact hsucc

theorem words_renderRow {columns : List Nat} {row : Row}
    (hfit : ∀ j, (cellWidths row).getD j 0 ≤ columns.getD j 0)
    (hcells : ∀ cell ∈ row, cell ≠ "" ∧ ' ' ∉ cell.toList) :
    words (renderRow columns row).toList = row.map String.toList := by
  fun_induction renderRow columns row with
  | case1 => rfl
  | case2 columns cell =>
      obtain ⟨hne, hspace⟩ := hcells cell (by simp)
      exact words_of_word (by simpa using hne) hspace
  | case3 columns cell cells hcells' ih =>
      rw [List.forall_mem_cons] at hcells
      obtain ⟨⟨hne, hspace⟩, hrest⟩ := hcells
      obtain ⟨next, rest, rfl⟩ := List.exists_cons_of_ne_nil hcells'
      obtain ⟨hwidth, htail⟩ := fits_cons hfit
      have hspaces : 0 < columns.headD 0 + gap - cell.length := by
        have hgap : gap = 4 := rfl
        omega
      rw [String.toList_append, toList_pad, List.append_assoc,
        words_append_spaces (by simpa using hne) hspace hspaces, ih htail hrest]
      rfl

private theorem mem_renderRow {columns : List Nat} {row : Row} {c : Char}
    (h : c ∈ (renderRow columns row).toList) : c = ' ' ∨ ∃ cell ∈ row, c ∈ cell.toList := by
  fun_induction renderRow columns row with
  | case1 => simp at h
  | case2 columns cell => exact .inr ⟨cell, by simp, h⟩
  | case3 columns cell cells _ ih =>
      rw [String.toList_append, toList_pad, List.mem_append, List.mem_append] at h
      rcases h with (hcell | hspace) | hrest
      · exact .inr ⟨cell, List.mem_cons_self, hcell⟩
      · exact .inl (List.eq_of_mem_replicate hspace)
      · rcases ih hrest with hspace | ⟨other, hmem, hother⟩
        · exact .inl hspace
        · exact .inr ⟨other, List.mem_cons_of_mem cell hmem, hother⟩

theorem join_lines_eq_intercalate {lines : List String} (hne : lines ≠ []) :
    String.join (lines.map (· ++ "\n")) = "\n".intercalate lines ++ "\n" := by
  induction lines with
  | nil => contradiction
  | cons line lines ih =>
      rw [List.map_cons, String.join_cons]
      cases lines with
      | nil => rw [List.map_nil, String.join_nil, String.append_empty, String.intercalate_singleton]
      | cons next lines =>
          rw [ih (List.cons_ne_nil _ _), String.intercalate_cons_cons]
          exact String.append_assoc.symm

/-- A table that has a row ends with a line feed, without which its lines have one between them. -/
theorem withoutLast_render {rows : List Row} (hne : rows ≠ []) :
    withoutLast (render rows) = "\n".intercalate (lines rows) := by
  have hlines : lines rows ≠ [] := mt List.map_eq_nil_iff.1 hne
  rw [withoutLast, render, join_lines_eq_intercalate hlines, String.toList_append]
  exact (congrArg String.ofList List.dropLast_concat).trans String.ofList_toList

theorem withoutLast_render_append {rows : List Row} (hne : rows ≠ []) :
    withoutLast (render rows) ++ "\n" = render rows := by
  have hlines : lines rows ≠ [] := mt List.map_eq_nil_iff.1 hne
  rw [withoutLast_render hne, render, join_lines_eq_intercalate hlines]

def body (text : String) : List Row :=
  (text.toList.splitOn '\n').tail.map fun line => (words line).map String.ofList

theorem newline_not_mem_renderRow {columns : List Nat} {row : Row}
    (h : ∀ cell ∈ row, '\n' ∉ cell.toList) : '\n' ∉ (renderRow columns row).toList := by
  intro hmem
  rcases mem_renderRow hmem with hspace | ⟨cell, hcell, hnewline⟩
  · contradiction
  · exact h cell hcell hnewline

/-- Rows of plain cells are read back from under any header. -/
theorem body_render {header : Row} {rows : List Row}
    (hheader : ∀ cell ∈ header, '\n' ∉ cell.toList)
    (hrows : ∀ row ∈ rows, ∀ cell ∈ row, IsPlain cell) :
    body (withoutLast (render (header :: rows))) = rows := by
  have hnewline : ∀ line ∈ (lines (header :: rows)).map String.toList, '\n' ∉ line := by
    unfold lines
    rw [List.map_map, List.forall_mem_map, List.forall_mem_cons]
    refine ⟨newline_not_mem_renderRow hheader, ?_⟩
    intro row hrow
    apply newline_not_mem_renderRow
    intro cell hcell
    exact (hrows row hrow cell hcell).not_mem (by decide)
  have hsplit : ("\n".intercalate (lines (header :: rows))).toList.splitOn '\n' =
      (lines (header :: rows)).map String.toList := by
    rw [String.toList_intercalate]
    exact List.splitOn_intercalate '\n' hnewline (List.cons_ne_nil _ _)
  have hrow : ∀ row ∈ rows,
      (words (renderRow (widths (header :: rows)) row).toList).map String.ofList = row := by
    intro row hrow
    have hcells : ∀ cell ∈ row, cell ≠ "" ∧ ' ' ∉ cell.toList := by
      intro cell hcell
      have hplain := hrows row hrow cell hcell
      exact ⟨hplain.1, hplain.not_mem (by decide)⟩
    rw [words_renderRow (getD_cellWidths_le (List.mem_cons_of_mem header hrow)) hcells,
      List.map_map]
    simp [Function.comp_def]
  rw [withoutLast_render (List.cons_ne_nil _ _)]
  unfold body
  rw [hsplit, lines, List.map_cons, List.map_cons, List.tail_cons, List.map_map, List.map_map]
  exact (List.map_congr_left hrow).trans rows.map_id

end ParkingLot.Text.Table
