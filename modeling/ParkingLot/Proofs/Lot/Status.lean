import ParkingLot.Proofs.Lot.Views
import ParkingLot.Proofs.Text.Layout
/-!
# The picture that a status gives

The columns of a table are as wide as its cells make them, but in a lot that can come about no slot
number and no registration number is wider than its header.  So the columns of a status always
start at the same places, and as no cell has a space in it, the taken slots can be read off the
lines (`status_lossless`).
-/

namespace ParkingLot

open Text

def statusText (storage : Storage) : String :=
  (Interpreter.execute { storage } [.status]).2.console.text [.result]

def statusColumn : Nat → Nat
  | 0 => 0
  | 1 => 12
  | _ => 31

namespace Lot

variable {lot other : Lot}

/-- The cells of a row lead back to the slot and its car. -/
theorem statusRow_inj {slot slot' : Nat × Car} :
    statusRow slot = statusRow slot' ↔ slot = slot' := by
  refine ⟨fun h => ?_, congrArg statusRow⟩
  obtain ⟨i, number, colour⟩ := slot
  obtain ⟨j, number', colour'⟩ := slot'
  simp only [statusRow, List.cons.injEq, and_true] at h
  obtain ⟨hindex, rfl, hcolour⟩ := h
  obtain rfl : i = j := Nat.succ.inj (toString_nat_inj.1 hindex)
  obtain rfl : colour = colour' := Colour.name_inj.1 hcolour
  rfl

/-- The line feed that is taken off the table is the one that ends the output. -/
theorem statusText_memory (lot : Lot) :
    statusText (.memory lot) = Table.render (statusRows lot.occupied) := by
  have hrecords : (Interpreter.execute { storage := .memory lot } [.status]).2.console.records
      .result = [withoutLast (Table.render (statusRows lot.occupied)) ++ "\n"] := by
    rw [Interpreter.records_execute]
    rfl
  have hrows : statusRows lot.occupied ≠ [] := List.cons_ne_nil _ _
  rw [statusText, Console.text_singleton, hrecords, Table.withoutLast_render_append hrows,
    String.join_cons, String.join_nil, String.append_empty]

/-- The slot numbers that can come about have seven digits at most, and no registration number is
as wide as the header above it. -/
theorem Sound.columnWidth_statusRows (h : lot.Sound) :
    Table.columnWidth (statusRows lot.occupied) 0 = 8 ∧
      Table.columnWidth (statusRows lot.occupied) 1 = 15 := by
  have hnumber : Table.columnWidth (lot.occupied.map statusRow) 0 ≤ 8 := by
    apply Table.columnWidth_le
    rw [List.forall_mem_map]
    rintro ⟨i, car⟩ hmem
    have hlt : i < lot.capacity := lt_capacity_of_carAt? (mem_occupied_iff.1 hmem)
    have hle : lot.capacity ≤ 1048576 := h.capacity_le
    exact (length_toString_le_iff (by decide)).2 (by omega)
  have hregistration : Table.columnWidth (lot.occupied.map statusRow) 1 ≤ 15 := by
    apply Table.columnWidth_le
    rw [List.forall_mem_map]
    rintro ⟨i, car⟩ hmem
    have hle := (h.isNumber (mem_occupied_iff.1 hmem)).length_le
    exact Nat.le_trans hle (by decide)
  constructor
  · exact (Table.columnWidth_cons _ _ 0).trans (Nat.max_eq_left hnumber)
  · exact (Table.columnWidth_cons _ _ 1).trans (Nat.max_eq_left hregistration)

theorem Sound.columnStart_statusRows (h : lot.Sound) {i : Nat} (hi : i < 3) :
    Table.columnStart (Table.columnWidth (statusRows lot.occupied)) i = statusColumn i := by
  obtain ⟨hnumber, hregistration⟩ := h.columnWidth_statusRows
  obtain rfl | rfl | rfl : i = 0 ∨ i = 1 ∨ i = 2 := by omega
  · rfl
  · rw [Table.columnStart_succ, hnumber]
    rfl
  · rw [Table.columnStart_succ, Table.columnStart_succ, hnumber, hregistration]
    rfl

def statusLine (lot : Lot) (slot : Nat × Car) : String :=
  Table.renderRow (Table.widths (statusRows lot.occupied)) (statusRow slot)

theorem Sound.lines_statusRows (h : lot.Sound) :
    Table.lines (statusRows lot.occupied) =
      "Slot No.    Registration No    Colour" :: lot.occupied.map lot.statusLine := by
  obtain ⟨hnumber, hregistration⟩ := h.columnWidth_statusRows
  rw [← Table.getD_widths] at hnumber hregistration
  have hthree : ∀ (columns : List Nat) (a b c : String), Table.renderRow columns [a, b, c] =
      Table.pad (columns.getD 0 0 + Table.gap) a ++
        (Table.pad (columns.getD 1 0 + Table.gap) b ++ c) := by
    intro columns a b c
    rcases columns with _ | ⟨_, _ | ⟨_, _⟩⟩ <;> rfl
  have hlines : Table.lines (statusRows lot.occupied) =
      Table.renderRow (Table.widths (statusRows lot.occupied))
          ["Slot No.", "Registration No", "Colour"] ::
        (lot.occupied.map statusRow).map
          (Table.renderRow (Table.widths (statusRows lot.occupied))) := rfl
  rw [hlines, hthree, hnumber, hregistration, List.map_map]
  rfl

section Line

variable {slot : Nat × Car} (h : lot.Sound) (hslot : slot ∈ lot.occupied)

include hslot

private theorem getD_cellWidths_statusRow_le (j : Nat) :
    (Table.cellWidths (statusRow slot)).getD j 0 ≤
      (Table.widths (statusRows lot.occupied)).getD j 0 :=
  Table.getD_cellWidths_le (List.mem_cons_of_mem _ (List.mem_map_of_mem hslot)) j

include h

theorem Sound.isLaidOut_statusLine :
    Table.IsLaidOut statusColumn (statusRow slot) (lot.statusLine slot).toList := by
  have hlaid := Table.isLaidOut_renderRow (getD_cellWidths_statusRow_le hslot)
  simp only [Table.getD_widths] at hlaid
  apply hlaid.congr
  intro i hi
  exact h.columnStart_statusRows hi

theorem Sound.words_statusLine :
    words (lot.statusLine slot).toList = (statusRow slot).map String.toList := by
  apply Table.words_renderRow (getD_cellWidths_statusRow_le hslot)
  intro cell hcell
  have hplain := h.isPlain_statusRow slot hslot cell hcell
  exact ⟨hplain.1, hplain.not_mem (by decide)⟩

theorem Sound.newline_not_mem_statusLine : '\n' ∉ (lot.statusLine slot).toList := by
  apply Table.newline_not_mem_renderRow
  intro cell hcell
  exact (h.isPlain_statusRow slot hslot cell hcell).not_mem (by decide)

end Line

theorem Sound.statusText_inj (h : lot.Sound) (hother : other.Sound) :
    statusText (.memory lot) = statusText (.memory other) ↔
      ∀ i, lot.carAt? i = other.carAt? i := by
  rw [← occupied_eq_iff, statusText_memory, statusText_memory]
  refine ⟨fun htext => ?_, fun hslots => by rw [hslots]⟩
  have hrows : lot.occupied.map statusRow = other.occupied.map statusRow := by
    rw [← h.body_status, ← hother.body_status, htext]
  have hinj : Function.Injective statusRow := fun _ _ => statusRow_inj.1
  exact List.map_injective_iff.2 hinj hrows

/-- Whatever was run on fresh storage in memory, its status is the header and a line for each taken
slot, in ascending order.  The slot number, the registration number and the colour stand at the same
places in all of these lines, and are their words.  So the taken slots can be read off the status,
and two lots have the same status just if each slot holds the same in both. -/
theorem status_lossless (ss ts : List Statement) :
    ∃ lot other, ((Storage.ofKind .memory).runAll ss).2 = .memory lot ∧
      ((Storage.ofKind .memory).runAll ts).2 = .memory other ∧
      (∃ (taken : List (Nat × Car)) (lines : List String),
        taken.Pairwise (·.1 < ·.1) ∧
        (∀ i car, (i, car) ∈ taken ↔ lot.carAt? i = some car) ∧
        statusText (.memory lot) = String.join
          (("Slot No.    Registration No    Colour" :: lines).map (· ++ "\n")) ∧
        List.Forall₂ (fun slot line =>
          '\n' ∉ line.toList ∧
          Table.IsLaidOut statusColumn
            [toString (slot.1 + 1), slot.2.registration, slot.2.colour.name] line.toList ∧
          (words line.toList).map String.ofList =
            [toString (slot.1 + 1), slot.2.registration, slot.2.colour.name]) taken lines) ∧
      (statusText (.memory lot) = statusText (.memory other) ↔
        ∀ i, lot.carAt? i = other.carAt? i) := by
  obtain ⟨lot, hlot, hsound⟩ := exists_sound_of_runAll ss
  obtain ⟨other, hother, hsound'⟩ := exists_sound_of_runAll ts
  refine ⟨lot, other, hlot, hother, ?_, hsound.statusText_inj hsound'⟩
  refine ⟨lot.occupied, lot.occupied.map lot.statusLine, lot.pairwise_occupied,
    fun _ _ => mem_occupied_iff, ?_, ?_⟩
  · rw [statusText_memory, Table.render, hsound.lines_statusRows]
  · rw [List.forall₂_map_right_iff, List.forall₂_same]
    intro slot hslot
    refine ⟨hsound.newline_not_mem_statusLine hslot, hsound.isLaidOut_statusLine hslot, ?_⟩
    rw [hsound.words_statusLine hslot, List.map_map]
    simp [Function.comp_def, statusRow]

end Lot

end ParkingLot
