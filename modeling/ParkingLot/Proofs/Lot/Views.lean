import ParkingLot.Proofs.Lot.Reachable
import ParkingLot.Proofs.Text.Numeral
import ParkingLot.Proofs.Text.Table
/-!
# Four views of one lot

The status and the three queries walk the slots each on its own, and their replies are texts.  Read
back, they tell of the same cars in the same slots (`views_agree`).  That a registration number
leads to one slot only is due to `Lot.Sound.unique`.
-/

namespace ParkingLot

open Text

/-! ## Cells and items -/

private theorem isPlain_toString (n : Nat) : IsPlain (toString n) := by
  have hn : (0 : Int) ≤ n := Int.natCast_nonneg n
  have htext : toString n = toString (n : Int) := rfl
  rw [htext]
  constructor
  · intro hempty
    exact toList_toString_ne_nil hn (String.toList_eq_nil_iff.2 hempty)
  · intro c hc
    have hdigit := isDigit_iff.1 (isDigit_of_mem_toString hn hc)
    exact Char.le_trans (by decide) hdigit.1

theorem exists_items_ofList {found : List String} (hne : found ≠ [])
    (hplain : ∀ item ∈ found, IsPlain item) :
    ∃ text, Reply.ofList found = .text text ∧
      (items text.toList).map String.ofList = found := by
  have hcomma : ∀ item ∈ found, ',' ∉ item.toList := by
    intro item hitem
    exact (hplain item hitem).not_mem (by decide)
  refine ⟨", ".intercalate found, ?_, ?_⟩
  · cases found with
    | nil => contradiction
    | cons => rfl
  · rw [items_intercalate hne hcomma, List.map_map]
    simp [Function.comp_def]

namespace Lot

variable {lot : Lot} {i : Nat} {car : Car} {q : String}

def statusRow (taken : Nat × Car) : Row :=
  [toString (taken.1 + 1), taken.2.registration, taken.2.colour.name]

theorem Sound.isPlain_statusRow (h : lot.Sound) :
    ∀ taken ∈ lot.occupied, ∀ cell ∈ statusRow taken, IsPlain cell := by
  rintro ⟨i, car⟩ hmem
  simp only [statusRow, List.forall_mem_cons]
  have hcar : lot.carAt? i = some car := mem_occupied_iff.1 hmem
  exact ⟨isPlain_toString _, (h.isNumber hcar).isPlain, Colour.isPlain_name _, by simp⟩

theorem Sound.body_status (h : lot.Sound) :
    Table.body (withoutLast (Table.render (statusRows lot.occupied))) =
      lot.occupied.map statusRow := by
  apply Table.body_render
  · decide
  · rw [List.forall_mem_map]
    exact h.isPlain_statusRow

theorem Sound.indicesWith_registration (h : lot.Sound) (hcar : lot.carAt? i = some car) :
    lot.indicesWith (Car.hasRegistration car.registration) = [i] := by
  have hmem : ∀ j, j ∈ lot.indicesWith (Car.hasRegistration car.registration) ↔ j ∈ [i] := by
    intro j
    rw [mem_indicesWith_iff, List.mem_singleton]
    constructor
    · rintro ⟨other, hother, hregistration⟩
      exact h.unique hother hcar (eq_of_beq hregistration)
    · rintro rfl
      exact ⟨car, hcar, beq_self_eq_true _⟩
  have hnodup := (lot.pairwise_indicesWith (Car.hasRegistration car.registration)).imp Nat.ne_of_lt
  exact List.perm_singleton.1
    ((List.perm_ext_iff_of_nodup hnodup (List.pairwise_singleton _ i)).2 hmem)

theorem Sound.run_slotNumberWithRegistration (h : lot.Sound) (hcar : lot.carAt? i = some car) :
    ((Storage.memory lot).run (.slotNumberWithRegistration car.registration)).1 =
      .ok (.text (toString (i + 1))) := by
  have hreply : ((Storage.memory lot).run (.slotNumberWithRegistration car.registration)).1 =
      .ok (.ofList ((lot.indicesWith (Car.hasRegistration car.registration)).map fun i =>
        toString (i + 1))) := rfl
  rw [hreply, h.indicesWith_registration hcar]
  rfl

/-- The numbers of the slots with cars of a colour, and the registration numbers of the cars. -/
def coloured (lot : Lot) (q : String) : List (Nat × String) :=
  (lot.occupied.filter fun (_, car) => car.hasColour q).map fun (i, car) =>
    (i + 1, car.registration)

private theorem exists_of_mem_coloured {pair : Nat × String} (h : pair ∈ lot.coloured q) :
    ∃ i car, lot.carAt? i = some car ∧ pair = (i + 1, car.registration) := by
  obtain ⟨⟨i, car⟩, hmem, rfl⟩ := List.mem_map.1 h
  exact ⟨i, car, mem_occupied_iff.1 (List.mem_filter.1 hmem).1, rfl⟩

theorem run_registrationNumbersWithColour (lot : Lot) (q : String) :
    ((Storage.memory lot).run (.registrationNumbersWithColour q)).1 =
      .ok (.ofList ((lot.coloured q).map Prod.snd)) := by
  have hcars : (lot.coloured q).map Prod.snd =
      ((lot.occupied.map Prod.snd).filter (Car.hasColour q)).map Car.registration := by
    unfold coloured
    rw [List.filter_map, List.map_map, List.map_map]
    rfl
  rw [hcars]
  rfl

theorem run_slotNumbersWithColour (lot : Lot) (q : String) :
    ((Storage.memory lot).run (.slotNumbersWithColour q)).1 =
      .ok (.ofList ((lot.coloured q).map (toString ·.1))) := by
  have hindices : (lot.coloured q).map (toString ·.1) =
      (lot.indicesWith (Car.hasColour q)).map fun i => toString (i + 1) := by
    unfold coloured indicesWith
    rw [List.map_map, List.map_map]
    rfl
  rw [hindices]
  rfl

private theorem pairwise_coloured (lot : Lot) (q : String) :
    (lot.coloured q).Pairwise (·.1 < ·.1) := by
  unfold coloured
  rw [List.pairwise_map]
  exact (lot.pairwise_occupied.filter _).imp Nat.succ_lt_succ

private theorem filter_statusRow (lot : Lot) (q : String) :
    (lot.occupied.map statusRow).filter (·[2]? == some q) =
      (lot.coloured q).map fun (number, registration) => [toString number, registration, q] := by
  unfold coloured
  rw [List.filter_map, List.map_map]
  have hcolour : ((·[2]? == some q) ∘ statusRow) = fun (_, car) => Car.hasColour q car := by
    funext taken
    exact Option.some_beq_some
  rw [hcolour]
  apply List.map_congr_left
  rintro ⟨i, car⟩ hmem
  have hname : car.colour.name = q := eq_of_beq (List.mem_filter.1 hmem).2
  simp [statusRow, hname]

/-- Whatever was run on fresh storage in memory, the status and the queries agree about the cars of
a colour.  Either none of them shows one, or the two listings have the same length, the numbers
ascend, the rows of the status with this colour are the pairs of the listings in their order, and
each of the registration numbers leads back to its slot number. -/
theorem views_agree (ss : List Statement) (q : String) :
    ∃ lot status, ((Storage.ofKind .memory).runAll ss).2 = .memory lot ∧
      ((Storage.memory lot).run .status).1 = .ok (.text status) ∧
      (((Storage.memory lot).run (.registrationNumbersWithColour q)).1 = .ok .notFound ∧
          ((Storage.memory lot).run (.slotNumbersWithColour q)).1 = .ok .notFound ∧
          (∀ row ∈ Table.body status, row[2]? ≠ some q) ∨
        ∃ (registrations numbers : String) (found : List (Nat × String)), found ≠ [] ∧
          ((Storage.memory lot).run (.registrationNumbersWithColour q)).1 =
            .ok (.text registrations) ∧
          (items registrations.toList).map String.ofList = found.map Prod.snd ∧
          ((Storage.memory lot).run (.slotNumbersWithColour q)).1 = .ok (.text numbers) ∧
          (items numbers.toList).map String.ofList = found.map (toString ·.1) ∧
          found.Pairwise (·.1 < ·.1) ∧
          (Table.body status).filter (·[2]? == some q) =
            found.map (fun (number, registration) => [toString number, registration, q]) ∧
          ∀ pair ∈ found,
            ((Storage.memory lot).run (.slotNumberWithRegistration pair.2)).1 =
              .ok (.text (toString pair.1))) := by
  obtain ⟨lot, hlot, hrun⟩ := run_of_runAll .empty ss
  have hsound : lot.Sound := hrun.preserves Step.sound (sound_free (Nat.zero_le maxCapacity))
  have hregistrations := lot.run_registrationNumbersWithColour q
  have hnumbers := lot.run_slotNumbersWithColour q
  have hrows := (congrArg (List.filter (·[2]? == some q)) hsound.body_status).trans
    (lot.filter_statusRow q)
  refine ⟨lot, _, hlot, rfl, ?_⟩
  -- all four replies are said in terms of `coloured`, which is empty or not
  by_cases hfound : lot.coloured q = []
  · rw [hfound] at hregistrations hnumbers hrows
    refine .inl ⟨hregistrations, hnumbers, ?_⟩
    intro row hrow hcolour
    exact List.filter_eq_nil_iff.1 hrows row hrow (beq_iff_eq.2 hcolour)
  · have hplain : ∀ registration ∈ (lot.coloured q).map Prod.snd, IsPlain registration := by
      rw [List.forall_mem_map]
      intro pair hpair
      obtain ⟨i, car, hcar, rfl⟩ := exists_of_mem_coloured hpair
      exact (hsound.isNumber hcar).isPlain
    have hdigits : ∀ number ∈ (lot.coloured q).map (toString ·.1), IsPlain number := by
      rw [List.forall_mem_map]
      intro pair _
      exact isPlain_toString pair.1
    obtain ⟨registrations, hprinted, hitems⟩ :=
      exists_items_ofList (List.map_eq_nil_iff.not.2 hfound) hplain
    obtain ⟨numbers, hprinted', hitems'⟩ :=
      exists_items_ofList (List.map_eq_nil_iff.not.2 hfound) hdigits
    rw [hprinted] at hregistrations
    rw [hprinted'] at hnumbers
    refine .inr ⟨registrations, numbers, lot.coloured q, hfound, hregistrations, hitems, hnumbers,
      hitems', lot.pairwise_coloured q, hrows, ?_⟩
    intro pair hpair
    obtain ⟨i, car, hcar, rfl⟩ := exists_of_mem_coloured hpair
    exact hsound.run_slotNumberWithRegistration hcar

end Lot

end ParkingLot
