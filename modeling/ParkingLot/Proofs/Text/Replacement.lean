import Mathlib.Data.Nat.Find
import ParkingLot.Proofs.Text.IllFormed
/-!
# What is replaced

The text of any bytes, said without a decoder: bytes that are a character stand for it, and where no
character starts, as many bytes as could begin one are replaced by a single U+FFFD (`Replaces`).
Decoding gives this text and no other (`replaces_iff`).
-/

namespace ParkingLot.Text.Utf8

/-- The bytes begin a character, or are all of one. -/
def IsBeginning (bs : List UInt8) : Prop := ∃ c : Char, bs <+: String.utf8EncodeChar c

/-- The bytes may be replaced at once: they begin a character, or there is only one of them. -/
def IsSubpart (bs : List UInt8) : Prop := IsBeginning bs ∨ bs.length = 1

/-- No character starts where `part ++ rest` does, and `part` is the longest piece from there that
may be replaced at once. -/
structure IsMaximalSubpart (part rest : List UInt8) : Prop where
  ne_nil : part ≠ []
  not_char : ∀ c : Char, ¬ String.utf8EncodeChar c <+: part ++ rest
  subpart : IsSubpart part
  longest : ∀ other, other <+: part ++ rest → IsSubpart other → other.length ≤ part.length

/-- The characters are what is left of the bytes when each maximal part that is no character has
been replaced. -/
inductive Replaces : List UInt8 → List Char → Prop
  | nil : Replaces [] []
  | char {c : Char} {bs : List UInt8} {cs : List Char} :
      Replaces bs cs → Replaces (String.utf8EncodeChar c ++ bs) (c :: cs)
  | illFormed {part bs : List UInt8} {cs : List Char} :
      IsMaximalSubpart part bs → Replaces bs cs → Replaces (part ++ bs) (replacement :: cs)

private def steps (s : Option Unfinished) : List UInt8 → List Char × Option Unfinished
  | [] => ([], s)
  | b :: bs => ((step s b).1 ++ (steps (step s b).2 bs).1, (steps (step s b).2 bs).2)

variable {s : Option Unfinished} {u : Unfinished} {b : UInt8} {part bs held rest : List UInt8}
  {cs : List Char}

/-! ## Byte after byte -/

theorem decodeFrom_append (s : Option Unfinished) (as bs : List UInt8) :
    decodeFrom s (as ++ bs) = (steps s as).1 ++ decodeFrom (steps s as).2 bs := by
  induction as generalizing s with
  | nil => rfl
  | cons a as ih => rw [List.cons_append, decodeFrom, ih, steps, List.append_assoc]

theorem exists_steps_eq_some (h : s.isSome = true ∨ bs ≠ []) (hnil : (steps s bs).1 = []) :
    ∃ u, (steps s bs).2 = some u := by
  induction bs generalizing s with
  | nil =>
      obtain hsome | hne := h
      · exact Option.isSome_iff_exists.1 hsome
      · contradiction
  | cons b bs ih =>
      obtain ⟨hfirst, hlater⟩ := List.append_eq_nil_iff.1 hnil
      refine ih (.inl ?_) hlater
      cases hstep : (step s b).2 with
      | some v => rfl
      | none => exact absurd (Prod.ext hfirst hstep) (step_ne_nil s b)

theorem holds_steps (hs : Holds s held) (hnil : (steps s bs).1 = []) :
    Holds (steps s bs).2 (held ++ bs) := by
  induction bs generalizing s held with
  | nil => rwa [List.append_nil]
  | cons b bs ih =>
      obtain ⟨hfirst, hlater⟩ := List.append_eq_nil_iff.1 hnil
      have hfree : replacement ∉ (step s b).1 := by simp [hfirst]
      obtain ⟨more, hmore, hread⟩ := exists_holds_step hs hfree
      obtain rfl : held ++ [b] = more := by rwa [hfirst] at hread
      have hall := ih hmore hlater
      rwa [List.append_assoc] at hall

theorem Holds.isBeginning (h : Holds (some u) held) (hrange : u.low ≤ b ∧ b ≤ u.high) :
    IsBeginning (held ++ [b]) := by
  obtain ⟨hlow, hhigh, hheld⟩ := h
  let v := (u.bits * 64 + (b.toNat - 0x80)) * 64 ^ u.owed
  have hdiv : v / 64 ^ u.owed = u.bits * 64 + (b.toNat - 0x80) :=
    Nat.mul_div_cancel _ (Nat.pow_pos (by decide))
  obtain ⟨hmayBe, hlast⟩ := Unfinished.MayBe.of_div_eq hlow hhigh hrange hdiv
  refine ⟨Char.ofNat v, tail u.owed v, ?_⟩
  rw [hheld v hmayBe, tail, hlast, List.append_assoc, List.singleton_append]

theorem low_le_high_of_lead (h : (lead b).2 = some u) : u.low ≤ u.high := by
  have hall := forall_byte (P := fun b => ∀ u ∈ (lead b).2, u.low ≤ u.high) (by decide +kernel)
  exact hall b u h

theorem lead_of_not_isBeginning (h : ¬ IsBeginning [b]) : lead b = ([replacement], none) := by
  cases hu : (lead b).2 with
  | some u =>
      -- the least byte that may follow makes a beginning of two bytes
      obtain ⟨hnil, -⟩ := begins_of_lead hu
      have hholds := @holds_steps none [b] [] rfl (by rw [steps, steps, step, hnil]; rfl)
      have hsome : (steps none [b]).2 = some u := hu
      rw [hsome] at hholds
      obtain ⟨c, hc⟩ := hholds.isBeginning ⟨UInt8.le_refl _, low_le_high_of_lead hu⟩
      exact absurd ⟨c, (List.prefix_append _ _).trans hc⟩ h
  | none =>
      have hb : ¬ b ≤ 0x7f := by
        intro hb
        have hchar := utf8EncodeChar_one (UInt8.le_iff_toNat_le.1 hb)
        rw [UInt8.ofNat_toNat] at hchar
        exact h ⟨Char.ofNat b.toNat, hchar ▸ List.prefix_rfl⟩
      unfold lead at hu ⊢
      rw [if_neg hb] at hu ⊢
      split_ifs at hu ⊢
      rfl

/-! ## Part after part -/

theorem decode_of_isMaximalSubpart (h : IsMaximalSubpart part rest) :
    decode (part ++ rest) = replacement :: decode rest := by
  by_cases hbegins : IsBeginning part
  · -- the part waits for a byte that does not come
    obtain ⟨c, more, hc⟩ := hbegins
    have hmore : more ≠ [] := by
      rintro rfl
      rw [List.append_nil] at hc
      exact h.not_char c (hc ▸ List.prefix_append part rest)
    have hnil : (steps none part).1 = [] := by
      have hread := decodeFrom_encodeChar [] c
      rw [List.append_nil, ← hc, decodeFrom_append] at hread
      have hlater : decodeFrom (steps none part).2 more ≠ [] := decodeFrom_ne_nil (.inr hmore)
      obtain ⟨hnil, -⟩ | ⟨-, hnil⟩ := List.append_eq_singleton_iff.1 hread
      · exact hnil
      · exact absurd hnil hlater
    obtain ⟨u, hu⟩ := exists_steps_eq_some (.inr h.ne_nil) hnil
    have hholds := @holds_steps none part [] rfl hnil
    rw [hu, List.nil_append] at hholds
    rw [decode, decodeFrom_append, hnil, hu, List.nil_append]
    cases rest with
    | nil => rfl
    | cons b rest =>
        have hrange : ¬ (u.low ≤ b ∧ b ≤ u.high) := by
          intro hrange
          have hle := h.longest (part ++ [b]) ⟨rest, by simp⟩ (.inl (hholds.isBeginning hrange))
          rw [List.length_append, List.length_singleton] at hle
          omega
        rw [decodeFrom, step, if_neg hrange]
        rfl
  · obtain ⟨b, rfl⟩ := List.length_eq_one_iff.1 (h.subpart.resolve_left hbegins)
    rw [decode, List.singleton_append, decodeFrom, step, lead_of_not_isBeginning hbegins]
    rfl

theorem Replaces.eq_decode (h : Replaces bs cs) : cs = decode bs := by
  induction h with
  | nil => rfl
  | @char c bs cs _ ih => rw [decode, decodeFrom_encodeChar, ih, decode]
  | illFormed hpart _ ih => rw [decode_of_isMaximalSubpart hpart, ih]

theorem exists_isMaximalSubpart (hne : bs ≠ []) (h : ∀ c : Char, ¬ String.utf8EncodeChar c <+: bs) :
    ∃ part rest, bs = part ++ rest ∧ IsMaximalSubpart part rest := by
  classical
  let n := Nat.findGreatest (fun n => IsSubpart (bs.take n)) bs.length
  have hpos : 1 ≤ bs.length := List.length_pos_iff.2 hne
  have hone : IsSubpart (bs.take 1) := .inr (List.length_take_of_le hpos)
  have hle : n ≤ bs.length := Nat.findGreatest_le _
  have hlength : (bs.take n).length = n := List.length_take_of_le hle
  have hsplit : bs.take n ++ bs.drop n = bs := List.take_append_drop n bs
  refine ⟨bs.take n, bs.drop n, hsplit.symm, ?_⟩
  constructor
  case ne_nil =>
    have hn : 1 ≤ n := Nat.le_findGreatest hpos hone
    exact List.ne_nil_of_length_pos (hlength.symm ▸ hn)
  case not_char =>
    rw [hsplit]
    exact h
  case subpart => exact Nat.findGreatest_spec (P := fun n => IsSubpart (bs.take n)) hpos hone
  case longest =>
    intro other hother hsubpart
    rw [hsplit] at hother
    rw [List.prefix_iff_eq_take.1 hother] at hsubpart
    rw [hlength]
    exact Nat.le_findGreatest hother.length_le hsubpart

/-- All bytes have a text. -/
theorem exists_replaces (bs : List UInt8) : ∃ cs, Replaces bs cs := by
  induction hn : bs.length using Nat.strongRecOn generalizing bs with
  | _ n ih =>
      by_cases hne : bs = []
      · exact ⟨[], hne ▸ .nil⟩
      · by_cases hchar : ∃ c : Char, String.utf8EncodeChar c <+: bs
        · obtain ⟨c, rest, rfl⟩ := hchar
          have hpos := c.utf8Size_pos
          rw [List.length_append, String.length_utf8EncodeChar] at hn
          obtain ⟨cs, hcs⟩ := ih rest.length (by omega) rest rfl
          exact ⟨c :: cs, .char hcs⟩
        · obtain ⟨part, rest, rfl, hpart⟩ := exists_isMaximalSubpart hne (not_exists.1 hchar)
          have hpos := List.length_pos_iff.2 hpart.ne_nil
          rw [List.length_append] at hn
          obtain ⟨cs, hcs⟩ := ih rest.length (by omega) rest rfl
          exact ⟨replacement :: cs, .illFormed hpart hcs⟩

/-- Decoding replaces the maximal parts that are no characters, one U+FFFD for each, and nothing
else. -/
theorem replaces_iff : Replaces bs cs ↔ cs = decode bs := by
  constructor
  · exact Replaces.eq_decode
  · rintro rfl
    obtain ⟨cs, hcs⟩ := exists_replaces bs
    exact hcs.eq_decode ▸ hcs

end ParkingLot.Text.Utf8
