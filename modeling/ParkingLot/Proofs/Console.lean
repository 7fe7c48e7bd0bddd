import Mathlib.Data.List.Basic
import ParkingLot.Console
/-!
# What a channel shows

A channel shows what was written to it and nothing else, record by record (`Console.records`), so a
console without the words of the shell (`Console.mute`) still shows the same results and
diagnostics.
-/

namespace ParkingLot

namespace Console

variable {console : Console} {channel : Channel} {channels : List Channel}

/-- The console without what the shell itself has said. -/
def mute (console : Console) : Console :=
  { console with log := console.log.filter (·.1 ≠ .shell) }

theorem text_write_of_not_mem (h : channel ∉ channels) (s : String) :
    (console.write channel s).text channels = console.text channels := by
  unfold write
  split
  · rfl
  · simp [text, h]

theorem text_write_empty : (console.write channel "").text channels = console.text channels := by
  unfold write
  split
  · rfl
  · by_cases h : channel ∈ channels <;> simp [text, h]

theorem text_mute (h : .shell ∉ channels) : console.mute.text channels = console.text channels := by
  have hkeep : ∀ entry : Channel × String,
      (decide (entry.1 ∈ channels) && decide (entry.1 ≠ .shell)) =
        decide (entry.1 ∈ channels) := by
    intro entry
    by_cases hmem : entry.1 ∈ channels
    · have hne : entry.1 ≠ .shell := by
        intro hshell
        rw [hshell] at hmem
        contradiction
      simp [hmem, hne]
    · simp [hmem]
  unfold text mute
  rw [Array.toList_filter, List.filter_filter]
  simp only [hkeep]

theorem text_eq_of_mute_eq {other : Console} (h : .shell ∉ channels)
    (hmute : console.mute = other.mute) : console.text channels = other.text channels := by
  rw [← text_mute h, hmute, text_mute h]

theorem mute_write_shell (s : String) : (console.write .shell s).mute = console.mute := by
  unfold write
  split
  · rfl
  · simp [mute]

theorem mute_write (h : channel ≠ .shell) (s : String) :
    (console.write channel s).mute = console.mute.write channel s := by
  by_cases hclosed : channel ∈ console.closed
  · have hclosed' : channel ∈ console.mute.closed := hclosed
    rw [write, if_pos hclosed, write, if_pos hclosed']
  · have hclosed' : channel ∉ console.mute.closed := hclosed
    rw [write, if_neg hclosed, write, if_neg hclosed']
    simp [mute, h]

/-! ## Record by record -/

/-- The texts that reached a channel, one for each time that it was written to. -/
def records (console : Console) (channel : Channel) : List String :=
  (console.log.toList.filter (·.1 = channel)).map Prod.snd

/-- What arrives of the texts that are sent to a channel: nothing, if it is closed. -/
def delivered (console : Console) (channel : Channel) (texts : List String) : List String :=
  if channel ∈ console.closed then [] else texts

theorem text_singleton (console : Console) (channel : Channel) :
    console.text [channel] = String.join (console.records channel) := by
  simp [text, records]

theorem records_write (s : String) :
    (console.write channel s).records channel =
      console.records channel ++ console.delivered channel [s] := by
  unfold write delivered
  split
  · rw [List.append_nil]
  · simp [records]

theorem records_write_of_ne {other : Channel} (h : channel ≠ other) (s : String) :
    (console.write channel s).records other = console.records other := by
  unfold write
  split
  · rfl
  · simp [records, h]

theorem records_mute (h : channel ≠ .shell) :
    console.mute.records channel = console.records channel := by
  unfold records mute
  rw [Array.toList_filter, List.filter_filter]
  congr 1
  apply List.filter_congr
  intro entry _
  by_cases hentry : entry.1 = channel
  · simp [hentry, h]
  · simp [hentry]

theorem delivered_append (texts more : List String) :
    console.delivered channel (texts ++ more) =
      console.delivered channel texts ++ console.delivered channel more := by
  unfold delivered
  split <;> rfl

theorem delivered_write (other : Channel) (s : String) (texts : List String) :
    (console.write other s).delivered channel texts = console.delivered channel texts := by
  rw [delivered, closed_write, delivered]

theorem text_write {other : Channel} (s : String) :
    (console.write channel s).text [other] =
      if other = channel ∧ other ∉ console.closed then console.text [other] ++ s
      else console.text [other] := by
  rw [text_singleton, text_singleton]
  by_cases h : other = channel
  · obtain rfl := h
    rw [records_write, delivered]
    by_cases hclosed : other ∈ console.closed <;> simp [hclosed, String.join_append]
  · rw [records_write_of_ne (Ne.symm h), if_neg fun hboth => h hboth.1]

end Console

end ParkingLot
