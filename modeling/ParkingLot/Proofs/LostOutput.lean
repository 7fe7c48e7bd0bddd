import Mathlib.Data.List.Forall2
import ParkingLot.Proofs.Execution
import ParkingLot.Proofs.Executor
import ParkingLot.Sink
/-!
# Lost output

Whether output arrives has no part in what is run.  With any of its sinks broken, an executor
answers all calls as it does with whole ones, and the sinks that are whole take what they would take
anyway (`Executor.answers_broken`).  That is so because no flush and no warning touches what a sink
has taken, and a write touches only the sink that it goes to.  A console stands for sinks that are
whole: each of its channels shows what the sink for it has taken.
-/

namespace ParkingLot

/-! ## What sinks take -/

namespace Sink

variable (sink : Sink) (text : String)

private theorem fault?_write : (sink.write text).2.fault? = sink.fault? := by
  unfold write
  split <;> rfl

private theorem fault?_flush : sink.flush.2.fault? = sink.fault? := by
  unfold flush
  split <;> rfl

private theorem contents_write :
    (sink.write text).2.contents =
      if sink.fault? = none then sink.contents ++ text else sink.contents := by
  unfold write
  split
  · next h => rw [h, if_neg (Option.some_ne_none _)]
  · next h =>
    rw [if_pos h]
    exact String.append_assoc.symm

private theorem contents_flush : sink.flush.2.contents = sink.contents := by
  unfold flush
  split
  · rfl
  · exact String.append_empty

end Sink

namespace Sinks

variable (sinks : Sinks) (channel other : Channel) (text : String)

theorem fault?_write : (Outlet.write sinks channel text).2.fault? other = sinks.fault? other := by
  by_cases h : other = channel
  · obtain rfl := h
    simp [Outlet.write, fault?, Sink.fault?_write]
  · simp [Outlet.write, fault?, h]

theorem fault?_flush : (Outlet.flush sinks channel).2.fault? other = sinks.fault? other := by
  by_cases h : other = channel
  · obtain rfl := h
    simp [Outlet.flush, fault?, Sink.fault?_flush]
  · simp [Outlet.flush, fault?, h]

theorem contents_write :
    (Outlet.write sinks channel text).2.contents other =
      if other = channel ∧ sinks.fault? other = none then sinks.contents other ++ text
      else sinks.contents other := by
  by_cases h : other = channel
  · obtain rfl := h
    simp [Outlet.write, contents, Sink.contents_write, fault?]
  · simp [Outlet.write, contents, h]

theorem contents_flush :
    (Outlet.flush sinks channel).2.contents other = sinks.contents other := by
  by_cases h : other = channel
  · obtain rfl := h
    simp [Outlet.flush, contents, Sink.contents_flush]
  · simp [Outlet.flush, contents, h]

/-- The sinks `s` have these faults, the sinks `t` have none, and where `s` has no fault both have
taken the same. -/
structure Lacks (faults : Channel → Option OutputError) (s t : Sinks) : Prop where
  fault : ∀ channel, s.fault? channel = faults channel
  whole : ∀ channel, t.fault? channel = none
  contents : ∀ channel,
    s.contents channel = if (faults channel).isSome then "" else t.contents channel

theorem keeps_lacks (faults : Channel → Option OutputError) : Outlet.Keeps (Lacks faults) where
  write := by
    intro s t channel text h
    refine ⟨fun other => ?_, fun other => ?_, fun other => ?_⟩
    · rw [fault?_write, h.fault]
    · rw [fault?_write, h.whole]
    · rw [contents_write, contents_write, h.fault, h.whole, h.contents]
      by_cases hother : other = channel <;> cases faults other <;> simp [hother]
  flush_left := by
    intro s t channel h
    refine ⟨fun other => ?_, h.whole, fun other => ?_⟩
    · rw [fault?_flush, h.fault]
    · rw [contents_flush, h.contents]
  flush_right := by
    intro s t channel h
    refine ⟨h.fault, fun other => ?_, fun other => ?_⟩
    · rw [fault?_flush, h.whole]
    · rw [contents_flush, h.contents]
  warn_left := fun _ h => ⟨h.fault, h.whole, h.contents⟩
  warn_right := fun _ h => ⟨h.fault, h.whole, h.contents⟩

theorem contents_ofFaults (faults : Channel → Option OutputError) (channel : Channel) :
    (ofFaults faults).contents channel = "" := by
  rw [contents, sink_ofFaults]
  rfl

theorem lacks_ofFaults (faults : Channel → Option OutputError) :
    Lacks faults (ofFaults faults) (ofFaults fun _ => none) := by
  refine ⟨fun _ => by simp [fault?], fun _ => by simp [fault?], fun channel => ?_⟩
  rw [contents_ofFaults, contents_ofFaults, ite_self]

end Sinks

private theorem map_eq_map_of_forall₂ {α β γ : Type} {R : α → β → Prop} {as : List α} {bs : List β}
    {f : α → γ} {g : β → γ} (h : List.Forall₂ R as bs) (hR : ∀ a b, R a b → f a = g b) :
    as.map f = bs.map g := by
  rw [← List.forall₂_eq_eq_eq, List.forall₂_map_left_iff, List.forall₂_map_right_iff]
  exact h.imp hR

/-! ## Call by call -/

namespace Interpreter

inductive Call where
  | execute (ss : List Statement)
  | report (message : String)
deriving DecidableEq, Repr

def answer (i : Interpreter) : Call → Option Summary × Interpreter
  | .execute ss => (some (i.execute ss).1, (i.execute ss).2)
  | .report message => (none, i.report message)

def answers : Interpreter → List Call → List (Option Summary × Interpreter)
  | _, [] => []
  | i, call :: calls => i.answer call :: (i.answer call).2.answers calls

end Interpreter

namespace Executor

open Interpreter (Call)

variable {σ τ : Type} [Outlet σ] [Outlet τ] {R : σ → τ → Prop} {e : Executor σ} {f : Executor τ}

def answer (e : Executor σ) : Call → Option Summary × Executor σ
  | .execute ss => (some (e.execute ss).1, (e.execute ss).2)
  | .report message => (none, e.report message)

def answers : Executor σ → List Call → List (Option Summary × Executor σ)
  | _, [] => []
  | e, call :: calls => e.answer call :: (e.answer call).2.answers calls

theorem answer_alike (hR : Outlet.Keeps R) (h : Alike R e f) (call : Call) :
    (e.answer call).1 = (f.answer call).1 ∧ Alike R (e.answer call).2 (f.answer call).2 := by
  cases call with
  | execute ss =>
      obtain ⟨hsummary, hafter⟩ := execute_alike hR h ss
      exact ⟨congrArg some hsummary, hafter⟩
  | report message => exact ⟨rfl, report_alike hR h message⟩

theorem answers_alike (hR : Outlet.Keeps R) (h : Alike R e f) (calls : List Call) :
    List.Forall₂ (fun a b => a.1 = b.1 ∧ Alike R a.2 b.2) (e.answers calls) (f.answers calls) := by
  induction calls generalizing e f with
  | nil => exact .nil
  | cons call calls ih =>
      have hcall := answer_alike hR h call
      exact .cons hcall (ih hcall.2)

end Executor

/-! ## Consoles and sinks -/

namespace Interpreter

/-- No sink has a fault, no channel is closed, and each channel shows what its sink has taken. -/
structure Shows (sinks : Sinks) (console : Console) : Prop where
  whole : ∀ channel, sinks.fault? channel = none
  opened : console.closed = []
  text : ∀ channel, sinks.contents channel = console.text [channel]

theorem keeps_shows : Outlet.Keeps Shows where
  write := by
    intro sinks console channel text h
    have hwrite : (Outlet.write console channel text).2 = console.write channel text := rfl
    refine ⟨fun other => ?_, ?_, fun other => ?_⟩
    · rw [Sinks.fault?_write, h.whole]
    · rw [hwrite, Console.closed_write, h.opened]
    · rw [Sinks.contents_write, hwrite, Console.text_write, h.whole, h.opened, h.text]
      simp only [List.not_mem_nil, not_false_eq_true]
  flush_left := by
    intro sinks console channel h
    refine ⟨fun other => ?_, h.opened, fun other => ?_⟩
    · rw [Sinks.fault?_flush, h.whole]
    · rw [Sinks.contents_flush, h.text]
  flush_right := fun _ h => h
  warn_left := fun _ h => ⟨h.whole, h.opened, h.text⟩
  warn_right := fun _ h => h

theorem shows_ofFaults : Shows (Sinks.ofFaults fun _ => none) {} where
  whole := by simp [Sinks.fault?]
  opened := rfl
  text := Sinks.contents_ofFaults _

private theorem executor_answer (i : Interpreter) (call : Call) :
    i.executor.answer call = ((i.answer call).1, (i.answer call).2.executor) := by
  cases call <;> rfl

theorem executor_answers (i : Interpreter) (calls : List Call) :
    i.executor.answers calls =
      (i.answers calls).map fun (summary, after) => (summary, after.executor) := by
  induction calls generalizing i with
  | nil => rfl
  | cons call calls ih =>
      rw [Executor.answers, executor_answer, ih, answers, List.map_cons]

end Interpreter

namespace Executor

open Interpreter (Call)

/-- Whichever sinks are broken and whatever is wrong with them, after every call the summary and the
storage are the same.  A sink that is whole has taken the same text, and a broken one none.  What
whole sinks take is what the console of an interpreter shows. -/
theorem answers_broken (faults : Channel → Option OutputError) (storage : Storage)
    (calls : List Call) :
    let whole := answers ⟨storage, Sinks.ofFaults fun _ => none⟩ calls
    let part := answers ⟨storage, Sinks.ofFaults faults⟩ calls
    part.map (fun (summary, e) => (summary, e.storage)) =
      whole.map (fun (summary, e) => (summary, e.storage)) ∧
    (∀ channel, part.map (fun (_, e) => e.output.contents channel) =
      whole.map fun (_, e) =>
        if (faults channel).isSome then "" else e.output.contents channel) ∧
    whole.map (fun (summary, e) => (summary, e.storage, e.output.contents)) =
      (Interpreter.answers { storage } calls).map fun (summary, i) =>
        (summary, i.storage, fun channel => i.console.text [channel]) := by
  intro whole part
  have hpart : Alike (Sinks.Lacks faults) ⟨storage, Sinks.ofFaults faults⟩
      ⟨storage, Sinks.ofFaults fun _ => none⟩ := ⟨rfl, Sinks.lacks_ofFaults faults⟩
  have hlacks := answers_alike (Sinks.keeps_lacks faults) hpart calls
  have hwhole : Alike Interpreter.Shows ⟨storage, Sinks.ofFaults fun _ => none⟩
      (Interpreter.executor { storage }) := ⟨rfl, Interpreter.shows_ofFaults⟩
  have hshows := answers_alike Interpreter.keeps_shows hwhole calls
  rw [Interpreter.executor_answers, List.forall₂_map_right_iff] at hshows
  refine ⟨?_, ?_, ?_⟩
  · apply map_eq_map_of_forall₂ hlacks
    rintro _ _ ⟨hsummary, hafter⟩
    exact Prod.ext hsummary hafter.storage
  · intro channel
    apply map_eq_map_of_forall₂ hlacks
    rintro _ _ ⟨-, hafter⟩
    exact hafter.output.contents channel
  · apply map_eq_map_of_forall₂ hshows
    rintro _ _ ⟨hsummary, hafter⟩
    exact Prod.ext hsummary (Prod.ext hafter.storage (funext hafter.output.text))

-- A flush that fails keeps the next one from being made: what the diagnostics hold back is theirs,
-- but has not been passed on.
example :
    let broken : Sinks := { result := { fault? := some ⟨"gone"⟩ } }
    (execute ⟨.file, broken⟩ [.status]).2.output =
      { broken with
        diagnostic := { held := "file storage is not implemented\n" }
        warnings := [.flush ⟨"gone"⟩] } := by decide +kernel

end Executor

end ParkingLot
