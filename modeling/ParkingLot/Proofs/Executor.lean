import ParkingLot.Executor
/-!
# Executing in step

What comes of writing and flushing has no part in what is executed.  Two executors that take the
same calls on the same storage come to the same summaries and storages, whatever takes their output
and whatever is answered to it (`Executor.execute_alike`).  Their outputs stay in any relation that
is kept by writing the same to both, and that no flush and no warning on either side disturbs.
-/

namespace ParkingLot

variable {σ τ : Type} [Outlet σ] [Outlet τ]

/-- Writing the same to both sides keeps the relation, with success or without.  Flushes and
warnings keep it even on one side alone. -/
structure Outlet.Keeps (R : σ → τ → Prop) : Prop where
  write : ∀ {o p} (channel : Channel) (text : String), R o p →
    R (Outlet.write o channel text).2 (Outlet.write p channel text).2
  flush_left : ∀ {o p} (channel : Channel), R o p → R (Outlet.flush o channel).2 p
  flush_right : ∀ {o p} (channel : Channel), R o p → R o (Outlet.flush p channel).2
  warn_left : ∀ {o p} (warning : Warning), R o p → R (Outlet.warn o warning) p
  warn_right : ∀ {o p} (warning : Warning), R o p → R o (Outlet.warn p warning)

theorem Outlet.Keeps.flip {R : σ → τ → Prop} (hR : Keeps R) : Keeps fun p o => R o p where
  write := hR.write
  flush_left := hR.flush_right
  flush_right := hR.flush_left
  warn_left := hR.warn_right
  warn_right := hR.warn_left

namespace Executor

variable {R : σ → τ → Prop} {o : σ} {p : τ} {e : Executor σ} {f : Executor τ}

/-! ## One output -/

private theorem settle_left {answered : Except OutputError Unit × σ} (hR : Outlet.Keeps R)
    (warning : OutputError → Warning) (h : R answered.2 p) : R (settle warning answered) p := by
  obtain ⟨_ | _, o⟩ := answered
  · exact hR.warn_left _ h
  · exact h

private theorem settle_right {answered : Except OutputError Unit × τ} (hR : Outlet.Keeps R)
    (warning : OutputError → Warning) (h : R o answered.2) : R o (settle warning answered) :=
  settle_left hR.flip warning h

theorem emit_keeps (hR : Outlet.Keeps R) (h : R o p) (channel : Channel) (line : String) :
    R (emit o channel line) (emit p channel line) :=
  settle_left hR _ (settle_right hR _ (hR.write channel _ h))

private theorem flushBoth_left (hR : Outlet.Keeps R) (h : R o p) : R (flushBoth o).2 p := by
  unfold flushBoth
  have hresult := hR.flush_left .result h
  split
  · next hflush =>
    rw [hflush] at hresult
    exact hR.flush_left .diagnostic hresult
  · next hflush =>
    rwa [hflush] at hresult

private theorem flushBoth_right (hR : Outlet.Keeps R) (h : R o p) : R o (flushBoth p).2 :=
  flushBoth_left hR.flip h

/-! ## Two executors -/

structure Alike (R : σ → τ → Prop) (e : Executor σ) (f : Executor τ) : Prop where
  storage : e.storage = f.storage
  output : R e.output f.output

theorem step_alike (hR : Outlet.Keeps R) (h : Alike R e f) (summary : Summary) (s : Statement) :
    (e.step summary s).1 = (f.step summary s).1 ∧
      Alike R (e.step summary s).2 (f.step summary s).2 := by
  obtain ⟨storage, o⟩ := e
  obtain ⟨_, p⟩ := f
  obtain ⟨rfl, houtput⟩ := h
  exact ⟨rfl, rfl, emit_keeps hR houtput _ _⟩

theorem steps_alike (hR : Outlet.Keeps R) (h : Alike R e f) (summary : Summary)
    (ss : List Statement) :
    (e.steps summary ss).1 = (f.steps summary ss).1 ∧
      Alike R (e.steps summary ss).2 (f.steps summary ss).2 := by
  induction ss generalizing e f summary with
  | nil => exact ⟨rfl, h⟩
  | cons s ss ih =>
      obtain ⟨hsummary, hstep⟩ := step_alike hR h summary s
      rw [steps_cons, steps_cons, hsummary]
      exact ih hstep _

theorem execute_alike (hR : Outlet.Keeps R) (h : Alike R e f) (ss : List Statement) :
    (e.execute ss).1 = (f.execute ss).1 ∧ Alike R (e.execute ss).2 (f.execute ss).2 := by
  obtain ⟨hsummary, hstorage, houtput⟩ := steps_alike hR h ⟨0, 0⟩ ss
  exact ⟨hsummary, hstorage,
    settle_left hR _ (flushBoth_left hR (settle_right hR _ (flushBoth_right hR houtput)))⟩

theorem report_alike (hR : Outlet.Keeps R) (h : Alike R e f) (message : String) :
    Alike R (e.report message) (f.report message) where
  storage := h.storage
  output :=
    have houtput := emit_keeps hR h.output .diagnostic message
    settle_left hR _ (hR.flush_left _ (settle_right hR _ (hR.flush_right _ houtput)))

end Executor

end ParkingLot
