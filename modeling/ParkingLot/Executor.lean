import ParkingLot.Execution
import ParkingLot.Storage.InPlace
/-!
# The executor

Statements are carried out one by one on the storage that there is, and a line about each is written
before the next one is begun. Output that is not taken leaves a warning and stops nothing. After the
last statement the results are flushed, and the diagnostics too if that went well.
-/

namespace ParkingLot

open Text

def Statement.exec : Statement → InPlace Storage Failure Reply
  | createParkingLot n => do
    if n.toInt < 0 then throw (.lot (.invalidCapacity n.toInt))
    ExceptT.adapt .lot (Storage.init n.toInt.toNat)
    return .text s!"Created a parking lot with {n.toInt} slots"
  | park registration colour => do
    let car ← MonadExcept.ofExcept ((Car.ofTexts registration colour).mapError .car)
    let i ← ExceptT.adapt .lot (Storage.save car)
    return .text s!"Allocated slot number: {i + 1}"
  | leave slot => do
    let i ← MonadExcept.ofExcept (((← get).indexOf slot).mapError .lot)
    ExceptT.adapt .lot (Storage.remove i)
    return .text s!"Slot number {slot.toInt} is free"
  | status => do
    let taken ← MonadExcept.ofExcept ((← get).occupied.mapError .lot)
    return .text (withoutLast (Table.render (statusRows taken)))
  | registrationNumbersWithColour colour => do
    let cars ← MonadExcept.ofExcept (((← get).cars (Car.hasColour colour)).mapError .lot)
    return .ofList (cars.map Car.registration)
  | slotNumbersWithColour colour => do
    let indices ← MonadExcept.ofExcept (((← get).indices (Car.hasColour colour)).mapError .lot)
    return .ofList (indices.map fun i => toString (i + 1))
  | slotNumberWithRegistration registration => do
    let indices ←
      MonadExcept.ofExcept (((← get).indices (Car.hasRegistration registration)).mapError .lot)
    return .ofList (indices.map fun i => toString (i + 1))

/-- A statement that fails leaves the storage as it was: of all that it does, only what cannot fail
changes anything. -/
theorem Statement.exec_apply (s : Statement) (storage : Storage) :
    s.exec storage = carryOut storage (s.perform storage) := by
  cases s with
  | createParkingLot n =>
      rw [exec, perform, Storage.createOfInt]
      by_cases hneg : n.toInt < 0
      · rw [if_pos hneg, if_pos hneg]
        rfl
      · rw [if_neg hneg, if_neg hneg]
        refine (InPlace.adapt_bind (Storage.init_apply _ storage) _ _).trans ?_
        cases storage.create n.toInt.toNat <;> rfl
  | park registration colour =>
      rw [exec, perform]
      cases Car.ofTexts registration colour with
      | error e => rfl
      | ok car =>
          refine (InPlace.adapt_bind (Storage.save_apply car storage) _ _).trans ?_
          change _ = carryOut storage (((storage.park car).mapError _).bind _)
          obtain e | ⟨i, after⟩ := storage.park car <;> rfl
  | leave n =>
      rw [exec, InPlace.get_bind, perform, Storage.indexOf, Storage.leaveSlot]
      cases Storage.slotIndex? n with
      | none => cases storage.capacity <;> rfl
      | some i =>
          refine (InPlace.adapt_bind (Storage.remove_apply i storage) _ _).trans ?_
          dsimp only
          cases storage.leave i <;> rfl
  | status =>
      rw [exec, InPlace.get_bind, perform]
      cases storage.occupied <;> rfl
  | registrationNumbersWithColour colour =>
      rw [exec, InPlace.get_bind, perform]
      cases storage.cars (Car.hasColour colour) <;> rfl
  | slotNumbersWithColour colour =>
      rw [exec, InPlace.get_bind, perform]
      cases storage.indices (Car.hasColour colour) <;> rfl
  | slotNumberWithRegistration registration =>
      rw [exec, InPlace.get_bind, perform]
      cases storage.indices (Car.hasRegistration registration) <;> rfl

def Storage.exec (storage : Storage) (s : Statement) : Outcome × Storage := s.exec storage

theorem Storage.exec_eq_run (storage : Storage) (s : Statement) :
    storage.exec s = storage.run s := by
  rw [exec, run, s.exec_apply]
  cases s.perform storage <;> rfl

/-- The storage that statements act on and what takes their output. -/
structure Executor (σ : Type) where
  storage : Storage
  output : σ

namespace Executor

variable {σ : Type} [Outlet σ]

/-- Leaves a warning if output was not taken. -/
def settle (warning : OutputError → Warning) : Except OutputError Unit × σ → σ
  | (.ok _, output) => output
  | (.error e, output) => Outlet.warn output (warning e)

def emit (output : σ) (channel : Channel) (line : String) : σ :=
  settle .write (Outlet.write output channel (line ++ "\n"))

/-- Flushes the results, and the diagnostics if that goes well. -/
def flushBoth (output : σ) : Except OutputError Unit × σ :=
  match Outlet.flush output .result with
  | (.ok _, output) => Outlet.flush output .diagnostic
  | (.error e, output) => (.error e, output)

def step (e : Executor σ) (summary : Summary) (s : Statement) : Summary × Executor σ :=
  let (outcome, storage) := e.storage.exec s
  (⟨summary.executed + 1, summary.failed + if outcome.isFailure then 1 else 0⟩,
    ⟨storage, emit e.output outcome.channel outcome.line⟩)

def steps (e : Executor σ) (summary : Summary) : List Statement → Summary × Executor σ
  | [] => (summary, e)
  | s :: ss =>
    let (summary, e) := e.step summary s
    e.steps summary ss

theorem steps_cons (e : Executor σ) (summary : Summary) (s : Statement) (ss : List Statement) :
    e.steps summary (s :: ss) = (e.step summary s).2.steps (e.step summary s).1 ss := rfl

/-- Runs statements in order and writes one line about each. -/
def execute (e : Executor σ) (ss : List Statement) : Summary × Executor σ :=
  let (summary, e) := e.steps ⟨0, 0⟩ ss
  (summary, { e with output := settle .flush (flushBoth e.output) })

def report (e : Executor σ) (message : String) : Executor σ :=
  let output := emit e.output .diagnostic message
  { e with output := settle .flush (Outlet.flush output .diagnostic) }

end Executor

end ParkingLot
