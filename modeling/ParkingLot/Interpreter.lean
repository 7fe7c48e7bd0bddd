import ParkingLot.Executor
import ParkingLot.Language.Parse
/-!
# The interpreter

An executor that writes to a console.
-/

namespace ParkingLot

structure Interpreter where
  storage : Storage
  console : Console := {}
deriving DecidableEq, Repr

namespace Interpreter

def executor (i : Interpreter) : Executor Console := ⟨i.storage, i.console⟩

def ofExecutor (e : Executor Console) : Interpreter := ⟨e.storage, e.output⟩

def execute (i : Interpreter) (ss : List Statement) : Summary × Interpreter :=
  let (summary, e) := i.executor.execute ss
  (summary, ofExecutor e)

def report (i : Interpreter) (message : String) : Interpreter :=
  ofExecutor (i.executor.report message)

/-- Runs the program on one line of input. A line that is no program is reported, and none of it
is run. -/
def enter (i : Interpreter) (line : String) : Interpreter :=
  match Program.ofText line with
  | .ok program => (i.execute program.statements).2
  | .error es => i.report s!"parsing error: {es.message}"

end Interpreter

end ParkingLot
