import ParkingLot.Interpreter
import ParkingLot.Shell
/-!
# Sessions

A session feeds the lines of a shell to an interpreter, until `exit` or the end of the input.
-/

namespace ParkingLot

structure Session where
  shell : Shell
  interpreter : Interpreter
deriving DecidableEq, Repr

namespace Session

/-- Reads one line and runs it, if there is one. What the shell prints comes before what the line
brings about. -/
def step (s : Session) : Input × Session :=
  let reading := s.shell.readLine
  let printed := { s.interpreter with
    console := s.interpreter.console.write .shell reading.printed }
  match reading.input with
  | .line text => (reading.input, ⟨reading.shell, printed.enter text⟩)
  | _ => (reading.input, ⟨reading.shell, printed⟩)

theorem length_pending_lt_of_step {s t : Session} {text : String}
    (h : s.step = (.line text, t)) : t.shell.pending.length < s.shell.pending.length := by
  simp only [step] at h
  split at h
  · next line hline =>
    obtain ⟨_, rfl⟩ := Prod.mk.inj h
    exact Shell.length_pending_lt_of_readLine hline
  · next hline => exact absurd (Prod.mk.inj h).1 (hline text)

def run (s : Session) : Session :=
  match _h : s.step with
  | (.line _, t) => t.run
  | (_, t) => t
termination_by s.shell.pending.length
decreasing_by exact length_pending_lt_of_step _h

end Session

end ParkingLot
