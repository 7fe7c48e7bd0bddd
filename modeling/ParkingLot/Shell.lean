import ParkingLot.Text.Blank
import ParkingLot.Text.Lines
import ParkingLot.Text.Utf8
/-!
# The shell

The shell hands out the lines of its input one at a time. It answers `exit` and `history` itself
and passes over blank lines. Every line that it hands out goes into the history.
-/

namespace ParkingLot

open Text

inductive LineClass where
  | exit
  | history
  | blank
  | command
deriving DecidableEq, Repr

/-- The class of a line. The words of the shell must make up the whole line. -/
def LineClass.of (line : String) : LineClass :=
  if line = "exit" then .exit
  else if line = "history" then .history
  else if isBlank line.toList then .blank
  else .command

def lineText (raw : List UInt8) : String := String.ofList (trimLineEnd (Utf8.decode raw))

/-- A shell: the raw lines still to be read, whether it prompts for them, and the lines handed out
so far, oldest first. -/
structure Shell where
  pending : List (List UInt8)
  interactive : Bool := false
  history : Array String := #[]
deriving DecidableEq, Repr

inductive Input where
  | line (text : String)
  /-- The line `exit` was read. -/
  | exit
  /-- There are no more lines. -/
  | ended
deriving DecidableEq, Repr

/-- One reading: what was handed out, what the shell printed meanwhile, and the shell after it. -/
structure Reading where
  input : Input
  printed : String
  shell : Shell
deriving DecidableEq, Repr

namespace Shell

def ofBytes (bytes : List UInt8) (interactive : Bool) : Shell :=
  { pending := cutAfter 0x0a bytes, interactive }

def prompt (interactive : Bool) : String := if interactive then "$ " else ""

def readFrom (interactive : Bool) (history : Array String) : List (List UInt8) → Reading
  | [] => ⟨.ended, prompt interactive, ⟨[], interactive, history⟩⟩
  | raw :: pending =>
    let line := lineText raw
    match LineClass.of line with
    | .exit => ⟨.exit, prompt interactive ++ "Goodbye!\n", ⟨pending, interactive, history⟩⟩
    | .history =>
      let reading := readFrom interactive history pending
      let listing := "\n".intercalate history.toList ++ "\n"
      { reading with printed := prompt interactive ++ listing ++ reading.printed }
    | .blank =>
      let reading := readFrom interactive history pending
      { reading with printed := prompt interactive ++ reading.printed }
    | .command =>
      ⟨.line line, prompt interactive, ⟨pending, interactive, history.push line⟩⟩

def readLine (shell : Shell) : Reading :=
  readFrom shell.interactive shell.history shell.pending

theorem length_pending_lt_of_readLine {shell : Shell} {text : String}
    (h : shell.readLine.input = .line text) :
    shell.readLine.shell.pending.length < shell.pending.length := by
  obtain ⟨raws, interactive, history⟩ := shell
  simp only [readLine] at h ⊢
  induction raws with
  | nil => simp [readFrom] at h
  | cons raw pending ih =>
    simp only [readFrom] at h ⊢
    split at h
    · contradiction
    · exact Nat.lt_succ_of_lt (ih h)
    · exact Nat.lt_succ_of_lt (ih h)
    · exact Nat.lt_succ_self _

end Shell

end ParkingLot
