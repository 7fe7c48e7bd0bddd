import ParkingLot.CommandLine.Options
import ParkingLot.CommandLine.Source
import ParkingLot.Language.Diagnostic
import ParkingLot.Language.Listing
import ParkingLot.Session
/-!
# Running from the command line

A source file is listed as tokens, printed in canonical form, or run as a whole. Without one, a
session reads standard input. A syntax error anywhere in a file stops it before its first
statement; a statement that fails is reported and stops nothing.
-/

namespace ParkingLot

def about : String := "Parking lot command interpreter"

def version : String := "0.1.0"

/-- What arguments ask for. What is only to be printed comes from the reader of the arguments. -/
inductive Request where
  | print (text : String)
  | run (options : Options)
deriving DecidableEq, Repr

structure Output where
  out : String
  err : String := ""
deriving DecidableEq, Repr

/-- Why a run was stopped. It has printed nothing by then. -/
inductive Stop where
  /-- The arguments make no sense. The complaint comes from the reader of the arguments. -/
  | usage (complaint : String)
  | options (e : OptionsError)
  | source (e : SourceError)
  | malformed (diagnostics : List Diagnostic)
deriving DecidableEq, Repr

def Stop.exitCode : Stop → UInt32
  | usage _ => 2
  | _ => 1

/-- The complaint of a run that was stopped. How syntax errors are laid out is up to `render`. -/
def Stop.message (render : List Diagnostic → String) : Stop → String
  | usage complaint => complaint
  | options e => e.message
  | source e => e.message
  | malformed diagnostics => render diagnostics

/-- What a console leaves behind. Results and the words of the shell share standard output. -/
def Console.output (console : Console) : Output where
  out := console.text [.result, .shell]
  err := console.text [.diagnostic]

def readProgram (files : FileSystem) (path : String) : Except Stop Program := do
  let text ← (readSource files path).mapError .source
  (Program.ofText text).mapError fun es => .malformed (es.diagnostics path)

def listTokens (files : FileSystem) (path : String) : Except Stop Output := do
  let text ← (readSource files path).mapError .source
  return { out := Token.listings (tokenize text) }

def printProgram (files : FileSystem) (path : String) : Except Stop Output := do
  let program ← readProgram files path
  return { out := if program.isEmpty then "" else canonicalText program.statements ++ "\n" }

def runProgram (files : FileSystem) (storage : Storage) (path : String) :
    Except Stop Output := do
  let program ← readProgram files path
  return (Interpreter.execute { storage } program.statements).2.console.output

def runSession (storage : Storage) (input : List UInt8) : Output :=
  (Session.run ⟨.ofBytes input false, { storage }⟩).interpreter.console.output

def Options.run (files : FileSystem) (input : List UInt8) (o : Options) : Except Stop Output :=
  match o.lexFile, o.parseFile with
  | some path, _ => listTokens files path
  | none, some path => printProgram files path
  | none, none =>
    match o.fault?, o.file with
    | some e, _ => .error (.options e)
    | none, some path => runProgram files (.ofKind o.storage) path
    | none, none => .ok (runSession (.ofKind o.storage) input)

/-- Runs the program on its arguments, the files that it can find and its standard input. How
arguments are read is up to `read`. -/
def run (read : List String → Except String Request) (files : FileSystem) (input : List UInt8)
    (args : List String) : Except Stop Output :=
  match read args with
  | .error complaint => .error (.usage complaint)
  | .ok (.print text) => .ok { out := text }
  | .ok (.run options) => options.run files input

end ParkingLot
