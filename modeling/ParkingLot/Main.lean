import ParkingLot.CommandLine.Arguments
/-!
# The program

Reads what a run needs, and prints what it leaves behind. At a terminal the session goes line by
line; otherwise all input is read first.
-/

namespace ParkingLot

def systemError : IO.Error → SystemError
  | .noFileOrDirectory _ _ _ => .notFound
  | .permissionDenied _ _ _ => ⟨"Permission denied", 13⟩
  | .inappropriateType _ 21 _ => .isDirectory
  | .inappropriateType _ _ _ => .notDirectory
  | .invalidArgument _ _ _ => .nameTooLong
  | e => ⟨toString e, 0⟩

def readEntry (path : String) : IO (Except SystemError Entry) := do
  match ← (IO.FS.readBinFile path).toBaseIO with
  | .ok bytes => return .ok (.file (.written bytes))
  | .error e =>
    let e := systemError e
    -- a directory is found like a file and only fails to be read
    if e = .isDirectory then return .ok (.unreadable e) else return .error e

partial def readBytes (stream : IO.FS.Stream) (before : ByteArray) : IO ByteArray := do
  let chunk ← stream.read 65536
  if chunk.isEmpty then return before
  readBytes stream (before ++ chunk)

def Console.flush (console : Console) : IO Unit := do
  let output := console.output
  IO.print output.out
  (← IO.getStdout).flush
  IO.eprint output.err

/-- A session at a terminal. Each line is answered before the next one is read. -/
partial def converse (session : Session) : IO Unit := do
  IO.print (Shell.prompt true)
  (← IO.getStdout).flush
  let line ← (← IO.getStdin).getLine
  unless line.isEmpty do
    let shell := { session.shell with pending := [line.toUTF8.toList] }
    let (input, session) := { session with shell }.step
    session.interpreter.console.flush
    unless input = .exit do
      converse { session with interpreter := { storage := session.interpreter.storage } }

/-- Syntax errors in plain lines, where the library would draw the source. -/
def plainReport (diagnostics : List Diagnostic) : String :=
  "\n".intercalate (diagnostics.map fun d =>
    s!"{Diagnostic.code}: {d.message}\n  --> {d.path}, byte {d.offset}: {d.label}")

def Options.source? (o : Options) : Option String := o.lexFile <|> o.parseFile <|> o.file

def Options.perform (o : Options) : IO (Except Stop Output) := do
  match o.source? with
  | some path =>
    let entry ← readEntry path
    return o.run (fun _ => entry) []
  | none =>
    let stdin ← IO.getStdin
    if o.fault?.isNone && (← stdin.isTty) then
      converse ⟨{ pending := [] }, { storage := .ofKind o.storage }⟩
      return .ok { out := "" }
    else
      let input ← readBytes stdin .empty
      return o.run (fun _ => .error .notFound) input.toList

end ParkingLot

open ParkingLot in
def main (args : List String) : IO UInt32 := do
  let result ←
    match Arguments.read args with
    | .ok (.run options) => options.perform
    | _ => pure (run Arguments.read (fun _ => .error .notFound) [] args)
  match result with
  | .ok output =>
    IO.print output.out
    IO.eprint output.err
    return 0
  | .error stop =>
    IO.eprintln (stop.message plainReport)
    return stop.exitCode
