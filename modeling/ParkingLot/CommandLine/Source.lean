/-!
# Source files

Reading the text of a source file, from whatever can be found under its path.
-/

namespace ParkingLot

structure SystemError where
  text : String
  code : Nat
deriving DecidableEq, Repr

namespace SystemError

def message (e : SystemError) : String := s!"{e.text} (os error {e.code})"

def notFound : SystemError := ⟨"No such file or directory", 2⟩

def notDirectory : SystemError := ⟨"Not a directory", 20⟩

def isDirectory : SystemError := ⟨"Is a directory", 21⟩

def nameTooLong : SystemError := ⟨"File name too long", 36⟩

end SystemError

/-- The content of a file. One of zeros is given by its size alone, so it may be larger than any
that could be read. -/
inductive Content where
  | written (bytes : ByteArray)
  | zeros (size : Nat)

namespace Content

def size : Content → Nat
  | written bytes => bytes.size
  | zeros size => size

def bytes : Content → ByteArray
  | written bytes => bytes
  | zeros size => ⟨Array.replicate size 0⟩

end Content

inductive Entry where
  | file (content : Content)
  /-- Something that is there but cannot be read. -/
  | unreadable (e : SystemError)

abbrev FileSystem := String → Except SystemError Entry

inductive SourceError where
  | unavailable (path : String) (e : SystemError)
  | tooLarge (path : String) (size : Nat)
  | unreadable (e : SystemError)
  /-- The bytes are not UTF-8. -/
  | notText
deriving DecidableEq, Repr

def maxSourceSize : Nat := 104857600

def SourceError.message : SourceError → String
  | unavailable path e => s!"source file {path}: {e.message}"
  | tooLarge path size =>
    s!"source file {path} is too large ({size} bytes, max {maxSourceSize} bytes)"
  | unreadable e => s!"reading source code error: {e.message}"
  | notText => "reading source code error: stream did not contain valid UTF-8"

/-- The source text under a path. A file that is too large is not read. -/
def readSource (files : FileSystem) (path : String) : Except SourceError String :=
  match files path with
  | .error e => .error (.unavailable path e)
  | .ok (.unreadable e) => .error (.unreadable e)
  | .ok (.file content) =>
    if content.size > maxSourceSize then .error (.tooLarge path content.size)
    else
      match String.fromUTF8? content.bytes with
      | some text => .ok text
      | none => .error .notText

end ParkingLot
