import ParkingLot.Storage
/-!
# Options

The settings of a run: their flags, which of them shut each other out, and which do not go together
although each makes sense. How arguments are taken apart is not settled here. That is left to
whatever reads them.
-/

namespace ParkingLot

inductive Setting where
  /-- The source file to run, which needs no flag. -/
  | file
  | storage
  | storageFile
  | lexFile
  | parseFile
deriving DecidableEq, Repr

namespace Setting

def ofFlag? : String → Option Setting
  | "storage" => some storage
  | "storage-file" => some storageFile
  | "lex" => some lexFile
  | "parse" => some parseFile
  | _ => none

def usage : Setting → String
  | file => "[FILE]"
  | storage => "--storage <TYPE>"
  | storageFile => "--storage-file <PATH>"
  | lexFile => "--lex <FILE>"
  | parseFile => "--parse <FILE>"

def help : Setting → String
  | file => "Source file to execute; starts the interactive shell when omitted"
  | storage => "Type of storage [memory|file]"
  | storageFile => "File to store the database in (file storage only)"
  | lexFile => "Tokenize only (debug)"
  | parseFile => "Parse only (debug)"

def default? : Setting → Option String
  | storage => some StorageKind.memory.name
  | _ => none

/-- The settings that must not be given along with this one. -/
def excluded : Setting → List Setting
  | lexFile => [file, parseFile]
  | parseFile => [file]
  | _ => []

end Setting

structure Options where
  file : Option String := none
  storage : StorageKind := .memory
  storageFile : Option String := none
  lexFile : Option String := none
  parseFile : Option String := none
deriving DecidableEq, Repr

namespace Options

def has (o : Options) : Setting → Bool
  | .file => o.file.isSome
  | .storage => false
  | .storageFile => o.storageFile.isSome
  | .lexFile => o.lexFile.isSome
  | .parseFile => o.parseFile.isSome

/-- The first two settings that shut each other out. -/
def conflict? (o : Options) : Option (Setting × Setting) :=
  let pairs := [Setting.lexFile, .parseFile].flatMap fun s => s.excluded.map (s, ·)
  pairs.find? fun (s, t) => o.has s && o.has t

end Options

inductive OptionsError where
  | unwantedStorageFile
  | missingStorageFile
deriving DecidableEq, Repr

def OptionsError.message : OptionsError → String
  | unwantedStorageFile => "--storage-file flag is not allowed with \"memory\" storage"
  | missingStorageFile => "with \"file\" storage type flag --storage-file is required"

/-- The fault in the settings, if there is one: storage in a file needs a path, storage in memory
must not have one. -/
def Options.fault? (o : Options) : Option OptionsError :=
  match o.storage, o.storageFile with
  | .memory, some _ => some .unwantedStorageFile
  | .file, none => some .missingStorageFile
  | _, _ => none

end ParkingLot
