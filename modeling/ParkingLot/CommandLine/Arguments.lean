import ParkingLot.CommandLine.Run
/-!
# Arguments

A reader of arguments. The program leaves that to a library and takes the reader as it comes
(`ParkingLot.run`); this one goes by the documented rules of the library. Arguments are read from
left to right and the first problem ends the reading. The value of a setting is looked at only when
the next setting begins or the arguments end, so an unknown argument after a bad value is the
problem that is reported. Settings that shut each other out are compared last of all.

The program's own are the settings and what they say of themselves (`Setting`), the names of the
kinds of storage, and the complaint about a name that is none of them.
-/

namespace ParkingLot.Arguments

inductive Problem where
  /-- No setting has this flag, or there is already a source file. -/
  | unknown (arg : String)
  | missingValue (setting : Setting)
  | emptyValue (setting : Setting)
  /-- No storage has this name. -/
  | invalidStorage (name : String)
  /-- A flag without a value was given one. -/
  | unwantedValue (flag : String)
  | repeated (setting : Setting)
  | conflict (one other : Setting)
deriving DecidableEq, Repr

def Problem.message : Problem → String
  | unknown arg => s!"unexpected argument '{arg}' found"
  | missingValue setting => s!"a value is required for '{setting.usage}' but none was supplied"
  | emptyValue setting => s!"a value is required for '{setting.usage}' but none was supplied"
  | invalidStorage name => StorageKind.invalidMessage name
  | unwantedValue flag => s!"no value is allowed for '--{flag}'"
  | repeated setting => s!"the argument '{setting.usage}' cannot be used multiple times"
  | conflict one other => s!"the argument '{one.usage}' cannot be used with '{other.usage}'"

inductive Wish where
  | help
  | version
  | run (options : Options)
deriving DecidableEq, Repr

inductive Form where
  /-- Two hyphens: all that follows is taken as it is. -/
  | terminator
  /-- A flag of two hyphens, with the value attached by `=`. -/
  | long (flag : String) (value : Option String)
  /-- One hyphen and letters. Only the first letter counts. -/
  | short (letter : Char)
  /-- Anything else, a lone hyphen among them. -/
  | plain
deriving DecidableEq, Repr

def Form.of (arg : String) : Form :=
  match arg.toList with
  | ['-', '-'] => .terminator
  | '-' :: '-' :: cs =>
    let flag := String.ofList (cs.takeWhile (· != '='))
    match cs.dropWhile (· != '=') with
    | [] => .long flag none
    | _ :: value => .long flag (some (String.ofList value))
  | '-' :: c :: _ => .short c
  | _ => .plain

def path (setting : Setting) (value : String) : Except Problem (Option String) :=
  if value = "" then .error (.emptyValue setting) else .ok (some value)

def set (o : Options) (setting : Setting) (value : String) : Except Problem Options :=
  match setting with
  | .file => (path .file value).map fun file => { o with file }
  | .storage =>
    match StorageKind.ofName? value with
    | some storage => .ok { o with storage }
    | none => .error (.invalidStorage value)
  | .storageFile => (path .storageFile value).map fun storageFile => { o with storageFile }
  | .lexFile => (path .lexFile value).map fun lexFile => { o with lexFile }
  | .parseFile => (path .parseFile value).map fun parseFile => { o with parseFile }

/-- Options part of the way through the arguments. -/
structure Progress where
  options : Options := {}
  /-- The settings that have their value. -/
  given : List Setting := []
  /-- The setting begun last, and its value if that has been read. -/
  pending : Option (Setting × Option String) := none
  /-- Whether the terminator has been read. -/
  terminated : Bool := false
deriving DecidableEq, Repr

namespace Progress

def assign (p : Progress) (setting : Setting) (value : String) : Except Problem Progress :=
  if setting ∈ p.given then .error (.repeated setting)
  else (set p.options setting value).map fun options =>
    { p with options, given := setting :: p.given }

def settle (p : Progress) : Except Problem Progress :=
  match p.pending with
  | none => .ok p
  | some (setting, none) => .error (.missingValue setting)
  | some (setting, some value) => { p with pending := none }.assign setting value

/-- Whether a source file has been named, even if its name has not been looked at. -/
def hasFile (p : Progress) : Bool :=
  p.given.contains .file || p.pending.map Prod.fst == some .file

def takeFile (p : Progress) (arg : String) : Except Problem Progress :=
  if p.hasFile then .error (.unknown arg)
  else p.settle.map fun p => { p with pending := some (.file, some arg) }

def takePlain (p : Progress) (arg : String) : Except Problem Progress :=
  match p.pending with
  | some (setting, none) => .ok { p with pending := some (setting, some arg) }
  | _ => p.takeFile arg

def beginSetting (p : Progress) (setting : Setting) (value : Option String) :
    Except Problem Progress := do
  let p ← p.settle
  match value with
  | none => .ok { p with pending := some (setting, none) }
  | some value => p.assign setting value

def finish (p : Progress) : Except Problem Wish := do
  let p ← p.settle
  match p.options.conflict? with
  | some (one, other) => .error (.conflict one other)
  | none => .ok (.run p.options)

def read (p : Progress) : List String → Except Problem Wish
  | [] => p.finish
  | arg :: args =>
    if p.terminated then do
      let p ← p.takeFile arg
      p.read args
    else
      match Form.of arg with
      | .terminator => { p with terminated := true }.read args
      | .plain => do
        let p ← p.takePlain arg
        p.read args
      | .short 'h' => p.settle.map fun _ => .help
      | .short 'V' => p.settle.map fun _ => .version
      | .short _ => .error (.unknown arg)
      | .long "help" none => p.settle.map fun _ => .help
      | .long "version" none => p.settle.map fun _ => .version
      | .long "help" (some _) => .error (.unwantedValue "help")
      | .long "version" (some _) => .error (.unwantedValue "version")
      | .long flag value =>
        match Setting.ofFlag? flag with
        | some setting => do
          let p ← p.beginSetting setting value
          p.read args
        | none => .error (.unknown arg)

end Progress

def wish (args : List String) : Except Problem Wish := Progress.read {} args

def helpLine (usage help : String) : String := Text.Table.pad 29 usage ++ help

def settingLine (s : Setting) : String :=
  let default :=
    match s.default? with
    | some value => s!" [default: {value}]"
    | none => ""
  helpLine ("      " ++ s.usage) (s.help ++ default)

def helpText : String :=
  let lines := [about, "", "Usage: lot [OPTIONS] [FILE]", "", "Arguments:",
    s!"  {Setting.file.usage}  {Setting.file.help}", "", "Options:"] ++
    [Setting.storage, .storageFile, .lexFile, .parseFile].map settingLine ++
    [helpLine "  -h, --help" "Print help", helpLine "  -V, --version" "Print version"]
  String.join (lines.map (· ++ "\n"))

/-- The request that the arguments make, or a complaint about them. -/
def read (args : List String) : Except String Request :=
  match wish args with
  | .error e => .error s!"error: {e.message}\n\nFor more information, try '--help'."
  | .ok .help => .ok (.print helpText)
  | .ok .version => .ok (.print s!"lot {version}\n")
  | .ok (.run options) => .ok (.run options)

end ParkingLot.Arguments
