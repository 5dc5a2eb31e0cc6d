import EnvTemplate.CommandLine.Flag
import EnvTemplate.FileTree.Path
import EnvTemplate.Text.Cut
import EnvTemplate.Variables

namespace EnvTemplate.CommandLine

inductive Stop
  | usage
  | version
  | help
  deriving DecidableEq, Repr

def Stop.exitCode : Stop → Nat
  | usage => 2
  | version | help => 0

abbrev Given := List (Flag × String)

/-- A flag is given once at a level, and the directory is not empty. -/
def add (given : Given) (flag : Flag) (value : String) : Except Stop Given :=
  if (given.lookup flag).isSome || (flag = .directory && value = "") then .error .usage
  else .ok (given ++ [(flag, value)])

def looksLikeFlag (arg : String) : Bool :=
  match arg.toList with
  | '-' :: _ :: _ => true
  | _ => false

/-- What has been read of a level: the flags that are settled, and one that is held back. A value
in an argument of its own is not looked at before the next flag, or the end of its level. -/
structure Scan where
  given : Given
  held : Option (Flag × Option String)
  deriving DecidableEq, Repr

namespace Scan

def start : Scan := ⟨[], none⟩

def settle (scan : Scan) : Except Stop Given :=
  match scan.held with
  | none => .ok scan.given
  | some (_, none) => .error .usage
  | some (flag, some value) => add scan.given flag value

def take (scan : Scan) (flag : Flag) (attached : Option String) : Except Stop Scan :=
  match scan.settle, flag, attached with
  | .error stop, _, _ => .error stop
  | .ok _, .version, none => .error .version
  | .ok _, .help, none => .error .help
  | .ok given, flag, none =>
    if flag.takesValue then .ok ⟨given, some (flag, none)⟩
    else (add given flag "true").map (⟨·, none⟩)
  | .ok given, flag, some value =>
    if flag.takesValue then (add given flag value).map (⟨·, none⟩) else .error .usage

def takeLong (scan : Scan) (level : Level) (word : List Char) : Except Stop Scan :=
  let (name, attached) :=
    match Text.cut '=' word with
    | some (name, value) => (name, some (String.ofList value))
    | none => (word, none)
  match level.ofLong? (String.ofList name) with
  | some flag => scan.take flag attached
  | none => .error .usage

/-- The letters after one hyphen: each a flag, up to one whose value is the rest of them. -/
def takeShort (level : Level) (scan : Scan) : List Char → Except Stop Scan
  | [] => .ok scan
  | c :: rest =>
    match level.ofShort? c with
    | none => .error .usage
    | some flag =>
      if flag.takesValue then
        match rest with
        | [] => scan.take flag none
        | '=' :: value => scan.take flag (some (String.ofList value))
        | value => scan.take flag (some (String.ofList value))
      else
        match scan.take flag none with
        | .error stop => .error stop
        | .ok scan => takeShort level scan rest

def takeFlag (scan : Scan) (level : Level) (arg : String) : Except Stop Scan :=
  match arg.toList with
  | '-' :: '-' :: word => scan.takeLong level word
  | '-' :: c :: letters => scan.takeShort level (c :: letters)
  | _ => .error .usage

end Scan

/-- What a command line says: the flags of each level, the innermost first, and what stands after
two lone hyphens. -/
structure Reading where
  level : Level
  given : List Given
  trailing : List String
  deriving DecidableEq, Repr

def isCommandPath : Level → List String → Bool
  | _, [] => true
  | level, name :: rest =>
    match level.command? name with
    | some inner => isCommandPath inner rest
    | none => level.hasCommands && name = "help" && rest = []

/-- Read the arguments of a level from left to right. A level is settled after the one inside. -/
def read (level : Level) : Scan → List String → Except Stop Reading
  | scan, [] => scan.settle.map fun given => ⟨level, [given], []⟩
  | ⟨given, some (flag, none)⟩, arg :: rest =>
    if looksLikeFlag arg then .error .usage else read level ⟨given, some (flag, some arg)⟩ rest
  | scan, arg :: rest =>
    match level.command? arg with
    | some inner =>
      match read inner .start rest, scan.settle with
      | .error stop, _ => .error stop
      | .ok _, .error stop => .error stop
      | .ok reading, .ok given => .ok { reading with given := reading.given ++ [given] }
    | none =>
      if level.hasCommands && arg = "help" then
        .error (if isCommandPath level rest then .help else .usage)
      else if arg = "--" then scan.settle.map fun given => ⟨level, [given], rest⟩
      else
        match scan.takeFlag level arg with
        | .error stop => .error stop
        | .ok scan => read level scan rest

inductive ModeChoice
  | development
  | production
  | auto (key value : String)
  deriving DecidableEq, Repr

inductive Command
  | check
  | run (choice : ModeChoice) (program : String) (arguments : List String)
  | cacheStatus
  | cacheClear
  deriving DecidableEq, Repr

structure Arguments where
  directory : Path
  template : Option String
  envFile : Option String
  overwrite : Bool
  output : String
  reveal : Bool
  command : Command
  deriving DecidableEq, Repr

/-- The value of a flag: the innermost one given, else its variable's. The variable counts at
every level where the flag is not given, and is refused even if another level gives the flag. -/
def value? {α : Type} (environment : Variables) (levels : List Given) (flag : Flag)
    (ofText : String → α) (ofVariable : ByteArray → Option α) : Except Stop (Option α) :=
  let given := (levels.findSome? fun level => level.lookup flag).map ofText
  match flag.environmentKey?.bind environment.get? with
  | none => .ok given
  | some bytes =>
    if levels.all fun level => (level.lookup flag).isSome then .ok given
    else
      match ofVariable bytes with
      | none => .error .usage
      | some value => .ok (some (given.getD value))

def directoryOf (bytes : ByteArray) : Option Path :=
  if bytes.isEmpty then none else some ⟨bytes.data.toList⟩

def switchOf (bytes : ByteArray) : Option Bool :=
  match String.fromUTF8? bytes with
  | some "true" => some true
  | some "false" => some false
  | _ => none

def modeChoice (levels : List Given) : Except Stop ModeChoice :=
  let find (flag : Flag) := levels.findSome? fun level => level.lookup flag
  match find .production, find .modeKey with
  | some _, some _ => .error .usage
  | some _, none => .ok .production
  | none, some key => .ok (.auto key ((find .productionValue).getD "production"))
  | none, none => .ok .development

def command (reading : Reading) : Except Stop Command :=
  match reading.level, reading.trailing with
  | .run, program :: arguments =>
    (modeChoice reading.given).map fun choice => .run choice program arguments
  | .check, [] => .ok .check
  | .cacheStatus, [] => .ok .cacheStatus
  | .cacheClear, [] => .ok .cacheClear
  | _, _ => .error .usage

def Arguments.ofReading (environment : Variables) (reading : Reading) : Except Stop Arguments := do
  let text (flag : Flag) := value? environment reading.given flag id String.fromUTF8?
  let switch (flag : Flag) := value? environment reading.given flag (fun _ => true) switchOf
  let directory ← value? environment reading.given .directory Path.ofText directoryOf
  return {
    command := ← CommandLine.command reading
    directory := directory.getD (Path.ofText ".")
    template := ← text .template
    envFile := ← text .envFile
    overwrite := !((← switch .noOverwrite).getD false)
    output := (← text .output).getD "table"
    reveal := (← switch .reveal).getD false }

def Arguments.parse (environment : Variables) (args : List String) : Except Stop Arguments :=
  (read .top .start args).bind (Arguments.ofReading environment)

end EnvTemplate.CommandLine
