import EnvTemplate.Child.Utility.Printenv

/-! `env`: a program in an environment that is changed before, or what is in it. -/

namespace EnvTemplate.Child.Env

open Text.Utf8 (encode decode)

def table : OptionTable where
  all :=
    [.valued 'C' ["chdir"], .flag 'i' ["ignore-environment"], .flag '0' ["null"],
      .valued 'u' ["unset"], .flag 'v' ["debug"]]
  permutes := false

def cutAssignments (words : List Bytes) : List Bytes × List Bytes :=
  words.span fun word => 0x3D ∈ word

def withAssignment (environment : Variables) (word : Bytes) : Variables :=
  environment.insert (decode (word.takeWhile (· ≠ 0x3D)))
    ⟨((word.dropWhile (· ≠ 0x3D)).drop 1).toArray⟩

def codeOf (cause : FileError) : Nat := if cause = .notFound then 127 else 126

def enter (system : System) (path : Bytes) : Except FileError System :=
  match system.files.locate .target ⟨path⟩ with
  | .error cause => .error cause
  | .ok location =>
    match system.files.at? location with
    | some .directory => .ok { system with files := { system.files with home := location } }
    | none => .error .notFound
    | some _ => .error .notADirectory

def become (behaviour : Behaviour) (start : Start) (directory : Bytes) : Act Process Unit := do
  let p ← get
  match enter p.system directory with
  | .error cause =>
    set (p.complain 125 (encode "cannot change directory to " ++ p.quote directory ++
      encode s!": {cause.reason}"))
  | .ok system =>
    match behaviour system.files start with
    | .ok work => Act.stop fun p => work { p.system with files := system.files }
    | .error cause =>
      set (p.complain (codeOf cause) (p.cite start.path ++ encode s!": {cause.reason}"))

def runWith (behaviour : Behaviour) (start : Start) (choice : OptionChoice) :
    Act Process Unit := do
  let alone := choice.operands.head? = some hyphen
  let operands := if alone then choice.operands.tail else choice.operands
  let kept : Variables := if choice.has 'i' || alone then ∅ else start.environment
  let unset := choice.options.filter fun (letter, _) => letter = 'u'
  match unset.find? fun (_, name) => name = [] || 0x3D ∈ name with
  | some (_, name) =>
    modify fun p => p.complain 125 (encode "cannot unset " ++ p.cite name ++
      encode s!": {FileError.invalidArgument.reason}")
  | none =>
    let left := unset.foldl (fun environment (_, name) => environment.erase (decode name)) kept
    let (assignments, words) := cutAssignments operands
    let environment := assignments.foldl withAssignment left
    match words with
    | [] =>
      modify fun p => Printenv.printAll (if choice.has '0' then 0 else lineEnd) []
        { p with environment := environment }
    | name :: args =>
      if choice.has '0' then
        modify (Process.misuse · (encode "cannot specify --null (-0) with command"))
      else
        become behaviour
          { start with path := name, program := name, arguments := args, environment := environment }
          ((choice.value? 'C').getD FileTree.currentName)

def run (behaviour : Behaviour) (start : Start) : Work :=
  Process.run start 125 do
    match table.read start.arguments with
    | .error message => modify (Process.misuse · message)
    | .ok choice => if choice.has OptionTable.about then return () else runWith behaviour start choice

end EnvTemplate.Child.Env
