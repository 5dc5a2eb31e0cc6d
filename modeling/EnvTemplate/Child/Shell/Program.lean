import EnvTemplate.Child.Search
import EnvTemplate.Child.Shell.Builtin.Basic
import EnvTemplate.Child.Shell.Jobs

/-! Programs that a shell looks for and starts. -/

namespace EnvTemplate.Child.Shell

open Text.Utf8 (encode decode)

def programDirectories (sh : Shell) (usual : Bool) : List Bytes :=
  let value :=
    if usual then ((ownVariables.lookup "PATH").join.map encode).getD []
    else (sh.lookup? "PATH").getD []
  value.splitOn 0x3A

/-- Look for a program in one directory after the other. That it cannot be run where it stands is told
only if no later directory has it. -/
def findIn (files : FileTree) (name : Bytes) (failed : FileError) :
    List Bytes → Except FileError Bytes
  | [] => .error failed
  | directory :: rest =>
    let path := if directory = [] then name else directory ++ Path.slash :: name
    match programAt files ⟨path⟩ with
    | .ok _ => .ok path
    | .error cause =>
      findIn files name (if cause ∈ [.notFound, .notADirectory] then failed else cause) rest

def findProgram (sh : Shell) (usual : Bool) (name : Bytes) : Except FileError Bytes :=
  if Path.slash ∈ name then .ok name
  else findIn sh.system.files name .notFound (sh.programDirectories usual)

def regularCommands : List String :=
  ["[", "alias", "bg", "cd", "chdir", "command", "echo", "false", "fg", "getopts", "hash", "jobs",
    "kill", "printf", "pwd", "read", "test", "true", "type", "ulimit", "umask", "unalias", "wait"]

def ownCommands : List String := Script.specialCommands ++ regularCommands

def keepPlace (sh : Shell) (name path : Bytes) : Shell :=
  if Path.slash ∈ name then sh
  else { sh with places := sh.places.insert name ⟨path, false⟩ }

/-- Look for a program that will be run, as far as it is known before words are expanded. -/
def foresee (command : Command) (sh : Shell) : Shell :=
  match command with
  | .simple _ _ ([.text s] :: _) _ =>
    let name := Text.Bytewise.write s
    let known := sh.functions.contains (decode name) || decode name ∈ ownCommands
    if Script.isName s && !known then
      match sh.findProgram false name with
      | .ok path => sh.keepPlace name path
      | .error _ => sh
    else sh
  | _ => sh

def isMissing (cause : FileError) : Bool := cause ∈ [.notFound, .notADirectory]

structure Refusal where
  code : Nat
  reason : String

def Refusal.ofError (cause : FileError) : Refusal where
  code := if isMissing cause || cause ∈ [.nameTooLong, .tooManyLinks] then 127 else 126
  reason := if isMissing cause then "not found" else cause.reason

def prepare (engine : Engine) (usual : Bool) (name : Bytes) (args : List Bytes) (sh : Shell) :
    Except Refusal (Work × Shell) :=
  match sh.findProgram usual name with
  | .error cause => .error (.ofError cause)
  | .ok path =>
    let sh := if usual then sh else sh.keepPlace name path
    let start : Start := {
      path := if Path.slash ∈ path then path else FileTree.currentName ++ Path.slash :: path
      program := name
      arguments := args
      environment := sh.environment
      descriptors := sh.descriptors
      ignored := sh.ignoredSignals }
    match engine.start sh.system.files start with
    | .error cause => .error (.ofError cause)
    | .ok work => .ok (work, sh)

def become {α : Type} (work : Work) : Act Shell α := Act.stop fun sh => work sh.system

/-- Run a program as a command. If nothing comes behind it, it takes the place of the shell. -/
def runProgram (engine : Engine) (role : Role) (usual : Bool) (name : Bytes) (args : List Bytes) :
    Act Shell Unit := do
  let sh ← get
  match sh.prepare engine usual name args with
  | .ok (work, sh) =>
    set sh
    if role.isLast && !sh.hasActions then become work
    let slot ← beginJob
    launch slot asPart fun _ => work
    let status ← conclude slot
    modify (·.ended status.code)
  | .error refusal =>
    let code := if Path.slash ∈ name then refusal.code else 127
    set ((sh.complain (name ++ encode s!": {refusal.reason}")).ended code)

def becomeProgram (engine : Engine) : Deed :=
  doWithOptions [] fun _ operands => do
    let sh ← get
    match operands with
    | [] => set (sh.ended 0)
    | name :: args =>
      match sh.prepare engine false name args with
      | .ok (work, sh) =>
        set sh
        become work
      | .error refusal =>
        let sh := sh.complain (name ++ encode s!": {refusal.reason}")
        set ({ sh with leaving := .shell }.ended refusal.code)

end EnvTemplate.Child.Shell
