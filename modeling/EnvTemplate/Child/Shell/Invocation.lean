import EnvTemplate.Child.Shell.Builtin.Control
import EnvTemplate.Child.Shell.Builtin.Directory
import EnvTemplate.Child.Shell.Builtin.Limits
import EnvTemplate.Child.Shell.Builtin.Names
import EnvTemplate.Child.Shell.Builtin.Output
import EnvTemplate.Child.Shell.Builtin.Signals
import EnvTemplate.Child.Shell.Builtin.Text

/-! Commands whose words have been expanded: functions, commands of the shell, and programs. -/

namespace EnvTemplate.Child

open Text.Utf8 (encode decode)

structure Invocation where
  name : Bytes
  arguments : List Bytes
  /-- No function is meant, and what is wrong does not end the shell. -/
  plain : Bool
  /-- Programs are looked for in the usual directories. -/
  usual : Bool
  deriving DecidableEq, Repr

namespace Invocation

def commandName : Bytes := encode "command"

/-- What stands behind the options of `command`, and whether they ask for the usual directories; none
if it is to tell what a name means. -/
def behindOptions? : List Bytes → Option (Bool × List Bytes)
  | [] => none
  | word :: rest =>
    match Text.Bytewise.read word with
    | '-' :: letter :: letters =>
      if letter = '-' ∧ letters = [] then if rest = [] then none else some (false, rest)
      else if (letter :: letters).all (· = 'p') then
        (behindOptions? rest).map fun (_, rest) => (true, rest)
      else none
    | _ => some (false, word :: rest)

/-- What the fields of a command mean to run; in front of it `command` may stand any number of
times. -/
def ofFields : Nat → Bool → Bool → List Bytes → Option Invocation
  | 0, _, _, _ | _, _, _, [] => none
  | fuel + 1, plain, usual, name :: args =>
    let this : Invocation := ⟨name, args, plain, usual⟩
    if name ≠ commandName then some this
    else
      match behindOptions? args with
      | none => some { this with plain := true }
      | some (asked, rest) => ofFields fuel true (usual || asked) rest

def isSpecial (invocation : Invocation) : Bool :=
  !invocation.plain && decide (decode invocation.name ∈ Script.specialCommands)

def becomes (invocation : Invocation) : Bool := invocation.name = encode "exec"

end Invocation

namespace Shell

def invocationOf? (sh : Shell) (fields : List Bytes) : Option Invocation :=
  if sh.functions.contains (decode Invocation.commandName) then
    match fields with
    | [] => none
    | name :: args => some ⟨name, args, false, false⟩
  else Invocation.ofFields fields.length false false fields

def assigningCommands : List String := ["alias", "export", "local", "readonly"]

/-- The words that follow name the command, or its arguments if it is known what is to be run. -/
def expandCommand (engine : Engine) : List Word → List Bytes → Attempt (List Bytes)
  | [], fields => return fields
  | word :: rest, fields => do
    let sh ← get
    match sh.invocationOf? fields with
    | some invocation =>
      let name := decode invocation.name
      let assigns := name ∈ assigningCommands && !sh.functions.contains name
      return fields ++ (← expandWords engine assigns (word :: rest))
    | none =>
      let more ← expandFields engine word
      expandCommand engine rest (fields ++ more)

def builtin? : String → Option Builtin
  | ":" | "true" => some fun _ sh => sh.ended 0
  | "[" => bracket
  | "alias" => setAliases
  | "bg" | "fg" => resumeJob
  | "break" => leaveLoops false
  | "cd" | "chdir" => cd
  | "command" => describeOne
  | "continue" => leaveLoops true
  | "echo" => echo
  | "exit" => exitCommand
  | "export" => exportCommand
  | "false" => some fun _ sh => sh.ended 1
  | "getopts" => getopts
  | "hash" => hashCommand
  | "jobs" => listJobs
  | "kill" => kill
  | "local" => localCommand
  | "printf" => printf
  | "pwd" => pwd
  | "readonly" => readonly
  | "return" => returnCommand
  | "set" => setCommand
  | "shift" => shift
  | "test" => test
  | "times" => some fun _ sh =>
    sh.answer 0 (encode "0m0.000000s 0m0.000000s\n0m0.000000s 0m0.000000s\n")
  | "trap" => trap
  | "type" => describeAll
  | "ulimit" => ulimit
  | "umask" => umask
  | "unalias" => unalias
  | "unset" => unsetCommand
  | _ => none

def deed? (engine : Engine) (role : Role) (name : String) : Option Deed :=
  match name with
  | "." => source engine
  | "eval" => evalCommand engine role
  | "exec" => becomeProgram engine
  | "read" => read
  | "wait" => wait
  | _ => (builtin? name).map fun builtin args => modify (builtin args)

def maxCalls : Nat := 1000

def callFunction (engine : Engine) (role : Role) (body : Command) (args : List Bytes) :
    Act Shell Unit := do
  let sh ← get
  set { sh with
    arguments := args, loops := 0, calls := sh.calls + 1, covered := []
    optionIndex := 1, optionPlace := 0 }
  engine.run role.inner body
  modify fun done =>
    let after := done.uncover done.covered
    { after with
      arguments := sh.arguments, loops := sh.loops, calls := sh.calls, covered := sh.covered
      optionIndex := sh.optionIndex, optionPlace := sh.optionPlace
      leaving := if after.leaving = .function then .nothing else after.leaving }

/-- Run a command of the shell, which is named in its messages. What is wrong with one that does not
belong to the language does not end the shell. -/
def runDeed (name : Bytes) (isSpecial : Bool) (deed : Deed) (args : List Bytes) :
    Act Shell Unit := do
  let speaker := (← get).speaker
  modify fun sh => { sh with speaker := some name }
  deed args
  modify fun sh =>
    let after := { sh with speaker := speaker }
    if !isSpecial && after.leaving = .failure then { after with leaving := .nothing } else after

def invoke (engine : Engine) (role : Role) (invocation : Invocation) : Act Shell Unit := do
  let name := decode invocation.name
  let sh ← get
  match if invocation.plain then none else sh.functions.get? name with
  | some body =>
    if maxCalls ≤ sh.calls then
      set (sh.fail (encode s!"Maximum function recursion depth ({maxCalls}) reached"))
    else callFunction engine role body invocation.arguments
  | none =>
    match deed? engine role name with
    | some deed => runDeed invocation.name invocation.isSpecial deed invocation.arguments
    | none => runProgram engine role invocation.usual invocation.name invocation.arguments

end Shell

end EnvTemplate.Child
