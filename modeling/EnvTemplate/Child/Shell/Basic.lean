import EnvTemplate.Child.Basic
import EnvTemplate.Child.Script.Basic
import EnvTemplate.Child.Signal
import EnvTemplate.Text.Bytewise
import EnvTemplate.Text.Utf8

namespace EnvTemplate.Child

open Text.Utf8 (encode decode)

/-- A variable of a shell. It may have no value and yet be exported or not be set any more. -/
structure Variable where
  value : Option Bytes
  exported : Bool
  readOnly : Bool
  deriving DecidableEq, Repr

inductive Leaving
  | nothing
  /-- So many loops; with `again` the last of them goes on with its next round. -/
  | loops (count : Nat) (again : Bool)
  | function
  | shell
  | failure
  | killed (signal : Nat)
  deriving DecidableEq, Repr

/-- What goes on beside a shell: the processes with how they have ended, as far as it is known. -/
structure Job where
  slot : Nat
  processes : List (Nat × Option Status)
  /-- It has been waited for, and its number may be used again. -/
  waited : Bool
  deriving DecidableEq, Repr

namespace Job

def isDone (job : Job) : Bool := job.processes.all fun (_, status) => status.isSome

def status (job : Job) : Status := ((job.processes.getLast?.bind Prod.snd).getD (.exited 0))

end Job

structure Place where
  path : Bytes
  doubtful : Bool
  deriving DecidableEq, Repr

structure Shell where
  name : Bytes
  speaker : Option Bytes
  arguments : List Bytes
  vars : OrderedMap String Variable
  functions : OrderedMap String Command
  documents : List (Nat × Word)
  aliases : OrderedMap String (List Char)
  /-- The programs that have been looked for and found. -/
  places : OrderedMap Bytes Place
  /-- What is run at a signal, or at the end; nothing for one that is ignored. -/
  traps : OrderedMap Nat Bytes
  /-- The signals that do nothing to the shell, whatever is to be run at them. -/
  ignored : List Nat
  options : List Char
  descriptors : Descriptors
  system : System
  last : Nat
  /-- The line of the current command, and the one that reading has come to. -/
  line : Nat
  ahead : Nat
  leaving : Leaving
  loops : Nat
  calls : Nat
  /-- What the variables were that the current function has of its own. -/
  covered : List (String × Option Variable)
  /-- How the last command ended whose output was asked for since a command was begun. -/
  answered : Option Nat
  /-- The number of the process of the whole shell, of which this may be a part. -/
  process : Nat
  /-- What goes on beside the shell, the latest first. -/
  jobs : List Job
  /-- The process that has been put in the background last. -/
  behind : Option Nat
  /-- What is still held open for the time behind a redirection. -/
  shadowed : List Nat
  /-- The argument in which the search for options goes on, and where in it. -/
  optionIndex : Nat
  optionPlace : Nat
  directory : Bytes
  mask : Nat
  /-- The signals that have come in and whose actions are still to be run. -/
  caught : List Nat
  /-- The code that the shell ends with if an action ends it without giving one. -/
  kept : Option Nat

namespace Shell

def has (sh : Shell) (option : Char) : Bool := option ∈ sh.options

def isName (name : String) : Bool := Script.isName name.toList

def ownVariables : List (String × Option String) :=
  [("IFS", some " \t\n"), ("MAIL", none), ("MAILPATH", none),
    ("PATH", some "/usr/local/sbin:/usr/local/bin:/usr/sbin:/usr/bin:/sbin:/bin"),
    ("OPTIND", some "1"), ("PPID", some "1"), ("PS1", some "# "), ("PS2", some "> "),
    ("PS4", some "+ ")]

def fixedVariables : List String := ["IFS", "OPTIND", "PPID"]

def variablesOf (environment : Variables) : OrderedMap String Variable :=
  let own := OrderedMap.ofList (ownVariables.map fun (name, value) =>
    (name, (⟨value.map encode, false, false⟩ : Variable)))
  environment.entries.foldl (fun vars (name, value) =>
    if !isName name then vars
    else if name ∈ fixedVariables then
      match vars.get? name with
      | some entry => vars.insert name { entry with exported := true }
      | none => vars
    else vars.insert name ⟨some value.data.toList, true, false⟩) own

def lookup? (sh : Shell) (name : String) : Option Bytes :=
  (sh.vars.get? name).bind Variable.value

/-- Names with what belongs to them in the order in which they are listed: by a number that the bytes
of the name give. -/
def shelved {α : Type} (shelves : Nat) (entries : List (Bytes × α)) : List (Bytes × α) :=
  let shelfOf (name : Bytes) : Nat :=
    ((name.headD 0).toNat * 16 + (name.map UInt8.toNat).foldl (· + ·) 0) % shelves
  (List.range shelves).flatMap fun shelf => entries.filter fun (name, _) => shelfOf name = shelf

def environment (sh : Shell) : Variables :=
  let exported := sh.vars.entries.filterMap fun (name, entry) =>
    if entry.exported then entry.value.map fun value => (encode name, value) else none
  OrderedMap.ofList ((shelved 39 exported).map fun (name, value) => (decode name, ⟨value.toArray⟩))

def complaint (sh : Shell) (text : Bytes) : Bytes :=
  let speaker :=
    match sh.speaker with
    | none => []
    | some speaker => speaker ++ encode ": "
  sh.name ++ encode s!": {sh.line}: " ++ speaker ++ text ++ [0x0A]

def talks (sh : Shell) : Bool := sh.has 'i' && sh.process = sh.system.current

def deliver (sh : Shell) (signal : Nat) : Shell :=
  if sh.talks ∧ signal ∈ Signal.forPrograms ∧ (sh.traps.get? signal).isNone then sh
  else if signal ∈ Signal.harmless ∧ (signal = 0 ∨ (sh.traps.get? signal).isNone) then sh
  else if signal ∈ sh.ignored then sh
  else
    match if signal = Signal.kill then none else sh.traps.get? signal with
    | none => { sh with leaving := .killed signal }
    | some [] => sh
    | some _ => { sh with caught := sh.caught.filter (· ≠ signal) ++ [signal] }

def isKilled (sh : Shell) : Bool :=
  match sh.leaving with
  | .killed _ => true
  | _ => false

def write (sh : Shell) (number : Nat) (bytes : Bytes) : Bool × Shell :=
  if sh.isKilled then (false, sh)
  else if bytes = [] then (true, sh)
  else
    let (failure, system) := sh.system.writeTo sh.descriptors number bytes
    let sh := { sh with system := system }
    match failure with
    | none => (true, sh)
    | some .brokenPipe => (false, sh.deliver Signal.brokenPipe)
    | some .fileTooLarge => (false, sh.deliver Signal.fileTooLarge)
    | some _ => (false, sh)

def say (sh : Shell) (bytes : Bytes) : Shell := (sh.write 2 bytes).2

def complain (sh : Shell) (text : Bytes) : Shell := sh.say (sh.complaint text)

def ended (sh : Shell) (code : Nat) : Shell := { sh with last := code }

def fail (sh : Shell) (text : Bytes) : Shell :=
  { sh.complain text with last := 2, leaving := .failure }

def maxNumber : Int := 2147483647

def illegalNumber (text : Bytes) : Bytes := encode "Illegal number: " ++ text

def number (text : Bytes) : Except Bytes Nat :=
  match Numeral.whole? false (Text.Bytewise.read text) with
  | some n => if 0 ≤ n ∧ n ≤ maxNumber then .ok n.toNat else .error (illegalNumber text)
  | none => .error (illegalNumber text)

/-- What has been found among directories is not known any more when others are to be searched. -/
def forgetPlaces (sh : Shell) (name : String) : Shell :=
  if name = "PATH" then { sh with places := ∅ } else sh

/-- Set a variable; the error says why it cannot be set. Setting the place of the next option starts
the search for options anew. -/
def assign (sh : Shell) (name : String) (value : Bytes) : Except Bytes Shell :=
  if !isName name then .error (encode s!"{name}: bad variable name")
  else
    let old := (sh.vars.get? name).getD ⟨none, false, false⟩
    if old.readOnly then .error (encode s!"{name}: is read only")
    else
      let entry := { old with value := some value, exported := old.exported || sh.has 'a' }
      let set := { sh with vars := sh.vars.insert name entry }.forgetPlaces name
      if name ≠ "OPTIND" then .ok set
      else (number value).map fun n => { set with optionIndex := max 1 n, optionPlace := 0 }

def put (sh : Shell) (name : String) (value : Bytes) : Shell :=
  let old := (sh.vars.get? name).getD ⟨none, false, false⟩
  { sh with vars := sh.vars.insert name { old with value := some value } }

def exportName (sh : Shell) (name : String) : Shell :=
  let old := (sh.vars.get? name).getD ⟨none, false, false⟩
  { sh with vars := sh.vars.insert name { old with exported := true } }

def protectName (sh : Shell) (name : String) : Shell :=
  let old := (sh.vars.get? name).getD ⟨none, false, false⟩
  { sh with vars := sh.vars.insert name { old with readOnly := true } }

def unset (sh : Shell) (name : String) : Except Bytes Shell :=
  match sh.vars.get? name with
  | none => .ok sh
  | some entry =>
    if entry.readOnly then .error (encode s!"{name}: is read only")
    else
      let vars :=
        if (ownVariables.lookup name).isSome then sh.vars.insert name ⟨none, false, false⟩
        else sh.vars.erase name
      .ok ({ sh with vars := vars }.forgetPlaces name)

def cover (sh : Shell) (name : String) : Shell :=
  if sh.covered.any fun (other, _) => other = name then sh
  else { sh with covered := (name, sh.vars.get? name) :: sh.covered }

def uncover (sh : Shell) (covered : List (String × Option Variable)) : Shell :=
  covered.foldl (fun sh (name, old) =>
    let vars :=
      match old with
      | some entry => sh.vars.insert name entry
      | none => sh.vars.erase name
    { sh with vars := vars }.forgetPlaces name) sh

def ignoredSignals (sh : Shell) : List Nat :=
  sh.ignored ++ sh.traps.entries.filterMap fun (signal, action) =>
    if action = [] ∧ signal ≠ Signal.kill then some signal else none

def hasActions (sh : Shell) : Bool := sh.traps.entries.any fun (_, action) => action ≠ []

def caughtSignals (sh : Shell) : List Nat :=
  sh.traps.entries.filterMap fun (signal, action) =>
    if action = [] ∨ signal = 0 ∨ signal ∈ sh.ignored then none else some signal

def holding (sh : Shell) : List Nat := sh.descriptors.entries.map Prod.snd ++ sh.shadowed

def told (sh : Shell) : System :=
  let (caught, ignored) := if sh.talks then ([Signal.interrupt], Signal.forPrograms) else ([], [])
  sh.system.setSelf { sh.system.self with
    held := sh.holding
    caught := sh.caughtSignals ++ caught
    ignored := sh.ignoredSignals ++ ignored }

def optionNames : List (Char × String) :=
  [('e', "errexit"), ('f', "noglob"), ('I', "ignoreeof"), ('i', "interactive"), ('m', "monitor"),
    ('n', "noexec"), ('s', "stdin"), ('x', "xtrace"), ('v', "verbose"), ('V', "vi"),
    ('E', "emacs"), ('C', "noclobber"), ('a', "allexport"), ('b', "notify"), ('u', "nounset"),
    ('p', "privileged"), ('\x01', "nolog"), ('\x02', "debug")]

def hasLetter (option : Char) : Bool := option.isAlpha

def optionLetters (sh : Shell) : Bytes :=
  Text.Bytewise.write
    (((optionNames.map Prod.fst).filter fun c => c ∈ sh.options && hasLetter c).reverse)

def decimal (n : Nat) : Bytes := encode (toString n)

def parameter? (sh : Shell) (name : String) : Option Bytes :=
  match name with
  | "$" => some (decimal sh.process)
  | "?" => some (decimal sh.last)
  | "#" => some (decimal sh.arguments.length)
  | "-" => some sh.optionLetters
  | "!" => sh.behind.map decimal
  | _ =>
    match Numeral.ofDigits? name.toList with
    | some 0 => some sh.name
    | some n => sh.arguments[n - 1]?
    | none => sh.lookup? name

end Shell

structure Role where
  tested : Bool
  isLast : Bool
  deriving DecidableEq, Repr

namespace Role

def test : Role := ⟨true, false⟩

def inner (role : Role) : Role := { role with isLast := false }

def last (role : Role) : Role := { role with isLast := true }

def alone : Role := ⟨false, false⟩

end Role

structure Engine where
  run : Role → Command → Act Shell Unit
  start : Behaviour

abbrev Attempt := ExceptT Bytes (Act Shell)

def Shell.attempt {α : Type} (step : Attempt α) (next : α → Act Shell Unit) : Act Shell Unit := do
  match ← step.run with
  | .error message => modify (·.fail message)
  | .ok value => next value

def Shell.pause (wait : Wait) : Act Shell Unit := fun sh next =>
  .waiting wait sh.told fun system => next () { sh with system := system }

def Shell.separators (sh : Shell) : Bytes := (sh.lookup? "IFS").getD [0x20, 0x09, 0x0A]

end EnvTemplate.Child
