import EnvTemplate.Child.Shell.Run

/-! The shell as a program: what it makes of its arguments, and how it begins and ends. -/

namespace EnvTemplate.Child.Shell

open Text.Utf8 (encode)

def namedDirectory (environment : Variables) (files : FileTree) : Bytes :=
  let named := ((environment.get? "PWD").map fun value => value.data.toList).getD []
  if named.head? = some Path.slash ∧ directoryAt? files named = some files.home then named
  else pathOf files.home

def ofStart (start : Start) (system : System) : Shell :=
  let sh : Shell := {
    name := start.program
    speaker := none
    arguments := []
    vars := variablesOf start.environment
    functions := ∅
    documents := []
    aliases := ∅
    places := ∅
    traps := ∅
    ignored := start.ignored
    options := []
    descriptors := start.descriptors
    system := system
    last := 0
    line := 0
    ahead := 1
    leaving := .nothing
    loops := 0
    calls := 0
    covered := []
    answered := none
    process := system.current
    jobs := []
    behind := none
    shadowed := []
    optionIndex := 1
    optionPlace := 0
    directory := []
    mask := 0o022
    caught := []
    kept := none }
  (sh.put "PPID" (decimal system.self.parent)).setDirectory
    (namedDirectory start.environment system.files)

def withoutTerminal (sh : Shell) : Shell :=
  (if sh.has 'i' then { sh with options := 'm' :: sh.options } else sh).giveUpJobs

def recover (sh : Shell) : Shell :=
  let sh := sh.breakOff
  if sh.has 'i' ∧ sh.leaving = .failure then { sh with leaving := .nothing, loops := 0, calls := 0 }
  else sh

def runSetup (engine : Engine) (name : Bytes) : Act Shell Unit := do
  let expanded ← (expandDocument engine (Script.quotedText (Text.Bytewise.read name))).run
  let sh ← get
  match sh.system.openPath sh.descriptors .reading ⟨expanded.toOption.getD []⟩ with
  | .error _ => return
  | .ok (index, system) =>
    set { sh with system := system }
    let parts ← drain index maxRounds
    runText engine .file .alone parts.flatten
    modify fun after =>
      if after.leaving = .function then { after with leaving := .nothing } else after.recover

/-- What a shell does before anything else. It runs a file if it is the first one of a session, and one if
it is to talk to someone. -/
def prepareFor (engine : Engine) (isFirst : Bool) : Act Shell Unit := do
  modify withoutTerminal
  if isFirst then runSetup engine (encode "$HOME/.profile")
  let sh ← get
  if sh.has 'i' ∧ sh.leaving = .nothing then runSetup engine ((sh.lookup? "ENV").getD [])

def runFile (engine : Engine) (path : Option Bytes) (before : Act Shell Unit) : Act Shell Unit := do
  let sh ← get
  let opened : Except FileError (Nat × System) :=
    match path with
    | some path => do
      let (index, system) ← sh.system.openPath sh.descriptors .reading ⟨path⟩
      return (index, ← system.keepOne)
    | none => (System.index? sh.descriptors 0).map fun index => (index, sh.system)
  match opened with
  | .error cause => set (sh.fail (refusal .reading (path.getD []) cause))
  | .ok (index, system) =>
    set { sh with system := system, name := path.getD sh.name }
    before
    let parts ← drain index maxRounds
    runText engine .program .alone parts.flatten

def runArguments (engine : Engine) (start : Start) : Act Shell Unit := do
  let args := start.arguments
  match readOptions false (args.length + 1) ⟨← get, args, false, false, false⟩ with
  | .error (sh, message) => set (sh.fail message)
  | .ok read =>
    let sh := read.shell
    let before := prepareFor engine (read.isFirst || start.program.head? = some 0x2D)
    match read.hasScript, read.rest with
    | true, [] => set (sh.fail (encode "-c requires an argument"))
    | true, script :: rest =>
      set { sh with name := rest.headD sh.name, arguments := rest.tail }
      before
      runText engine .argument .alone script
      let after := (← get).breakOff
      set after
      if after.has 'i' && after.leaving = .failure || after.has 's' && after.leaving = .nothing then
        set after.recover
        runFile engine none (return ())
    | false, [] =>
      set { sh with options := 's' :: sh.options }
      runFile engine none before
    | false, path :: rest =>
      if sh.has 's' then
        set { sh with arguments := path :: rest }
        runFile engine none before
      else
        set { sh with arguments := rest }
        runFile engine (some path) before

def runStart (behaviour : Behaviour) (start : Start) : Work := fun system =>
  let engine := engine behaviour
  let whole : Act Shell Unit := do
    pause (.time (system.files.now + Wait.startTime))
    runArguments engine start
  workOf engine whole (ofStart start system) system

end EnvTemplate.Child.Shell
