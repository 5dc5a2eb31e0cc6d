import EnvTemplate.Child.Shell.Invocation

/-! Running commands. -/

namespace EnvTemplate.Child.Shell

open Text.Utf8 (encode)

def assignAll (engine : Engine) (exports : Bool) :
    List (String × Word) → Attempt (List Bytes)
  | [] => return []
  | (name, word) :: rest => do
    let value ← expandValue engine word
    match (← get).assign name value with
    | .error message => throw message
    | .ok sh =>
      set (if exports then sh.exportName name else sh)
      return (encode (name ++ "=") ++ value) :: (← assignAll engine exports rest)

def trace (engine : Engine) (descriptors : Descriptors) (words : List Bytes) : Act Shell Unit := do
  let sh ← get
  if !sh.has 'x' then return
  let leader := Script.quotedText (Text.Bytewise.read ((sh.lookup? "PS4").getD []))
  set { sh with options := sh.options.filter (· ≠ 'x'), descriptors := descriptors }
  let shown ← (expandDocument engine leader).run
  let line := shown.toOption.getD [] ++ [0x20].intercalate words ++ [0x0A]
  modify fun after =>
    { after.say line with options := sh.options, descriptors := sh.descriptors }

/-- Run what words mean, after assignments. They hold for it alone, unless it belongs to the language
or there is nothing to run. -/
def runFields (engine : Engine) (role : Role) (descriptors : Descriptors)
    (assignments : List (String × Word)) (fields : List Bytes) : Act Shell Unit := do
  let sh ← get
  let old := assignments.map fun (name, _) => (name, sh.vars.get? name)
  match sh.invocationOf? fields with
  | none =>
    attempt (assignAll engine false assignments) fun assigned => do
      trace engine descriptors assigned
      modify fun sh => sh.ended (sh.answered.getD 0)
  | some invocation =>
    let isLocal := !invocation.isSpecial
    let exports := isLocal || invocation.becomes && invocation.arguments ≠ []
    attempt (assignAll engine exports assignments) fun assigned => do
      trace engine descriptors (assigned ++ fields)
      invoke engine role invocation
      if isLocal then modify (uncover · old)

/-- Run a simple command. Its words are expanded first, and its assignments when it has been
redirected. -/
def runSimple (engine : Engine) (role : Role) (line : Nat)
    (assignments : List (String × Word)) (words : List Word) (redirections : List Redirection) :
    Act Shell Unit := do
  modify fun sh => { sh with line := line, answered := none }
  attempt (expandCommand engine words []) fun fields => do
    let invocation := (← get).invocationOf? fields
    let refused (sh : Shell) : Shell :=
      if invocation.any Invocation.isSpecial then { sh with leaving := .failure } else sh
    attempt (expandRedirections engine redirections) fun redirects => do
      let descriptors := (← get).descriptors
      withRedirects engine (invocation.any Invocation.becomes) redirects refused
        (runFields engine role descriptors assignments fields)

def wire (number : Nat) (target : Option Nat) (part : Shell) : Shell :=
  match target with
  | none => part
  | some index => { part with descriptors := part.descriptors.insert number index }

/-- Begin the processes of a pipeline: the output of each command is the input of the next. The first
one reads from an index, or what the shell reads. -/
def launchAll (engine : Engine) (role : Role) (slot : Nat) (quietly : Shell → Shell) :
    Option Nat → List Command → Act Shell Unit
  | _, [] => return ()
  | input, command :: rest => do
    modify (foresee command)
    let body := engine.run role.last command
    if rest.isEmpty then fork engine slot (fun part => quietly (wire 0 input part)) body
    else
      let sh ← get
      if !sh.system.hasNumbers sh.descriptors (if input.isSome then 3 else 2) then
        set (sh.fail noPipe)
        return
      let (source, target, system) := sh.system.addPipe
      set { sh with system := system, shadowed := source :: sh.shadowed }
      fork engine slot (fun part =>
        quietly (wire 0 input (wire 1 (some target) { part with shadowed := sh.shadowed }))) body
      modify fun after => { after with shadowed := sh.shadowed }
      launchAll engine role slot quietly (some source) rest

def runPiped (engine : Engine) (role : Role) (commands : List Command) : Act Shell Unit := do
  let slot ← beginJob
  launchAll engine role slot id none commands
  if (← get).leaving ≠ .nothing then return
  let status ← conclude slot
  modify (·.ended status.code)

def runBehind (engine : Engine) (command : Command) : Act Shell Unit := do
  let slot ← beginJob
  let sh ← get
  let (index, system) := sh.system.add ⟨.device .null, 0, true, false, false⟩
  set { sh with system := system }
  let quietly (part : Shell) : Shell := { part with ignored := part.ignored ++ Signal.fromKeyboard }
  match command with
  | .pipeline commands => launchAll engine .alone slot quietly (some index) commands
  | _ =>
    fork engine slot (fun part => quietly (wire 0 (some index) part))
      (engine.run Role.alone.last command)
  modify fun sh =>
    { sh with behind := (sh.job? slot).bind fun job => job.processes.getLast?.map Prod.fst }.ended 0

def afterRound (sh : Shell) : Bool × Shell :=
  match sh.leaving with
  | .nothing => (false, sh)
  | .loops count again =>
    if count ≤ 1 then (!again, { sh with leaving := .nothing })
    else (true, { sh with leaving := .loops (count - 1) again })
  | _ => (true, sh)

def endRound : Act Shell Bool := do
  let (ends, sh) := (← get).afterRound
  set sh
  return ends

def runRounds (engine : Engine) (role : Role) (whileHolds : Bool) (test body : Command) :
    Nat → Nat → Act Shell Unit
  | 0, code => modify (·.ended code)
  | rounds + 1, code => do
    engine.run .test test
    let tried ← get
    match tried.leaving with
    | .nothing =>
      if decide (tried.last = 0) != whileHolds then set (tried.ended code)
      else
        engine.run role body
        let code := (← get).last
        if ← endRound then return
        runRounds engine role whileHolds test body rounds code
    | .loops _ _ =>
      if ← endRound then modify (·.ended code)
      else runRounds engine role whileHolds test body rounds code
    | _ => return

def runForEach (engine : Engine) (role : Role) (name : String) (body : Command) :
    List Bytes → Act Shell Unit
  | [] => return ()
  | word :: rest => do
    let sh ← get
    match sh.assign name word with
    | .error message => set (sh.fail message)
    | .ok sh =>
      set sh
      engine.run role body
      if ← endRound then return
      runForEach engine role name body rest

def matchesAny (engine : Engine) (text : Bytes) : List Word → Attempt Bool
  | [] => return false
  | word :: rest => do
    if Pattern.isMatch (← expandPattern engine word) text then return true
    else matchesAny engine text rest

def runOrSucceed (engine : Engine) (role : Role) (command : Command) : Act Shell Unit :=
  match command with
  | .nothing => modify (·.ended 0)
  | command => engine.run role command

def runCases (engine : Engine) (role : Role) (text : Bytes) :
    List (List Word × Command) → Act Shell Unit
  | [] => modify (·.ended 0)
  | (patterns, body) :: rest =>
    attempt (matchesAny engine text patterns) fun found =>
      if found then runOrSucceed engine role body else runCases engine role text rest

def inLoop (body : Act Shell Unit) : Act Shell Unit := do
  let loops := (← get).loops
  modify fun sh => { sh with loops := loops + 1 }
  body
  modify fun sh => { sh with loops := loops }

def endIfFailed (tested : Bool) (sh : Shell) : Shell :=
  if !tested && sh.has 'e' && sh.last ≠ 0 && sh.leaving = .nothing then
    { sh with leaving := .shell }
  else sh

/-- Run a part of a shell that goes on by itself, which it does in the place of the shell if nothing comes
behind it. -/
def runSubshell (engine : Engine) (role : Role) (body : Command) (redirects : List Redirect) :
    Act Shell Unit := do
  let refused (sh : Shell) : Shell := { sh with leaving := .failure }
  let inside := withRedirects engine false redirects refused (engine.run role.last body)
  if role.isLast && !(← get).hasActions then
    inside
    modify fun sh => if sh.leaving = .nothing then { sh with leaving := .shell } else sh
  else
    runPart engine inside
    modify (endIfFailed role.tested)

def continueIf (succeeded : Bool) (next : Act Shell Unit) : Act Shell Unit := do
  let sh ← get
  if sh.leaving = .nothing ∧ decide (sh.last = 0) = succeeded then next

def evaluate (engine : Engine) (role : Role) (command : Command) : Act Shell Unit :=
  match command with
  | .nothing => return ()
  | .simple line assignments words redirections => do
    runSimple engine role line assignments words redirections
    modify (endIfFailed role.tested)
  | .pipeline commands => do
    runPiped engine role commands
    modify (endIfFailed role.tested)
  | .negation command => do
    engine.run .test command
    modify fun done =>
      if done.leaving = .nothing then done.ended (if done.last = 0 then 1 else 0) else done
  | .both first second => do
    engine.run .test first
    continueIf true (engine.run role second)
  | .either first second => do
    engine.run .test first
    continueIf false (engine.run role second)
  | .sequence first second => do
    engine.run role.inner first
    if (← get).leaving = .nothing then engine.run role second
  | .background command => runBehind engine command
  | .subshell line body redirections => do
    modify fun sh => { sh with line := line }
    attempt (expandRedirections engine redirections) fun redirects =>
      runSubshell engine role body redirects
  | .redirected line body redirections => do
    modify fun sh => { sh with line := line }
    attempt (expandRedirections engine redirections) fun redirects =>
      withRedirects engine false redirects (endIfFailed role.tested) (engine.run role.inner body)
  | .choice test yes no => do
    engine.run .test test
    let tried ← get
    if tried.leaving ≠ .nothing then return
    if tried.last = 0 then engine.run role yes else runOrSucceed engine role no
  | .loop whileHolds test body =>
    inLoop (runRounds engine role.inner whileHolds test body maxRounds 0)
  | .forEach line name words body => do
    modify fun sh => { sh with line := line }
    attempt (expandWords engine false words) fun fields =>
      if fields = [] then modify (·.ended 0)
      else inLoop (runForEach engine role.inner name body fields)
  | .cases line subject branches => do
    modify fun sh => { sh with line := line }
    attempt (expandWhole engine subject) fun text => runCases engine role text branches
  | .function line name body =>
    modify fun sh =>
      { sh with
        line := line, functions := sh.functions.insert name body
        places := sh.places.erase (encode name) }.ended 0

/-- Let others have their turn before a command that has no others in it; what has been written is read
first if it is too much. If then nobody is there to read it, that is a signal. -/
def takeTurn (command : Command) : Act Shell Unit := do
  match command with
  | .simple _ _ _ _ =>
    let sh ← get
    match (sh.descriptors.get? 1).filter fun index => !sh.system.hasRoom index with
    | none => pause .turn
    | some index =>
      pause (.room index)
      if (← get).system.isBroken index then modify (deliver · Signal.brokenPipe)
  | _ => return

def step (engine : Engine) (role : Role) (command : Command) : Act Shell Unit := do
  if (← get).has 'n' then return
  takeTurn command
  heed engine
  match (← get).leaving with
  | .shell | .failure | .killed _ => return
  | _ =>
    evaluate engine role command
    heed engine

/-- Run a command. Where its parts are nested too deep the memory for them is at an end, and so is the
shell. -/
def runWithin (start : Behaviour) : Nat → Role → Command → Act Shell Unit
  | 0, _, _ => modify fun sh => { sh with leaving := .killed Signal.outOfMemory }
  | depth + 1, role, command => step ⟨runWithin start depth, start⟩ role command

def maxDepth : Nat := 20000

def engine (start : Behaviour) : Engine := ⟨runWithin start maxDepth, start⟩

end EnvTemplate.Child.Shell
