import EnvTemplate.Child.Script.Parser
import EnvTemplate.Child.Shell.Basic

/-! Running the text of a script, and the actions of signals. -/

namespace EnvTemplate.Child.Shell

open Text.Utf8 (encode)

def freeKey (sh : Shell) : Nat := (sh.documents.map Prod.fst).foldl max 0 + 1

inductive Origin
  | argument
  | file
  /-- The file or the input that the shell is there to run. -/
  | program
  deriving DecidableEq, Repr

/-- Show the lines that have been read when so many characters are left, up to the end of the last one
of them. -/
def showLines (origin : Origin) (unread : List Char) (left : Nat) (sh : Shell) : Shell :=
  if origin ≠ .argument ∧ sh.has 'v' then
    let taken := unread.take (unread.length - left)
    let behind := unread.drop taken.length
    let more :=
      if taken = [] ∨ taken.getLast? = some '\n' then []
      else behind.takeWhile (· ≠ '\n') ++ (behind.dropWhile (· ≠ '\n')).take 1
    sh.say (Text.Bytewise.write (taken ++ more))
  else sh

def asksFor (sh : Shell) (origin : Origin) : Bool := origin = .program && sh.has 'i'

def ask (origin : Origin) (name : String) (sh : Shell) : Shell :=
  if sh.asksFor origin then sh.say ((sh.lookup? name).getD []) else sh

def askOn (origin : Origin) (lines : Nat) (sh : Shell) : Shell :=
  (List.range lines).foldl (fun sh _ => sh.ask origin "PS2") sh

def askInVain (origin : Origin) (sh : Shell) : Shell :=
  if sh.asksFor origin then sh.say [0x0A] else sh

def breakOff (sh : Shell) : Shell :=
  if sh.talks ∧ sh.leaving = .killed Signal.interrupt then
    { sh with leaving := .failure, last := 128 + Signal.interrupt }.say [0x0A]
  else sh

def giveUp (origin : Origin) (sh : Shell) : Shell :=
  let sh := if origin = .program then sh.breakOff else sh
  if sh.leaving = .failure then (sh.ask origin "PS1").askInVain origin else sh

def linesRead (unread : List Char) (left : Nat) : Nat :=
  (unread.take (unread.length - left)).count '\n'

/-- Run the lines that are left of a text. Each is read only when those before it have been run. A
text without commands succeeds. -/
def runLines (engine : Engine) (origin : Origin) (role : Role) :
    Nat → Bool → Script.Reader → Act Shell Unit
  | 0, _, _ => return ()
  | fuel + 1, ran, reader => do
    let sh ← get
    if sh.leaving ≠ .nothing then
      set (sh.giveUp origin)
      return
    let unread := reader.rest
    let reader := { reader with aliases := sh.aliases, nextKey := sh.freeKey, documents := [] }
    let sh := sh.ask origin "PS1"
    match Script.nextLine reader with
    | .error flaw =>
      let asked := sh.askOn origin (linesRead unread flaw.left)
      set (({ asked.showLines origin unread flaw.left with line := flaw.line }.fail
        (encode flaw.reason)).giveUp origin)
    | .ok none =>
      let sh := (sh.showLines origin unread 0).askInVain origin
      set (if ran ∨ origin = .program then sh else sh.ended 0)
    | .ok (some (command, reader)) =>
      let left := reader.rest.length
      let isWhole := (unread.take (unread.length - left)).getLast? = some '\n'
      let asked := sh.askOn origin (linesRead unread left - if isWhole then 1 else 0)
      set { asked.showLines origin unread left with
        documents := sh.documents ++ reader.documents, ahead := reader.line }
      let isEmpty :=
        match command with
        | .nothing => true
        | _ => false
      engine.run role command
      runLines engine origin role fuel (ran || !isEmpty) reader

def runText (engine : Engine) (origin : Origin) (role : Role) (text : Bytes) : Act Shell Unit := do
  let sh ← get
  let s := Text.Bytewise.read text
  runLines engine origin role.inner (s.length + 1) false (Script.Reader.ofText s 1 sh.freeKey)
  modify fun after => { after with ahead := sh.ahead }

/-- Run what is to be done at a signal, after which things go on as if nothing had been run, unless
it leaves something. -/
def runAction (engine : Engine) (action : Bytes) : Act Shell Unit := do
  let sh ← get
  set { sh with kept := some (sh.kept.getD sh.last) }
  runText engine .argument .alone action
  modify fun after =>
    let last :=
      match after.leaving with
      | .nothing | .loops _ _ => sh.last
      | _ => after.last
    { after with kept := sh.kept, last := last }

def runActions (engine : Engine) : Nat → Act Shell Unit
  | 0 => return ()
  | fuel + 1 => do
    let sh ← get
    match if sh.leaving = .nothing then sh.caught.min? else none with
    | none => return
    | some signal =>
      set { sh with caught := sh.caught.filter (· ≠ signal) }
      match sh.traps.get? signal with
      | none => runActions engine fuel
      | some action =>
        runAction engine action
        runActions engine fuel

def collect (sh : Shell) : Shell :=
  let self := sh.system.self
  if self.pending = [] then sh
  else
    self.pending.foldl deliver { sh with system := sh.system.setSelf { self with pending := [] } }

def heed (engine : Engine) : Act Shell Unit := do
  let sh := (← get).collect
  set sh
  if sh.caught = [] then return
  runActions engine Signal.names.length

/-- At its end a shell runs what it was told to, which may change the exit code only by ending the
shell itself. -/
def finish (engine : Engine) : Act Shell Unit := do
  let sh ← get
  match sh.leaving, sh.traps.get? 0 with
  | .killed _, _ | _, none => return
  | _, some action =>
    set { sh with
      traps := sh.traps.erase 0, leaving := .nothing, speaker := none, kept := some sh.last }
    runText engine .argument .alone action
    let after ← get
    match after.leaving with
    | .shell | .failure | .killed _ => return
    | _ => set (after.ended sh.last)

def statusOf (sh : Shell) : Status :=
  match sh.leaving with
  | .killed signal => .killed signal
  | _ => .exited (sh.last % 256)

def workOf (engine : Engine) (body : Act Shell Unit) (sh : Shell) : Work := fun system =>
  let whole : Act Shell Unit := do
    body
    finish engine
  whole { sh with system := system } fun _ sh => .ended sh.statusOf sh.system

end EnvTemplate.Child.Shell
