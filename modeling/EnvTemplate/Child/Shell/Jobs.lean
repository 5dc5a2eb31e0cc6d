import EnvTemplate.Child.Shell.Lines

/-! What goes on beside a shell: parts of it that go on by themselves, programs, and how a shell waits for
them. -/

namespace EnvTemplate.Child.Shell

open Text.Utf8 (encode)

def freeSlot (sh : Shell) : Nat :=
  let isFree (slot : Nat) : Bool :=
    (sh.jobs.find? fun job => job.slot = slot).all fun job => job.waited && job.isDone
  (((List.range sh.jobs.length).map (· + 1)).find? isFree).getD (sh.jobs.length + 1)

def openJob (sh : Shell) : Nat × Shell :=
  let slot := sh.freeSlot
  (slot, { sh with jobs := ⟨slot, [], false⟩ :: sh.jobs.filter fun job => job.slot ≠ slot })

def job? (sh : Shell) (slot : Nat) : Option Job := sh.jobs.find? fun job => job.slot = slot

def withJob (sh : Shell) (slot : Nat) (change : Job → Job) : Shell :=
  { sh with jobs := sh.jobs.map fun job => if job.slot = slot then change job else job }

def closeJob (sh : Shell) (slot : Nat) : Shell :=
  { sh with jobs := sh.jobs.filter fun job => job.slot ≠ slot }

/-- Let a process go on beside the shell as a part of a job. What it does is given, and the shell as it
is in it. Until it begins, it is told of it only what it holds. -/
def launch (slot : Nat) (part : Shell → Shell) (work : Shell → Work) : Act Shell Unit :=
  fun sh next =>
    let inner := part { sh with jobs := [], caught := [] }
    let (number, system) := sh.told.addMember inner.holding
    let sh := { sh with system := system }.withJob slot fun job =>
      { job with processes := job.processes ++ [(number, none)] }
    let child : Work := fun system => work inner (system.setSelf { system.self with pending := [] })
    .forking number child sh.system fun system => next () { sh with system := system }

def asPart (sh : Shell) : Shell :=
  { sh with traps := sh.traps.filter fun _ action => action = [] }

def fork (engine : Engine) (slot : Nat) (part : Shell → Shell) (body : Act Shell Unit) :
    Act Shell Unit :=
  launch slot (fun sh => part sh.asPart) (workOf engine body)

def announcement (status : Status) : Bytes :=
  match status with
  | .exited _ => []
  | .killed signal =>
    ((Signal.description? signal).map fun text => encode (text ++ "\n")).getD []

/-- Take notice of the processes that have ended. Something is said only of those in one job. -/
def reapAll (shown : Option Nat) : Nat → Shell → Shell
  | 0, sh => sh
  | fuel + 1, sh =>
    match sh.system.reap? sh.system.current with
    | none => sh
    | some (number, status, system) =>
      let belongs (job : Job) : Bool := job.processes.any fun (other, _) => other = number
      let slot := (sh.jobs.find? belongs).map Job.slot
      let sh := { sh with
        system := system
        jobs := sh.jobs.map fun job =>
          { job with processes := job.processes.map fun (other, known) =>
              (other, if other = number then some status else known) } }
      reapAll shown fuel (if slot.isSome ∧ slot = shown then sh.say (announcement status) else sh)

def notice (sh : Shell) (shown : Option Nat) : Shell :=
  reapAll shown sh.system.members.size sh

def maxRounds : Nat := 1000000000

def awaitJob (slot : Nat) : Nat → Act Shell Unit
  | 0 => return ()
  | rounds + 1 => do
    let sh := (← get).notice (some slot)
    set sh
    if (sh.job? slot).all Job.isDone then return
    pause (.child false)
    awaitJob slot rounds

def conclude (slot : Nat) : Act Shell Status := do
  awaitJob slot maxRounds
  let sh ← get
  set (sh.closeJob slot)
  return ((sh.job? slot).map Job.status).getD (.exited 0)

def beginJob : Act Shell Nat := do
  let (slot, sh) := (← get).openJob
  set sh
  return slot

def runPart (engine : Engine) (body : Act Shell Unit) : Act Shell Unit := do
  let slot ← beginJob
  fork engine slot id body
  let status ← conclude slot
  modify (·.ended status.code)

def drain (index : Nat) : Nat → Act Shell (List Bytes)
  | 0 => return []
  | rounds + 1 => do
    pause (.input index)
    let sh ← get
    match sh.system.output index with
    | [] => return []
    | bytes =>
      set { sh with system := sh.system.advance index bytes.length }
      return bytes :: (← drain index rounds)

def noPipe : Bytes := encode "Pipe call failed"

def capture (engine : Engine) (body : Act Shell Unit) : Act Shell (Bytes × Status) := do
  let slot ← beginJob
  let sh ← get
  let (source, target, system) := sh.system.addPipe
  set { sh with system := system, shadowed := source :: sh.shadowed }
  fork engine slot (fun part =>
    { part with shadowed := sh.shadowed, descriptors := part.descriptors.insert 1 target }) body
  let parts ← drain source maxRounds
  modify fun after => { after with shadowed := sh.shadowed }
  let status ← conclude slot
  return (parts.flatten, status)

end EnvTemplate.Child.Shell
