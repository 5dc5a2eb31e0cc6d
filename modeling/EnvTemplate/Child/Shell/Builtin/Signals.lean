import EnvTemplate.Child.Shell.Builtin.Basic
import EnvTemplate.Child.Shell.Jobs

/-! The commands on signals and on what goes on beside a shell. -/

namespace EnvTemplate.Child.Shell

open Text.Utf8 (encode decode)

def listTraps (sh : Shell) : Bytes :=
  let sorted := sh.traps.entries.mergeSort fun (a, _) (b, _) => decide (a ≤ b)
  sorted.flatMap fun (signal, action) =>
    encode "trap -- " ++ quoted action ++ encode s!" {Signal.nameOf signal}\n"

def setTraps (action : Option Bytes) : Builtin
  | [], sh => sh.ended 0
  | word :: rest, sh =>
    match Signal.ofText? (decode word) with
    | none => (sh.say (encode "trap: " ++ word ++ encode ": bad trap\n")).ended 1
    | some signal =>
      let traps :=
        match action with
        | none => sh.traps.erase signal
        | some action => sh.traps.insert signal action
      setTraps action rest { sh with traps := traps }

def trap : Builtin :=
  withOptions [] fun _ operands sh =>
    match operands with
    | [] => sh.answer 0 sh.listTraps
    | [_] => setTraps none operands sh
    | action :: signals =>
      if (Numeral.ofDigits? (Text.Bytewise.read action)).any (· ≤ Signal.names.length) then
        setTraps none operands sh
      else setTraps (if action = encode "-" then none else some action) signals sh

def percent : UInt8 := 0x25

def jobOf (sh : Shell) (word : Bytes) : Except Bytes Job :=
  let orElse (message : String) : Option Job → Except Bytes Job
    | none => .error (encode message)
    | some job => .ok job
  match Text.Bytewise.read word with
  | ['%'] | ['%', '%'] | ['%', '+'] => orElse "No current job" sh.jobs.head?
  | ['%', '-'] => orElse "No previous job" sh.jobs.tail.head?
  | ['%', '?'] =>
    match sh.jobs with
    | [job] => .ok job
    | [] => .error (encode "No such job: " ++ word)
    | _ => .error (word ++ encode ": ambiguous")
  | '%' :: digits =>
    match (Numeral.ofDigits? digits).bind sh.job? with
    | some job => .ok job
    | none => .error (encode "No such job: " ++ word)
  | _ => .error (encode "No such job: " ++ word)

def send (sh : Shell) (signal process : Nat) : Bool × Shell :=
  if process = sh.system.current ∨ process = 0 then (true, sh.deliver signal)
  else
    let (found, system) := sh.told.send signal process
    (found, { sh with system := system })

/-- Send a signal to the processes that words mean. Jobs are no groups of processes, and cannot be sent
anything. -/
def sendAll (signal : Nat) (failed : Bool) : Builtin
  | [], sh => sh.ended (if failed then 1 else 0)
  | word :: rest, sh =>
    let found : Except Bytes (Bool × Shell) :=
      if word.head? = some percent then (sh.jobOf word).map fun _ => (false, sh)
      else if word.head? = some 0x2D then (number word.tail).map fun _ => (false, sh)
      else (number word).map fun process => sh.send signal process
    match found with
    | .error message => sh.misuse message
    | .ok (true, sh) => sendAll signal failed rest sh
    | .ok (false, sh) => sendAll signal true rest (sh.complain (encode "No such process\n"))

def listSignals : Builtin := fun args sh =>
  match args with
  | [] => sh.answer 0 (encode ("0\n" ++ String.join (Signal.names.map (· ++ "\n"))))
  | word :: _ =>
    match number word with
    | .error message => sh.misuse message
    | .ok n =>
      let signal := if 128 < n then n - 128 else n
      if 0 < signal ∧ signal ≤ Signal.names.length then
        sh.answer 0 (encode (Signal.nameOf signal ++ "\n"))
      else sh.misuse (encode "invalid signal number or exit status: " ++ word)

def killUsage : String :=
  "Usage: kill [-s sigspec | -signum | -sigspec] [pid | job]... or\nkill -l [exitstatus]"

def signal? (word : Bytes) : Option Nat :=
  (Signal.ofText? (decode word)).filter fun n =>
    n ≠ 0 || (Numeral.ofDigits? (Text.Bytewise.read word)).isSome

def kill : Builtin := fun args sh =>
  let toAll (signal : Nat) (words : List Bytes) : Shell :=
    if words = [] then sh.misuse (encode killUsage) else sendAll signal false words sh
  match args with
  | (0x2D :: option) :: rest =>
    match signal? option with
    | some signal => toAll signal rest
    | none =>
      withOptions [('l', false), ('s', true)] (fun options operands sh =>
        match options.find? fun (letter, name) => letter = 's' && (signal? name).isNone with
        | some (_, name) => sh.misuse (encode "invalid signal number or name: " ++ name)
        | none =>
          if options.any fun (letter, _) => letter = 'l' then listSignals operands sh
          else
            let names := options.filterMap fun (_, name) => signal? name
            toAll (names.getLast?.getD Signal.terminate) operands) args sh
  | _ => toAll Signal.terminate args

def stirred (sh : Shell) : Option Nat := sh.system.self.pending.getLast?.map (128 + ·)

def waitFor (slot : Nat) : Nat → Act Shell (Option Nat)
  | 0 => return none
  | rounds + 1 => do
    let sh := (← get).notice (some slot)
    set sh
    if (sh.job? slot).all Job.isDone then return none
    if sh.stirred.isSome then return sh.stirred
    pause (.child true)
    waitFor slot rounds

def waitForAll : Nat → Act Shell (Option Nat)
  | 0 => return none
  | rounds + 1 => do
    let before ← get
    let sh := before.notice none
    set sh
    if sh.jobs.all Job.isDone then
      let jobs := sh.jobs.map fun job => { job with waited := true }
      set { sh with jobs := jobs }
      return none
    if sh.jobs = before.jobs ∧ sh.stirred.isSome then return sh.stirred
    if sh.jobs = before.jobs then pause (.child true)
    waitForAll rounds

def awaited (sh : Shell) (word : Bytes) : Except Bytes (Option Job) :=
  if word.head? = some percent then (sh.jobOf word).map some
  else
    (number word).map fun process =>
      sh.jobs.find? fun job => (job.processes.getLast?.map Prod.fst) = some process

def waitEach : Nat → Deed
  | code, [] => modify (·.ended code)
  | code, word :: rest => do
    match (← get).awaited word with
    | .error message => modify (misuse · message)
    | .ok none => waitEach code rest
    | .ok (some job) =>
      match ← waitFor job.slot maxRounds with
      | some code => modify (·.ended code)
      | none =>
        modify (·.withJob job.slot fun job => { job with waited := true })
        waitEach ((((← get).job? job.slot).map fun job => job.status.code).getD code) rest

def wait : Deed :=
  doWithOptions [] fun _ operands => do
    match operands with
    | [] =>
      let code ← waitForAll maxRounds
      modify (·.ended (code.getD 0))
    | words => waitEach 127 words

def showState (job : Job) : String :=
  if !job.isDone then "Running"
  else
    match job.status with
    | .exited 0 => "Done"
    | .exited code => s!"Done({code})"
    | .killed signal => Signal.anyDescription signal

/-- A job as it is listed: alone its state, or every process by its number. The commands are not
known. -/
def showJob (jobs : List Job) (byProcess : Bool) (job : Job) : String :=
  let mark :=
    if jobs.head?.map Job.slot = some job.slot then "+"
    else if jobs.tail.head?.map Job.slot = some job.slot then "-"
    else " "
  let padded (s : String) (width : Nat) : String :=
    s ++ String.ofList (List.replicate (max 1 (width - s.length)) ' ')
  let numbers := job.processes.map Prod.fst
  let first := s!"[{job.slot}] {mark} "
  if byProcess then
    let leading := first ++ s!"{numbers.headD 0} " ++ showState job
    let lines := numbers.tail.map fun number =>
      padded (" |\n" ++ String.ofList (List.replicate first.length ' ') ++ toString number ++ " ") 36
    padded leading 33 ++ String.join lines ++ "\n"
  else
    padded (first ++ showState job) 33 ++ String.join (numbers.tail.map fun _ => " | ") ++ "\n"

/-- Tell of jobs one after the other. Those that have ended are done with as soon as that is told. -/
def listEach (byProcess : Bool) : List Job → Shell → String × Shell
  | [], sh => ("", sh)
  | job :: rest, sh =>
    let after := if job.isDone then sh.closeJob job.slot else sh
    let (shown, last) := listEach byProcess rest after
    (showJob sh.jobs byProcess job ++ shown, last)

def listJobs : Builtin :=
  withOptions [('l', false), ('p', false)] fun options operands sh =>
    let sh := sh.notice none
    let letter := options.getLast?.map Prod.fst
    let chosen : Except Bytes (List Job) :=
      if operands = [] then .ok sh.jobs else operands.mapM sh.jobOf
    match chosen with
    | .error message => sh.misuse message
    | .ok jobs =>
      let (shown, sh) :=
        if letter = some 'p' then
          (String.join (jobs.map fun job => s!"{(job.processes.map Prod.fst).headD 0}\n"), sh)
        else listEach (letter = some 'l') jobs sh
      sh.answer 0 (encode shown)

def resumeJob : Builtin :=
  withOptions [] fun _ operands sh =>
    match sh.jobOf (operands.headD [percent]) with
    | .error message => sh.misuse message
    | .ok _ => sh.misuse (encode "job " ++ operands.headD (encode "(null)") ++
        encode " not created under job control")

end EnvTemplate.Child.Shell
