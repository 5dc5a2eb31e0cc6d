import EnvTemplate.Child.Task

/-! How processes go on beside each other. Each has a clock of its own; the one whose clock is behind all
others goes on first. -/

namespace EnvTemplate.Child

/-- A process that has not ended, with what it waits for, since when, and what it does then, and the
moment at which it goes on, if that is known. -/
structure Runner where
  number : Nat
  wait : Wait
  since : Moment
  moment : Option Moment
  work : Work

structure Pool where
  runners : List Runner
  system : System

namespace Pool

def isReady (system : System) (runner : Runner) : Bool :=
  (system.members.get? runner.number).any fun member =>
    member.standing ≠ .stopped && runner.wait.isOver runner.number member system

def isAlive (system : System) (runner : Runner) : Bool :=
  (system.members.get? runner.number).any fun member => member.status?.isNone

/-- Leave out the processes that have been ended, and set a moment for those whose wait is over. -/
def settle (pool : Pool) : Pool :=
  { pool with
    runners := (pool.runners.filter (isAlive pool.system)).map fun runner =>
      if runner.moment.isNone && isReady pool.system runner then
        { runner with moment := some (runner.wait.earliest runner.since pool.system.files.now) }
      else runner }

def first? (runners : List Runner) : Option (Moment × Runner) :=
  runners.foldl (fun best runner =>
    match runner.moment, best with
    | none, _ => best
    | some moment, none => some (moment, runner)
    | some moment, some (earliest, other) =>
      if moment < earliest then some (moment, runner) else some (earliest, other)) none

def enter (system : System) (number : Nat) (moment : Moment) : System :=
  let home := ((system.members.get? number).map Member.home).getD system.files.home
  { system with
    current := number
    files := { system.files with now := max system.files.now moment, home := home } }

def leave (system : System) : System :=
  system.setSelf { system.self with home := system.files.home }

def replace (pool : Pool) (number : Nat) (runner : Option Runner) (system : System) : Pool where
  runners := pool.runners.filterMap fun other =>
    if other.number = number then runner else some other
  system := system

/-- Let a process do what it has before it. To end takes a while, in which nothing changes that. -/
def proceed (pool : Pool) (moment : Moment) (runner : Runner) : Pool :=
  let number := runner.number
  match runner.work (enter pool.system number moment) with
  | .ended status system =>
    if system.self.standing = .leaving then
      pool.replace number none (system.finish number status)
    else
      let now := system.files.now
      pool.replace number
        (some ⟨number, .time (now + Wait.endTime), now, none, fun system => .ended status system⟩)
        (system.setSelf { system.self with standing := .leaving })
  | .waiting wait system next =>
    pool.replace number (some ⟨number, wait, system.files.now, none, next⟩) (leave system)
  | .forking child work system next =>
    let now := system.files.now
    let made := now + Wait.forkTime
    let after := pool.replace number (some ⟨number, .time made, now, none, next⟩) (leave system)
    { after with
      runners := after.runners ++ [⟨child, .time (made + Wait.birthTime), now, none, work⟩] }

def advance (pool : Pool) (moment : Moment) (runner : Runner) : Pool :=
  if runner.wait = .turn then
    let charged := { pool with system := pool.system.charge runner.number Wait.turnTime }
    if isReady charged.system runner && isAlive charged.system runner then
      charged.proceed moment runner
    else charged
  else pool.proceed moment runner

def step (pool : Pool) (moment : Moment) (runner : Runner) : Pool :=
  if isReady pool.system runner then pool.advance moment runner
  else pool.replace runner.number (some { runner with moment := none }) pool.system

def runWithin (isDone : System → Bool) : Nat → Pool → Pool
  | 0, pool => pool
  | fuel + 1, pool =>
    let pool := pool.settle
    if isDone pool.system then pool
    else
      match first? pool.runners with
      | none => pool
      | some (moment, runner) => runWithin isDone fuel (pool.step moment runner)

def maxTurns : Nat := 1000000000

def maxTurnsBehind : Nat := 2000000

end Pool

/-- How a process ends, and what is then left when those that it has started have come to an end too. -/
def Work.run (work : Work) (system : System) : Status × System :=
  let number := system.current
  let statusOf (system : System) : Option Status :=
    (system.members.get? number).bind Member.status?
  let begun : Pool := ⟨[⟨number, .turn, system.files.now, none, work⟩], system⟩
  let done := begun.runWithin (fun system => (statusOf system).isSome) Pool.maxTurns
  let last := done.runWithin (fun _ => false) Pool.maxTurnsBehind
  ((statusOf last.system).getD (.killed Signal.kill), last.system)

end EnvTemplate.Child
