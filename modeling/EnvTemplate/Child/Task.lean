import EnvTemplate.Child.System

/-! What a process is going to do. It goes on by itself only up to where others may have their turn;
what it does then depends on what the system has become. -/

namespace EnvTemplate.Child

inductive Wait
  | turn
  | time (moment : Moment)
  | never
  /-- Something to read, or that there is nobody left to write. -/
  | input (index : Nat)
  | line (index : Nat)
  | room (index : Nat)
  | child (orSignal : Bool)
  deriving DecidableEq, Repr

namespace Wait

def microsecond : Int := 1000

def turnTime : Int := 10 * microsecond

def forkTime : Int := 150 * microsecond

def birthTime : Int := 100 * microsecond

def wakeTime (waited : Int) : Int :=
  if waited < 1000 * microsecond then 50 * microsecond else 150 * microsecond

def startTime : Int := 500 * microsecond

def endTime : Int := 100 * microsecond

/-- The earliest moment at which a process can go on that has begun to wait at another one. -/
def earliest (since now : Moment) : Wait → Moment
  | turn => now + turnTime
  | time moment => max now moment
  | _ => now + wakeTime (now - since)

def isOver (wait : Wait) (number : Nat) (member : Member) (system : System) : Bool :=
  let isStirred : Bool := member.pending ≠ []
  match wait with
  | turn | time _ => true
  | never => false
  | input index => system.hasInput index || !system.mayGrow index
  | line index => system.hasLine index || !system.mayGrow index || isStirred
  | room index => system.hasRoom index
  | child orSignal => system.hasEndedChild number || orSignal && isStirred

end Wait

inductive Task
  | ended (status : Status) (system : System)
  | waiting (wait : Wait) (system : System) (next : System → Task)
  | forking (number : Nat) (child : System → Task) (system : System) (next : System → Task)

abbrev Work := System → Task

def Act (σ α : Type) : Type := σ → (α → σ → Task) → Task

namespace Act

variable {σ α β : Type}

instance : Monad (Act σ) where
  pure a := fun s next => next a s
  bind act f := fun s next => act s fun a s => f a s next

instance : MonadStateOf σ (Act σ) where
  get := fun s next => next s s
  set s := fun _ next => next () s
  modifyGet f := fun s next => next (f s).1 (f s).2

def stop (task : σ → Task) : Act σ α := fun s _ => task s

end Act

end EnvTemplate.Child
