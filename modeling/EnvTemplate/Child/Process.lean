import EnvTemplate.Child.Basic
import EnvTemplate.Child.Options
import EnvTemplate.Child.Quoted
import EnvTemplate.Text.Utf8

namespace EnvTemplate.Child

open Text.Utf8 (encode)

def lineEnd : UInt8 := 0x0A

structure Process where
  name : Bytes
  environment : Variables
  descriptors : Descriptors
  ignored : List Nat
  system : System
  pending : Bytes
  code : Nat
  failure : Nat

namespace Process

def ofStart (start : Start) (failure : Nat) (system : System) : Process :=
  ⟨start.program, start.environment, start.descriptors, start.ignored, system, [], 0, failure⟩

def locale (p : Process) : Locale := Locale.ofEnvironment p.environment

def quote (p : Process) (name : Bytes) : Bytes := Quoted.encode p.locale name

def cite (p : Process) (text : Bytes) : Bytes := Quoted.cite p.locale text

def quoteIfNeeded (p : Process) (name : Bytes) : Bytes := Quoted.encodeIfNeeded p.locale name

def say (p : Process) (text : Bytes) : Process :=
  { p with system := (p.system.writeTo p.descriptors 2 text).2 }

def complain (p : Process) (code : Nat) (text : Bytes) : Process :=
  { p.say (p.name ++ encode ": " ++ text ++ [lineEnd]) with code := code }

def print (p : Process) (bytes : Bytes) : Process := { p with pending := p.pending ++ bytes }

def endWith (code : Nat) (p : Process) : Process := { p with code := code }

def misuse (p : Process) (text : Bytes) : Process :=
  p.complain p.failure
    (text ++ encode "\nTry '" ++ p.name ++ encode " --help' for more information.")

def told (p : Process) : System :=
  p.system.setSelf { p.system.self with
    held := p.descriptors.entries.map Prod.snd, kept := 0, ignored := p.ignored, caught := [] }

/-- Do something with the options and operands among arguments. What a program says of itself is left
out. -/
def withOptions (table : OptionTable) (args : List Bytes)
    (body : OptionChoice → Act Process Unit) : Act Process Unit := do
  let p ← get
  let permutes := table.permutes && (p.environment.get? "POSIXLY_CORRECT").isNone
  match { table with permutes := permutes }.read args with
  | .error message => set (p.misuse message)
  | .ok choice => if choice.has OptionTable.about then return () else body choice

def pause (wait : Wait) : Act Process Unit := fun p next =>
  .waiting wait p.told fun system => next () { p with system := system }

/-- The signal that ends a process whose output nobody reads, or that writes more than it may. -/
def fatal? (cause : FileError) : Option Nat :=
  match cause with
  | .brokenPipe => some Signal.brokenPipe
  | .fileTooLarge => some Signal.fileTooLarge
  | _ => none

def endIfFatal (cause : FileError) : Act Process Unit := do
  match (fatal? cause).filter (· ∉ (← get).ignored) with
  | some signal => Act.stop fun p => .ended (.killed signal) p.system
  | none => return ()

/-- Write to the output at once, and wait until there is room for more. The answer is why that was not
possible. -/
def transfer (bytes : Bytes) : Act Process (Option FileError) := do
  if bytes = [] then return none
  let p ← get
  let (failure, system) := p.system.writeTo p.descriptors 1 bytes
  set { p with system := system }
  match failure with
  | none =>
    match p.descriptors.get? 1 with
    | some index => if !system.hasRoom index then pause (.room index)
    | none => return none
    return none
  | some cause =>
    endIfFatal cause
    return some cause

def write (bytes : Bytes) : Act Process Bool := do
  match ← transfer bytes with
  | none => return true
  | some cause =>
    modify fun p => p.complain p.failure (encode s!"write error: {cause.reason}")
    return false

def run (start : Start) (failure : Nat) (body : Act Process Unit) : Work := fun system =>
  let whole : Act Process Unit := do
    pause (.time (system.files.now + Wait.startTime))
    body
    let p ← get
    set { p with pending := [] }
    let _ ← write p.pending
  whole (ofStart start failure system) fun _ p => .ended (.exited p.code) p.system

end Process

def hyphen : Bytes := [0x2D]

end EnvTemplate.Child
