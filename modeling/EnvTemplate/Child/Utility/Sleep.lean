import EnvTemplate.Child.Process
import EnvTemplate.Child.Real

/-! `sleep`: nothing for a while. -/

namespace EnvTemplate.Child.Sleep

open Text.Utf8 (encode)

def units : List (List Char × Nat) :=
  [([], 1), (['s'], 1), (['m'], 60), (['h'], 3600), (['d'], 86400)]

def nanosecondsOf (magnitude seconds : Nat) : Int :=
  (magnitude * seconds * Calendar.second.toNat + Nat.pow 2 Number.Binary64.unitBits - 1) /
    Nat.pow 2 Number.Binary64.unitBits

/-- A time: a number that is not negative, and a unit or not. None is a time without an end. -/
def time? (text : Bytes) : Option (Option Int) :=
  let reading := Real.read (Text.Bytewise.read text)
  if !reading.found || reading.value.negative then none
  else
    match units.lookup reading.rest, reading.value.magnitude with
    | some seconds, some magnitude =>
      some (magnitude.map fun magnitude => nanosecondsOf magnitude seconds)
    | _, _ => none

def wait (times : List (Option Int)) : Act Process Unit := do
  let now := (← get).system.files.now
  match times.foldl (fun sum time => sum.bind fun sum => time.map (sum + ·)) (some 0) with
  | none => Process.pause .never
  | some time => Process.pause (.time (now + time))

def run (start : Start) : Work :=
  Process.run start 1 <| Process.withOptions ⟨[], true⟩ start.arguments fun choice => do
    if choice.operands = [] then modify (Process.misuse · (encode "missing operand"))
    else
      match choice.operands.filter fun word => (time? word).isNone with
      | [] => wait (choice.operands.filterMap time?)
      | bad =>
        let complaint (p : Process) (name : Bytes) : Bytes :=
          encode "invalid time interval " ++ p.cite name
        modify fun p =>
          let said := bad.dropLast.foldl (fun p name => p.complain 1 (complaint p name)) p
          said.misuse (complaint said (bad.getLastD []))

end EnvTemplate.Child.Sleep
