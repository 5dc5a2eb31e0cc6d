import EnvTemplate.Child.Schedule
import EnvTemplate.Child.Search
import EnvTemplate.Child.Shell.Start
import EnvTemplate.Child.Utility.Cat
import EnvTemplate.Child.Utility.Env
import EnvTemplate.Child.Utility.Printenv
import EnvTemplate.Child.Utility.Sleep
import EnvTemplate.Child.Utility.Touch

namespace EnvTemplate.Child

def idle (code : Nat) (start : Start) : Work := Process.run start code (modify (Process.endWith code))

def runNamed (behaviour : Behaviour) (program : String) (start : Start) : Work :=
  match program with
  | "cat" => Cat.run start
  | "env" => Env.run behaviour start
  | "printenv" => Printenv.run start
  | "dash" => Shell.runStart behaviour start
  | "sleep" => Sleep.run start
  | "touch" => Touch.run start
  | "true" => idle 0 start
  | _ => idle 1 start

/-- A program keeps nothing that the one before it has kept, and needs to open what it shares with others
before it can do anything. -/
def loaded (start : Start) (work : Work) : Work := fun system =>
  let system := system.keeping 0
  if system.hasNumbers start.descriptors 1 then work system
  else
    Process.run start 127 (modify (Process.complain · 127 (Text.Utf8.encode
      ("error while loading shared libraries: libc.so.6: cannot open shared object file: " ++
        s!"Error {FileError.tooManyFiles.number?.getD 0}")))) system

/-- How the programs there are behave, where those that start others are nested only so deep. -/
def behaviourWithin : Nat → Behaviour
  | 0, _, _ => .error .permissionDenied
  | depth + 1, files, start =>
    (start.resolve files).map fun program =>
      loaded start (runNamed (behaviourWithin depth) program start)

def maxDepth : Nat := 1000

def behaviour : Behaviour := behaviourWithin maxDepth

/-- What the programs do that a command starts. They are not given what stands in an environment beside
the variables. -/
def launched : CommandLine.Behaviour := fun files launch =>
  let path := Text.Utf8.encode launch.program
  let start : Start := {
    path := path
    program := path
    arguments := launch.arguments.map Text.Utf8.encode
    environment := launch.environment
    descriptors := System.standard
    ignored := [] }
  (behaviour files start).map fun work =>
    let (status, system) := work.run (System.start files)
    ⟨status, ⟨(system.output 1).toArray⟩, ⟨(system.output 2).toArray⟩,
      { system.files with home := files.home }⟩

end EnvTemplate.Child
