import EnvTemplate.Child.Shell.Builtin.Basic
import EnvTemplate.Child.Shell.Redirect

/-! The commands that run text as a script. -/

namespace EnvTemplate.Child.Shell

open Text.Utf8 (encode)

def evalCommand (engine : Engine) (role : Role) : Deed := fun args =>
  if args = [] then modify (·.ended 0)
  else runText engine .argument role ([0x20].intercalate args)

/-- The path of a file of commands. A name without a slash is looked for where programs are. -/
def sourcePath? (sh : Shell) (name : Bytes) : Option Bytes :=
  if Path.slash ∈ name then some name
  else
    let directories := ((sh.lookup? "PATH").getD []).splitOn 0x3A
    (directories.map fun directory =>
      if directory = [] then name else directory ++ Path.slash :: name).find? fun path =>
        sh.system.files.isFile ⟨path⟩

/-- Run the commands in a file; its end is also the end of a command that leaves a function. -/
def source (engine : Engine) : Deed :=
  doWithOptions [] fun _ operands => do
    let sh ← get
    match operands with
    | [] => set (sh.ended 0)
    | name :: _ =>
      match sh.sourcePath? name with
      | none => set (sh.misuse (name ++ encode ": not found"))
      | some path =>
        match sh.system.openPath sh.descriptors .reading ⟨path⟩ with
        | .error cause => set (sh.misuse (refusal .reading path cause))
        | .ok (index, system) =>
          let kept := system.self.kept
          set { sh with system := system.keeping (kept + 1), speaker := some path }
          let parts ← drain index maxRounds
          runText engine .file .alone parts.flatten
          modify fun after =>
            { after with
              system := after.system.keeping kept
              leaving := if after.leaving = .function then .nothing else after.leaving }

end EnvTemplate.Child.Shell
