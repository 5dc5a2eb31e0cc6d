import EnvTemplate.Child.Shell.Builtin.Basic

/-! The commands that leave loops, functions and the shell. -/

namespace EnvTemplate.Child.Shell

open Text.Utf8 (encode)

def leaveLoops (again : Bool) : Builtin := fun args sh =>
  withNumber 1 (fun n sh =>
    if n = 0 then sh.misuse (illegalNumber (args.headD []))
    else
      let count := min n sh.loops
      { sh with leaving := if count = 0 then sh.leaving else .loops count again }.ended 0) args sh

def returnCommand : Builtin := fun args sh =>
  withNumber sh.last (fun n sh => { sh with leaving := .function }.ended n) args sh

def exitCommand : Builtin := fun args sh =>
  withNumber (sh.kept.getD sh.last) (fun n sh => { sh with leaving := .shell }.ended n) args sh

end EnvTemplate.Child.Shell
