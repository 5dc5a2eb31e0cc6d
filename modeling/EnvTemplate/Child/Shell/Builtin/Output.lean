import EnvTemplate.Child.Condition
import EnvTemplate.Child.Format
import EnvTemplate.Child.Shell.Builtin.Basic

/-! The commands that print and that test. -/

namespace EnvTemplate.Child.Shell

open Text.Utf8 (encode)

def echo : Builtin := fun args sh =>
  match args with
  | [0x2D, 0x6E] :: words => sh.answer 0 (Escape.decodeWords words).1
  | words =>
    let (output, cut) := Escape.decodeWords words
    sh.answer 0 (if cut then output else output ++ [0x0A])

def printf : Builtin :=
  withOptions [] fun _ operands sh =>
    match operands with
    | [] => sh.misuse (encode "usage: printf format [arg ...]")
    | format :: args =>
      let work := Format.apply format args
      (work.complaints.foldl complain sh).answer work.status work.output

def test : Builtin := fun args sh =>
  match Condition.eval sh.system.files args with
  | .ok holds => sh.ended (if holds then 0 else 1)
  | .error message => sh.misuse message

def bracket : Builtin := fun args sh =>
  if (args.getLast?.bind List.head?) = some 0x5D then test args.dropLast sh
  else sh.misuse (encode "missing ]")

end EnvTemplate.Child.Shell
