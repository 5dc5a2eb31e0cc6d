import EnvTemplate.Child.Process

/-! `printenv`: the values of variables. -/

namespace EnvTemplate.Child.Printenv

open Text.Utf8 (encode)

def table : OptionTable := ⟨[.flag '0' ["null"]], false⟩

def assignment (entry : String × ByteArray) : Bytes :=
  encode entry.1 ++ 0x3D :: entry.2.data.toList

def value? (environment : Variables) (name : Bytes) : Option Bytes :=
  ((String.fromUTF8? ⟨name.toArray⟩).bind environment.get?).map fun value => value.data.toList

def printAll (last : UInt8) (names : List Bytes) (p : Process) : Process :=
  match names with
  | [] => p.print (p.environment.entries.flatMap fun entry => assignment entry ++ [last])
  | _ =>
    let found := names.filterMap (value? p.environment)
    { p.print (found.flatMap fun value => value ++ [last]) with
      code := if found.length = names.length then 0 else 1 }

def run (start : Start) : Work :=
  Process.run start 2 <| Process.withOptions table start.arguments fun choice =>
    modify (printAll (if choice.has '0' then 0 else lineEnd) choice.operands)

end EnvTemplate.Child.Printenv
