import EnvTemplate.FileTree.Basic
import EnvTemplate.Variables

namespace EnvTemplate

inductive Status
  | exited (code : Nat)
  | killed (signal : Nat)
  deriving DecidableEq, Repr

def Status.code : Status → Nat
  | exited code => code
  | killed signal => 128 + signal

namespace CommandLine

structure Launch where
  program : String
  arguments : List String
  environment : Variables
  /-- What stands beside the variables whose names are text. -/
  others : List Bytes
  deriving DecidableEq

structure Ended where
  status : Status
  stdout : ByteArray
  stderr : ByteArray
  files : FileTree

/-- What programs do that are started among some files, or why they cannot be started. -/
abbrev Behaviour := FileTree → Launch → Except FileError Ended

end CommandLine

end EnvTemplate
