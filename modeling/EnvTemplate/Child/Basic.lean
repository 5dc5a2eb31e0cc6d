import EnvTemplate.Child.Task

namespace EnvTemplate.Child

structure Start where
  path : Bytes
  program : Bytes
  arguments : List Bytes
  environment : Variables
  descriptors : Descriptors
  ignored : List Nat
  deriving DecidableEq

/-- The behaviour of the programs there are among some files: what each does, or why it cannot be
started. -/
abbrev Behaviour := FileTree → Start → Except FileError Work

end EnvTemplate.Child
