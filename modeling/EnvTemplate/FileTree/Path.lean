import EnvTemplate.Text.Utf8

namespace EnvTemplate

abbrev Name := Bytes

/-- A path: bytes in which slashes stand between names. -/
structure Path where
  bytes : Bytes
  deriving DecidableEq, Repr

namespace Path

def slash : UInt8 := 0x2F

def ofText (s : String) : Path := ⟨Text.Utf8.encode s⟩

def text (path : Path) : String := Text.Utf8.decode path.bytes

def isAbsolute (path : Path) : Bool := path.bytes.head? = some slash

def endsInSlash (path : Path) : Bool := path.bytes.getLast? = some slash

/-- The names of a path. A slash at its end is kept as an empty name after the last one. -/
def names (path : Path) : List Name :=
  (path.bytes.splitOn slash).filter (· ≠ []) ++ if path.endsInSlash then [[]] else []

def ofNames (names : List Name) : Path := ⟨[slash].intercalate names⟩

def join (directory path : Path) : Path :=
  if path.isAbsolute || directory.bytes = [] then path
  else if directory.endsInSlash then ⟨directory.bytes ++ path.bytes⟩
  else ⟨directory.bytes ++ slash :: path.bytes⟩

end Path

end EnvTemplate
