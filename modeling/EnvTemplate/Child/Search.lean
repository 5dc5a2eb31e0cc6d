import EnvTemplate.Child.Basic
import EnvTemplate.FileTree.Walk

namespace EnvTemplate.Child

def programAt (files : FileTree) (path : Path) : Except FileError String :=
  match files.locate .target path with
  | .error cause => .error cause
  | .ok location =>
    match files.at? location with
    | none => .error .notFound
    | some (.program program) => .ok program
    | some _ => .error .permissionDenied

def searchPath (environment : Variables) : List Path :=
  match environment.get? "PATH" with
  | none => [Path.ofText "/bin", Path.ofText "/usr/bin"]
  | some value => (value.data.toList.splitOn 0x3A).map Path.mk

/-- The directories that are tried: one that is too long to be the start of a path is passed over,
but then the working directory is tried before the next. -/
def triedDirectories : List Path → List Path
  | [] => []
  | directory :: rest =>
    if FileTree.maxPathBytes < directory.bytes.length then
      match rest with
      | [] => []
      | _ => ⟨[]⟩ :: triedDirectories rest
    else directory :: triedDirectories rest

/-- Look for a name in one directory after the other. That a file cannot be run is reported only
if no later directory has the program. -/
def search (files : FileTree) (name : Path) (failed : FileError) :
    List Path → Except FileError String
  | [] => .error failed
  | directory :: rest =>
    match programAt files (directory.join name) with
    | .ok program => .ok program
    | .error cause =>
      if cause ∈ [.notFound, .notADirectory, .permissionDenied] then
        search files name (if failed = .permissionDenied then failed else cause) rest
      else .error cause

def find (files : FileTree) (environment : Variables) (name : Bytes) :
    Except FileError String :=
  if name = [] then .error .notFound
  else if Path.slash ∈ name then programAt files ⟨name⟩
  else search files ⟨name⟩ .noChild (triedDirectories (searchPath environment))

def maxArgumentBytes : Nat := 131072

def Start.resolve (files : FileTree) (start : Start) : Except FileError String :=
  let words := start.path :: start.program :: start.arguments
  if words.any (0 ∈ ·) then .error .nulInArgument
  else
    match find files start.environment start.path with
    | .error cause => .error cause
    | .ok program =>
      if words.any (maxArgumentBytes ≤ ·.length) ||
          start.environment.entries.any fun (name, value) =>
            decide (maxArgumentBytes ≤ name.utf8ByteSize + 1 + value.size) then
        .error .argumentsTooLong
      else .ok program

end EnvTemplate.Child
