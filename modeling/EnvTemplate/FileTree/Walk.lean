import EnvTemplate.FileTree.Basic

namespace EnvTemplate

/-- What a path is followed for: the entry itself, be it a link; what stands at its end; or a file
that is made there if need be. -/
inductive Purpose
  | entry
  | target
  | creation
  deriving DecidableEq, Repr

namespace FileTree

def currentName : Name := [0x2E]

def parentName : Name := [0x2E, 0x2E]

def maxNameBytes : Nat := 255

/-- Follow names from a directory; at a link, `follow` goes on with its target and the names left.
The location reached is one at which something may stand or not. -/
def walkFrom (tree : FileTree) (purpose : Purpose)
    (follow : Location → Path → List Name → Except FileError Location) :
    Location → List Name → Except FileError Location
  | here, [] => .ok here
  | here, name :: rest =>
    if name = [] ∨ name = currentName then walkFrom tree purpose follow here rest
    else if name = parentName then walkFrom tree purpose follow here.dropLast rest
    else if purpose = .creation ∧ rest = [[]] then .error .isADirectory
    else if maxNameBytes < name.length then .error .nameTooLong
    else
      let location := here ++ [name]
      match tree.at? location with
      | none => if rest = [] then .ok location else .error .notFound
      | some .directory => walkFrom tree purpose follow location rest
      | some (.link target) =>
        if purpose = .entry ∧ rest = [] then .ok location else follow here target rest
      | some _ => if rest = [] then .ok location else .error .notADirectory

def walk (tree : FileTree) (purpose : Purpose) :
    Nat → Location → List Name → Except FileError Location
  | 0 => walkFrom tree purpose fun _ _ _ => .error .tooManyLinks
  | links + 1 =>
    walkFrom tree purpose fun here target rest =>
      if target.bytes = [] then .error .notFound
      else walk tree purpose links (if target.isAbsolute then [] else here) (target.names ++ rest)

def maxLinks : Nat := 40

def maxPathBytes : Nat := 4095

def locate (tree : FileTree) (purpose : Purpose) (path : Path) : Except FileError Location :=
  if path.bytes = [] then .error .notFound
  else if 0 ∈ path.bytes then .error .nulInName
  else if maxPathBytes < path.bytes.length then .error .nameTooLong
  else walk tree purpose maxLinks (if path.isAbsolute then [] else tree.home) path.names

def find? (tree : FileTree) (path : Path) : Option Entry :=
  match tree.locate .target path with
  | .ok location => tree.at? location
  | .error _ => none

end FileTree

end EnvTemplate
