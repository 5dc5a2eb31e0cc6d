import EnvTemplate.FileTree.Walk

namespace EnvTemplate.FileTree

def makeDirectoriesFrom : FileTree → Location → List Name → FileTree
  | tree, _, [] => tree
  | tree, here, name :: rest =>
    match tree.walk .target maxLinks here [name] with
    | .ok location =>
      match tree.at? location with
      | none => makeDirectoriesFrom (tree.put location .directory) location rest
      | some .directory => makeDirectoriesFrom tree location rest
      | some _ => tree
    | .error _ => tree

/-- What stands at a path, a link itself rather than its target. -/
def look? (tree : FileTree) (path : Path) : Option Entry :=
  match tree.locate .entry path with
  | .ok location => tree.at? location
  | .error _ => none

def holdsHome (tree : FileTree) (location : Location) : Bool := location.isPrefixOf tree.home

def remove (tree : FileTree) (path : Path) : FileTree :=
  match tree.locate .entry path with
  | .ok location => if tree.holdsHome location then tree else tree.prune location
  | .error _ => tree

/-- Put an entry at a path in place of what stands there, with the directories it needs. -/
def place (tree : FileTree) (path : Path) (entry : Entry) : FileTree :=
  let ready :=
    tree.makeDirectoriesFrom (if path.isAbsolute then [] else tree.home) path.names.dropLast
  match ready.locate .entry path with
  | .ok location =>
    if ready.holdsHome location then ready else (ready.prune location).put location entry
  | .error _ => ready

def placeAll (tree : FileTree) (l : List (Path × Entry)) : FileTree :=
  l.foldl (fun tree (path, entry) => tree.place path entry) tree

def namesBelowHome? (tree : FileTree) (location : Location) : Option (List Name) :=
  if tree.home.isPrefixOf location ∧ location ≠ tree.home then
    some (location.drop tree.home.length)
  else none

def toList (tree : FileTree) : List (Path × Entry) :=
  tree.entries.entries.filterMap fun (location, entry) =>
    (tree.namesBelowHome? location).map fun names => (Path.ofNames names, entry)

end EnvTemplate.FileTree
