import EnvTemplate.FileTree.Walk

namespace EnvTemplate.FileTree

def isFile (tree : FileTree) (path : Path) : Bool :=
  match tree.find? path with
  | some (.file _) | some (.program _) => true
  | _ => false

/-- The text of a file; whatever cannot be read as text reads as the empty one. -/
def textAt (tree : FileTree) (location : Location) : String :=
  match tree.at? location, (tree.marksAt location).unreadable with
  | some (.file content), none => (String.fromUTF8? content).getD ""
  | _, _ => ""

def readText (tree : FileTree) (path : Path) : String :=
  match tree.locate .target path with
  | .ok location => tree.textAt location
  | .error _ => ""

def openForWriting (tree : FileTree) (path : Path) : Except FileError (Location × FileTree) :=
  match tree.locate .creation path with
  | .error e => .error e
  | .ok location =>
    match tree.at? location with
    | none =>
      match tree.refusal? .make location.dropLast with
      | some cause => .error cause
      | none => .ok (location, tree.put location (.file ByteArray.empty))
    | some .directory => .error .isADirectory
    | some (.program _) => .error .permissionDenied
    | some _ =>
      match (tree.marksAt location).unwritable with
      | some cause => .error cause
      | none => .ok (location, tree)

def holdsFile (tree : FileTree) (location : Location) : Bool :=
  match tree.at? location with
  | some (.file _) => true
  | _ => false

def names (tree : FileTree) (location : Location) : List Location :=
  match (tree.marksAt location).number with
  | none => [location]
  | some number => location :: tree.entries.keys.filter fun other =>
      (tree.marksAt other).number = some number && tree.holdsFile other

def fill (tree : FileTree) (location : Location) (content : ByteArray) : FileTree :=
  tree.putAll (tree.names location) (.file content)

/-- Cut what was opened, write a content to it and have it kept. What has been done stays done when
the next step is refused. -/
def write (tree : FileTree) (content : ByteArray) (location : Location) :
    Except FileError Unit × FileTree :=
  match tree.at? location with
  | some (.file _) =>
    match tree.refusal? .cut location with
    | some cause => (.error cause, tree)
    | none =>
      match (tree.room.get? location).filter fun (bytes, _) => bytes < content.size with
      | some (bytes, cause) => (.error cause, tree.fill location (content.extract 0 bytes))
      | none =>
        match tree.refusal? .keep location with
        | some cause => (.error cause, tree.fill location content)
        | none => (.ok (), tree.fill location content)
  | _ => (.error .invalidArgument, tree)

/-- Take away a file or a link, not what the link leads to. -/
def unlink (tree : FileTree) (path : Path) : Except FileError FileTree :=
  match tree.locate .entry path with
  | .error e => .error e
  | .ok location =>
    match tree.at? location, tree.refusal? .remove location.dropLast with
    | none, _ => .error .notFound
    | some _, some cause => .error cause
    | some .directory, none => .error .isADirectory
    | some (.device _), none | some (.program _), none => .error .permissionDenied
    | some _, none => .ok (tree.erase location)

def namesIn (tree : FileTree) (directory : Location) : List Name :=
  let names := tree.entries.entries.filterMap fun (location, _) =>
    if location.dropLast = directory then location.getLast? else none
  names.mergeSort fun a b => decide (a ≤ b)

end EnvTemplate.FileTree
