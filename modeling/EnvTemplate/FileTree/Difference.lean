import EnvTemplate.FileTree.Basic

namespace EnvTemplate

inductive Change
  | remove
  | put (entry : Entry)
  deriving DecidableEq

namespace FileTree

def changes (old new : FileTree) : List (Location × Change) :=
  old.entries.entries.filterMap (fun (location, _) =>
    if new.at? location = none then some (location, .remove) else none) ++
  new.entries.entries.filterMap fun (location, entry) =>
    if old.at? location = some entry then none else some (location, .put entry)

end FileTree

end EnvTemplate
