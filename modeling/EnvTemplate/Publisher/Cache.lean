import EnvTemplate.FileTree.Access
import EnvTemplate.Store.Basic
import EnvTemplate.Verdict

namespace EnvTemplate

structure Cache where
  path : Path
  deriving DecidableEq, Repr

inductive Cache.Error
  | cannotOpen (path : Path) (cause : FileError)
  | cannotLock (path : Path) (cause : FileError)
  | cannotWrite (path : Path) (cause : FileError)
  | cannotRemove (path : Path) (cause : FileError)
  | unstorable (path : Path) (key : String)
  deriving DecidableEq, Repr

namespace Cache.Error

def message : Cache.Error → String
  | cannotOpen path cause => s!"Failed to open cache file at {path.text}: " ++ cause.message
  | cannotLock path cause => s!"Failed to lock cache file at {path.text}: " ++ cause.message
  | cannotWrite path cause => s!"Failed to write cache file at {path.text}: " ++ cause.message
  | cannotRemove path cause => s!"Failed to remove cache file at {path.text}: " ++ cause.message
  | unstorable path key =>
    s!"Refusing to cache {key} at {path.text}: value would not read back unchanged"

def cause? : Cache.Error → Option FileError
  | cannotOpen _ cause => some cause
  | cannotLock _ cause => some cause
  | cannotWrite _ cause => some cause
  | cannotRemove _ cause => some cause
  | unstorable _ _ => none

end Cache.Error

namespace Cache

def fileName : Path := Path.ofText ".env.cache"

def ofDirectory (directory : Path) : Cache := ⟨Path.join directory fileName⟩

/-- Whether a value is written as one line that reads back as the value: it holds no line break
and no blank at its ends. -/
def keeps (value : String) : Bool :=
  !value.toList.contains '\n' && !value.toList.contains '\r' &&
    Text.trim value.toList = value.toList

def isPresent (cache : Cache) (tree : FileTree) : Bool := tree.isFile cache.path

def clear (cache : Cache) (tree : FileTree) : Except Cache.Error Unit × FileTree :=
  match tree.unlink cache.path with
  | .ok cleared => (.ok (), cleared)
  | .error .notFound => (.ok (), tree)
  | .error cause => (.error (.cannotRemove cache.path cause), tree)

/-- Write the passed values in place of what the cache held. If one of them would not read back
unchanged nothing is done; if writing fails the cache is removed. -/
def write (cache : Cache) (verdicts : Verdicts) (tree : FileTree) :
    Except Cache.Error Unit × FileTree :=
  match verdicts.passed.find? fun (_, value) => !keeps value with
  | some (key, _) => (.error (.unstorable cache.path key), tree)
  | none =>
    match tree.openForWriting cache.path with
    | .error cause => (.error (.cannotOpen cache.path cause), tree)
    | .ok (location, opened) =>
      match opened.refusal? .lock location with
      | some cause => (.error (.cannotLock cache.path cause), opened)
      | none =>
        match opened.write (EnvFile.render verdicts.passed).toUTF8 location with
        | (.ok _, written) => (.ok (), written)
        | (.error cause, broken) =>
          (.error (.cannotWrite cache.path cause), ((broken.unlink cache.path).toOption).getD broken)

def read? (cache : Cache) (tree : FileTree) : Option Bindings :=
  if cache.isPresent tree then some (EnvFile.parse (tree.readText cache.path)) else none

def load (cache : Cache) (tree : FileTree) (overwrite : Bool) (store : Store) : Bool × Store :=
  match cache.read? tree with
  | none => (false, store)
  | some bindings => (true, store.setAll overwrite bindings.entries)

end Cache

end EnvTemplate
