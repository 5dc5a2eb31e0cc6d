import EnvTemplate.EnvFile
import EnvTemplate.Text.Utf8
import EnvTemplate.Variables

namespace EnvTemplate

/-- Where values are looked up and published: a store in memory that takes any name and value,
or the variables of a process. -/
inductive Store
  | memory (vars : Bindings)
  | process (vars : Variables)
  deriving DecidableEq

namespace Store

def isName (key : String) : Bool :=
  key ≠ "" && !key.toList.contains '=' && !key.toList.contains '\x00'

/-- The value of a variable; one of a process that is not text counts as missing. -/
def value? (key : String) : Store → Option String
  | memory vars => vars.get? key
  | process vars => if isName key then (vars.get? key).bind String.fromUTF8? else none

def accepts (key value : String) : Store → Bool
  | memory _ => true
  | process _ => isName key && !value.toList.contains '\x00'

def put (key value : String) : Store → Store
  | memory vars => memory (vars.insert key value)
  | process vars => process (vars.insert key value.toUTF8)

def insert (store : Store) (key value : String) : Bool × Store :=
  if store.accepts key value then (true, store.put key value) else (false, store)

/-- Insert, but unless `overwrite` leave a value that is there and not empty. -/
def set (store : Store) (overwrite : Bool) (key value : String) : Bool × Store :=
  match store.value? key with
  | some old => if !overwrite && old ≠ "" then (false, store) else store.insert key value
  | none => store.insert key value

def setAll (store : Store) (overwrite : Bool) (entries : List (String × String)) : Store :=
  entries.foldl (fun store (key, value) => (store.set overwrite key value).2) store

def texts : Store → Bindings
  | memory vars => vars
  | process vars => vars.filterMap fun _ bytes => String.fromUTF8? bytes

theorem value?_put (store : Store) (key value other : String) (h : store.accepts key value) :
    (store.put key value).value? other =
      if other = key then some value else store.value? other := by
  cases store with
  | memory vars => exact vars.get?_insert key other value
  | process vars =>
    have hk : isName key := by simp only [accepts, Bool.and_eq_true] at h; exact h.1
    by_cases ho : other = key
    · subst ho
      simp only [put, value?, hk, OrderedMap.get?_insert, if_true, Option.bind_some,
        Text.Utf8.fromUTF8?_toUTF8]
    · simp [put, value?, OrderedMap.get?_insert, ho]

end Store

end EnvTemplate
