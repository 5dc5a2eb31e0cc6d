import EnvTemplate.OrderedMap
import EnvTemplate.Text.Blank
import EnvTemplate.Text.Cut

namespace EnvTemplate

abbrev Bindings := OrderedMap String String

namespace EnvFile

open Text

/-- The binding that a line states: key and value around the first `=`, both trimmed. A line
without `=` or without a key states none. -/
def binding? (line : List Char) : Option (String × String) :=
  match cut '=' line with
  | none => none
  | some (key, value) =>
    if trim key = [] then none else some (String.ofList (trim key), String.ofList (trim value))

def bindings (text : String) : List (String × String) :=
  (text.toList.splitOn '\n').filterMap binding?

/-- The bindings of a text; the last one of a key counts, in the place of the first. -/
def parse (text : String) : Bindings := OrderedMap.ofList (bindings text)

def line (key value : String) : String := key ++ "=" ++ value ++ "\n"

def render (entries : List (String × String)) : String :=
  String.join (entries.map fun (key, value) => line key value)

end EnvFile

end EnvTemplate
