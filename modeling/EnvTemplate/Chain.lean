import EnvTemplate.Text.Blank
import EnvTemplate.Text.Cut

namespace EnvTemplate

structure Call where
  name : String
  args : List String
  deriving DecidableEq, Repr

abbrev Chain := List Call

open Text

namespace Call

/-- The arguments between commas, taken as they stand; the empty text holds none. -/
def parseArgs (s : List Char) : List String :=
  if s = [] then [] else (s.splitOn ',').map String.ofList

/-- A name, or a name and its arguments between the last opening parenthesis and the last
closing one. Without a closing parenthesis after the last opening one there are no arguments. -/
def parse (link : List Char) : Call :=
  match cutLast '(' (trim link) with
  | none => ⟨String.ofList (trim link), []⟩
  | some (name, rest) =>
    match cutLast ')' rest with
    | none => ⟨String.ofList (trimEnd name), []⟩
    | some (args, _) => ⟨String.ofList (trimEnd name), parseArgs args⟩

def render (call : Call) : String := call.name ++ "(" ++ ",".intercalate call.args ++ ")"

end Call

namespace Chain

/-- The calls of an expression, between bars, whose names are known; blank links are skipped. -/
def parse (known : String → Bool) (expression : String) : Chain :=
  ((((expression.toList.splitOn '|').map trim).filter (· ≠ [])).map Call.parse).filter
    fun call => known call.name

def render (chain : Chain) : String := "|".intercalate (chain.map Call.render)

end Chain

end EnvTemplate
