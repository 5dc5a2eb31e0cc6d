import EnvTemplate.Text.Bytewise
import EnvTemplate.Variables

/-! The locale in which programs show text: each byte for itself, or characters of several bytes. -/

namespace EnvTemplate.Child

inductive Locale
  | plain
  | utf8
  deriving DecidableEq, Repr

namespace Locale

def categories : List String :=
  ["LC_CTYPE", "LC_NUMERIC", "LC_TIME", "LC_COLLATE", "LC_MONETARY", "LC_MESSAGES", "LC_PAPER",
    "LC_NAME", "LC_ADDRESS", "LC_TELEPHONE", "LC_MEASUREMENT", "LC_IDENTIFICATION"]

/-- The locale that a name means. Blanks and the like in it do not count, nor the case of letters. -/
def ofName? (name : List Char) : Option Locale :=
  if name ∈ ["C".toList, "POSIX".toList] then some plain
  else
    match name with
    | 'C' :: '.' :: rest =>
      let codeset := (rest.takeWhile (· ≠ '@')).filter fun c => c.isAlphanum || c ∈ "_-.,:".toList
      if '/' ∉ rest ∧ codeset.map Char.toUpper ∈ ["UTF-8".toList, "UTF8".toList] then some utf8
      else none
    | _ => none

/-- The locale that variables name. Without a name, or with one that is not known in any of its parts,
it is the plain one. -/
def ofEnvironment (environment : Variables) : Locale :=
  let named (name : String) : Option (List Char) :=
    (environment.get? name).bind fun value =>
      if value.isEmpty then none else some (Text.Bytewise.read value.data.toList)
  let nameOf (category : String) : List Char :=
    (((named "LC_ALL").or (named category)).or (named "LANG")).getD "C".toList
  let found := categories.map fun category => ofName? (nameOf category)
  if found.all Option.isSome then (found.head?.join).getD plain else plain

end Locale

end EnvTemplate.Child
