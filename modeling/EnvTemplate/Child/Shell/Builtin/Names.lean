import EnvTemplate.Child.Shell.Builtin.Variables
import EnvTemplate.Child.Shell.Program

/-! The commands that tell what names mean. -/

namespace EnvTemplate.Child.Shell

open Text.Utf8 (encode decode)

inductive Meaning
  | keyword
  | alias (text : List Char)
  | function
  | special
  | regular
  /-- A program that has just been found, or whose place has been known before. -/
  | program (path : Bytes) (known : Bool)
  | nothing

/-- What a name means. The place of a program is kept unless it was looked for in the usual
directories. -/
def meaningOf (usual : Bool) (word : Bytes) (sh : Shell) : Meaning × Shell :=
  let name := decode word
  if name ∈ Script.keywords then (.keyword, sh)
  else
    match sh.aliases.get? name with
    | some text => (.alias text, sh)
    | none =>
      if sh.functions.contains name then (.function, sh)
      else if name ∈ Script.specialCommands then (.special, sh)
      else if name ∈ regularCommands then (.regular, sh)
      else
        match if usual then none else sh.places.get? word with
        | some place => (.program place.path true, sh)
        | none =>
          match sh.findProgram usual word with
          | .error _ => (.nothing, sh)
          | .ok path =>
            let stands := (sh.system.files.find? ⟨path⟩).isSome
            if Path.slash ∈ word && !stands then (.nothing, sh)
            else (.program path false, if usual then sh else sh.keepPlace word path)

def Meaning.inWords (word : Bytes) (meaning : Meaning) : Bytes :=
  word ++
    (match meaning with
    | .keyword => encode " is a shell keyword"
    | .alias text => encode " is an alias for " ++ Text.Bytewise.write text
    | .function => encode " is a shell function"
    | .special => encode " is a special shell builtin"
    | .regular => encode " is a shell builtin"
    | .program path known => encode (if known then " is a tracked alias for " else " is ") ++ path
    | .nothing => encode ": not found") ++ [0x0A]

def Meaning.inBrief (word : Bytes) : Meaning → Bytes
  | .alias text => encode "alias " ++ showAlias (decode word) text
  | .program path _ => path ++ [0x0A]
  | .nothing => []
  | _ => word ++ [0x0A]

def Meaning.code : Meaning → Nat
  | .nothing => 127
  | _ => 0

def describeAll : Builtin := fun args sh =>
  let (code, output, sh) := args.foldl (fun (code, output, sh) word =>
    let (meaning, sh) := sh.meaningOf false word
    (max code meaning.code, output ++ meaning.inWords word, sh)) (0, [], sh)
  sh.answer code output

def describeOne : Builtin :=
  withOptions [('p', false), ('v', false), ('V', false)] fun options operands sh =>
    let has (letter : Char) : Bool := options.any fun (other, _) => other = letter
    match operands with
    | word :: _ =>
      if has 'v' || has 'V' then
        let (meaning, sh) := sh.meaningOf (has 'p') word
        sh.answer meaning.code (if has 'V' then meaning.inWords word else meaning.inBrief word)
      else sh.ended 0
    | [] => sh.ended 0

def listPlaces (sh : Shell) : Bytes :=
  (shelved 31 sh.places.entries).flatMap fun (_, place) =>
    place.path ++ encode (if place.doubtful then "*\n" else "\n")

def seek (word : Bytes) (sh : Shell) : Shell :=
  let sh := { sh with places := sh.places.erase word }
  if sh.functions.contains (decode word) || decode word ∈ ownCommands then sh
  else
    match sh.findProgram false word with
    | .ok path => sh.keepPlace word path
    | .error cause =>
      (sh.complain (word ++ encode s!": {(Refusal.ofError cause).reason}")).ended 1

def hashCommand : Builtin :=
  withOptions [('r', false)] fun options operands sh =>
    if options ≠ [] then { sh with places := ∅ }.ended 0
    else if operands = [] then sh.answer 0 sh.listPlaces
    else operands.foldl (fun sh word => sh.seek word) (sh.ended 0)

end EnvTemplate.Child.Shell
