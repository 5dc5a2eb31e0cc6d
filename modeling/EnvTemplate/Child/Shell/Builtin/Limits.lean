import EnvTemplate.Child.Shell.Builtin.Basic

/-! The command on what a process may use. -/

namespace EnvTemplate.Child.Shell

open Text.Utf8 (encode)

structure LimitChoice where
  soft : Bool
  hard : Bool

def limitChoice (letters : List Char) : LimitChoice :=
  match letters.reverse.find? fun c => c = 'H' || c = 'S' with
  | some 'H' => ⟨false, true⟩
  | some _ => ⟨true, false⟩
  | none => ⟨true, true⟩

def showLimit (choice : LimitChoice) (resource : Resource) (limit : Limit) : String :=
  match if choice.soft then limit.soft else limit.hard with
  | none => "unlimited\n"
  | some n => s!"{n / resource.factor}\n"

def limitOf (n : Nat) : Option Nat :=
  let kept := n % Nat.pow 2 64
  if kept + 1 = Nat.pow 2 64 then none else some kept

def readLimit (resource : Resource) (word : Bytes) : Except Bytes (Option Nat) :=
  let text := Text.Bytewise.read word
  if text = "unlimited".toList then .ok none
  else if text.all Char.isDigit then
    .ok (limitOf (Numeral.valueOf 10 text * resource.factor))
  else .error (encode "bad number")

def isWithin : Option Nat → Option Nat → Bool
  | _, none => true
  | none, some _ => false
  | some a, some b => a ≤ b

def setLimit (choice : LimitChoice) (resource : Resource) (value : Option Nat) (sh : Shell) :
    Except FileError Shell :=
  let self := sh.system.self
  let old := self.limits.of resource
  let new : Limit :=
    ⟨if choice.soft then value else old.soft, if choice.hard then value else old.hard⟩
  if !isWithin new.soft new.hard then .error .invalidArgument
  else if !isWithin new.hard old.hard then .error .notPermitted
  else
    .ok { sh with
      system := sh.system.setSelf { self with limits := self.limits.insert resource new } }

def ulimit : Builtin :=
  withOptions ("HSatfdscmlpnvwr".toList.map (·, false)) fun options operands sh =>
    let letters := options.map Prod.fst
    let choice := limitChoice letters
    let limits := sh.system.self.limits
    let resource := ((letters.reverse.filter fun c => c ∉ ['H', 'S', 'a']).head?.bind fun c =>
      Resource.all.find? fun resource => resource.letter = c).getD .file
    let isAll := 'a' ∈ letters
    match operands with
    | [] =>
      if isAll then
        sh.answer 0 (Resource.all.flatMap fun resource =>
          let label := resource.label
          encode (label ++ String.ofList (List.replicate (20 - label.length) ' ') ++ " " ++
            showLimit choice resource (limits.of resource)))
      else sh.answer 0 (encode (showLimit choice resource (limits.of resource)))
    | word :: rest =>
      if isAll || !rest.isEmpty then sh.misuse (encode "too many arguments")
      else
        match readLimit resource word with
        | .error message => sh.misuse message
        | .ok value =>
          match setLimit choice resource value sh with
          | .error cause => sh.misuse (encode s!"error setting limit ({cause.reason})")
          | .ok sh => sh.ended 0

end EnvTemplate.Child.Shell
