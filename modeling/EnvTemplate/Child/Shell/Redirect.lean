import EnvTemplate.Child.Shell.Expansion

namespace EnvTemplate.Child

inductive Redirect
  | file (number : Nat) (access : Access) (name : Bytes)
  /-- The number becomes another name of what is open under the other number, or is closed. -/
  | duplicate (number : Nat) (other : Option Nat)
  | document (number : Nat) (text : Word)

def Redirect.number : Redirect → Nat
  | .file number _ _ | .duplicate number _ | .document number _ => number

namespace Shell

open Text.Utf8 (encode)

def numberOrClosed? (text : Bytes) : Option (Option Nat) :=
  match Text.Bytewise.read text with
  | ['-'] => some none
  | [d] => if d.isDigit then some (some (d.toNat - '0'.toNat)) else none
  | _ => none

def expandRedirection (engine : Engine) : Redirection → Attempt Redirect
  | .file number access name => return .file number access (← expandWhole engine name)
  | .duplicate number target => do
    match numberOrClosed? (← expandWhole engine target) with
    | some other => return .duplicate number other
    | none =>
      modify fun sh => { sh with line := sh.ahead }
      throw (encode "Syntax error: Bad fd number")
  | .document number key => do return .document number (((← get).documents.lookup key).getD [])

def refusal (access : Access) (name : Bytes) (cause : FileError) : Bytes :=
  let isMissing := cause ∈ [.notFound, .notADirectory]
  let (task, missing) :=
    if access = .reading then ("open", "No such file") else ("create", "Directory nonexistent")
  encode s!"cannot {task} " ++ name ++ encode s!": {if isMissing then missing else cause.reason}"

def openingOf : Access → System.Opening
  | .reading => .reading
  | .writing | .clobbering => .writing
  | .appending => .appending
  | .both => .both

def direct (number : Nat) (target : Option Nat) : Attempt Unit :=
  modify fun sh =>
    { sh with
      descriptors :=
        match target with
        | some index => sh.descriptors.insert number index
        | none => sh.descriptors.erase number }

/-- Keep what a number leads to for the time behind a redirection. If that is not possible it leads
nowhere from then on, and the answer is why. -/
def keepNumber (number : Nat) : Attempt (Option FileError) := do
  let sh ← get
  if (sh.descriptors.get? number).isNone then return none
  match sh.system.keepOne with
  | .ok system =>
    set { sh with system := system }
    return none
  | .error cause =>
    direct number none
    return some cause

/-- Open what a redirection leads to, which may be nothing; the error says why it cannot be done. A number
that is to become another name of what is open is closed before, unless it does not lead any more where it
led `before`. -/
def openTarget (engine : Engine) (before : Descriptors) : Redirect → Attempt (Option Nat)
  | .file _ access name => do
    let sh ← get
    let isProtected := access = .writing && sh.has 'C' &&
      match sh.system.files.find? ⟨name⟩ with
      | some (.file _) => true
      | _ => false
    if isProtected then throw (refusal access name .fileExists)
    else
      match sh.system.openPath sh.descriptors (openingOf access) ⟨name⟩ with
      | .error cause => throw (refusal access name cause)
      | .ok (index, system) =>
        set { sh with system := system }
        return some index
  | .duplicate _ none => return none
  | .duplicate number (some other) => do
    let sh ← get
    match sh.descriptors.get? other with
    | some index => return some index
    | none =>
      if before.get? number = sh.descriptors.get? number then direct number none
      throw (decimal other ++ encode s!": {FileError.badDescriptor.reason}")
  | .document _ word => do
    let sh ← get
    if !sh.system.hasNumbers sh.descriptors 2 then throw noPipe
    let text ← expandDocument engine word
    let sh ← get
    let (index, system) := sh.system.addText text
    set { sh with system := system }
    return some index

/-- Redirect numbers one after the other. Those that have been redirected before are `done`. What numbers
lead to is kept, if that `lasts`; the answer is the number for which that is not possible, and why. -/
def redirectAll (engine : Engine) (before : Descriptors) (lasts : Bool) :
    List Nat → List Redirect → Attempt (Option (Nat × FileError))
  | _, [] => return none
  | done, redirect :: rest => do
    let number := redirect.number
    let target ← openTarget engine before redirect
    let isSame : Bool :=
      match redirect with
      | .duplicate _ other => other = some number
      | _ => false
    let failure ← if lasts || isSame || number ∈ done then pure none else keepNumber number
    match failure with
    | some cause => return some (number, cause)
    | none =>
      direct number target
      redirectAll engine before lasts (number :: done) rest

def expandRedirections (engine : Engine) (redirections : List Redirection) :
    Attempt (List Redirect) :=
  redirections.mapM (expandRedirection engine)

/-- Run something with redirections, which end with it unless they last. If one cannot be redirected,
those before it have been made, and hold for what is said about it. -/
def withRedirects (engine : Engine) (lasts : Bool) (redirects : List Redirect)
    (refused : Shell → Shell) (body : Act Shell Unit) : Act Shell Unit := do
  let sh ← get
  let kept := sh.system.self.kept
  let reset (descriptors : Descriptors) (after : Shell) : Shell :=
    { after with
      system := after.system.keeping kept, descriptors := descriptors, shadowed := sh.shadowed }
  let refuse (message : Bytes) (descriptors : Descriptors) : Act Shell Unit :=
    modify fun after => refused ((reset descriptors (after.complain message)).ended 2)
  if !lasts then
    set { sh with shadowed := sh.descriptors.entries.map Prod.snd ++ sh.shadowed }
  match ← (redirectAll engine sh.descriptors lasts [] redirects).run with
  | .error message => refuse message sh.descriptors
  | .ok (some (number, cause)) =>
    refuse (decimal number ++ encode s!": {cause.reason}") (sh.descriptors.erase number)
  | .ok none =>
    body
    if !lasts then modify (reset sh.descriptors)

end Shell

end EnvTemplate.Child
