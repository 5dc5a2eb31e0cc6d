import EnvTemplate.Child.Shell.Builtin.Basic

/-! The commands on the working directory and on the permissions of new files. -/

namespace EnvTemplate.Child.Shell

open Text.Utf8 (encode)

def plainNames (names : List Name) : List Name :=
  (names.foldl (fun before name =>
    if name = [] ∨ name = FileTree.currentName then before
    else if name = FileTree.parentName then before.tail
    else name :: before) []).reverse

def plainPath (directory path : Bytes) : Bytes :=
  let full := (Path.join ⟨directory⟩ ⟨path⟩).bytes
  let isDouble := full.take 2 = [Path.slash, Path.slash] ∧ full[2]? ≠ some Path.slash
  (if isDouble then [Path.slash] else []) ++
    Path.slash :: (Path.ofNames (plainNames (Path.mk full).names)).bytes

def pathOf (location : Location) : Bytes := Path.slash :: (Path.ofNames location).bytes

def directoryAt? (files : FileTree) (path : Bytes) : Option Location :=
  match files.locate .target ⟨path⟩ with
  | .ok location => if files.at? location = some .directory then some location else none
  | .error _ => none

def setDirectory (sh : Shell) (directory : Bytes) : Shell :=
  let telling := (sh.put "PWD" directory).exportName "PWD"
  { telling with directory := directory }

/-- Go to a directory, whose path is followed name by name or, if it is physical, as it is. -/
def enter (sh : Shell) (physical : Bool) (path : Bytes) : Option Shell :=
  let target := if physical then path else plainPath sh.directory path
  (directoryAt? sh.system.files target).map fun location =>
    let moved := { sh with system := { sh.system with
      files := { sh.system.files with home := location } } }
    let told := (moved.put "OLDPWD" sh.directory).exportName "OLDPWD"
    { told with places := told.places.filterMap fun _ place => some { place with doubtful := true }
      }.setDirectory (if physical then pathOf location else target)

def directories (value : Bytes) : List Bytes := value.splitOn 0x3A

def isRooted (path : Bytes) : Bool :=
  path.head? = some Path.slash ||
    ((Path.mk path).names.head?.any fun name =>
      name = FileTree.currentName || name = FileTree.parentName)

def isPhysical (options : List (Char × Bytes)) : Bool :=
  (options.getLast?.map fun (letter, _) => decide (letter = 'P')).getD false

def directoryOptions : OptionKinds := [('L', false), ('P', false)]

def cd : Builtin :=
  withOptions directoryOptions fun options operands sh =>
    let physical := isPhysical options
    let back := operands.head? = some (encode "-")
    let path : Bytes :=
      match operands with
      | [] => (sh.lookup? "HOME").getD []
      | word :: _ => if back then (sh.lookup? "OLDPWD").getD [] else word
    let finish (shows : Bool) (sh : Shell) : Shell :=
      sh.answer 0 (if shows then sh.directory ++ [0x0A] else [])
    let listed : List Bytes :=
      if isRooted path then [] else directories ((sh.lookup? "CDPATH").getD [])
    let name := if path = [] then FileTree.currentName else path
    let found := listed.filter fun directory =>
      directory ≠ [] && (directoryAt? sh.system.files (Path.join ⟨directory⟩ ⟨name⟩).bytes).isSome
    match found.head? with
    | some directory =>
      match sh.enter physical (Path.join ⟨directory⟩ ⟨name⟩).bytes with
      | some sh => finish true sh
      | none => sh.misuse (encode "can't cd to " ++ path)
    | none =>
      match sh.enter physical name with
      | some sh => finish back sh
      | none => sh.misuse (encode "can't cd to " ++ path)

def pwd : Builtin :=
  withOptions directoryOptions fun options _ sh =>
    let shown := if isPhysical options then pathOf sh.system.files.home else sh.directory
    sh.answer 0 (shown ++ [0x0A])

def applyClause (permissions : Nat) (clause : List Char) : Option Nat :=
  let who := clause.takeWhile (· ∈ "ugoa".toList)
  let part (c : Char) : Nat :=
    match c with
    | 'u' => 0o700
    | 'g' => 0o070
    | 'o' => 0o007
    | _ => 0o777
  let scope := if who = [] then 0o777 else who.foldl (fun bits c => bits ||| part c) 0
  let kind (c : Char) : Nat :=
    match c with
    | 'r' => 0o444
    | 'w' => 0o222
    | 'x' => 0o111
    | _ => 0
  match clause.drop who.length with
  | sign :: letters =>
    if letters.all (· ∈ "rwxXst".toList) then
      let bits := scope &&& letters.foldl (fun bits c => bits ||| kind c) 0
      match sign with
      | '+' => some (permissions ||| bits)
      | '-' => some (permissions - (permissions &&& bits))
      | '=' => some ((permissions - (permissions &&& scope)) ||| bits)
      | _ => none
    else none
  | [] => none

def showPermissions (permissions : Nat) : String :=
  let letters (shift : Nat) : String :=
    let bits := permissions / shift
    String.ofList ((if bits / 4 % 2 = 1 then ['r'] else []) ++
      (if bits / 2 % 2 = 1 then ['w'] else []) ++ if bits % 2 = 1 then ['x'] else [])
  s!"u={letters 64},g={letters 8},o={letters 1}"

def umask : Builtin :=
  withOptions [('S', false)] fun options operands sh =>
    match operands with
    | [] =>
      if options ≠ [] then sh.answer 0 (encode (showPermissions (0o777 - sh.mask) ++ "\n"))
      else
        let digits := String.ofList (Nat.toDigits 8 sh.mask)
        sh.answer 0 (encode (("0000".drop digits.length).toString ++ digits ++ "\n"))
    | word :: _ =>
      let text := Text.Bytewise.read word
      if (text.head?.map Char.isDigit).getD false then
        if text.all (Numeral.isDigitOf 8) then
          { sh with mask := Numeral.valueOf 8 text % 0o1000 }.ended 0
        else sh.misuse (illegalNumber word)
      else
        match (text.splitOn ',').foldlM applyClause (0o777 - sh.mask) with
        | some permissions => { sh with mask := 0o777 - permissions }.ended 0
        | none => sh.misuse (encode "Illegal mode: " ++ word)

end EnvTemplate.Child.Shell
