import EnvTemplate.Child.Shell.Builtin.Basic
import EnvTemplate.Child.Shell.Fields

/-! The commands that set variables, arguments, options and aliases. -/

namespace EnvTemplate.Child.Shell

open Text.Utf8 (encode decode)

def listVariables (sh : Shell) (leading : String) (isListed : Variable → Bool) : Bytes :=
  let listed := sh.vars.entries.filter fun (_, entry) => isListed entry
  let sorted := listed.mergeSort fun (a, _) (b, _) => decide (a ≤ b)
  sorted.flatMap fun (name, entry) =>
    let shown := encode (leading ++ name)
    match entry.value with
    | none => shown ++ [0x0A]
    | some value => shown ++ [0x3D] ++ quoted value ++ [0x0A]

def nameOf (word : Bytes) : String := decode (word.takeWhile (· ≠ 0x3D))

def nameAndValue (word : Bytes) : String × Option Bytes :=
  match word.dropWhile (· ≠ 0x3D) with
  | [] => (nameOf word, none)
  | _ :: value => (nameOf word, some value)

def markAll (mark : Shell → String → Shell) : Builtin
  | [], sh => sh.ended 0
  | word :: rest, sh =>
    match nameAndValue word with
    | (name, none) =>
      if isName name then markAll mark rest (mark sh name)
      else sh.misuse (encode s!"{name}: bad variable name")
    | (name, some value) =>
      match sh.assign name value with
      | .error message => sh.misuse message
      | .ok sh => markAll mark rest (mark sh name)

def markOrList (leading : String) (mark : Shell → String → Shell)
    (isListed : Variable → Bool) : Builtin :=
  withOptions [('p', false)] fun options operands sh =>
    if options ≠ [] ∨ operands = [] then
      sh.answer 0 (sh.listVariables (leading ++ " ") isListed)
    else markAll mark operands sh

def exportCommand : Builtin := markOrList "export" exportName Variable.exported

def readonly : Builtin := markOrList "readonly" protectName Variable.readOnly

def unsetAll (isFunction : Bool) : Builtin
  | [], sh => sh.ended 0
  | word :: rest, sh =>
    let name := nameOf word
    if isFunction then
      unsetAll isFunction rest { sh with functions := sh.functions.erase (decode word) }
    else if !isName name then sh.misuse (encode s!"{name}: bad variable name")
    else
      match sh.unset name with
      | .error message => sh.misuse message
      | .ok sh => unsetAll isFunction rest sh

def unsetCommand : Builtin :=
  withOptions [('v', false), ('f', false)] fun options operands =>
    unsetAll ((options.getLast?.map fun (c, _) => decide (c = 'f')).getD false) operands

def makeLocal : Builtin
  | [], sh => sh.ended 0
  | word :: rest, sh =>
    match nameAndValue word with
    | (name, value) =>
      if !isName name then sh.misuse (encode s!"{name}: bad variable name")
      else
        let sh := sh.cover name
        match value with
        | none => makeLocal rest sh
        | some value =>
          match sh.assign name value with
          | .error message => sh.misuse message
          | .ok sh => makeLocal rest sh

def localCommand : Builtin := fun args sh =>
  if sh.calls = 0 then sh.misuse (encode "not in a function") else makeLocal args sh

def shift : Builtin :=
  withNumber 1 fun n sh =>
    if sh.arguments.length < n then sh.misuse (encode "can't shift that many")
    else { sh with arguments := sh.arguments.drop n, optionIndex := 1, optionPlace := 0 }.ended 0

def editors : List (Char × Char) := [('E', 'V'), ('V', 'E')]

def giveUpJobs (sh : Shell) : Shell :=
  if sh.has 'm' then
    { sh.complain (encode "can't access tty; job control turned off") with
      options := sh.options.filter (· ≠ 'm') }
  else sh

def turn (sh : Shell) (on : Bool) (letter : Char) : Shell :=
  let others := sh.options.filter (· ≠ letter)
  { sh with options := if on then letter :: others else others }

def setOption (sh : Shell) (on : Bool) (letter : Char) : Except Bytes Shell :=
  if hasLetter letter ∧ (optionNames.lookup letter).isSome then
    match if on then editors.lookup letter else none with
    | some other => .ok ((sh.turn false other).turn on letter)
    | none => .ok (sh.turn on letter)
  else .error (encode "Illegal option -" ++ Text.Bytewise.write [letter])

def listOptions (isOn : Char → Bool) (asCommands : Bool) : Bytes :=
  if asCommands then
    optionNames.flatMap fun (c, name) =>
      encode ((if isOn c then "set -o " else "set +o ") ++ name ++ "\n")
  else
    encode "Current option settings\n" ++ optionNames.flatMap fun (c, name) =>
      encode (String.ofList (name.toList ++ List.replicate (16 - name.length) ' ') ++
        (if isOn c then "on\n" else "off\n"))

def setNamed (sh : Shell) (on : Bool) (name : String) : Except Bytes Shell :=
  match optionNames.find? fun (_, other) => other = name with
  | none => .error (encode s!"Illegal option -o {name}")
  | some (letter, _) => .ok (sh.turn on letter)

structure OptionsRead where
  shell : Shell
  rest : List Bytes
  /-- The words that are left are arguments even if there are none. -/
  resets : Bool
  hasScript : Bool
  isFirst : Bool

/-- Read the letters of a word of options. With `inCommand` it stands in a command of the shell, and
otherwise among the arguments that it is started with, where there are some letters more, and where
those that are not told count as on. -/
def readLetters (inCommand on : Bool) :
    List Char → OptionsRead → Except (Shell × Bytes) OptionsRead
  | [], read => .ok read
  | letter :: letters, read =>
    if letter = 'o' then
      match read.rest with
      | [] =>
        let isOn (c : Char) : Bool := !inCommand || read.shell.has c
        readLetters inCommand on letters { read with
          shell := read.shell.answer 0 (listOptions isOn !on) }
      | name :: rest =>
        match read.shell.setNamed on (decode name) with
        | .error message => .error (read.shell, message)
        | .ok sh => readLetters inCommand on letters { read with shell := sh, rest := rest }
    else if !inCommand && letter = 'c' then
      readLetters inCommand on letters { read with hasScript := true }
    else if !inCommand && letter = 'l' then
      readLetters inCommand on letters { read with isFirst := true }
    else
      match read.shell.setOption on letter with
      | .error message => .error (read.shell, message)
      | .ok sh => readLetters inCommand on letters { read with shell := sh }

def readOptions (inCommand : Bool) : Nat → OptionsRead → Except (Shell × Bytes) OptionsRead
  | 0, read => .ok read
  | fuel + 1, read =>
    match read.rest with
    | [] => .ok read
    | word :: rest =>
      match Text.Bytewise.read word with
      | ['-'] =>
        let sh := read.shell
        let options := sh.options.filter fun c => c ≠ 'x' && c ≠ 'v'
        .ok { read with
          rest := rest, shell := if inCommand then { sh with options := options } else sh }
      | ['+'] => readOptions inCommand fuel { read with rest := rest }
      | ['-', '-'] => .ok { read with rest := rest, resets := true }
      | sign :: letters =>
        if sign ≠ '-' ∧ sign ≠ '+' then .ok read
        else
          match readLetters inCommand (sign = '-') letters { read with rest := rest } with
          | .error failed => .error failed
          | .ok read => readOptions inCommand fuel read
      | _ => .ok read

def setCommand : Builtin := fun args sh =>
  if args = [] then
    sh.answer 0 (sh.listVariables "" fun entry => entry.value.isSome)
  else
    match readOptions true (args.length + 1) ⟨sh, args, false, false, false⟩ with
    | .error (sh, message) => sh.misuse message
    | .ok read =>
      let sh := read.shell.giveUpJobs.ended 0
      if read.rest ≠ [] ∨ read.resets then
        { sh with arguments := read.rest, optionIndex := 1, optionPlace := 0 }
      else sh

def showAlias (name : String) (text : List Char) : Bytes :=
  encode s!"{name}=" ++ quoted (Text.Bytewise.write text) ++ [0x0A]

def showAliases (missing : Bool) (shown : Bytes) : Builtin
  | [], sh => sh.answer (if missing then 1 else 0) shown
  | word :: rest, sh =>
    match nameAndValue word with
    | (name, some value) =>
      if name = "" then showAliases true shown rest (sh.say (encode "alias: " ++ word ++
        encode " not found\n"))
      else
        showAliases missing shown rest
          { sh with aliases := sh.aliases.insert name (Text.Bytewise.read value) }
    | (name, none) =>
      match sh.aliases.get? name with
      | some text => showAliases missing (shown ++ showAlias name text) rest sh
      | none => showAliases true shown rest (sh.say (encode s!"alias: {name} not found\n"))

def setAliases : Builtin := fun args sh =>
  if args = [] then
    let named := sh.aliases.entries.map fun (name, text) => (encode name, showAlias name text)
    sh.answer 0 ((shelved 39 named).flatMap Prod.snd)
  else showAliases false [] args sh

def unalias : Builtin :=
  withOptions [('a', false)] fun options operands sh =>
    if options ≠ [] then { sh with aliases := ∅ }.ended 0
    else
      operands.foldl (fun sh word =>
        let name := decode word
        if sh.aliases.contains name then { sh with aliases := sh.aliases.erase name }
        else
          (sh.say (encode s!"unalias: {name} not found\n")).ended 1) (sh.ended 0)

def assignOr (sh : Shell) (name : String) (value : Bytes) (next : Shell → Shell) : Shell :=
  match sh.assign name value with
  | .ok sh => next sh
  | .error message => sh.misuse message

/-- Where the search for options has come to: the letter that is next and what stands behind it in
its word, and the number of the word behind. None if no option is left, with the number of the word
that comes next. -/
def nextLetter (words : List Bytes) (index place : Nat) :
    Except Nat (Char × List Char × Nat) :=
  let current := if index ≤ 1 then [] else (words.getD (index - 2) []).drop place
  match if place = 0 then [] else Text.Bytewise.read current with
  | letter :: rest => .ok (letter, rest, index)
  | [] =>
    match Text.Bytewise.read (words.getD (index - 1) []) with
    | ['-', '-'] => .error (index + 1)
    | '-' :: letter :: rest => .ok (letter, rest, index + 1)
    | _ => .error index

structure Found where
  letter : Char
  value : Option (Option Bytes)
  rest : List Char
  index : Nat
  message : Bytes

def judgeLetter (letters : List Char) (words : List Bytes) (letter : Char) (rest : List Char)
    (index : Nat) : Found :=
  let quiet := letters.head? = some ':'
  let shown := Text.Bytewise.write [letter]
  if letter = ':' ∨ letter ∉ letters then
    if quiet then ⟨'?', some (some shown), rest, index, []⟩
    else ⟨'?', some none, rest, index, encode "Illegal option -" ++ shown ++ [0x0A]⟩
  else if (letters.drop (letters.idxOf letter + 1)).head? ≠ some ':' then
    ⟨letter, some (some []), rest, index, []⟩
  else if rest ≠ [] then ⟨letter, some (some (Text.Bytewise.write rest)), [], index, []⟩
  else
    match words[index - 1]? with
    | some value => ⟨letter, some (some value), [], index + 1, []⟩
    | none =>
      if quiet then ⟨':', some (some shown), [], index, []⟩
      else ⟨'?', some none, [], index, encode "No arg for -" ++ shown ++ encode " option\n"⟩

def nextOption (letters : List Char) (name : String) (words : List Bytes) (sh : Shell) :
    Shell :=
  let (index, place) :=
    if words.length + 1 < sh.optionIndex then (1, 0) else (sh.optionIndex, sh.optionPlace)
  let (found, code) : Found × Nat :=
    match nextLetter words index place with
    | .error index => (⟨'?', none, [], index, []⟩, 1)
    | .ok (letter, rest, index) => (judgeLetter letters words letter rest index, 0)
  let sh := sh.say found.message
  let sh :=
    match found.value with
    | none => sh
    | some none => (sh.unset "OPTARG").toOption.getD sh
    | some (some value) => sh.put "OPTARG" value
  let sh := sh.put "OPTIND" (decimal found.index)
  let place :=
    if found.rest = [] then 0
    else (words.getD (found.index - 2) []).length - found.rest.length
  let sh := { sh with optionIndex := found.index, optionPlace := place }
  sh.assignOr name (Text.Bytewise.write [found.letter]) (ended · code)

def getopts : Builtin := fun args sh =>
  match args with
  | letters :: name :: words =>
    nextOption (Text.Bytewise.read letters) (nameOf name)
      (if words = [] then sh.arguments else words) sh
  | _ => sh.misuse (encode "Usage: getopts optstring var [arg...]")

/-- A line of input, of which a backslash takes the next byte as it is, and joins lines, which leaves a
mark; also how many bytes are taken, and whether the line has an end. -/
def inputLine (raw : Bool) : Bytes → Nat → List Item → List Item × Nat × Bool
  | [], taken, line => (line.reverse, taken, false)
  | 0x0A :: _, taken, line => (line.reverse, taken + 1, true)
  | 0x5C :: b :: rest, taken, line =>
    if raw then inputLine raw (b :: rest) (taken + 1) (.glyph ⟨0x5C, false⟩ :: line)
    else if b = 0x0A then inputLine raw rest (taken + 2) (.mark :: line)
    else inputLine raw rest (taken + 2) (.glyph ⟨b, true⟩ :: line)
  | b :: rest, taken, line =>
    if b = 0x5C ∧ !raw then inputLine raw rest (taken + 1) line
    else inputLine raw rest (taken + 1) (.glyph ⟨b, false⟩ :: line)

/-- A line that is being split into a number of fields, of which the last one is all that is left. -/
structure LineSplit where
  /-- The fields that are closed, and the bytes of the one that is open, both in reverse. -/
  fields : List Bytes
  current : Bytes
  left : Nat
  /-- Behind a blank that separates: one more separator belongs to it. -/
  inGap : Bool
  /-- So many bytes of the last field stay if only blanks follow that separate. -/
  kept : Option Nat

namespace LineSplit

def push (s : LineSplit) (b : UInt8) : LineSplit := { s with current := b :: s.current }

def add (separators : Bytes) (s : LineSplit) (b : UInt8) : LineSplit :=
  let separates := b ∈ separators
  let isBlank := separates && Split.isBlank b
  if s.left = 0 then
    if isBlank then { s with kept := s.kept.or (some s.current.length) }.push b
    else { s with kept := if separates && s.inGap then s.kept else none, inGap := false }.push b
  else if s.inGap then
    if isBlank then s else if separates then { s with inGap := false }
    else { s with inGap := false }.push b
  else if !separates then s.push b
  else if s.current = [] && isBlank then s
  else if s.left = 1 then
    { s with kept := some s.current.length, left := 0, inGap := isBlank }.push b
  else
    { s with
      fields := s.current.reverse :: s.fields, current := [], left := s.left - 1
      inGap := isBlank }

/-- Add a part of a line. What is taken as it is does not separate, and ends a gap, but those blanks
before it that separate stay the end of the last field. -/
def addItem (separators : Bytes) (s : LineSplit) : Item → LineSplit
  | .mark => { s with inGap := false }
  | .glyph ⟨b, true⟩ => { s with inGap := false }.push b
  | .glyph ⟨b, false⟩ => s.add separators b

def close (s : LineSplit) : List Bytes :=
  let last := s.current.reverse
  (((s.kept.map last.take).getD last) :: s.fields).reverse

end LineSplit

def lineFields (separators : Bytes) (count : Nat) (line : List Item) : List Bytes :=
  (line.foldl (LineSplit.addItem separators) ⟨[], [], count, false, none⟩).close

def assignFields (code : Nat) : List Bytes → List Bytes → Shell → Shell
  | [], _, sh => sh.ended code
  | name :: names, fields, sh =>
    sh.assignOr (nameOf name) (fields.headD []) (assignFields code names fields.tail)

def readLine (raw : Bool) (names : List Bytes) (index : Nat) (input : Bytes) (sh : Shell) : Shell :=
  let (line, taken, isWhole) := inputLine raw input 0 []
  let kept := line.filter fun
    | .glyph g => g.byte ≠ 0
    | .mark => true
  assignFields (if isWhole then 0 else 1) names (lineFields sh.separators names.length kept)
    { sh with system := sh.system.advance index taken }

def read : Deed :=
  doWithOptions [('p', true), ('r', false)] fun options operands => do
    if operands = [] then
      modify (misuse · (encode "arg count"))
      return
    let descriptors := (← get).descriptors
    match System.index? descriptors 0 with
    | .error _ => modify (assignFields 1 operands [])
    | .ok index =>
      if ((← get).system.unreadLine index).toOption.getD [] = [] then pause (.line index)
      let sh ← get
      match sh.system.unreadLine index with
      | .error _ => set (assignFields 1 operands [] sh)
      | .ok input => set (readLine (options.lookup 'r').isSome operands index input sh)

end EnvTemplate.Child.Shell
