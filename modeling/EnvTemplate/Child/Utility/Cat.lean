import EnvTemplate.Child.Process

/-! `cat`: the contents of files one after the other. -/

namespace EnvTemplate.Child.Cat

open Text.Utf8 (encode)

structure Style where
  numbersAll : Bool
  numbersFilled : Bool
  squeezes : Bool
  endings : Bool
  tabs : Bool
  hidden : Bool
  deriving DecidableEq, Repr

def table : OptionTable where
  all :=
    [.flag 'A' ["show-all"], .flag 'b' ["number-nonblank"], .flag 'e' [], .flag 'E' ["show-ends"],
      .flag 'n' ["number"], .flag 's' ["squeeze-blank"], .flag 't' [], .flag 'T' ["show-tabs"],
      .flag 'u' [], .flag 'v' ["show-nonprinting"]]
  permutes := true

def styleOf (choice : OptionChoice) : Style where
  numbersAll := choice.has 'n' && !choice.has 'b'
  numbersFilled := choice.has 'b'
  squeezes := choice.has 's'
  endings := choice.has 'A' || choice.has 'e' || choice.has 'E'
  tabs := choice.has 'A' || choice.has 't' || choice.has 'T'
  hidden := choice.has 'A' || choice.has 'e' || choice.has 't' || choice.has 'v'

structure Place where
  number : Nat
  ends : Nat
  deriving DecidableEq, Repr

def Place.start : Place := ⟨0, 1⟩

def showHidden (b : UInt8) : Bytes :=
  let low := b % 0x80
  let shown : Bytes := if low < 0x20 then [0x5E, low + 0x40] else if low = 0x7F then [0x5E, 0x3F] else [low]
  (if 0x80 ≤ b then [0x4D, 0x2D] else []) ++ shown

def Style.showByte (style : Style) (b : UInt8) : Bytes :=
  if b = 0x09 then if style.tabs then [0x5E, 0x49] else [b]
  else if style.hidden then showHidden b
  else [b]

def showNumber (n : Nat) : Bytes :=
  let digits := encode (toString n)
  List.replicate (6 - digits.length) 0x20 ++ digits ++ [0x09]

def Style.add (style : Style) (shown : Array UInt8 × Place) (b : UInt8) : Array UInt8 × Place :=
  let (before, place) := shown
  if b = lineEnd then
    if style.squeezes ∧ 2 ≤ place.ends then shown
    else
      let isNumbered := style.numbersAll && 1 ≤ place.ends
      let number := if isNumbered then place.number + 1 else place.number
      let leading : Bytes :=
        (if isNumbered then showNumber number else []) ++ if style.endings then [0x24] else []
      ((before ++ leading).push lineEnd, ⟨number, place.ends + 1⟩)
  else
    let isNumbered := (style.numbersAll || style.numbersFilled) && 1 ≤ place.ends
    let number := if isNumbered then place.number + 1 else place.number
    (before ++ (if isNumbered then showNumber number else []) ++ style.showByte b, ⟨number, 0⟩)

def Style.show (style : Style) (place : Place) (bytes : Bytes) : Bytes × Place :=
  let (shown, last) := bytes.foldl style.add (#[], place)
  (shown.toList, last)

def isOutput (input : Opened) (p : Process) : Bool :=
  match (System.index? p.descriptors 1).toOption.bind fun index => p.system.opened[index]? with
  | none => false
  | some output =>
    match output.channel with
    | .file location =>
      let length :=
        match p.system.files.at? location with
        | some (.file content) => content.size
        | _ => 0
      input.channel = .file location &&
        input.position < if output.appends then length else output.position
    | _ => false

def maxParts : Nat := 1000000000

def Style.isPlain (style : Style) : Bool := style = ⟨false, false, false, false, false, false⟩

def directPlace? (style : Style) (index : Nat) (p : Process) : Option Nat := do
  let input ← p.system.opened[index]?
  let output ← p.system.opened[← p.descriptors.get? 1]?
  match input.channel, output.channel with
  | .file _, .file _ =>
    if style.isPlain && output.writes && !output.appends then some output.position else none
  | _, _ => none

/-- Write what can be read at an index, up to its end. Tells where in the lines that ends, if it could be
written; the error says why it cannot be read. If the system copies a file there is no telling the two
apart, and it may not even be asked for more when there is no place for more. -/
def copy (style : Style) (index : Nat) : Nat → Place → Act Process (Except String (Option Place))
  | 0, place => return .ok place
  | parts + 1, place => do
    Process.pause (.input index)
    let p ← get
    let isDirect := (directPlace? style index p).isSome
    if (directPlace? style index p).any p.system.isAtLimit then
      Process.endIfFatal .fileTooLarge
      return .error FileError.fileTooLarge.reason
    match p.system.unread index with
    | .error cause => return .error cause.reason
    | .ok [] => return .ok place
    | .ok content =>
      let (shown, place) := style.show place content
      set { p with system := p.system.advance index content.length }
      if isDirect then
        match ← Process.transfer shown with
        | none => copy style index parts place
        | some cause => return .error cause.reason
      else if ← Process.write shown then copy style index parts place
      else return .ok none

def openNamed (p : Process) (name : Bytes) : Except String (Nat × System) :=
  let opened :=
    if name = hyphen then (System.index? p.descriptors 0).map fun index => (index, p.system)
    else p.system.openPath p.descriptors .reading ⟨name⟩
  match opened with
  | .error cause => .error cause.reason
  | .ok (index, system) =>
    if (system.opened[index]?).any fun input => isOutput input { p with system := system } then
      .error "input file is output file"
    else .ok (index, system)

def writeAll (style : Style) : Place → List Bytes → Act Process Unit
  | _, [] => return ()
  | place, name :: rest => do
    let p ← get
    let done ←
      match openNamed p name with
      | .error reason => pure (.error reason)
      | .ok (index, system) => do
        set { p with system := system }
        copy style index maxParts place
    match done with
    | .error reason =>
      modify fun p => p.complain 1 (p.quoteIfNeeded name ++ encode s!": {reason}")
      writeAll style place rest
    | .ok (some place) => writeAll style place rest
    | .ok none => return ()

def complainOf (task : String) (p : Process) : Process :=
  p.complain 1 (encode s!"{task}: {FileError.badDescriptor.reason}")

def run (start : Start) : Work :=
  Process.run start 1 <| Process.withOptions table start.arguments fun choice => do
    let names := if choice.operands = [] then [hyphen] else choice.operands
    if start.descriptors.get? 1 = none then modify (complainOf "standard output")
    else
      writeAll (styleOf choice) .start names
      if hyphen ∈ names ∧ start.descriptors.get? 0 = none then
        modify (complainOf "closing standard input")

end EnvTemplate.Child.Cat
