import EnvTemplate.Child.Limit
import EnvTemplate.Child.Signal
import EnvTemplate.CommandLine.Behaviour
import EnvTemplate.FileTree.Access
import EnvTemplate.Variables

/-! What processes share: the files, what is open, and what they know of each other. Each process has
numbers of its own for what it has open. -/

namespace EnvTemplate.Child

inductive Channel
  | pipe (content : ByteArray)
  /-- The end of a pipe to which is written; the other end is open at an index. -/
  | feed (index : Nat)
  | file (location : Location)
  | device (device : Device)
  deriving DecidableEq

structure Opened where
  channel : Channel
  position : Nat
  reads : Bool
  writes : Bool
  appends : Bool
  deriving DecidableEq

inductive Standing
  | atWork
  | stopped
  | leaving
  /-- It has ended, and its parent has not taken notice of that. -/
  | ended (status : Status)
  deriving DecidableEq, Repr

structure Member where
  parent : Nat
  home : Location
  limits : Limits
  used : Int
  /-- What it holds open, and how many numbers from ten on it has given to what it keeps for itself. -/
  held : List Nat
  kept : Nat
  /-- The signals that do nothing to it, those for which it has an action, and those of them that have
  come in. -/
  ignored : List Nat
  caught : List Nat
  pending : List Nat
  standing : Standing
  deriving DecidableEq

def Member.status? (member : Member) : Option Status :=
  match member.standing with
  | .ended status => some status
  | _ => none

structure System where
  files : FileTree
  opened : Array Opened
  members : OrderedMap Nat Member
  /-- The process that is at work, and the number that the next one gets. -/
  current : Nat
  next : Nat
  deriving DecidableEq

abbrev Descriptors := OrderedMap Nat Nat

namespace System

def root : Nat := 1

def freshMember (parent : Nat) (home : Location) : Member :=
  ⟨parent, home, Limits.start, 0, [], 0, [], [], [], .atWork⟩

/-- Files with nothing to read, and room for the output and the error output of the first process. -/
def start (files : FileTree) : System where
  files := files
  opened := #[⟨.device .null, 0, true, false, false⟩, ⟨.pipe ByteArray.empty, 0, true, true, true⟩,
    ⟨.pipe ByteArray.empty, 0, true, true, true⟩]
  members := OrderedMap.ofList [(root, freshMember 0 files.home),
    (root + 1, { freshMember root files.home with held := [0, 1, 2] })]
  current := root + 1
  next := root + 2

def standard : Descriptors := OrderedMap.ofList [(0, 0), (1, 1), (2, 2)]

/-! ### Processes -/

def self (system : System) : Member :=
  (system.members.get? system.current).getD
    (freshMember root system.files.home)

def setSelf (system : System) (member : Member) : System :=
  { system with members := system.members.insert system.current member }

def running (system : System) : List (Nat × Member) :=
  system.members.entries.filter fun (_, member) => member.status?.isNone

def isHeld (system : System) (index : Nat) : Bool :=
  system.running.any fun (_, member) => index ∈ member.held

/-- Add a process that is a copy of the one at work, but holds open what is told, and whose number is the
answer. -/
def addMember (system : System) (held : List Nat) : Nat × System :=
  let copy := { system.self with
    parent := system.current, home := system.files.home, used := 0, held := held, pending := [] }
  (system.next,
    { system with members := system.members.insert system.next copy, next := system.next + 1 })

def ended (member : Member) (status : Status) : Member :=
  { member with standing := .ended status, held := [] }

def affect (member : Member) (signal : Nat) : Member :=
  if signal = Signal.kill then ended member (.killed signal)
  else if signal = Signal.stop then { member with standing := .stopped }
  else if signal ∈ member.caught then
    { member with pending := member.pending.filter (· ≠ signal) ++ [signal] }
  else if signal ∈ member.ignored ∨ signal ∈ Signal.harmless then member
  else if signal ∈ Signal.stopping then { member with standing := .stopped }
  else ended member (.killed signal)

def receive (member : Member) (signal : Nat) : Member :=
  match member.standing with
  | .atWork => affect member signal
  | .stopped =>
    if signal = Signal.goOn ∨ signal = Signal.kill then
      affect { member with standing := .atWork } signal
    else member
  | .leaving | .ended _ => member

/-- Put what is known of a process in the place of what was known, and tell its parent if it has just
ended. -/
def update (system : System) (number : Nat) (old new : Member) : System :=
  let system := { system with members := system.members.insert number new }
  if old.status? = new.status? then system
  else
    match system.members.get? new.parent with
    | none => system
    | some parent =>
      { system with
        members := system.members.insert new.parent (receive parent Signal.childEnded) }

def send (system : System) (signal number : Nat) : Bool × System :=
  match system.members.get? number with
  | none => (false, system)
  | some member => (true, system.update number member (receive member signal))

def finish (system : System) (number : Nat) (status : Status) : System :=
  match system.members.get? number with
  | none => system
  | some member => system.update number member (ended member status)

/-- A process has been at work for a while longer, which may be more than it is allowed. After a warning
it may go on for a second. -/
def charge (system : System) (number : Nat) (time : Int) : System :=
  match system.members.get? number with
  | none => system
  | some member =>
    let used := member.used + time
    let limit := member.limits.of .time
    let isOver (most : Option Nat) : Bool :=
      most.any fun seconds => max 1 (seconds : Int) * Calendar.second ≤ used
    let charged := { member with used := used }
    if isOver limit.hard then system.update number member (receive charged Signal.kill)
    else if isOver limit.soft then
      let later : Limit := { limit with soft := limit.soft.map (· + 1) }
      system.update number member
        (receive { charged with limits := charged.limits.insert .time later } Signal.timeUsedUp)
    else { system with members := system.members.insert number charged }

def reap? (system : System) (parent : Nat) : Option (Nat × Status × System) :=
  system.members.entries.findSome? fun (number, member) =>
    if member.parent = parent then
      member.status?.map fun status =>
        (number, status, { system with members := system.members.erase number })
    else none

def hasEndedChild (system : System) (parent : Nat) : Bool :=
  system.members.entries.any fun (_, member) => member.parent = parent && member.status?.isSome

/-! ### What is open -/

def put (system : System) (index : Nat) (opened : Opened) : System :=
  { system with opened := system.opened.setIfInBounds index opened }

def add (system : System) (opened : Opened) : Nat × System :=
  (system.opened.size, { system with opened := system.opened.push opened })

def addText (system : System) (content : Bytes) : Nat × System :=
  system.add ⟨.pipe ⟨content.toArray⟩, 0, true, false, false⟩

/-- A channel through which what one process writes is read by another: the index to read from, and the
one to write to. -/
def addPipe (system : System) : Nat × Nat × System :=
  let (source, system) := system.add ⟨.pipe ByteArray.empty, 0, true, false, false⟩
  let (target, system) := system.add ⟨.feed source, 0, false, true, true⟩
  (source, target, system)

def content? (system : System) (opened : Opened) : Except FileError ByteArray :=
  if !opened.reads then .error .badDescriptor
  else
    match opened.channel with
    | .pipe content => .ok content
    | .device _ => .ok ByteArray.empty
    | .feed _ => .error .badDescriptor
    | .file location =>
      match system.files.at? location with
      | some (.file content) => .ok content
      | some .directory => .error .isADirectory
      | _ => .ok ByteArray.empty

def firstKept : Nat := 10

def keeping (system : System) (count : Nat) : System :=
  system.setSelf { system.self with kept := count }

def keepOne (system : System) : Except FileError System :=
  match (system.self.limits.of .files).soft with
  | none => .ok (system.keeping (system.self.kept + 1))
  | some most =>
    if most ≤ firstKept then .error .invalidArgument
    else if most ≤ firstKept + system.self.kept then .error .tooManyFiles
    else .ok (system.keeping (system.self.kept + 1))

def hasNumbers (system : System) (descriptors : Descriptors) (count : Nat) : Bool :=
  match (system.self.limits.of .files).soft with
  | none => true
  | some most =>
    let low := (List.range (min firstKept most)).filter fun n => (descriptors.get? n).isNone
    count ≤ low.length + (most - (firstKept + system.self.kept))

def readWith (system : System) (index : Nat) (select : ByteArray → Nat → Bytes) :
    Except FileError Bytes :=
  match system.opened[index]? with
  | none => .error .badDescriptor
  | some opened =>
    (system.content? opened).map fun content => select content opened.position

def unread (system : System) (index : Nat) : Except FileError Bytes :=
  system.readWith index fun content position =>
    (content.extract position content.size).data.toList

/-- The place behind a line that begins at another one; a backslash before its end takes the next line
along. -/
def lineEnd (content : ByteArray) : Nat → Bool → Nat → Nat
  | 0, _, position => position
  | left + 1, escaped, position =>
    let b := content[position]?.getD 0
    if b = 0x0A ∧ !escaped then position + 1
    else lineEnd content left (b = 0x5C) (position + 1)

def unreadLine (system : System) (index : Nat) : Except FileError Bytes :=
  system.readWith index fun content position =>
    let behind := lineEnd content (content.size - position) false position
    (content.extract position behind).data.toList

def hasInput (system : System) (index : Nat) : Bool :=
  (system.opened[index]?).any fun opened =>
    (system.content? opened).toOption.any fun content => opened.position < content.size

def hasLine (system : System) (index : Nat) : Bool :=
  (system.opened[index]?).any fun opened =>
    (system.content? opened).toOption.any fun content =>
      let behind := lineEnd content (content.size - opened.position) false opened.position
      opened.position < behind && content[behind - 1]? = some 0x0A

def advance (system : System) (index : Nat) (count : Nat) : System :=
  match system.opened[index]? with
  | none => system
  | some opened => system.put index { opened with position := opened.position + count }

def mayGrow (system : System) (index : Nat) : Bool :=
  match (system.opened[index]?).map Opened.channel with
  | some (.pipe _) =>
    system.running.any fun (_, member) => member.held.any fun other =>
      (system.opened[other]?).any fun opened => opened.channel = .feed index
  | _ => false

def capacity : Nat := 65536

def hasRoom (system : System) (index : Nat) : Bool :=
  match (system.opened[index]?).map Opened.channel with
  | some (.feed source) =>
    match system.opened[source]? with
    | some ⟨.pipe content, position, _, writes, _⟩ =>
      writes || content.size - position ≤ capacity || !system.isHeld source
    | _ => true
  | _ => true

def isBroken (system : System) (index : Nat) : Bool :=
  match (system.opened[index]?).map Opened.channel with
  | some (.feed source) =>
    !((system.opened[source]?).any Opened.writes) && !system.isHeld source
  | _ => false

def overwrite (content : ByteArray) (position : Nat) (bytes : ByteArray) : ByteArray :=
  content.extract 0 position ++ ⟨(List.replicate (position - content.size) 0).toArray⟩ ++ bytes ++
    content.extract (position + bytes.size) content.size

def feed (system : System) (source : Nat) (bytes : ByteArray) : System :=
  match system.opened[source]? with
  | some opened =>
    match opened.channel with
    | .pipe content => system.put source { opened with channel := .pipe (content ++ bytes) }
    | _ => system
  | none => system

def isAtLimit (system : System) (position : Nat) : Bool :=
  (system.self.limits.of .file).soft.any (· ≤ position)

def writeFile (system : System) (index : Nat) (opened : Opened) (location : Location)
    (bytes : ByteArray) : Option FileError × System :=
  match system.files.at? location with
  | some (.file old) =>
    let position := if opened.appends then old.size else opened.position
    let room :=
      match (system.self.limits.of .file).soft with
      | none => bytes.size
      | some most => most - position
    let kept := bytes.extract 0 room
    let failure := if room < bytes.size then some .fileTooLarge else none
    if kept.isEmpty then (failure, system)
    else
      let files := system.files.put location (.file (overwrite old position kept))
      (failure, { system with files := files }.put index
        { opened with position := position + kept.size })
  | _ => (none, system)

def write (system : System) (index : Nat) (bytes : Bytes) : Option FileError × System :=
  match system.opened[index]? with
  | none => (some .badDescriptor, system)
  | some opened =>
    if !opened.writes then (some .badDescriptor, system)
    else
      let content : ByteArray := ⟨bytes.toArray⟩
      match opened.channel with
      | .pipe _ => (none, system.feed index content)
      | .feed source =>
        if bytes = [] then (none, system)
        else if system.isBroken index then (some .brokenPipe, system)
        else (none, system.feed source content)
      | .device .full => (if bytes = [] then none else some .noSpace, system)
      | .device _ => (none, system)
      | .file location => system.writeFile index opened location content

def index? (descriptors : Descriptors) (number : Nat) : Except FileError Nat :=
  match descriptors.get? number with
  | some index => .ok index
  | none => .error .badDescriptor

def writeTo (system : System) (descriptors : Descriptors) (number : Nat) (bytes : Bytes) :
    Option FileError × System :=
  match index? descriptors number with
  | .ok index => system.write index bytes
  | .error cause => (some cause, system)

inductive Opening
  | reading
  | writing
  | appending
  | both
  deriving DecidableEq, Repr

def reopen (system : System) (opening : Opening) (index : Nat) : Nat × System :=
  match system.opened[index]? with
  | some ⟨.pipe _, _, _, false, _⟩ =>
    if opening = .reading then (index, system)
    else system.add ⟨.feed index, 0, false, true, true⟩
  | some ⟨.feed source, _, _, _, _⟩ => (if opening = .reading then source else index, system)
  | _ => (index, system)

def openAt (system : System) (descriptors : Descriptors) (opening : Opening)
    (location : Location) : Except FileError (Nat × System) :=
  let reads := opening = .reading || opening = .both
  let writes := opening ≠ .reading
  let opened (channel : Channel) : Opened :=
    ⟨channel, 0, reads, writes, opening = .appending⟩
  let openFile (location : Location) : Nat × System :=
    let emptied : FileTree :=
      match opening, system.files.at? location with
      | .writing, some (.file _) => system.files.put location (.file ByteArray.empty)
      | _, _ => system.files
    { system with files := emptied }.add (opened (.file location))
  match system.files.at? location with
  | none => .error .notFound
  | some (.device (.descriptor number)) =>
    match descriptors.get? number with
    | none => .error .notFound
    | some index =>
      match system.opened[index]? with
      | some ⟨.file location, _, _, _, _⟩ => .ok (openFile location)
      | _ => .ok (system.reopen opening index)
  | some (.device device) => .ok (system.add (opened (.device device)))
  | some _ => .ok (openFile location)

def openPath (system : System) (descriptors : Descriptors) (opening : Opening) (path : Path) :
    Except FileError (Nat × System) :=
  if !system.hasNumbers descriptors 1 then .error .tooManyFiles
  else
    match opening with
    | .reading =>
      match system.files.locate .target path with
      | .error cause => .error cause
      | .ok location => system.openAt descriptors opening location
    | _ =>
      match system.files.openForWriting path with
      | .error cause => .error cause
      | .ok (location, files) => { system with files := files }.openAt descriptors opening location

def output (system : System) (index : Nat) : Bytes :=
  match system.unread index with
  | .ok bytes => bytes
  | .error _ => []

end System

end EnvTemplate.Child
