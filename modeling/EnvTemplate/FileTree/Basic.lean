import EnvTemplate.Calendar
import EnvTemplate.FileTree.Path
import EnvTemplate.OrderedMap

namespace EnvTemplate

abbrev Location := List Name

inductive Device
  /-- It takes what is written, and nothing is read from it. -/
  | null
  /-- It takes what is written, and what is read from it has no end. -/
  | endless
  /-- It refuses what is written. -/
  | full
  /-- What a process has open under a number. -/
  | descriptor (number : Nat)
  deriving DecidableEq, Repr

inductive Entry
  | file (content : ByteArray)
  | directory
  | link (target : Path)
  | device (device : Device)
  /-- A file that can be run. -/
  | program (name : String)
  deriving DecidableEq

inductive FileError
  | notPermitted
  | notFound
  | inputOutput
  | argumentsTooLong
  | badDescriptor
  | noChild
  | permissionDenied
  | fileExists
  | notADirectory
  | isADirectory
  | invalidArgument
  | tooManyFiles
  | fileTooLarge
  | noSpace
  | brokenPipe
  | nameTooLong
  | noLocks
  | directoryNotEmpty
  | tooManyLinks
  | quotaExceeded
  | nulInName
  | nulInArgument
  deriving DecidableEq, Repr

namespace FileError

def reason : FileError → String
  | notPermitted => "Operation not permitted"
  | notFound => "No such file or directory"
  | inputOutput => "Input/output error"
  | argumentsTooLong => "Argument list too long"
  | badDescriptor => "Bad file descriptor"
  | noChild => "No child processes"
  | permissionDenied => "Permission denied"
  | fileExists => "File exists"
  | notADirectory => "Not a directory"
  | isADirectory => "Is a directory"
  | invalidArgument => "Invalid argument"
  | tooManyFiles => "Too many open files"
  | fileTooLarge => "File too large"
  | noSpace => "No space left on device"
  | brokenPipe => "Broken pipe"
  | nameTooLong => "File name too long"
  | noLocks => "No locks available"
  | directoryNotEmpty => "Directory not empty"
  | tooManyLinks => "Too many levels of symbolic links"
  | quotaExceeded => "Disk quota exceeded"
  | nulInName => "file name contained an unexpected NUL byte"
  | nulInArgument => "nul byte found in provided data"

/-- The number the system gives to a failure; what is refused before the system is asked has
none. -/
def number? : FileError → Option Nat
  | notPermitted => some 1
  | notFound => some 2
  | inputOutput => some 5
  | argumentsTooLong => some 7
  | badDescriptor => some 9
  | noChild => some 10
  | permissionDenied => some 13
  | fileExists => some 17
  | notADirectory => some 20
  | isADirectory => some 21
  | invalidArgument => some 22
  | tooManyFiles => some 24
  | fileTooLarge => some 27
  | noSpace => some 28
  | brokenPipe => some 32
  | nameTooLong => some 36
  | noLocks => some 37
  | directoryNotEmpty => some 39
  | tooManyLinks => some 40
  | quotaExceeded => some 122
  | nulInName | nulInArgument => none

def message (error : FileError) : String :=
  match error.number? with
  | some number => s!"{error.reason} (os error {number})"
  | none => error.reason

end FileError

/-- What the system may refuse: to make or to remove an entry of a directory, to lock a file, to cut
it, and to have it kept once it is written. -/
inductive Operation
  | make
  | remove
  | lock
  | cut
  | keep
  deriving DecidableEq, Repr

/-- What goes with a file and is gone with it. -/
structure Marks where
  unreadable : Option FileError
  unwritable : Option FileError
  /-- Locations with the same number are names of one file. -/
  number : Option Nat
  deriving DecidableEq, Repr

def Marks.usual : Marks := ⟨none, none, none⟩

structure FileTree where
  home : Location
  entries : OrderedMap Location Entry
  /-- The moment at which the next change is made, and those at which entries have been changed. -/
  now : Moment
  changed : OrderedMap Location Moment
  marks : OrderedMap Location Marks
  refusals : OrderedMap (Location × Operation) FileError
  /-- After how many bytes writing to a file breaks off, and why. -/
  room : OrderedMap Location (Nat × FileError)
  deriving DecidableEq

namespace FileTree

def empty : FileTree := ⟨[], ∅, 0, ∅, ∅, ∅, ∅⟩

instance : Inhabited FileTree := ⟨empty⟩

def at? (tree : FileTree) : Location → Option Entry
  | [] => some .directory
  | location => tree.entries.get? location

def marksAt (tree : FileTree) (location : Location) : Marks :=
  match tree.at? location with
  | none => .usual
  | some _ => (tree.marks.get? location).getD .usual

/-- Why an operation is refused. That nothing stands there is never the reason. -/
def refusal? (tree : FileTree) (operation : Operation) (location : Location) : Option FileError :=
  (tree.refusals.get? (location, operation)).filter fun cause => cause ≠ .notFound

def earliest : Moment := -2147483648 * Calendar.second

def latest : Moment := 15032385535 * Calendar.second

def setChanged (tree : FileTree) (location : Location) (moment : Moment) : FileTree :=
  { tree with changed := tree.changed.insert location (max earliest (min moment latest)) }

/-- Moments are told apart only from one tick of the clock to the next. -/
def tick : Int := 4000000

def touch (tree : FileTree) (location : Location) : FileTree :=
  tree.setChanged location (tree.now - tree.now % tick)

/-- Put an entry at a location. Where nothing has stood that also changes its directory, and what is
put there has no marks yet. -/
def put (tree : FileTree) (location : Location) (entry : Entry) : FileTree :=
  let touched :=
    if (tree.at? location).isSome then tree
    else { tree.touch location.dropLast with marks := tree.marks.erase location }
  { touched.touch location with entries := tree.entries.insert location entry }

def putAll (tree : FileTree) (locations : List Location) (entry : Entry) : FileTree :=
  locations.foldl (fun tree location => tree.put location entry) tree

def erase (tree : FileTree) (location : Location) : FileTree :=
  { tree.touch location.dropLast with entries := tree.entries.erase location }

def prune (tree : FileTree) (location : Location) : FileTree :=
  { tree.touch location.dropLast with
    entries := tree.entries.filter fun other _ => !location.isPrefixOf other }

def changedAt? (tree : FileTree) (location : Location) : Option Moment :=
  (tree.at? location).map fun _ => (tree.changed.get? location).getD 0

def wait (tree : FileTree) (nanoseconds : Int) : FileTree :=
  { tree with now := tree.now + nanoseconds }

theorem refusal?_ne_notFound (tree : FileTree) (operation : Operation) (location : Location) :
    tree.refusal? operation location ≠ some .notFound := by
  simp [refusal?]

theorem at?_put {tree : FileTree} {location : Location} (h : location ≠ []) (entry : Entry)
    (other : Location) :
    (tree.put location entry).at? other =
      if other = location then some entry else tree.at? other := by
  cases other with
  | nil => simp [at?, Ne.symm h]
  | cons name names => exact tree.entries.get?_insert location (name :: names) entry

theorem at?_erase {tree : FileTree} {location : Location} (h : location ≠ [])
    (other : Location) :
    (tree.erase location).at? other = if other = location then none else tree.at? other := by
  cases other with
  | nil => simp [at?, Ne.symm h]
  | cons name names => exact tree.entries.get?_erase location (name :: names)

theorem marksAt_put {tree : FileTree} {location : Location} (h : location ≠ []) (entry : Entry)
    (other : Location) : (tree.put location entry).marksAt other = tree.marksAt other := by
  have hm : (tree.put location entry).marks.get? other =
      if other = location ∧ tree.at? location = none then none else tree.marks.get? other := by
    unfold put
    cases ha : tree.at? location with
    | none =>
      simp only [and_true]
      exact tree.marks.get?_erase location other
    | some _ =>
      simp only [reduceCtorEq, and_false, if_false]
      rfl
  rw [marksAt, marksAt, at?_put h, hm]
  by_cases ho : other = location
  · subst ho
    cases ha : tree.at? other <;> simp
  · simp only [ho, if_false, false_and]

theorem marksAt_erase {tree : FileTree} {location other : Location} (h : location ≠ [])
    (ho : other ≠ location) : (tree.erase location).marksAt other = tree.marksAt other := by
  rw [marksAt, marksAt, at?_erase h, if_neg ho]
  rfl

theorem marksAt_of_none {tree : FileTree} {location : Location} (h : tree.at? location = none) :
    tree.marksAt location = .usual := by
  rw [marksAt, h]

end FileTree

end EnvTemplate
