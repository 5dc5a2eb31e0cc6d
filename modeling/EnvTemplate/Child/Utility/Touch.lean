import EnvTemplate.Child.Moment.Phrase
import EnvTemplate.Child.Numeral
import EnvTemplate.Child.Process

/-! `touch`: files get the time at which they have been changed, and are made if they are missing. -/

namespace EnvTemplate.Child.Touch

open Text.Utf8 (encode)

def table : OptionTable where
  all :=
    [.flag 'a' [], .flag 'c' ["no-create"], .valued 'd' ["date"], .flag 'f' [],
      .flag 'h' ["no-dereference"], .flag 'm' [], .valued 'r' ["reference"], .valued 't' [],
      ⟨'=', .value, false, ["time"]⟩]
  permutes := true

inductive Stamp
  | now
  | told (moment : Moment)
  /-- Only the time of its last use is set, which nothing asks for. -/
  | kept
  deriving DecidableEq, Repr

/-- How files are touched: whether missing ones are made, whether links are followed, and what is set. -/
structure Manner where
  creates : Bool
  follows : Bool
  stamp : Stamp

def Stamp.set (stamp : Stamp) (location : Location) (files : FileTree) : FileTree :=
  match stamp with
  | .now => files.touch location
  | .told moment => files.setChanged location moment
  | .kept => files

def standing (files : FileTree) (follows : Bool) (path : Bytes) : Except FileError Location :=
  match files.locate (if follows then .target else .entry) ⟨path⟩ with
  | .error cause => .error cause
  | .ok location => if (files.at? location).isSome then .ok location else .error .notFound

def touch (manner : Manner) (name : Bytes) (p : Process) :
    Except (String × FileError) Process :=
  let files := p.system.files
  let withFiles (files : FileTree) : Process := { p with system := { p.system with files := files } }
  let stamped (location : Location) (files : FileTree) : Process :=
    withFiles (manner.stamp.set location files)
  let found := standing files manner.follows name
  if name = hyphen then
    match p.descriptors.get? 1 with
    | none => .error ("setting times of", .badDescriptor)
    | some index =>
      match (p.system.opened[index]?).map Opened.channel with
      | some (.file location) => .ok (stamped location files)
      | _ => .ok p
  else if manner.creates && manner.follows then
    match files.openForWriting ⟨name⟩, found with
    | .ok (location, opened), _ => .ok (stamped location opened)
    | .error _, .ok location => .ok (stamped location files)
    | .error .isADirectory, .error cause => .error ("setting times of", cause)
    | .error cause, .error _ => .error ("cannot touch", cause)
  else
    match found with
    | .ok location => .ok (stamped location files)
    | .error cause =>
      if !manner.creates && cause = .notFound then .ok p else .error ("setting times of", cause)

def pairs : List Char → List Int
  | a :: b :: rest => Moment.Token.valueOf [a, b] :: pairs rest
  | _ => []

def yearOf (now : Moment) : List Int → Int
  | [century, year] => century * 100 + year
  | [year] => year + if year ≤ 68 then 2000 else 1900
  | _ => (Calendar.Date.ofNumber (Calendar.dayOf now)).year

/-- The moment of some pairs of digits: a year or not, then month, day, hour and minute. One more second
than there are is the first one of the next minute. -/
def momentOf? (now : Moment) (second : Int) (pairs : List Int) : Option Moment :=
  let year := yearOf now (pairs.take (pairs.length - 4))
  match pairs.drop (pairs.length - 4) with
  | [month, day, hour, minute] =>
    let date : Calendar.Date := ⟨year, month, day⟩
    if date.isReal && hour < 24 && minute < 60 && second ≤ 60 then
      some (Calendar.momentOf date.number (hour * 3600 + minute * 60 + second))
    else none
  | _ => none

def ofDigits? (now : Moment) (text : Bytes) : Option Moment :=
  let s := Text.Bytewise.read text
  let digits := s.takeWhile Char.isDigit
  if digits.length ∉ [8, 10, 12] then none
  else
    match s.drop digits.length with
    | [] => momentOf? now 0 (pairs digits)
    | ['.', a, b] =>
      if a.isDigit && b.isDigit then momentOf? now (Moment.Token.valueOf [a, b]) (pairs digits)
      else none
    | _ => none

/-- The words that tell which of its times a file gets, each with the letter that tells the same. -/
def timeWords : List (String × Char) :=
  [("atime", 'a'), ("access", 'a'), ("use", 'a'), ("mtime", 'm'), ("modify", 'm')]

def timeWord? (value : Bytes) : Option Char :=
  if value = [] then none
  else (timeWords.find? fun (word, _) => value.isPrefixOf (encode word)).map Prod.snd

def timeWordsHelp (p : Process) : Bytes :=
  let line (letter : Char) : Bytes :=
    let words := timeWords.filter fun (_, other) => other = letter
    encode "\n  - " ++ (encode ", ").intercalate (words.map fun (word, _) => p.cite (encode word))
  encode "\nValid arguments are:" ++ line 'a' ++ line 'm'

inductive Objection
  | usage (text : Bytes)
  | work (text : Bytes)

def badDate (p : Process) (value : Bytes) : Objection :=
  .work (encode "invalid date format " ++ p.cite value)

def valueObjection? (p : Process) : Char × Bytes → Option Objection
  | ('=', value) =>
    if (timeWord? value).isSome then none
    else
      some (.usage (encode (if value = [] then "ambiguous argument " else "invalid argument ") ++
        p.cite value ++ encode " for " ++ p.cite (encode "--time") ++ timeWordsHelp p))
  | ('t', value) =>
    if (ofDigits? p.system.files.now value).isSome then none else some (badDate p value)
  | _ => none

def described (choice : OptionChoice) (p : Process) : Except Objection (Option Moment) :=
  let files := p.system.files
  let describedFrom (now : Moment) : Except Objection (Option Moment) :=
    match choice.value? 'd' with
    | none => .ok (some now)
    | some text =>
      match Moment.ofText? now (Text.Bytewise.read text) with
      | none => .error (badDate p text)
      | some moment => .ok (some moment)
  match choice.value? 'r' with
  | some name =>
    match standing files (!choice.has 'h') name with
    | .error cause =>
      .error (.work (encode "failed to get attributes of " ++ p.quote name ++
        encode s!": {cause.reason}"))
    | .ok location => describedFrom ((files.changedAt? location).getD 0)
  | none => if choice.has 'd' then describedFrom files.now else .ok none

def momentOf (choice : OptionChoice) (p : Process) : Except Objection (Option Moment) :=
  match choice.options.findSome? (valueObjection? p) with
  | some objection => .error objection
  | none =>
    match choice.value? 't' with
    | none => described choice p
    | some digits =>
      if choice.has 'r' || choice.has 'd' then
        .error (.usage (encode "cannot specify times from more than one source"))
      else .ok (ofDigits? p.system.files.now digits)

def stampOf (choice : OptionChoice) (moment : Option Moment) (now : Moment) : Stamp :=
  let words := choice.options.filterMap fun (letter, value) =>
    if letter = '=' then timeWord? value else none
  if (choice.has 'a' || 'a' ∈ words) && !choice.has 'm' && 'm' ∉ words then .kept
  else
    match moment with
    | none => .now
    | some moment => if moment = now then .now else .told moment

def touchAll (choice : OptionChoice) (p : Process) : Process :=
  match momentOf choice p with
  | .error (.usage text) => p.misuse text
  | .error (.work text) => p.complain 1 text
  | .ok moment =>
    if choice.operands = [] then p.misuse (encode "missing file operand")
    else
      let manner : Manner :=
        ⟨!choice.has 'c', !choice.has 'h', stampOf choice moment p.system.files.now⟩
      choice.operands.foldl (fun p name =>
        match touch manner name p with
        | .ok p => p
        | .error (task, cause) =>
          p.complain 1 (encode s!"{task} " ++ p.quote name ++ encode s!": {cause.reason}")) p

def run (start : Start) : Work :=
  Process.run start 1 <| Process.withOptions table start.arguments fun choice =>
    modify (touchAll choice)

end EnvTemplate.Child.Touch
