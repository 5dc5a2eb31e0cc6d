import EnvTemplate.Text.Bytewise
import EnvTemplate.Text.Utf8

/-! The options of programs: letters behind a hyphen, and words behind two. -/

namespace EnvTemplate.Child

open Text.Utf8 (encode)

inductive Follow
  | nothing
  | value
  | maybe
  deriving DecidableEq, Repr

structure OptionKind where
  letter : Char
  follow : Follow
  /-- The letter itself is an option, and not only the words that mean the same. -/
  isLetter : Bool
  words : List String

namespace OptionKind

def flag (letter : Char) (words : List String) : OptionKind := ⟨letter, .nothing, true, words⟩

def valued (letter : Char) (words : List String) : OptionKind := ⟨letter, .value, true, words⟩

end OptionKind

structure OptionTable where
  all : List OptionKind
  permutes : Bool

structure OptionChoice where
  options : List (Char × Bytes)
  operands : List Bytes

namespace OptionChoice

def has (choice : OptionChoice) (letter : Char) : Bool :=
  choice.options.any fun (other, _) => other = letter

def value? (choice : OptionChoice) (letter : Char) : Option Bytes :=
  (choice.options.reverse.find? fun (other, _) => other = letter).map Prod.snd

end OptionChoice

namespace OptionTable

/-- The words that begin as a word does, each with its option; one that is the same stands alone. -/
def wordsFor (kinds : OptionTable) (start : String) : List (String × OptionKind) :=
  let all := kinds.all.flatMap fun kind => kind.words.map fun word => (word, kind)
  match all.find? fun (word, _) => word = start with
  | some found => [found]
  | none => all.filter fun (word, _) => start.toList.isPrefixOf word.toList

def shownWord (word : Bytes) : Bytes := encode "'" ++ [0x2D, 0x2D] ++ word ++ encode "'"

def readWord (kinds : OptionTable) (shown : Bytes) (rest : List Bytes) :
    Except Bytes ((Char × Bytes) × List Bytes) :=
  let name := Text.Utf8.decode (shown.takeWhile (· ≠ 0x3D))
  let given := (shown.dropWhile (· ≠ 0x3D)).tail?
  let found := kinds.wordsFor name
  match found.head? with
  | none => .error (encode "unrecognized option " ++ shownWord shown)
  | some (word, kind) =>
    if found.any fun (_, other) => other.letter ≠ kind.letter then
      let names := found.flatMap fun (word, _) => 0x20 :: shownWord (encode word)
      .error (encode "option " ++ shownWord shown ++ encode " is ambiguous; possibilities:" ++ names)
    else
      match kind.follow, given, rest with
      | .nothing, none, _ | .maybe, none, _ => .ok ((kind.letter, []), rest)
      | .nothing, some _, _ =>
        .error (encode "option " ++ shownWord (encode word) ++ encode " doesn't allow an argument")
      | _, some value, _ => .ok ((kind.letter, value), rest)
      | .value, none, value :: rest => .ok ((kind.letter, value), rest)
      | .value, none, [] =>
        .error (encode "option " ++ shownWord (encode word) ++ encode " requires an argument")

/-- Read the letters behind a hyphen, and the value behind the last one if there has to be one. -/
def readLetters (kinds : OptionTable) :
    List Char → List Bytes → Except Bytes (List (Char × Bytes) × List Bytes)
  | [], rest => .ok ([], rest)
  | c :: letters, rest =>
    match kinds.all.find? fun kind => kind.letter = c && kind.isLetter with
    | none => .error (encode "invalid option -- '" ++ Text.Bytewise.write [c] ++ encode "'")
    | some kind =>
      if kind.follow = .value then
        match letters, rest with
        | [], [] =>
          .error (encode "option requires an argument -- '" ++ Text.Bytewise.write [c, '\''])
        | [], value :: rest => .ok ([(c, value)], rest)
        | _, _ => .ok ([(c, Text.Bytewise.write letters)], rest)
      else
        (readLetters kinds letters rest).map fun (options, rest) => ((c, []) :: options, rest)

def readFrom (kinds : OptionTable) : Nat → List Bytes → Except Bytes OptionChoice
  | 0, args => .ok ⟨[], args⟩
  | _, [] => .ok ⟨[], []⟩
  | fuel + 1, word :: rest =>
    match Text.Bytewise.read word with
    | ['-', '-'] => .ok ⟨[], rest⟩
    | '-' :: '-' :: _ =>
      match kinds.readWord (word.drop 2) rest with
      | .error message => .error message
      | .ok (option, rest) =>
        (kinds.readFrom fuel rest).map fun choice =>
          { choice with options := option :: choice.options }
    | '-' :: c :: letters =>
      match kinds.readLetters (c :: letters) rest with
      | .error message => .error message
      | .ok (options, rest) =>
        (kinds.readFrom fuel rest).map fun choice =>
          { choice with options := options ++ choice.options }
    | _ =>
      if kinds.permutes then
        (kinds.readFrom fuel rest).map fun choice =>
          { choice with operands := word :: choice.operands }
      else .ok ⟨[], word :: rest⟩

def about : Char := '?'

def aboutWords : List OptionKind :=
  [⟨about, .nothing, false, ["help"]⟩, ⟨about, .nothing, false, ["version"]⟩]

def read (kinds : OptionTable) (args : List Bytes) : Except Bytes OptionChoice :=
  { kinds with all := kinds.all ++ aboutWords }.readFrom (args.length + 1) args

end OptionTable

end EnvTemplate.Child
