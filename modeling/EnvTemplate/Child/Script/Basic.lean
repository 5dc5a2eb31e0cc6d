import EnvTemplate.Child.System

/-! The language of scripts: words with the parts that are still to be expanded, and commands. -/

namespace EnvTemplate.Child

inductive Side
  | front
  | back
  deriving DecidableEq, Repr

inductive Access
  | reading
  | writing
  | clobbering
  | appending
  | both
  deriving DecidableEq, Repr

mutual

inductive Piece
  | text (s : List Char)
  | escaped (s : List Char)
  | quotation (pieces : List Piece)
  | parameter (name : String) (use : Use)
  | output (command : Command)
  | arithmetic (pieces : List Piece)

/-- What is done with the value of a parameter. With `filled` an empty value counts as none. -/
inductive Use
  | value
  | length
  | default (filled : Bool) (word : List Piece)
  | assigned (filled : Bool) (word : List Piece)
  | required (filled : Bool) (word : List Piece)
  | alternative (filled : Bool) (word : List Piece)
  | trimmed (side : Side) (longest : Bool) (pattern : List Piece)
  | malformed

inductive Redirection
  | file (number : Nat) (access : Access) (name : List Piece)
  /-- The number becomes another name of what the target says. -/
  | duplicate (number : Nat) (target : List Piece)
  | document (number : Nat) (key : Nat)

inductive Command
  | nothing
  | simple (line : Nat) (assignments : List (String × List Piece)) (words : List (List Piece))
      (redirections : List Redirection)
  | pipeline (commands : List Command)
  | negation (command : Command)
  | both (first second : Command)
  | either (first second : Command)
  | sequence (first second : Command)
  | background (command : Command)
  | subshell (line : Nat) (body : Command) (redirections : List Redirection)
  | redirected (line : Nat) (body : Command) (redirections : List Redirection)
  | choice (test yes no : Command)
  /-- Repeated as long as the test holds, or as long as it fails. -/
  | loop (whileHolds : Bool) (test body : Command)
  | forEach (line : Nat) (name : String) (words : List (List Piece)) (body : Command)
  | cases (line : Nat) (subject : List Piece) (branches : List (List (List Piece) × Command))
  | function (line : Nat) (name : String) (body : Command)

end

/-- A command with redirections behind it. Those of a part that goes on by itself are its own, and take
the place of those that it has. -/
def Command.withRedirections (line : Nat) :
    Command → List Redirection → Command
  | command, [] => command
  | .subshell line body _, redirections => .subshell line body redirections
  | command, redirections => .redirected line command redirections

abbrev Word := List Piece

/-- What is wrong with a script, in which line, and how many characters are left behind it. -/
structure Flaw where
  line : Nat
  left : Nat
  reason : String
  deriving DecidableEq, Repr

namespace Word

def text? : Word → Option (List Char)
  | [.text s] => some s
  | _ => none

def isQuoted (word : Word) : Bool :=
  word.any fun
    | .escaped _ | .quotation _ => true
    | _ => false

end Word

namespace Script

def isNameStart (c : Char) : Bool := c.isAlpha || c = '_'

def isNameChar (c : Char) : Bool := isNameStart c || c.isDigit

def isName : List Char → Bool
  | [] => false
  | c :: rest => isNameStart c && rest.all isNameChar

def isSpecial (c : Char) : Bool := c ∈ ['?', '#', '$', '@', '*', '!', '-'] || c.isDigit

end Script

def Word.assignment? : Word → Option (String × Word)
  | .text s :: rest =>
    let name := s.takeWhile (· ≠ '=')
    match s.dropWhile (· ≠ '=') with
    | [] => none
    | _ :: value =>
      if Script.isName name then
        some (String.ofList name, if value = [] then rest else .text value :: rest)
      else none
  | _ => none

end EnvTemplate.Child
