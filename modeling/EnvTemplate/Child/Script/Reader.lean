import EnvTemplate.Child.Script.Basic

namespace EnvTemplate.Child.Script

inductive Operator
  | file (access : Access)
  | duplicate
  /-- A document up to a line with a given word; tabs at the start of lines may be left out. -/
  | document (strips : Bool)
  deriving DecidableEq, Repr

inductive Token
  | word (word : Word)
  | sign (s : String)
  | keyword (s : String)
  | redirection (number : Nat) (operator : Operator)
  | newline
  | ending

def Token.describe : Token → String
  | word _ => "word"
  | sign s | keyword s => s!"\"{s}\""
  | redirection _ _ => "redirection"
  | newline => "newline"
  | ending => "end of file"

structure Awaited where
  key : Nat
  stop : List Char
  strips : Bool
  literal : Bool

structure Reader where
  rest : List Char
  line : Nat
  held : Option Token
  aliases : OrderedMap String (List Char)
  /-- The aliases whose texts are being read, each with the length of what stands behind its text,
  and whether the word behind may be an alias too. -/
  inside : List (String × Nat × Bool)
  awaited : List Awaited
  documents : List (Nat × Word)
  nextKey : Nat

abbrev Parser := StateT Reader (Except Flaw)

def Reader.ofText (text : List Char) (line nextKey : Nat) : Reader :=
  ⟨text, line, none, ∅, [], [], [], nextKey⟩

def refuse {α : Type} (reason : String) : Parser α := do
  let r ← get
  throw ⟨r.line, r.rest.length, "Syntax error: " ++ reason⟩

def unexpected {α : Type} (token : Token) : Parser α := refuse s!"{token.describe} unexpected"

def unexpectedFor {α : Type} (token : Token) (expected : String) : Parser α :=
  refuse s!"{token.describe} unexpected (expecting \"{expected}\")"

def skipJoins : Nat → List Char → Nat × List Char
  | line, '\\' :: '\n' :: rest => skipJoins (line + 1) rest
  | line, rest => (line, rest)

def peek : Parser (Option Char) := do
  let r ← get
  let (line, rest) := skipJoins r.line r.rest
  set { r with line := line, rest := rest }
  return rest.head?

def peekRaw : Parser (Option Char) := do return (← get).rest.head?

def skip : Parser Unit :=
  modify fun r =>
    match r.rest with
    | [] => r
    | c :: rest => { r with rest := rest, line := if c = '\n' then r.line + 1 else r.line }

def skipUncounted : Parser Unit := modify fun r => { r with rest := r.rest.tail }

def takeWhile (p : Char → Bool) : Nat → Parser (List Char)
  | 0 => return []
  | fuel + 1 => do
    match ← peek with
    | none => return []
    | some c =>
      if p c then
        skip
        return c :: (← takeWhile p fuel)
      else return []

def takeName (p : Char → Bool) : Parser (List Char) := do takeWhile p ((← get).rest.length + 1)

def takeRun (p : Char → Bool) : Parser (List Char) := do
  let r ← get
  set { r with rest := r.rest.dropWhile p }
  return r.rest.takeWhile p

def skipLine : Parser Unit := modify fun r => { r with rest := r.rest.dropWhile (· ≠ '\n') }

def hold (token : Token) : Parser Unit := modify fun r => { r with held := some token }

/-- At the start of a line: whether it is the one that ends a document, which is then read. -/
def atStop (stop : List Char) (strips : Bool) : Parser Bool := do
  let r ← get
  let line := if strips then r.rest.dropWhile (· = '\t') else r.rest
  let behind := line.drop stop.length
  if line ≠ [] ∧ stop.isPrefixOf line ∧ behind.head?.getD '\n' = '\n' then
    set { r with rest := behind.tail, line := r.line + 1 }
    return true
  else
    set { r with rest := line }
    return false

def literalLines (stop : List Char) (strips : Bool) : Nat → Parser (List Char)
  | 0 => return []
  | fuel + 1 => do
    if ← atStop stop strips then return []
    else
      let line ← takeRun (· ≠ '\n')
      match ← peekRaw with
      | none => return line
      | some _ =>
        skip
        return line ++ '\n' :: (← literalLines stop strips fuel)

def backquote : Char := Char.ofNat 0x60

def backquoted (inQuotes : Bool) : Nat → Parser (List Char)
  | 0 => return []
  | fuel + 1 => do
    match ← peek with
    | none => refuse "EOF in backquote substitution"
    | some c =>
      skip
      if c = backquote then return []
      else if c = '\\' then
        match ← peekRaw with
        | none => refuse "EOF in backquote substitution"
        | some d =>
          skip
          let rest ← backquoted inQuotes fuel
          if d = '\\' ∨ d = '$' ∨ d = backquote ∨ inQuotes ∧ d = '"' then return d :: rest
          else return '\\' :: d :: rest
      else return c :: (← backquoted inQuotes fuel)

/-- Leave the texts of aliases that have been read to their ends. Tells whether the word behind one
of them may be an alias too. -/
def leaveAliases : Parser Bool := do
  let r ← get
  if r.inside = [] then return false
  else
    let length := r.rest.length
    let (left, inside) := r.inside.partition fun (_, behind, _) => length ≤ behind
    set { r with inside := inside }
    return left.any fun (_, _, looksOn) => looksOn

def enterAlias (name : String) : Parser Bool := do
  let r ← get
  if r.aliases.size = 0 then return false
  else
    let length := r.rest.length
    if r.inside.any fun (other, behind, _) => other = name && behind < length then return false
    else
      match r.aliases.get? name with
      | none => return false
      | some text =>
        let looksOn := (text.getLast?.map fun c => c = ' ' || c = '\t').getD false
        let shown := if looksOn ∨ text = [] then text else text ++ [' ']
        set { r with rest := shown ++ r.rest, inside := (name, length, looksOn) :: r.inside }
        return true

end EnvTemplate.Child.Script
