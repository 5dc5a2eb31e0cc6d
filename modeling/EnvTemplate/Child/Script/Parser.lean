import EnvTemplate.Child.Script.Reader

namespace EnvTemplate.Child.Script

inductive Style
  | bare
  | double
  /-- In an arithmetic expression, with so many parentheses open. -/
  | counting (depth : Nat)
  deriving DecidableEq, Repr

structure Place where
  style : Style
  braced : Bool
  inner : Bool
  /-- It is in a document that ends before a line with this text. -/
  document : Option (List Char × Bool)
  /-- It is the word that ends a document, in which nothing is expanded. -/
  isStop : Bool

namespace Place

def word : Place := ⟨.bare, false, false, none, false⟩

def isOpen (place : Place) : Bool := place.style = .bare && !place.braced

def isLine (place : Place) : Bool :=
  place.document.isSome && place.style = .double && !place.braced && !place.inner

def inQuotes (place : Place) : Bool := place.style ≠ .bare

def inBraces (place : Place) (style : Style) : Place :=
  { place with style := style, braced := true, inner := false }

def wordStyle (place : Place) : Style :=
  match place.style with
  | .counting _ => .double
  | style => style

def quotation (place : Place) : Place :=
  { place with style := .double, braced := false, inner := place.braced || place.inner }

def expression (place : Place) : Place :=
  { place with style := .counting 0, braced := false, inner := false }

def isPlain (place : Place) (c : Char) : Bool :=
  c ∉ ['\\', '"', '$', '\x7d', '\n', backquote] &&
    match place.style with
    | .bare => c ∉ ['\'', ' ', '\t', ';', '&', '|', '<', '>', '(', ')']
    | .double => true
    | .counting _ => c ∉ ['(', ')']

def keepsBackslash (place : Place) (c : Char) : Bool :=
  place.inQuotes && c ∉ ['\\', '$', backquote] && (c ≠ '"' || place.isLine) &&
    (c ≠ '\x7d' || !(place.braced || place.inner))

end Place

def addPiece : List Piece → Piece → List Piece
  | .text s :: before, .text t => .text (s ++ t) :: before
  | .escaped s :: before, .escaped t => .escaped (s ++ t) :: before
  | before, piece => piece :: before

structure Checks where
  newlines : Bool
  keywords : Bool
  aliases : Bool

namespace Checks

def none : Checks := ⟨false, false, false⟩

def command : Checks := ⟨false, true, true⟩

def nextCommand : Checks := ⟨true, true, true⟩

end Checks

def keywords : List String :=
  ["!", "case", "do", "done", "elif", "else", "esac", "fi", "for", "if", "in", "then", "until",
    "while", "\x7b", "\x7d"]

def endsList : Token → Bool
  | .sign s => s ∈ [")", ";;"]
  | .keyword s => s ∈ ["do", "done", "elif", "else", "esac", "fi", "then", "\x7d"]
  | .ending => true
  | _ => false

inductive Extent
  | line
  /-- To a token that ends it, with one command at least. -/
  | body
  | block
  deriving DecidableEq, Repr

def specialCommands : List String :=
  [".", ":", "break", "continue", "eval", "exec", "exit", "export", "local", "readonly",
    "return", "set", "shift", "times", "trap", "unset"]

def signsOf (c : Char) : List String :=
  match c with
  | '&' => ["&&", "&"]
  | '|' => ["||", "|"]
  | ';' => [";;", ";"]
  | '(' => ["("]
  | ')' => [")"]
  | _ => []

def sign (c : Char) : Parser String := do
  skip
  let double := String.ofList [c, c]
  if double ∉ signsOf c then return String.singleton c
  else if (← peek) = some c then
    skip
    return double
  else return String.singleton c

def operator (c : Char) : Parser Operator := do
  skip
  let next ← peek
  let one (operator : Operator) : Parser Operator := do
    skip
    return operator
  if c = '>' then
    match next with
    | some '>' => one (.file .appending)
    | some '|' => one (.file .clobbering)
    | some '&' => one .duplicate
    | _ => return .file .writing
  else
    match next with
    | some '<' =>
      skip
      match ← peek with
      | some '-' => one (.document true)
      | _ => return .document false
    | some '&' => one .duplicate
    | some '>' => one (.file .both)
    | _ => return .file .reading

def number? : Word → Option (Option Nat)
  | [] => some none
  | [.text [d]] => if d.isDigit then some (some (d.toNat - '0'.toNat)) else none
  | _ => none

def unquoted : Word → List Char
  | [] => []
  | .text s :: rest | .escaped s :: rest => s ++ unquoted rest
  | .quotation pieces :: rest => unquotedPieces pieces ++ unquoted rest
  | _ :: rest => unquoted rest
where
  unquotedPieces : List Piece → List Char
    | [] => []
    | .text s :: rest | .escaped s :: rest => s ++ unquotedPieces rest
    | _ :: rest => unquotedPieces rest

mutual

def pieces : Nat → Place → List Piece → Parser Word
  | 0, _, _ => refuse "too deep"
  | fuel + 1, place, before => do
    let goOn (piece : Piece) : Parser Word := pieces fuel place (addPiece before piece)
    let keep (c : Char) : Parser Word := do
      skip
      goOn (.text [c])
    match ← peek with
    | none =>
      match place.style with
      | .counting _ => refuse "Missing '))'"
      | .double =>
        if place.document.isNone then refuse "Unterminated quoted string"
        else if place.braced || place.inner then refuse "Missing '\x7d'"
        else return before.reverse
      | .bare => if place.braced then refuse "Missing '\x7d'" else return before.reverse
    | some c =>
      if place.isPlain c then goOn (.text (← takeRun place.isPlain))
      else if c = '\\' then
        skip
        match ← peekRaw with
        | none => goOn (.escaped ['\\'])
        | some d =>
          skip
          goOn (.escaped (if place.keepsBackslash d then ['\\', d] else [d]))
      else if c = '\'' then
        skip
        let rest := (← get).rest
        let s := rest.takeWhile (· ≠ '\'')
        let lines := s.count '\n'
        modify fun r => { r with rest := rest.drop (s.length + 1), line := r.line + lines }
        if s.length = rest.length then refuse "Unterminated quoted string"
        else goOn (.quotation (if s = [] then [] else [.escaped s]))
      else if c = '"' then
        if place.isLine then keep c
        else
          match place.style with
          | .counting _ => keep c
          | .bare =>
            skip
            goOn (.quotation (← pieces fuel place.quotation []))
          | .double =>
            skip
            if place.braced then goOn (.quotation (← pieces fuel place.quotation []))
            else return before.reverse
      else if c = '$' then
        skip
        if place.isStop then goOn (.text [c]) else goOn (← dollar fuel place)
      else if c = backquote then
        if place.isStop then keep c
        else
          skip
          let outer ← get
          let text ← backquoted place.inQuotes (outer.rest.length + 1)
          let behind ← get
          set { behind with rest := text, line := 1, held := none, inside := [], awaited := [] }
          let command ← list fuel .block none
          let done ← get
          set { behind with documents := done.documents, nextKey := done.nextKey }
          goOn (.output (command.getD .nothing))
      else if c = '\x7d' then
        if place.braced then
          skip
          return before.reverse
        else keep c
      else if place.isOpen then return before.reverse
      else if c = '\n' then
        skip
        let before := addPiece before (.text [c])
        match place.document with
        | some (stop, strips) =>
          if place.isLine then
            if ← atStop stop strips then return before.reverse
            else pieces fuel place before
          else pieces fuel place before
        | none => pieces fuel place before
      else
        match place.style, c with
        | .counting depth, '(' =>
          skip
          pieces fuel { place with style := .counting (depth + 1) } (addPiece before (.text [c]))
        | .counting (depth + 1), ')' =>
          skip
          pieces fuel { place with style := .counting depth } (addPiece before (.text [c]))
        | .counting 0, ')' =>
          skip
          if (← peek) = some ')' then
            skip
            return before.reverse
          else goOn (.text [c])
        | _, _ => keep c

def dollar : Nat → Place → Parser Piece
  | 0, _ => refuse "too deep"
  | fuel + 1, place => do
    match ← peek with
    | none => return .text ['$']
    | some c =>
      if c = '(' then
        skip
        if (← peek) = some '(' then
          skip
          return .arithmetic (← pieces fuel place.expression [])
        else
          let awaited := (← get).awaited
          modify fun r => { r with awaited := [] }
          let command ← list fuel .block none
          let token ← token fuel .none
          match token with
          | .sign ")" =>
            modify fun r => { r with awaited := awaited }
            return .output (command.getD .nothing)
          | _ => unexpectedFor token ")"
      else if c = '\x7b' then
        skip
        braces fuel place
      else if isNameStart c then
        return .parameter (String.ofList (← takeName isNameChar)) .value
      else if isSpecial c then
        skip
        return .parameter (String.singleton c) .value
      else return .text ['$']

def braces : Nat → Place → Parser Piece
  | 0, _ => refuse "too deep"
  | fuel + 1, place => do
    match ← peek with
    | none => malformed fuel place ""
    | some c =>
      if isNameStart c then use fuel place (String.ofList (← takeName isNameChar))
      else if c.isDigit then use fuel place (String.ofList (← takeName Char.isDigit))
      else if c = '\x7d' then malformed fuel place ""
      else
        skipUncounted
        if c = '#' then counted fuel place
        else if isSpecial c then use fuel place (String.singleton c)
        else malformed fuel place ""

def counted : Nat → Place → Parser Piece
  | 0, _ => refuse "too deep"
  | fuel + 1, place => do
    let finish (name : String) : Parser Piece := do
      if (← peek) = some '\x7d' then
        skip
        return .parameter name .length
      else malformed fuel place name
    match ← peek with
    | none => use fuel place "#"
    | some c =>
      if isNameStart c then finish (String.ofList (← takeName isNameChar))
      else if c.isDigit then finish (String.ofList (← takeName Char.isDigit))
      else
        let r ← get
        skip
        if c ≠ '\x7d' ∧ (← peek) = some '\x7d' then
          if isSpecial c then finish (String.singleton c) else malformed fuel place ""
        else
          set r
          use fuel place "#"

def use : Nat → Place → String → Parser Piece
  | 0, _, _ => refuse "too deep"
  | fuel + 1, place, name => do
    let filled := (← peek) = some ':'
    if filled then skip
    let word : Parser Word := do
      skip
      pieces fuel (place.inBraces place.wordStyle) []
    let trimmed (side : Side) (c : Char) : Parser Piece := do
      skip
      let longest := (← peek) = some c
      if longest then skip
      return .parameter name
        (.trimmed side longest (← pieces fuel (place.inBraces .bare) []))
    match ← peek with
    | some '\x7d' =>
      if filled then
        let _ ← word
      else skip
      return .parameter name .value
    | some '-' => return .parameter name (.default filled (← word))
    | some '=' => return .parameter name (.assigned filled (← word))
    | some '?' => return .parameter name (.required filled (← word))
    | some '+' => return .parameter name (.alternative filled (← word))
    | other =>
      if other = some '#' ∧ !filled then trimmed .front '#'
      else if other = some '%' ∧ !filled then trimmed .back '%'
      else
        skipUncounted
        malformed fuel place name

def malformed : Nat → Place → String → Parser Piece
  | 0, _, _ => refuse "too deep"
  | fuel + 1, place, name => do
    let _ ← pieces fuel (place.inBraces place.wordStyle) []
    return .parameter name .malformed

def readDocuments : Nat → Parser Unit
  | 0 => refuse "too deep"
  | fuel + 1 => do
    match (← get).awaited with
    | [] => return ()
    | awaited :: rest =>
      modify fun r => { r with awaited := rest }
      let text : Word ←
        if awaited.literal then do
          let s ← literalLines awaited.stop awaited.strips ((← get).rest.length + 1)
          pure [.escaped s]
        else if ← atStop awaited.stop awaited.strips then pure []
        else
          pieces fuel ⟨.double, false, false, some (awaited.stop, awaited.strips), false⟩ []
      modify fun r => { r with documents := r.documents ++ [(awaited.key, text)] }
      readDocuments fuel

def lex : Nat → Bool → Parser Token
  | 0, _ => refuse "too deep"
  | fuel + 1, isStop => do
    match ← peek with
    | none => return .ending
    | some c =>
      if c = ' ' ∨ c = '\t' then
        let _ ← takeRun fun c => c = ' ' || c = '\t'
        lex fuel isStop
      else if c = '#' then
        skipLine
        lex fuel isStop
      else if c = '\n' then
        skip
        return .newline
      else if signsOf c ≠ [] then return .sign (← sign c)
      else
        let word ← pieces fuel { Place.word with isStop := isStop } []
        match ← peek, number? word with
        | some '<', some number => return .redirection (number.getD 0) (← operator '<')
        | some '>', some number => return .redirection (number.getD 1) (← operator '>')
        | _, _ => return .word word

def token : Nat → Checks → Parser Token
  | 0, _ => refuse "too deep"
  | fuel + 1, checks => do
    let r ← get
    let found : Token ←
      match r.held with
      | some token => do
        set { r with held := none }
        pure token
      | none => lex fuel false
    let looksOn ← leaveAliases
    match found with
    | .newline =>
      if checks.newlines then
        readDocuments fuel
        token fuel checks
      else return found
    | .word word =>
      match word.text? with
      | none => return found
      | some s =>
        let name := String.ofList s
        if checks.keywords && name ∈ keywords then return .keyword name
        else if checks.aliases || looksOn then
          if ← enterAlias name then token fuel checks else return found
        else return found
    | _ => return found

def target : Nat → Nat → Operator → Parser Redirection
  | 0, _, _ => refuse "too deep"
  | fuel + 1, number, operator => do
    match operator with
    | .document strips =>
      match ← lex fuel true with
      | .word word =>
        let key := (← get).nextKey
        let awaited : Awaited := ⟨key, unquoted word, strips, word.isQuoted⟩
        modify fun r => { r with nextKey := key + 1, awaited := r.awaited ++ [awaited] }
        return .document number key
      | token => unexpected token
    | .duplicate =>
      match ← token fuel .none with
      | .word word => return .duplicate number word
      | token => unexpected token
    | .file access =>
      match ← token fuel .none with
      | .word word => return .file number access word
      | token => unexpected token

def redirections : Nat → Checks → Parser (List Redirection)
  | 0, _ => refuse "too deep"
  | fuel + 1, checks => do
    match ← token fuel checks with
    | .redirection number operator =>
      let redirection ← target fuel number operator
      return redirection :: (← redirections fuel .none)
    | token =>
      hold token
      return []

def wordsToLineEnd : Nat → Parser (List Word)
  | 0 => refuse "too deep"
  | fuel + 1 => do
    match ← token fuel .none with
    | .word word => return word :: (← wordsToLineEnd fuel)
    | .newline | .sign ";" => return []
    | token => unexpected token

def patterns : Nat → Token → Parser (List Word)
  | 0, _ => refuse "too deep"
  | fuel + 1, first => do
    let word : Word :=
      match first with
      | .word word => word
      | .keyword s | .sign s => [.text s.toList]
      | _ => []
    match ← token fuel .none with
    | .sign "|" => return word :: (← patterns fuel (← token fuel .none))
    | .sign ")" => return [word]
    | token => unexpectedFor token ")"

def branches : Nat → Parser (List (List Word × Command))
  | 0 => refuse "too deep"
  | fuel + 1 => do
    match ← token fuel ⟨true, true, false⟩ with
    | .keyword "esac" => return []
    | first =>
      let first : Token ←
        match first with
        | .sign "(" => token fuel .none
        | first => pure first
      let words ← patterns fuel first
      let body ← list fuel .block none
      let branch := (words, body.getD .nothing)
      match ← token fuel ⟨true, true, false⟩ with
      | .keyword "esac" => return [branch]
      | .sign ";;" => return branch :: (← branches fuel)
      | token => unexpectedFor token ";;"

def listUpTo : Nat → String → Parser Command
  | 0, _ => refuse "too deep"
  | fuel + 1, keyword => do
    let body ← list fuel .body none
    match ← token fuel .none with
    | .keyword s =>
      if s = keyword then return body.getD .nothing
      else unexpectedFor (.keyword s) keyword
    | token => unexpectedFor token keyword

def choice : Nat → Parser Command
  | 0 => refuse "too deep"
  | fuel + 1 => do
    let test ← listUpTo fuel "then"
    let yes ← list fuel .body none
    match ← token fuel .none with
    | .keyword "elif" => return .choice test (yes.getD .nothing) (← choice fuel)
    | .keyword "else" =>
      return .choice test (yes.getD .nothing) (← listUpTo fuel "fi")
    | .keyword "fi" => return .choice test (yes.getD .nothing) .nothing
    | token => unexpectedFor token "fi"

def forEach : Nat → Nat → Parser Command
  | 0, _ => refuse "too deep"
  | fuel + 1, line => do
    let name : List Char ←
      match ← token fuel .none with
      | .word word =>
        match word.text? with
        | some s => if isName s then pure s else refuse "Bad for loop variable"
        | none => refuse "Bad for loop variable"
      | _ => refuse "Bad for loop variable"
    let words : List Word ←
      match ← token fuel .nextCommand with
      | .keyword "in" => wordsToLineEnd fuel
      | .sign ";" => pure [[.quotation [.parameter "@" .value]]]
      | token => do
        hold token
        pure [[.quotation [.parameter "@" .value]]]
    match ← token fuel .nextCommand with
    | .keyword "do" =>
      let body ← listUpTo fuel "done"
      return .forEach line (String.ofList name) words body
    | token => unexpectedFor token "do"

def cases : Nat → Nat → Parser Command
  | 0, _ => refuse "too deep"
  | fuel + 1, line => do
    match ← token fuel .none with
    | .word subject =>
      match ← token fuel .nextCommand with
      | .keyword "in" => return .cases line subject (← branches fuel)
      | token => unexpectedFor token "in"
    | token => refuse s!"{token.describe} unexpected (expecting word)"

def command : Nat → Checks → Parser Command
  | 0, _ => refuse "too deep"
  | fuel + 1, checks => do
    let line := (← get).line
    let redirect (body : Command) : Parser Command := do
      return Command.withRedirections line body (← redirections fuel .command)
    match ← token fuel checks with
    | .keyword "if" => redirect (← choice fuel)
    | .keyword "while" =>
      let test ← listUpTo fuel "do"
      redirect (.loop true test (← listUpTo fuel "done"))
    | .keyword "until" =>
      let test ← listUpTo fuel "do"
      redirect (.loop false test (← listUpTo fuel "done"))
    | .keyword "for" => redirect (← forEach fuel line)
    | .keyword "case" => redirect (← cases fuel line)
    | .keyword "\x7b" => redirect (← listUpTo fuel "\x7d")
    | .sign "(" =>
      let body ← list fuel .body none
      match ← token fuel .none with
      | .sign ")" =>
        return .subshell line (body.getD .nothing) (← redirections fuel .command)
      | token => unexpectedFor token ")"
    | .word word =>
      hold (.word word)
      simple fuel (← get).line true [] [] []
    | .redirection number operator =>
      hold (.redirection number operator)
      simple fuel (← get).line true [] [] []
    | token => unexpected token

/-- Assignments, words and redirections up to a token of another kind; `mayAssign` until there is a
word. All of them stand in reverse. -/
def simple : Nat → Nat → Bool → List (String × Word) → List Word → List Redirection →
    Parser Command
  | 0, _, _, _, _, _ => refuse "too deep"
  | fuel + 1, line, mayAssign, assignments, words, redirections => do
    let finish (token : Token) : Parser Command := do
      hold token
      return .simple line assignments.reverse words.reverse redirections.reverse
    match ← token fuel ⟨false, false, mayAssign⟩ with
    | .word word =>
      match if mayAssign then word.assignment? else none with
      | some assignment =>
        simple fuel line mayAssign (assignment :: assignments) words redirections
      | none => simple fuel line false assignments (word :: words) redirections
    | .redirection number operator =>
      let redirection ← target fuel number operator
      simple fuel line mayAssign assignments words (redirection :: redirections)
    | .sign "(" =>
      match assignments, words, redirections with
      | [], [word], [] =>
        match ← token fuel .none with
        | .sign ")" =>
          let name := (word.text?).getD []
          if !isName name || String.ofList name ∈ specialCommands then refuse "Bad function name"
          else
            let line := (← get).line
            return .function line (String.ofList name) (← command fuel .nextCommand)
        | token => unexpectedFor token ")"
      | _, _, _ => finish (.sign "(")
    | token => finish token

def pipeline : Nat → Checks → Parser Command
  | 0, _ => refuse "too deep"
  | fuel + 1, checks => do
    match ← token fuel checks with
    | .keyword "!" => return .negation (← piped fuel .command)
    | token =>
      hold token
      piped fuel .none

def piped : Nat → Checks → Parser Command
  | 0, _ => refuse "too deep"
  | fuel + 1, checks => do
    let first ← command fuel checks
    match ← morePiped fuel with
    | [] => return first
    | more => return .pipeline (first :: more)

def morePiped : Nat → Parser (List Command)
  | 0 => refuse "too deep"
  | fuel + 1 => do
    match ← token fuel .none with
    | .sign "|" =>
      let next ← command fuel .nextCommand
      return next :: (← morePiped fuel)
    | token =>
      hold token
      return []

def andOr : Nat → Command → Parser Command
  | 0, _ => refuse "too deep"
  | fuel + 1, first => do
    match ← token fuel .none with
    | .sign "&&" => andOr fuel (.both first (← pipeline fuel .nextCommand))
    | .sign "||" => andOr fuel (.either first (← pipeline fuel .nextCommand))
    | token =>
      hold token
      return first

def list : Nat → Extent → Option Command → Parser (Option Command)
  | 0, _, _ => refuse "too deep"
  | fuel + 1, extent, first => do
    let found ← token fuel { Checks.nextCommand with newlines := extent ≠ .line }
    match found with
    | .newline =>
      readDocuments fuel
      return first
    | .ending =>
      readDocuments fuel
      hold found
      return first
    | _ =>
      hold found
      if endsList found && (extent = .block || extent = .body && first.isSome) then return first
      else
        let next ← andOr fuel (← pipeline fuel .none)
        let behind ← token fuel .none
        let join (next : Command) : Command :=
          match first with
          | none => next
          | some first => .sequence first next
        match behind with
        | .newline | .ending =>
          hold behind
          list fuel extent (some (join next))
        | .sign ";" => list fuel extent (some (join next))
        | .sign "&" => list fuel extent (some (join (.background next)))
        | _ =>
          if extent = .line then unexpected behind
          else
            hold behind
            return some (join next)

end

def stepsPerChar : Nat := 16

/-- The parts of a text in which parameters and commands are replaced as between double quotes. -/
def quotedText (text : List Char) : Word :=
  let place : Place := ⟨.double, false, false, some ([Char.ofNat 0], false), false⟩
  match (pieces (stepsPerChar * (text.length + 4)) place []).run (Reader.ofText text 1 0) with
  | .ok (word, _) => word
  | .error _ => [.escaped text]

def nextLine (reader : Reader) : Except Flaw (Option (Command × Reader)) :=
  let fuel := stepsPerChar * (reader.rest.length + 4)
  match (list fuel .line none).run reader with
  | .error flaw => .error flaw
  | .ok (some command, reader) => .ok (some (command, reader))
  | .ok (none, reader) =>
    match reader.held with
    | some .ending => .ok none
    | _ => .ok (some (.nothing, reader))

end EnvTemplate.Child.Script
