import EnvTemplate.Child.Numeral
import EnvTemplate.FileTree.Access
import EnvTemplate.Text.Bytewise

/-! Conditions on texts, numbers and files, as a shell tests them. -/

namespace EnvTemplate.Child.Condition

open Text.Utf8 (encode decode)

def standing (files : FileTree) (purpose : Purpose) (path : Bytes) : Option Entry :=
  match files.locate purpose ⟨path⟩ with
  | .ok location => files.at? location
  | .error _ => none

def number (text : Bytes) : Except Bytes Int :=
  match Numeral.whole? false (Text.Bytewise.read text) with
  | some n => .ok n
  | none => .error (encode "Illegal number: " ++ text)

def letters : List Char := "bcdefghknprstuwxzGLOS".toList

def unary (files : FileTree) (letter : Char) (operand : Bytes) : Except Bytes Bool :=
  let target := standing files .target operand
  match letter with
  | 'n' => .ok (operand ≠ [])
  | 'z' => .ok (operand = [])
  | 't' => (number operand).map fun _ => false
  | 'e' | 'r' | 'w' | 'O' | 'G' => .ok target.isSome
  | 'f' => .ok (files.isFile ⟨operand⟩)
  | 'd' => .ok (target = some .directory)
  | 'c' =>
    .ok (match target with
      | some (.device _) => true
      | _ => false)
  | 'h' | 'L' =>
    .ok (match standing files .entry operand with
      | some (.link _) => true
      | _ => false)
  | 's' =>
    .ok (match target with
      | some (.file content) => !content.isEmpty
      | some .directory | some (.program _) => true
      | _ => false)
  | 'x' =>
    .ok (match target with
      | some .directory | some (.program _) => true
      | _ => false)
  | _ => .ok false

def comparisons : List (String × (Int → Int → Bool)) :=
  [("-eq", (· == ·)), ("-ne", (· != ·)), ("-gt", fun a b => decide (b < a)),
    ("-ge", fun a b => decide (b ≤ a)), ("-lt", fun a b => decide (a < b)),
    ("-le", fun a b => decide (a ≤ b))]

def isSame (files : FileTree) (a b : Bytes) : Bool :=
  match files.locate .target ⟨a⟩, files.locate .target ⟨b⟩ with
  | .ok here, .ok there => here = there && (files.at? here).isSome
  | _, _ => false

def changed? (files : FileTree) (path : Bytes) : Option Moment :=
  (files.locate .target ⟨path⟩).toOption.bind files.changedAt?

def isNewer (files : FileTree) (a b : Bytes) : Bool :=
  match changed? files a, changed? files b with
  | some x, some y => y < x
  | _, _ => false

def compare (files : FileTree) (a : Bytes) (name : String) (b : Bytes) : Except Bytes Bool :=
  match name with
  | "=" => .ok (a = b)
  | "!=" => .ok (a ≠ b)
  | "<" => .ok (a < b)
  | ">" => .ok (b < a)
  | "-ef" => .ok (isSame files a b)
  | "-nt" => .ok (isNewer files a b)
  | "-ot" => .ok (isNewer files b a)
  | _ =>
    match comparisons.lookup name, number a, number b with
    | none, _, _ => .ok false
    | some _, .error reason, _ => .error reason
    | some _, .ok _, .error reason => .error reason
    | some holds, .ok x, .ok y => .ok (holds x y)

inductive Operator
  | unary (letter : Char)
  | binary (name : String)
  | not
  | and
  | or
  | opening
  | closing
  deriving DecidableEq, Repr

def binaries : List String :=
  ["=", "!=", "<", ">", "-nt", "-ot", "-ef"] ++ comparisons.map Prod.fst

def operator? (word : Bytes) : Option Operator :=
  match Text.Bytewise.read word with
  | ['!'] => some .not
  | ['-', 'a'] => some .and
  | ['-', 'o'] => some .or
  | ['('] => some .opening
  | [')'] => some .closing
  | ['-', letter] =>
    if letter ∈ letters then some (.unary letter) else none
  | _ =>
    let name := decode word
    if name ∈ binaries then some (.binary name) else none

def isBinary (word : Bytes) : Bool :=
  match operator? word with
  | some (.binary _) => true
  | _ => false

def operatorAt? : List Bytes → Option Operator
  | [] => none
  | word :: rest =>
    let operator := operator? word
    match operator with
    | some (.unary _) =>
      match rest with
      | [] => none
      | [_] => operator
      | next :: _ => if isBinary next then none else operator
    | some .opening => if rest = [] then none else operator
    | _ => operator

inductive Phrase
  /-- Conditions of which one has to hold, one of those before having held or not. -/
  | anyOf (before : Bool)
  | allOf (before : Bool)
  | negated
  | primary
  deriving DecidableEq, Repr

def phrase (files : FileTree) : Nat → Phrase → List Bytes → Except Bytes (Bool × List Bytes)
  | 0, _, words => .ok (false, words)
  | fuel + 1, kind, words =>
    match kind with
    | .anyOf before =>
      match phrase files fuel (.allOf true) words with
      | .error reason => .error reason
      | .ok (holds, rest) =>
        if operatorAt? rest = some .or then phrase files fuel (.anyOf (before || holds)) rest.tail
        else .ok (before || holds, rest)
    | .allOf before =>
      match phrase files fuel .negated words with
      | .error reason => .error reason
      | .ok (holds, rest) =>
        if operatorAt? rest = some .and then phrase files fuel (.allOf (before && holds)) rest.tail
        else .ok (before && holds, rest)
    | .negated =>
      match words with
      | _ :: rest =>
        if operatorAt? words = some .not then
          if rest = [] then .ok (true, [])
          else (phrase files fuel .negated rest).map fun (holds, rest) => (!holds, rest)
        else phrase files fuel .primary words
      | [] => .ok (false, [])
    | .primary =>
      match words with
      | [] => .ok (false, [])
      | a :: rest =>
        match operatorAt? words, rest with
        | some .opening, _ =>
          if operatorAt? rest = some .closing then .ok (false, rest.tail)
          else
            match phrase files fuel (.anyOf false) rest with
            | .error reason => .error reason
            | .ok (holds, rest) =>
              if operatorAt? rest = some .closing then .ok (holds, rest.tail)
              else .error (encode "closing paren expected")
        | some (.unary letter), operand :: rest =>
          (unary files letter operand).map fun holds => (holds, rest)
        | _, name :: more =>
          if !isBinary name then .ok (a ≠ [], rest)
          else
            match more with
            | [] => .error (name ++ encode ": argument expected")
            | b :: more =>
              (compare files a (decode name) b).map fun holds => (holds, more)
        | _, [] => .ok (a ≠ [], [])

def whole (files : FileTree) (words : List Bytes) : Except Bytes Bool :=
  match phrase files (4 * (words.length + 1)) (.anyOf false) words with
  | .error reason => .error reason
  | .ok (holds, []) => .ok holds
  | .ok (_, rest) =>
    let last := (words.take (words.length - rest.length)).getLast?.getD []
    .error ((if last = [] then [] else last ++ encode ": ") ++ encode "unexpected operator")

/-- The value of three words: with an operator between them they are a comparison, whatever the others
are. -/
def ofThree (files : FileTree) (a name b : Bytes) : Except Bytes Bool :=
  if isBinary name then compare files a (decode name) b
  else if a = encode "(" ∧ b = encode ")" then whole files [name]
  else if a = encode "!" then (whole files [name, b]).map (!·)
  else whole files [a, name, b]

/-- The value of four words. Of signs of negation before the last two of them only one counts. -/
def ofFour (files : FileTree) (a b c d : Bytes) : Except Bytes Bool :=
  if a = encode "(" ∧ d = encode ")" then whole files [b, c]
  else if a ≠ encode "!" then whole files [a, b, c, d]
  else if b = encode "!" ∧ !isBinary c then (whole files [c, d]).map (!·)
  else (ofThree files b c d).map (!·)

def eval (files : FileTree) : List Bytes → Except Bytes Bool
  | [a, b, c] => ofThree files a b c
  | [a, b, c, d] => ofFour files a b c d
  | words => whole files words

end EnvTemplate.Child.Condition
