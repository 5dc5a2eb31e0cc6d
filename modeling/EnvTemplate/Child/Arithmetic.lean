import EnvTemplate.Child.Numeral

/-! Arithmetic on whole numbers of 64 bits. -/

namespace EnvTemplate.Child

namespace Arithmetic

inductive Binary
  | multiply | divide | remainder
  | add | subtract
  | shiftLeft | shiftRight
  | less | atMost | greater | atLeast
  | equal | unequal
  | bitAnd | bitXor | bitOr
  deriving DecidableEq, Repr

inductive Unary
  | negate
  | complement
  | not
  deriving DecidableEq, Repr

inductive Expr
  | number (value : Int)
  | named (name : String)
  | unary (operator : Unary) (operand : Expr)
  | binary (operator : Binary) (left right : Expr)
  | both (left right : Expr)
  | either (left right : Expr)
  | choice (test yes no : Expr)
  /-- An assignment; with an operator it is applied to the old value. -/
  | assign (operator : Option Binary) (name : String) (value : Expr)
  /-- What stands here is no expression, whether it is evaluated or not. -/
  | flawed (reason : String)
  | before (value : Expr) (reason : String)
  deriving Repr

inductive Token
  | number (value : Int)
  | name (s : String)
  | sign (s : String)
  | other
  deriving DecidableEq, Repr

def isNameStart (c : Char) : Bool := c.isAlpha || c = '_'

def signs : List String :=
  ["<<=", ">>=", "<<", ">>", "<=", ">=", "==", "!=", "&&", "||", "*=", "/=", "%=", "+=", "-=", "&=",
    "^=", "|=", "*", "/", "%", "+", "-", "<", ">", "=", "&", "|", "^", "!", "~", "?", ":", "(", ")"]

def tokens : Nat → List Char → List Token
  | 0, _ | _, [] => []
  | fuel + 1, c :: rest =>
    if c = ' ' ∨ c = '\t' ∨ c = '\n' then tokens fuel rest
    else if c.isDigit then
      let (n, rest) := Numeral.readUnsigned (c :: rest)
      .number (min Numeral.maxValue n) :: tokens fuel rest
    else if isNameStart c then
      let isInName (c : Char) : Bool := isNameStart c || c.isDigit
      .name (String.ofList (c :: rest.takeWhile isInName)) :: tokens fuel (rest.dropWhile isInName)
    else
      match signs.find? fun sign => sign.toList.isPrefixOf (c :: rest) with
      | some sign => .sign sign :: tokens fuel ((c :: rest).drop sign.length)
      | none => .other :: tokens fuel rest

def levels : List (List (String × Binary)) :=
  [[("*", .multiply), ("/", .divide), ("%", .remainder)], [("+", .add), ("-", .subtract)],
    [("<<", .shiftLeft), (">>", .shiftRight)],
    [("<", .less), ("<=", .atMost), (">", .greater), (">=", .atLeast)],
    [("==", .equal), ("!=", .unequal)], [("&", .bitAnd)], [("^", .bitXor)], [("|", .bitOr)]]

def operator? (level : Nat) (sign : String) : Option Binary := (levels.getD level []).lookup sign

def assigned? (sign : String) : Option (Option Binary) :=
  match sign with
  | "=" => some none
  | "*=" => some (some .multiply)
  | "/=" => some (some .divide)
  | "%=" => some (some .remainder)
  | "+=" => some (some .add)
  | "-=" => some (some .subtract)
  | "<<=" => some (some .shiftLeft)
  | ">>=" => some (some .shiftRight)
  | "&=" => some (some .bitAnd)
  | "^=" => some (some .bitXor)
  | "|=" => some (some .bitOr)
  | _ => none

inductive Phrase
  | assignment
  | choice
  | either
  | both
  | joined (level : Nat)
  /-- More operands behind one, joined by operators of a level. -/
  | more (level : Nat) (left : Expr)
  | operand

def phrase : Nat → Phrase → List Token → Expr × List Token
  | 0, _, tokens => (.flawed "expecting primary", tokens)
  | fuel + 1, kind, tokens =>
    match kind with
    | .assignment =>
      match tokens with
      | .name name :: .sign sign :: rest =>
        match assigned? sign with
        | some operator =>
          let (value, rest) := phrase fuel .assignment rest
          (.assign operator name value, rest)
        | none => phrase fuel .choice tokens
      | _ => phrase fuel .choice tokens
    | .choice =>
      match phrase fuel .either tokens with
      | (test, .sign "?" :: rest) =>
        match phrase fuel .assignment rest with
        | (yes, .sign ":" :: rest) =>
          let (no, rest) := phrase fuel .choice rest
          (.choice test yes no, rest)
        | (yes, rest) => (.choice test yes (.flawed "expecting ':'"), rest)
      | found => found
    | .either =>
      match phrase fuel .both tokens with
      | (left, .sign "||" :: rest) =>
        let (right, rest) := phrase fuel .either rest
        (.either left right, rest)
      | found => found
    | .both =>
      match phrase fuel (.joined (levels.length - 1)) tokens with
      | (left, .sign "&&" :: rest) =>
        let (right, rest) := phrase fuel .both rest
        (.both left right, rest)
      | found => found
    | .joined level =>
      let (left, rest) :=
        match level with
        | 0 => phrase fuel .operand tokens
        | lower + 1 => phrase fuel (.joined lower) tokens
      phrase fuel (.more level left) rest
    | .more level left =>
      match tokens with
      | .sign sign :: rest =>
        match operator? level sign with
        | none => (left, tokens)
        | some operator =>
          let (right, rest) :=
            match level with
            | 0 => phrase fuel .operand rest
            | lower + 1 => phrase fuel (.joined lower) rest
          phrase fuel (.more level (.binary operator left right)) rest
      | _ => (left, tokens)
    | .operand =>
      let under (operator : Unary) (rest : List Token) : Expr × List Token :=
        let (operand, rest) := phrase fuel .operand rest
        (.unary operator operand, rest)
      match tokens with
      | .number value :: rest => (.number value, rest)
      | .name name :: rest => (.named name, rest)
      | .sign "(" :: rest =>
        match phrase fuel .assignment rest with
        | (inner, .sign ")" :: rest) => (inner, rest)
        | (inner, rest) => (.before inner "expecting ')'", rest)
      | .sign "+" :: rest => phrase fuel .operand rest
      | .sign "-" :: rest => under .negate rest
      | .sign "~" :: rest => under .complement rest
      | .sign "!" :: rest => under .not rest
      | _ => (.flawed "expecting primary", tokens)

def parse (text : List Char) : Expr :=
  let tokens := tokens text.length text
  match phrase (32 * (tokens.length + 1)) .assignment tokens with
  | (value, []) => value
  | (value, _) => .before value "expecting EOF"

def wrap (n : Int) : Int := n.bmod (Nat.pow 2 64)

def ofBool (b : Bool) : Int := if b then 1 else 0

def onWords (f : UInt64 → UInt64 → UInt64) (a b : Int) : Int :=
  wrap (f (UInt64.ofNat (a % Int.pow 2 64).toNat) (UInt64.ofNat (b % Int.pow 2 64).toNat)).toNat

def Binary.apply (operator : Binary) (a b : Int) : Option Int :=
  match operator with
  | multiply => some (wrap (a * b))
  | divide => if b = 0 then none else some (wrap (a.tdiv b))
  | remainder => if b = 0 then none else some (wrap (a.tmod b))
  | add => some (wrap (a + b))
  | subtract => some (wrap (a - b))
  | shiftLeft => some (wrap (a * Int.pow 2 (b % 64).toNat))
  | shiftRight => some (a / Int.pow 2 (b % 64).toNat)
  | less => some (ofBool (a < b))
  | atMost => some (ofBool (a ≤ b))
  | greater => some (ofBool (b < a))
  | atLeast => some (ofBool (b ≤ a))
  | equal => some (ofBool (a = b))
  | unequal => some (ofBool (a ≠ b))
  | bitAnd => some (onWords (· &&& ·) a b)
  | bitXor => some (onWords (· ^^^ ·) a b)
  | bitOr => some (onWords (· ||| ·) a b)

def Unary.apply (operator : Unary) (a : Int) : Int :=
  match operator with
  | negate => wrap (-a)
  | complement => -a - 1
  | not => ofBool (a = 0)

inductive Failure
  | expression (reason : String)
  | unusable (message : List UInt8)
  deriving DecidableEq, Repr

structure Access (σ : Type) where
  get : σ → String → Except (List UInt8) Int
  set : σ → String → Int → Except (List UInt8) σ

/-- The value of an expression, and the state it leaves. What is not `live` is only looked through
for what is no expression. -/
def Expr.eval {σ : Type} (access : Access σ) : Expr → Bool → σ → Except Failure (Int × σ)
  | number value, _, s => .ok (value, s)
  | named name, live, s =>
    if !live then .ok (0, s)
    else
      match access.get s name with
      | .ok value => .ok (value, s)
      | .error message => .error (.unusable message)
  | unary operator operand, live, s =>
    (operand.eval access live s).map fun (a, s) => (operator.apply a, s)
  | binary operator left right, live, s =>
    match left.eval access live s with
    | .error failure => .error failure
    | .ok (a, s) =>
      match right.eval access live s with
      | .error failure => .error failure
      | .ok (b, s) =>
        match operator.apply a b with
        | some c => .ok (c, s)
        | none => if live then .error (.expression "division by zero") else .ok (b, s)
  | both left right, live, s =>
    match left.eval access live s with
    | .error failure => .error failure
    | .ok (a, s) =>
      (right.eval access (live && a ≠ 0) s).map fun (b, s) => (ofBool (a ≠ 0 ∧ b ≠ 0), s)
  | either left right, live, s =>
    match left.eval access live s with
    | .error failure => .error failure
    | .ok (a, s) =>
      (right.eval access (live && a = 0) s).map fun (b, s) => (ofBool (a ≠ 0 ∨ b ≠ 0), s)
  | choice test yes no, live, s =>
    match test.eval access live s with
    | .error failure => .error failure
    | .ok (a, s) =>
      match yes.eval access (live && a ≠ 0) s with
      | .error failure => .error failure
      | .ok (b, s) =>
        (no.eval access (live && a = 0) s).map fun (c, s) => (if a ≠ 0 then b else c, s)
  | assign operator name value, live, s =>
    match value.eval access live s with
    | .error failure => .error failure
    | .ok (b, s) =>
      if !live then .ok (b, s)
      else
        let result : Except Failure Int :=
          match operator with
          | none => .ok b
          | some operator =>
            match access.get s name with
            | .error message => .error (.unusable message)
            | .ok a =>
              match operator.apply a b with
              | some c => .ok c
              | none => .error (.expression "division by zero")
        match result with
        | .error failure => .error failure
        | .ok c =>
          match access.set s name c with
          | .ok s => .ok (c, s)
          | .error message => .error (.unusable message)
  | flawed reason, _, _ => .error (.expression reason)
  | before value reason, live, s =>
    match value.eval access live s with
    | .error failure => .error failure
    | .ok _ => .error (.expression reason)

end Arithmetic

end EnvTemplate.Child
