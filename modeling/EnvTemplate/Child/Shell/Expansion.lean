import EnvTemplate.Child.Arithmetic
import EnvTemplate.Child.Pattern
import EnvTemplate.Child.Shell.Jobs

/-! The expansion of words: what their parts stand for, before it is split into fields. -/

namespace EnvTemplate.Child

inductive Splitting
  | none
  | atSeparators
  /-- Only where one argument ends and the next begins. -/
  | atArguments
  deriving DecidableEq, Repr

/-- A byte of an expanded word, or the place of a quotation mark, which keeps a field from being
left out. A zero byte stands between two arguments. -/
inductive Item
  | glyph (g : Glyph)
  | mark
  deriving DecidableEq, Repr

structure Span where
  splitting : Splitting
  items : List Item
  deriving DecidableEq, Repr

namespace Span

def ofBytes (splitting : Splitting) (quoted : Bool) (bytes : Bytes) : Span :=
  ⟨splitting, bytes.map fun b => .glyph ⟨b, quoted⟩⟩

def glyphs (spans : List Span) : List Glyph :=
  spans.flatMap fun span => span.items.filterMap fun
    | .glyph g => some g
    | .mark => Option.none

def bytes (spans : List Span) : Bytes := (glyphs spans).map Glyph.byte

end Span

structure Manner where
  quoted : Bool
  splits : Bool
  /-- Text that is not quoted is split as well, as it stands in place of a parameter. -/
  splitsText : Bool

namespace Shell

open Text.Utf8 (encode)

def homeOf? (sh : Shell) (user : List Char) : Option Bytes :=
  if user = [] then sh.lookup? "HOME"
  else if user = "root".toList then some (encode "/root")
  else none

def tildeAtStart (sh : Shell) (ends : Char → Bool) (more : Bool) (s : List Char) : List Piece :=
  match s with
  | '~' :: rest =>
    let user := rest.takeWhile fun c => !ends c
    let behind := rest.drop user.length
    if behind = [] ∧ more then [.text s]
    else
      match sh.homeOf? user with
      | none => [.text s]
      | some home => [.escaped (Text.Bytewise.read home), .text behind]
  | _ => [.text s]

def tilde (sh : Shell) : Word → Word
  | .text s :: rest => sh.tildeAtStart (· = '/') (!rest.isEmpty) s ++ rest
  | word => word

def atColons (s : List Char) : List (List Char) :=
  match (s.splitOn ':').reverse with
  | [] => []
  | last :: before => (before.map (· ++ [':'])).reverse ++ [last]

def tildes (sh : Shell) : Bool → Word → Word
  | _, [] => []
  | first, .text s :: rest =>
    let parts := atColons s
    let shown := (parts.zipIdx.flatMap fun (part, i) =>
      if i = 0 ∧ !first then [.text part]
      else sh.tildeAtStart (fun c => c = '/' || c = ':') (i + 1 = parts.length && !rest.isEmpty) part)
    shown ++ tildes sh false rest
  | _, piece :: rest => piece :: tildes sh false rest

def splittingOf (manner : Manner) : Splitting := if manner.quoted then .none else .atSeparators

def argumentsValue (sh : Shell) (manner : Manner) (isAt : Bool) : Splitting × Bytes :=
  let joined (separator : Bytes) : Bytes := separator.intercalate sh.arguments
  if manner.quoted && manner.splits && isAt then
    if sh.arguments = [] then (.none, []) else (.atArguments, joined [0])
  else
    let separator :=
      match sh.lookup? "IFS" with
      | none => [0x20]
      | some separators =>
        if manner.splits && !manner.quoted then [0] else separators.take 1
    (splittingOf manner, joined separator)

def valueOf? (sh : Shell) (manner : Manner) (name : String) : Option (Splitting × Bytes) :=
  if name = "@" ∨ name = "*" then some (sh.argumentsValue manner (name = "@"))
  else (sh.parameter? name).map fun bytes => (splittingOf manner, bytes)

def integer (sh : Shell) (name : String) : Except Bytes Int :=
  let value := (sh.lookup? name).getD []
  match Numeral.whole? true (Text.Bytewise.read value) with
  | some n => .ok n
  | none => .error (encode "Illegal number: " ++ value)

def arithmeticAccess : Arithmetic.Access Shell where
  get := integer
  set sh name value := sh.assign name (encode (toString value))

def calculate (text : Bytes) : Attempt Bytes := do
  let sh ← get
  match (Arithmetic.parse (Text.Bytewise.read text)).eval arithmeticAccess true sh with
  | .ok (value, sh) =>
    set sh
    return encode (toString value)
  | .error (.unusable message) => throw message
  | .error (.expression reason) =>
    throw (encode s!"arithmetic expression: {reason}: \"" ++ text ++ encode "\"")

def outputOf (engine : Engine) (command : Command) : Attempt Bytes := do
  let sh ← get
  if !sh.system.hasNumbers sh.descriptors 2 then throw noPipe
  let (bytes, status) ← capture engine (engine.run Role.alone.last command)
  modify fun sh => { sh with answered := some status.code }
  let kept := (bytes.filter (· ≠ 0)).reverse.dropWhile (· = 0x0A)
  return kept.reverse

def expandPiece (engine : Engine) : Nat → Manner → Piece → Attempt (List Span)
  | 0, _, _ => return []
  | depth + 1, manner, piece => do
    let inside (manner : Manner) (pieces : Word) : Attempt (List Span) := do
      return (← pieces.mapM (expandPiece engine depth manner)).flatten
    match piece with
    | .text s =>
      let splitting : Splitting :=
        if manner.splitsText && !manner.quoted then .atSeparators else .none
      return [Span.ofBytes splitting manner.quoted (Text.Bytewise.write s)]
    | .escaped s => return [Span.ofBytes .none true (Text.Bytewise.write s)]
    | .quotation [.parameter "@" .value] =>
      inside { manner with quoted := true } [.parameter "@" .value]
    | .quotation pieces =>
      let spans ← inside { manner with quoted := true } pieces
      return ⟨.none, [.mark]⟩ :: spans ++ [⟨.none, [.mark]⟩]
    | .output command =>
      let bytes ← outputOf engine command
      return [Span.ofBytes (splittingOf manner) manner.quoted bytes]
    | .arithmetic pieces =>
      let spans ← inside ⟨true, false, false⟩ pieces
      let bytes ← calculate (Span.bytes spans)
      return [Span.ofBytes (splittingOf manner) manner.quoted bytes]
    | .parameter name use =>
      let sh ← get
      let value := sh.valueOf? manner name
      let display (splitting : Splitting) (bytes : Bytes) : List Span :=
        [Span.ofBytes splitting manner.quoted bytes]
      let isFilled (filled : Bool) : Bool := value.any fun (_, bytes) => !filled || bytes ≠ []
      let shown : List Span := (value.map fun (splitting, bytes) => display splitting bytes).getD []
      let whole (word : Word) : Attempt Bytes := do
        return Span.bytes (← inside ⟨false, false, false⟩ (sh.tilde word))
      let inPlace (word : Word) : Attempt (List Span) :=
        inside { manner with splitsText := true } (sh.tilde word)
      let unset {α : Type} : Attempt α := throw (encode s!"{name}: parameter not set")
      match use with
      | .malformed => throw (encode "Bad substitution")
      | .value => if value.isNone && sh.has 'u' then unset else return shown
      | .length =>
        if value.isNone && sh.has 'u' then unset
        else
          let length := (value.map fun (_, bytes) => bytes.length).getD 0
          return display (splittingOf manner) (decimal length)
      | .default filled word => if isFilled filled then return shown else inPlace word
      | .alternative filled word => if isFilled filled then inPlace word else return []
      | .assigned filled word =>
        if isFilled filled then return shown
        else
          let bytes ← whole word
          match (← get).assign name bytes with
          | .error message => throw message
          | .ok sh =>
            set sh
            return display (splittingOf manner) bytes
      | .required filled word =>
        if isFilled filled then return shown
        else
          let given ← if word.isEmpty then pure [] else whole word
          let reason :=
            if !word.isEmpty then given
            else if filled then encode "parameter not set or null"
            else encode "parameter not set"
          throw (encode s!"{name}: " ++ reason)
      | .trimmed side longest word =>
        match value with
        | none => if sh.has 'u' then unset else return []
        | some (splitting, bytes) =>
          let spans ← inside ⟨false, false, false⟩ (sh.tilde word)
          let pattern := Pattern.ofGlyphs (Span.glyphs spans)
          let left :=
            match side with
            | .front => Pattern.trimFront pattern longest bytes
            | .back => Pattern.trimBack pattern longest bytes
          return display splitting left

def maxNesting : Nat := 1000

def expandAs (engine : Engine) (manner : Manner) (word : Word) : Attempt (List Span) := do
  return (← word.mapM (expandPiece engine maxNesting manner)).flatten

def expandWhole (engine : Engine) (word : Word) : Attempt Bytes := do
  return Span.bytes (← expandAs engine ⟨false, false, false⟩ ((← get).tilde word))

def expandValue (engine : Engine) (word : Word) : Attempt Bytes := do
  return Span.bytes (← expandAs engine ⟨false, false, false⟩ ((← get).tildes true word))

def expandPattern (engine : Engine) (word : Word) : Attempt (List Part) := do
  let spans ← expandAs engine ⟨false, false, false⟩ ((← get).tilde word)
  return Pattern.ofGlyphs (Span.glyphs spans)

def expandDocument (engine : Engine) (word : Word) : Attempt Bytes := do
  return Span.bytes (← expandAs engine ⟨true, false, false⟩ word)

end Shell

end EnvTemplate.Child
