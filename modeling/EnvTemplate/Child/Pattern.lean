import EnvTemplate.Bytes

/-! Patterns of texts: a star stands for any bytes, a question mark for one, and brackets for one of
those in them. -/

namespace EnvTemplate.Child

structure Glyph where
  byte : UInt8
  quoted : Bool
  deriving DecidableEq, Repr

inductive Part
  | byte (b : UInt8)
  | any
  | many
  | oneOf (inverted : Bool) (members : UInt8 → Bool)

namespace Pattern

def isSign (g : Glyph) (c : Char) : Bool := !g.quoted && g.byte.toNat = c.toNat

def inRange (low high b : UInt8) : Bool := low.toInt8 ≤ b.toInt8 && b.toInt8 ≤ high.toInt8

def classOf? (name : String) : Option (UInt8 → Bool) :=
  let onChar (p : Char → Bool) (b : UInt8) : Bool := p (Char.ofNat b.toNat)
  let isGraph (c : Char) : Bool := 0x21 ≤ c.toNat && c.toNat ≤ 0x7E
  match name with
  | "alnum" => some (onChar Char.isAlphanum)
  | "alpha" => some (onChar Char.isAlpha)
  | "blank" => some (onChar fun c => c = ' ' || c = '\t')
  | "cntrl" => some (onChar fun c => c.toNat < 0x20 || c.toNat = 0x7F)
  | "digit" => some (onChar Char.isDigit)
  | "graph" => some (onChar isGraph)
  | "lower" => some (onChar Char.isLower)
  | "print" => some (onChar fun c => c = ' ' || isGraph c)
  | "punct" => some (onChar fun c => isGraph c && !c.isAlphanum)
  | "space" => some (onChar fun c => c = ' ' || (9 ≤ c.toNat && c.toNat ≤ 13))
  | "upper" => some (onChar Char.isUpper)
  | "xdigit" => some (onChar fun c => c.isDigit || ('a' ≤ c && c ≤ 'f') || ('A' ≤ c && c ≤ 'F'))
  | _ => none

def class? (rest : List Glyph) : Option ((UInt8 → Bool) × List Glyph) :=
  match rest with
  | colon :: rest =>
    if isSign colon ':' then
      let name := rest.takeWhile fun g => !isSign g ':'
      match rest.drop name.length with
      | _ :: close :: rest =>
        if isSign close ']' then
          (classOf? (String.ofList (name.map fun g => Char.ofNat g.byte.toNat))).map (·, rest)
        else none
      | _ => none
    else none
  | [] => none

/-- A glyph that is taken as it is: the one after an unquoted backslash, or else the next one. -/
def plain? : List Glyph → Option (UInt8 × List Glyph)
  | [] => none
  | g :: rest =>
    if isSign g '\\' then
      match rest with
      | [] => none
      | next :: rest => some (next.byte, rest)
    else some (g.byte, rest)

def members? : Nat → Bool → List Glyph → Option ((UInt8 → Bool) × List Glyph)
  | 0, _, _ => none
  | fuel + 1, isFirst, glyphs =>
    match glyphs with
    | [] => none
    | g :: rest =>
      if isSign g ']' ∧ !isFirst then some (fun _ => false, rest)
      else
        let also (holds : UInt8 → Bool) (rest : List Glyph) :
            Option ((UInt8 → Bool) × List Glyph) :=
          (members? fuel false rest).map fun (more, rest) => (fun b => holds b || more b, rest)
        match if isSign g '[' then class? rest else none with
        | some (holds, rest) => also holds rest
        | none =>
          match plain? (g :: rest) with
          | none => none
          | some (low, rest) =>
            match rest with
            | dash :: next :: behind =>
              if isSign dash '-' ∧ !isSign next ']' then
                match plain? (next :: behind) with
                | none => none
                | some (high, behind) => also (inRange low high) behind
              else also (· = low) rest
            | _ => also (· = low) rest

def parts : Nat → List Glyph → List Part
  | 0, _ | _, [] => []
  | fuel + 1, g :: rest =>
    if isSign g '*' then .many :: parts fuel rest
    else if isSign g '?' then .any :: parts fuel rest
    else if isSign g '\\' then
      match rest with
      | [] => [.byte g.byte]
      | next :: rest => .byte next.byte :: parts fuel rest
    else if isSign g '[' then
      let inverted := (rest.head?.map fun g => isSign g '!').getD false
      match members? (rest.length + 1) true (if inverted then rest.tail else rest) with
      | some (members, rest) => .oneOf inverted members :: parts fuel rest
      | none => .byte g.byte :: parts fuel rest
    else .byte g.byte :: parts fuel rest

def ofGlyphs (glyphs : List Glyph) : List Part := parts glyphs.length glyphs

def anySuffix (p : Bytes → Bool) : Bytes → Bool
  | [] => p []
  | b :: rest => p (b :: rest) || anySuffix p rest

def isMatch : List Part → Bytes → Bool
  | [], bytes => bytes = []
  | .many :: parts, bytes => anySuffix (isMatch parts) bytes
  | .byte b :: parts, c :: rest => b = c && isMatch parts rest
  | .any :: parts, _ :: rest => isMatch parts rest
  | .oneOf inverted members :: parts, c :: rest => members c != inverted && isMatch parts rest
  | _ :: _, [] => false

def trimFront (pattern : List Part) (longest : Bool) (bytes : Bytes) : Bytes :=
  let lengths := List.range (bytes.length + 1)
  match (if longest then lengths.reverse else lengths).find? fun n =>
    isMatch pattern (bytes.take n) with
  | some n => bytes.drop n
  | none => bytes

def trimBack (pattern : List Part) (longest : Bool) (bytes : Bytes) : Bytes :=
  let lengths := List.range (bytes.length + 1)
  match (if longest then lengths else lengths.reverse).find? fun n =>
    isMatch pattern (bytes.drop n) with
  | some n => bytes.take n
  | none => bytes

def hasSigns (glyphs : List Glyph) : Bool :=
  (ofGlyphs glyphs).any fun
    | .byte _ => false
    | _ => true

def bytes (glyphs : List Glyph) : Bytes := glyphs.map Glyph.byte

end Pattern

end EnvTemplate.Child
