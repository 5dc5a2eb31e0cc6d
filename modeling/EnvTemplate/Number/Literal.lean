import EnvTemplate.Text.Cut

namespace EnvTemplate.Number

structure Literal where
  negative : Bool
  whole : List Char
  fraction : Option (List Char)
  exponent : Option Int
  deriving DecidableEq, Repr

namespace Literal

def digitsValue (digits : List Char) : Nat :=
  digits.foldl (fun n c => 10 * n + (c.toNat - '0'.toNat)) 0

def cutSign : List Char → Bool × List Char
  | '-' :: s => (true, s)
  | '+' :: s => (false, s)
  | s => (false, s)

def isExponentMark (c : Char) : Bool := c = 'e' || c = 'E'

def parseExponent (s : List Char) : Option Int :=
  let (negative, digits) := cutSign s
  if digits ≠ [] ∧ digits.all Char.isDigit then
    some (if negative then -(digitsValue digits : Int) else digitsValue digits)
  else none

def parseMantissa (s : List Char) : Option (List Char × Option (List Char)) :=
  match Text.cut '.' s with
  | none => if s ≠ [] ∧ s.all Char.isDigit then some (s, none) else none
  | some (whole, fraction) =>
    if whole ++ fraction ≠ [] ∧ (whole ++ fraction).all Char.isDigit then
      some (whole, some fraction)
    else none

/-- A sign if any, digits with at most one point among or around them, and an exponent if any. -/
def parse (s : List Char) : Option Literal := do
  let (negative, unsigned) := cutSign s
  let (whole, fraction) ← parseMantissa (unsigned.takeWhile (!isExponentMark ·))
  match unsigned.dropWhile (!isExponentMark ·) with
  | [] => return ⟨negative, whole, fraction, none⟩
  | _ :: rest => return ⟨negative, whole, fraction, some (← parseExponent rest)⟩

def isInteger (l : Literal) : Bool := l.fraction.isNone && l.exponent.isNone

/-- All digits as one number; the literal's magnitude is this times ten to the `scale`. -/
def coefficient (l : Literal) : Nat := digitsValue (l.whole ++ l.fraction.getD [])

def scale (l : Literal) : Int := l.exponent.getD 0 - (l.fraction.getD []).length

def toInt (l : Literal) : Int :=
  if l.negative then -(digitsValue l.whole : Int) else digitsValue l.whole

end Literal

end EnvTemplate.Number
