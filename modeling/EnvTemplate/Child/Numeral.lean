/-! Whole numbers as programs read them from text. -/

namespace EnvTemplate.Child.Numeral

def isBlank (c : Char) : Bool := c = ' ' || (9 ≤ c.toNat && c.toNat ≤ 13)

def digit? (c : Char) : Option Nat :=
  if c.isDigit then some (c.toNat - '0'.toNat)
  else if c.isLower then some (c.toNat - 'a'.toNat + 10)
  else if c.isUpper then some (c.toNat - 'A'.toNat + 10)
  else none

def isDigitOf (base : Nat) (c : Char) : Bool := (digit? c).any (· < base)

def valueOf (base : Nat) (digits : List Char) : Nat :=
  digits.foldl (fun n c => n * base + (digit? c).getD 0) 0

/-- The digits at the head of a text and their value; a zero before them, alone or with an x, tells
their base. -/
def readUnsigned : List Char → Nat × List Char
  | '0' :: x :: c :: rest =>
    if (x = 'x' ∨ x = 'X') ∧ isDigitOf 16 c then
      (valueOf 16 ((c :: rest).takeWhile (isDigitOf 16)), (c :: rest).dropWhile (isDigitOf 16))
    else
      (valueOf 8 ((x :: c :: rest).takeWhile (isDigitOf 8)),
        (x :: c :: rest).dropWhile (isDigitOf 8))
  | '0' :: rest => (valueOf 8 (rest.takeWhile (isDigitOf 8)), rest.dropWhile (isDigitOf 8))
  | s => (valueOf 10 (s.takeWhile Char.isDigit), s.dropWhile Char.isDigit)

def maxValue : Int := 9223372036854775807

def minValue : Int := -9223372036854775808

structure Reading where
  value : Int
  /-- It lies in the range of numbers; otherwise the value is the nearest one that does. -/
  fits : Bool
  found : Bool
  rest : List Char
  deriving DecidableEq, Repr

/-- Read a number between two bounds that may have blanks and a sign before it, in the base that its
digits tell or in base ten. -/
def readWithin (least greatest : Int) (anyBase : Bool) (s : List Char) : Reading :=
  let trimmed := s.dropWhile isBlank
  let (negative, unsigned) : Bool × List Char :=
    match trimmed with
    | '-' :: rest => (true, rest)
    | '+' :: rest => (false, rest)
    | _ => (false, trimmed)
  if !(unsigned.head?.map Char.isDigit).getD false then ⟨0, true, false, s⟩
  else
    let (n, rest) : Nat × List Char :=
      if anyBase then readUnsigned unsigned
      else (valueOf 10 (unsigned.takeWhile Char.isDigit), unsigned.dropWhile Char.isDigit)
    let value : Int := if negative then -n else n
    ⟨max least (min greatest value), least ≤ value && value ≤ greatest, true, rest⟩

def read : Bool → List Char → Reading := readWithin minValue maxValue

/-- The number that a whole text means; blanks may stand around it. In a base that the digits tell,
blanks alone mean zero. -/
def whole? (anyBase : Bool) (s : List Char) : Option Int :=
  let reading := read anyBase s
  if !reading.fits || !reading.found && !anyBase then none
  else if reading.rest.all isBlank then some reading.value
  else none

def ofDigits? (s : List Char) : Option Nat :=
  if s ≠ [] ∧ s.all Char.isDigit then some (valueOf 10 s) else none

end EnvTemplate.Child.Numeral
