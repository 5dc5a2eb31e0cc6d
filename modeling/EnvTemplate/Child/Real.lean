import EnvTemplate.Child.Numeral
import EnvTemplate.Number.Literal
import EnvTemplate.Number.Shortest

/-! Real numbers as programs read and print them: 53 bits, rounded to the nearest. -/

namespace EnvTemplate.Child

open Number

structure Real where
  negative : Bool
  magnitude : Option (Option Nat)
  deriving DecidableEq, Repr

namespace Real

def zero : Real := ⟨false, some (some 0)⟩

def ofNat (n : Nat) : Real := ⟨false, some (Binary64.finite? (Binary64.nearest n 1))⟩

/-- A number at the head of a text, whether it is in the range of numbers, whether there is one, and
what is left. -/
structure Reading where
  value : Real
  fits : Bool
  found : Bool
  rest : List Char

def behind? (word : String) (s : List Char) : Option (List Char) :=
  if (s.take word.length).map Char.toLower = word.toList then some (s.drop word.length) else none

def exponent? (isMark : Char → Bool) : List Char → Option (Int × List Char)
  | c :: rest =>
    let (negative, unsigned) := Literal.cutSign rest
    let digits := unsigned.takeWhile Char.isDigit
    if !isMark c || digits = [] then none
    else
      let n : Int := min 100000 (Literal.digitsValue (digits.dropWhile (· = '0')))
      some (if negative then -n else n, unsigned.drop digits.length)
  | [] => none

/-- Digits with at most one point among or around them: all of them, how many stand behind the
point, and what is left. -/
def mantissa? (isDigit : Char → Bool) (s : List Char) :
    Option (List Char × Nat × List Char) :=
  let whole := s.takeWhile isDigit
  let (fraction, rest) : List Char × List Char :=
    match s.drop whole.length with
    | '.' :: rest => (rest.takeWhile isDigit, rest.dropWhile isDigit)
    | rest => ([], rest)
  if whole ++ fraction = [] then none else some (whole ++ fraction, fraction.length, rest)

def nearestBinary (n : Nat) (exponent : Int) : Option Nat :=
  if n = 0 ∨ n.log2 + exponent < -1100 then some 0
  else if 1100 < n.log2 + exponent then none
  else if 0 ≤ exponent then Binary64.finite? (Binary64.nearest (n * Nat.pow 2 exponent.toNat) 1)
  else Binary64.finite? (Binary64.nearest n (Nat.pow 2 (-exponent).toNat))

def isTiny (digits : List Char) (magnitude : Option Nat) : Bool :=
  digits.any (· ≠ '0') && magnitude.any (· < Nat.pow 2 52)

def readUnsigned (s : List Char) : Option (Option (Option Nat) × Bool × List Char) :=
  let decimal : Option (Option (Option Nat) × Bool × List Char) :=
    (mantissa? Char.isDigit s).map fun (digits, places, rest) =>
      let (e, rest) := (exponent? Literal.isExponentMark rest).getD (0, rest)
      let magnitude := Binary64.ofDecimal? (Literal.digitsValue digits) (e - places)
      (some magnitude, magnitude.isSome && !isTiny digits magnitude, rest)
  let hexadecimal : Option (Option (Option Nat) × Bool × List Char) :=
    (behind? "0x" s).bind fun s =>
      (mantissa? (Numeral.isDigitOf 16) s).map fun (digits, places, rest) =>
        let (e, rest) := (exponent? (fun c => c = 'p' || c = 'P') rest).getD (0, rest)
        let magnitude := nearestBinary (Numeral.valueOf 16 digits) (e - 4 * places)
        (some magnitude, magnitude.isSome && !isTiny digits magnitude, rest)
  match behind? "infinity" s, behind? "inf" s, behind? "nan" s with
  | some rest, _, _ | none, some rest, _ => some (some none, true, rest)
  | none, none, some rest =>
    let name := (rest.drop 1).takeWhile fun c => c.isAlphanum || c = '_'
    match rest, rest.drop (name.length + 1) with
    | '(' :: _, ')' :: after => some (none, true, after)
    | _, _ => some (none, true, rest)
  | none, none, none => if hexadecimal.isSome then hexadecimal else decimal

def read (s : List Char) : Reading :=
  let (negative, unsigned) := Literal.cutSign (s.dropWhile Numeral.isBlank)
  match readUnsigned unsigned with
  | none => ⟨zero, true, false, s⟩
  | some (magnitude, fits, rest) => ⟨⟨negative, magnitude⟩, fits, true, rest⟩

def withPoint (n places : Nat) (keepsPoint : Bool) : List Char :=
  let digits := Nat.toDigits 10 n
  let padded := List.replicate (places + 1 - digits.length) '0' ++ digits
  let whole := padded.take (padded.length - places)
  whole ++ (if places = 0 ∧ !keepsPoint then [] else ['.']) ++ padded.drop whole.length

def fixed (u places : Nat) (keepsPoint : Bool) : List Char :=
  let unit := Nat.pow 2 Binary64.unitBits
  withPoint (Binary64.roundHalfEven (u * Nat.pow 10 places) unit) places keepsPoint

def significant (u places : Nat) : Nat × Int :=
  if u = 0 then (0, 0)
  else
    let exact := Shortest.expansion u
    let length := (Nat.toDigits 10 exact).length
    let exponent : Int := (length : Int) - 1 - Shortest.places
    let kept := Binary64.roundHalfEven (exact * Nat.pow 10 (places + 1 - length))
      (Nat.pow 10 (length - (places + 1)))
    if kept = Nat.pow 10 (places + 1) then (kept / 10, exponent + 1) else (kept, exponent)

def exponentText (mark : Char) (least : Nat) (exponent : Int) : List Char :=
  let digits := Nat.toDigits 10 exponent.natAbs
  [mark, if exponent < 0 then '-' else '+'] ++ List.replicate (least - digits.length) '0' ++ digits

def scientific (u places : Nat) (keepsPoint : Bool) : List Char :=
  let (digits, exponent) := significant u places
  withPoint digits places keepsPoint ++ exponentText 'e' 2 exponent

def trimZeros (s : List Char) : List Char :=
  if '.' ∈ s then ((s.reverse.dropWhile (· = '0')).dropWhile (· = '.')).reverse else s

/-- A magnitude with so many significant digits, with a power of ten if it is very small or not
shorter without one. -/
def general (u digits : Nat) (keepsZeros : Bool) : List Char :=
  let digits := max 1 digits
  let (rounded, exponent) := significant u (digits - 1)
  let trim (s : List Char) : List Char := if keepsZeros then s else trimZeros s
  if -4 ≤ exponent ∧ exponent < digits then
    trim (fixed u (digits - 1 - exponent).toNat keepsZeros)
  else trim (withPoint rounded (digits - 1) keepsZeros) ++ exponentText 'e' 2 exponent

/-- A magnitude in base sixteen with a power of two. Without a number of places it is exact. -/
def hexadecimal (u : Nat) (places : Option Nat) (keepsPoint : Bool) : List Char :=
  let isNormal := Nat.pow 2 52 ≤ u
  let exponent : Int :=
    if u = 0 then 0 else if isNormal then (u.log2 : Int) - Binary64.unitBits else -1022
  let bits := if isNormal then u / Nat.pow 2 (u.log2 - 52) else u
  let rounded :=
    match places with
    | some n =>
      if n < 13 then
        Binary64.roundHalfEven bits (Nat.pow 16 (13 - n)) * Nat.pow 16 (13 - n)
      else bits
    | none => bits
  let digits := Nat.toDigits 16 (rounded % Nat.pow 2 52)
  let fraction := List.replicate (13 - digits.length) '0' ++ digits
  let shown : List Char :=
    match places with
    | some n => (fraction ++ List.replicate (n - 13) '0').take n
    | none => (fraction.reverse.dropWhile (· = '0')).reverse
  '0' :: 'x' :: Nat.toDigits 10 (rounded / Nat.pow 2 52) ++
    (if shown = [] ∧ !keepsPoint then [] else ['.']) ++ shown ++ exponentText 'p' 1 exponent

end Real

end EnvTemplate.Child
