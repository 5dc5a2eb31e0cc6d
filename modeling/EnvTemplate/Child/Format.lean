import EnvTemplate.Child.Escape
import EnvTemplate.Child.Real
import EnvTemplate.Text.Bytewise
import EnvTemplate.Text.Utf8

/-! Formats with the arguments that they show. -/

namespace EnvTemplate.Child.Format

open Text.Utf8 (encode)
open Text (Bytewise.read Bytewise.write)

inductive Size
  | given (n : Nat)
  | argument
  deriving DecidableEq, Repr

structure Conversion where
  flags : Bytes
  width : Size
  precision : Option Size
  kind : Char
  deriving DecidableEq, Repr

namespace Conversion

def has (conversion : Conversion) (flag : Char) : Bool :=
  flag.toNat.toUInt8 ∈ conversion.flags

end Conversion

inductive Part
  | byte (b : UInt8)
  | convert (conversion : Conversion)
  | malformed (reason : Bytes)
  deriving DecidableEq, Repr

def isDigit (b : UInt8) : Bool := 0x30 ≤ b && b ≤ 0x39

def size : Bytes → Size × Bytes
  | 0x2A :: rest => (.argument, rest)
  | rest =>
    (.given (Numeral.valueOf 10 (Bytewise.read (rest.takeWhile isDigit))), rest.dropWhile isDigit)

def kinds : List Char := "sbcdiuoxXaAeEfFgG".toList

def conversion (rest : Bytes) : Part × Bytes :=
  let flags := rest.takeWhile (· ∈ encode "#-+ 0")
  let (width, left) := size (rest.drop flags.length)
  let (precision, left) : Option Size × Bytes :=
    match left with
    | 0x2E :: left =>
      let (precision, left) := size left
      (some precision, left)
    | _ => (none, left)
  match left with
  | b :: left =>
    let kind := Char.ofNat b.toNat
    if kind ∈ kinds then (.convert ⟨flags, width, precision, kind⟩, left)
    else
      let text := 0x25 :: rest.take (rest.length - left.length)
      (.malformed (text ++ encode ": invalid directive"), [])
  | [] => (.malformed (encode "missing format character"), [])

def parts : Nat → Bytes → List Part
  | 0, _ | _, [] => []
  | fuel + 1, 0x5C :: rest =>
    let (b, rest) := Escape.decodeOne rest
    .byte b :: parts fuel rest
  | fuel + 1, 0x25 :: 0x25 :: rest => .byte 0x25 :: parts fuel rest
  | fuel + 1, 0x25 :: rest =>
    let (part, rest) := conversion rest
    part :: parts fuel rest
  | fuel + 1, b :: rest => .byte b :: parts fuel rest

structure Work where
  output : Bytes
  complaints : List Bytes
  left : List Bytes
  status : Nat
  stopped : Bool

namespace Work

def print (w : Work) (bytes : Bytes) : Work := { w with output := w.output ++ bytes }

def judge (w : Work) (argument : Bytes) (fits found : Bool) (rest : List Char) : Work :=
  let reason : Option String :=
    if rest ≠ [] then some (if found then "not completely converted" else "expected numeric value")
    else if !fits then some "Numerical result out of range"
    else none
  match reason with
  | none => w
  | some reason =>
    { w with complaints := w.complaints ++ [argument ++ encode s!": {reason}"], status := 1 }

def next (w : Work) : Bytes × Work := (w.left.headD [], { w with left := w.left.tail })

/-- The byte after a quotation mark at the start of an argument, which stands for its number. -/
def quotedByte? : Bytes → Option Nat
  | 0x27 :: rest | 0x22 :: rest => some (rest.headD 0).toNat
  | _ => none

def integer (w : Work) (signed : Bool) : Int × Work :=
  let (argument, w) := w.next
  match quotedByte? argument with
  | some n => (n, w)
  | none =>
    let bound : Int := Int.pow 2 64 - 1
    let reading :=
      if signed then Numeral.read true (Bytewise.read argument)
      else Numeral.readWithin (-bound) bound true (Bytewise.read argument)
    let value := if signed || reading.fits then reading.value else bound
    (value, w.judge argument reading.fits reading.found reading.rest)

def real (w : Work) : Real × Work :=
  let (argument, w) := w.next
  match quotedByte? argument with
  | some n => (.ofNat n, w)
  | none =>
    let reading := Real.read (Bytewise.read argument)
    (reading.value, w.judge argument reading.fits reading.found reading.rest)

def size (w : Work) : Size → Int × Work
  | .given n => (n, w)
  | .argument =>
    let (n, w) := w.integer true
    (n.bmod (Nat.pow 2 32), w)

end Work

structure Layout where
  left : Bool
  zeros : Bool
  plus : Bool
  blank : Bool
  alternate : Bool
  width : Nat
  precision : Option Nat

namespace Layout

/-- Fill up to a width: on the right, on the left, or with zeros after what stands before the
digits. -/
def pad (layout : Layout) (zeros : Bool) (front : List Char) (text : Bytes) : Bytes :=
  let missing := layout.width - (front.length + text.length)
  let front := Bytewise.write front
  if layout.left then front ++ text ++ List.replicate missing 0x20
  else if zeros then front ++ List.replicate missing 0x30 ++ text
  else List.replicate missing 0x20 ++ front ++ text

def sign (layout : Layout) (negative : Bool) : List Char :=
  if negative then ['-'] else if layout.plus then ['+'] else if layout.blank then [' '] else []

def clip (layout : Layout) (text : Bytes) : Bytes :=
  match layout.precision with
  | some n => text.take n
  | none => text

def digits (layout : Layout) (base n : Nat) : List Char :=
  let digits := if n = 0 ∧ layout.precision = some 0 then [] else Nat.toDigits base n
  List.replicate (layout.precision.getD 0 - digits.length) '0' ++ digits

def whole (layout : Layout) (kind : Char) (value : Int) : Bytes :=
  let filled (front digits : List Char) : Bytes :=
    layout.pad (layout.zeros && layout.precision.isNone) front (Bytewise.write digits)
  if kind = 'd' ∨ kind = 'i' then filled (layout.sign (value < 0)) (layout.digits 10 value.natAbs)
  else
    let n := (value % Int.pow 2 64).toNat
    let lead : List Char := if layout.alternate ∧ n ≠ 0 then ['0', kind] else []
    match kind with
    | 'o' =>
      let digits := layout.digits 8 n
      filled [] (if layout.alternate ∧ digits.head? ≠ some '0' then '0' :: digits else digits)
    | 'x' => filled lead (layout.digits 16 n)
    | 'X' => filled lead ((layout.digits 16 n).map Char.toUpper)
    | _ => filled [] (layout.digits 10 n)

def real (layout : Layout) (kind : Char) (value : Real) : Bytes :=
  let front := layout.sign value.negative
  let inCase (s : List Char) : Bytes :=
    Bytewise.write (if kind.isUpper then s.map Char.toUpper else s)
  match value.magnitude with
  | none => layout.pad false front (inCase "nan".toList)
  | some none => layout.pad false front (inCase "inf".toList)
  | some (some u) =>
    let places := layout.precision.getD 6
    match kind.toLower with
    | 'f' => layout.pad layout.zeros front (inCase (Real.fixed u places layout.alternate))
    | 'e' => layout.pad layout.zeros front (inCase (Real.scientific u places layout.alternate))
    | 'g' => layout.pad layout.zeros front (inCase (Real.general u places layout.alternate))
    | _ =>
      let shown := Real.hexadecimal u layout.precision layout.alternate
      let case (s : List Char) := if kind.isUpper then s.map Char.toUpper else s
      layout.pad layout.zeros (front ++ case (shown.take 2)) (inCase (shown.drop 2))

end Layout

def convert (w : Work) (conversion : Conversion) : Work :=
  let (width, w) := w.size conversion.width
  let (precision, w) : Option Int × Work :=
    match conversion.precision with
    | none => (none, w)
    | some size =>
      let (n, w) := w.size size
      (if n < 0 then none else some n, w)
  let layout : Layout :=
    ⟨conversion.has '-' || width < 0, conversion.has '0', conversion.has '+', conversion.has ' ',
      conversion.has '#', width.natAbs, precision.map Int.toNat⟩
  match conversion.kind with
  | 's' =>
    let (argument, w) := w.next
    w.print (layout.pad false [] (layout.clip argument))
  | 'b' =>
    let (argument, w) := w.next
    let (text, cut) := Escape.decode argument
    { w.print (layout.pad false [] (layout.clip text)) with stopped := cut }
  | 'c' =>
    let (argument, w) := w.next
    w.print (layout.pad false [] [argument.headD 0])
  | kind =>
    if kind.toLower ∈ ['a', 'e', 'f', 'g'] then
      let (value, w) := w.real
      w.print (layout.real kind value)
    else
      let (value, w) := w.integer (kind = 'd' || kind = 'i')
      w.print (layout.whole kind value)

def step (w : Work) (part : Part) : Work :=
  if w.stopped then w
  else
    match part with
    | .byte b => w.print [b]
    | .malformed reason =>
      { w with complaints := w.complaints ++ [reason], status := 2, stopped := true }
    | .convert conversion => convert w conversion

def passes (parts : List Part) : Nat → Work → Work
  | 0, w => w
  | fuel + 1, w =>
    let after := parts.foldl step w
    if after.stopped ∨ after.left = [] ∨ after.left.length = w.left.length then after
    else passes parts fuel after

def apply (format : Bytes) (args : List Bytes) : Work :=
  passes (parts format.length format) (args.length + 1) ⟨[], [], args, 0, false⟩

end EnvTemplate.Child.Format
