import EnvTemplate.Child.Locale

/-! Names in the messages of programs, written so that a shell would read them back. -/

namespace EnvTemplate.Child.Quoted

def quote : UInt8 := 0x27

inductive Letter
  | shown (bytes : Bytes)
  | hidden (b : UInt8)
  deriving DecidableEq, Repr

def isPlainPrintable (b : UInt8) : Bool := 0x20 ≤ b && b < 0x7F

/-- A character that is neither a control, nor ends a line or paragraph, nor is no character. -/
def isPrintable (c : Char) : Bool :=
  let n := c.toNat
  !(n < 0x20 || (0x7F ≤ n && n < 0xA0) || n = 0x2028 || n = 0x2029 || (0xFDD0 ≤ n && n ≤ 0xFDEF) ||
    n % 0x10000 = 0xFFFE || n % 0x10000 = 0xFFFF)

def character? (bytes : Bytes) : Option (Char × Nat) :=
  [2, 3, 4].findSome? fun n =>
    (String.fromUTF8? ⟨(bytes.take n).toArray⟩).bind fun s =>
      match s.toList with
      | [c] => some (c, n)
      | _ => none

def letters (locale : Locale) : Nat → Bytes → List Letter
  | _, [] => []
  | skipped + 1, _ :: rest => letters locale skipped rest
  | 0, b :: rest =>
    if isPlainPrintable b then .shown [b] :: letters locale 0 rest
    else
      match if locale = .utf8 then character? (b :: rest) else none with
      | some (c, n) =>
        if isPrintable c then .shown ((b :: rest).take n) :: letters locale (n - 1) rest
        else .hidden b :: letters locale 0 rest
      | none => .hidden b :: letters locale 0 rest

def controlLetters : List UInt8 := "abtnvfr".toUTF8.data.toList

def escape (b : UInt8) : Bytes :=
  match if b < 7 then none else controlLetters[b.toNat - 7]? with
  | some letter => [letter]
  | none => [0x30 + b / 64, 0x30 + b / 8 % 8, 0x30 + b % 8]

/-- Letters after an opening quote; `escaped` if those before them are written as escapes. -/
def encodeFrom : Bool → List Letter → Bytes
  | _, [] => [quote]
  | escaped, .hidden b :: rest =>
    (if escaped then [] else [quote, 0x24, quote]) ++ 0x5C :: escape b ++ encodeFrom true rest
  | escaped, .shown bytes :: rest =>
    if bytes = [quote] then [quote, 0x5C, quote, quote] ++ encodeFrom false rest
    else (if escaped then [quote, quote] else []) ++ bytes ++ encodeFrom false rest

def plainBytes : Bytes :=
  "ABCDEFGHIJKLMNOPQRSTUVWXYZabcdefghijklmnopqrstuvwxyz0123456789 %+,-./:]_@'".toUTF8.data.toList

def isPlain : Letter → Bool
  | .shown [b] => b ∈ plainBytes
  | .shown _ => true
  | .hidden _ => false

def arePlain : List Letter → Bool
  | [] => true
  | letter :: rest => (isPlain letter || letter ∈ [.shown [0x23], .shown [0x7E]]) && rest.all isPlain

def encodeLetters (letters : List Letter) : Bytes :=
  if .shown [quote] ∈ letters ∧ arePlain letters then
    0x22 :: letters.flatMap (fun
      | .shown bytes => bytes
      | .hidden b => [b]) ++ [0x22]
  else quote :: encodeFrom false letters

def encode (locale : Locale) (bytes : Bytes) : Bytes := encodeLetters (letters locale 0 bytes)

/-- The letters that need no quotes: not at the head those that begin a comment or stand for a
directory, and not alone a brace. -/
def needNone : List Letter → Bool
  | [] => false
  | first :: rest =>
    let isWord (letter : Letter) : Bool :=
      isPlain letter && letter ∉ [.shown [0x20], .shown [quote], .shown [0x3A]]
    let isBrace (letter : Letter) : Bool := letter ∈ [.shown [0x7B], .shown [0x7D]]
    (isWord first || isBrace first && rest ≠ []) && rest.all fun letter =>
      isWord letter || isBrace letter || letter ∈ [.shown [0x23], .shown [0x7E]]

def encodeIfNeeded (locale : Locale) (bytes : Bytes) : Bytes :=
  let letters := letters locale 0 bytes
  if needNone letters then bytes else encodeLetters letters

def marks : Locale → Bytes × Bytes
  | .plain => ([quote], [quote])
  | .utf8 => ("‘".toUTF8.data.toList, "’".toUTF8.data.toList)

def cite (locale : Locale) (bytes : Bytes) : Bytes :=
  let (opening, closing) := marks locale
  opening ++ (letters locale 0 bytes).flatMap (fun
    | .shown shown => if shown = closing ∨ shown = [0x5C] then 0x5C :: shown else shown
    | .hidden b => 0x5C :: escape b) ++ closing

end EnvTemplate.Child.Quoted
