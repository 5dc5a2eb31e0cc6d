import EnvTemplate.Bytes

/-! Bytes that are written with a backslash in texts that are printed. -/

namespace EnvTemplate.Child.Escape

def letters : List (UInt8 × UInt8) :=
  [(0x61, 7), (0x62, 8), (0x66, 12), (0x6E, 10), (0x72, 13), (0x74, 9), (0x76, 11), (0x5C, 0x5C),
    (0x65, 0x1B)]

def isOctal (b : UInt8) : Bool := 0x30 ≤ b && b ≤ 0x37

def octalOf (digits : Bytes) : UInt8 := digits.foldl (fun value d => value * 8 + (d - 0x30)) 0

def decodeOne (rest : Bytes) : UInt8 × Bytes :=
  let digits := (rest.takeWhile isOctal).take 3
  if digits ≠ [] then (octalOf digits, rest.drop digits.length)
  else
    match rest with
    | [] => (0x5C, [])
    | b :: after => ((letters.lookup b).map (·, after)).getD (0x5C, rest)

/-- Replace all escapes, where an octal one may have a zero in front. Also tells whether the output
is cut off there. -/
def decodeFrom : Nat → Bytes → Bytes × Bool
  | 0, _ | _, [] => ([], false)
  | _ + 1, 0x5C :: 0x63 :: _ => ([], true)
  | fuel + 1, 0x5C :: 0x30 :: rest =>
    let digits := (rest.takeWhile isOctal).take 3
    let (out, cut) := decodeFrom fuel (rest.drop digits.length)
    (octalOf digits :: out, cut)
  | fuel + 1, 0x5C :: rest =>
    let (b, rest) := decodeOne rest
    let (out, cut) := decodeFrom fuel rest
    (b :: out, cut)
  | fuel + 1, b :: rest =>
    let (out, cut) := decodeFrom fuel rest
    (b :: out, cut)

def decode (bytes : Bytes) : Bytes × Bool := decodeFrom bytes.length bytes

def decodeWords : List Bytes → Bytes × Bool
  | [] => ([], false)
  | [word] => decode word
  | word :: rest =>
    let (out, cut) := decode word
    if cut then (out, true)
    else
      let (more, cut) := decodeWords rest
      (out ++ 0x20 :: more, cut)

end EnvTemplate.Child.Escape
