import EnvTemplate.Child.Shell.Basic

namespace EnvTemplate.Child.Shell

open Text.Utf8 (encode decode)

abbrev Builtin := List Bytes → Shell → Shell

def misuse (sh : Shell) (text : Bytes) : Shell := sh.fail text

def answer (sh : Shell) (code : Nat) (output : Bytes) : Shell :=
  match sh.write 1 output with
  | (true, sh) => sh.ended code
  | (false, sh) =>
    let command := sh.speaker.getD []
    (sh.complain (command ++ encode ": I/O error")).ended (code ||| 1)

abbrev OptionKinds := List (Char × Bool)

def optionsOfWord (kinds : OptionKinds) :
    List Char → List Bytes → Except Bytes (List (Char × Bytes) × List Bytes)
  | [], rest => .ok ([], rest)
  | c :: letters, rest =>
    match kinds.lookup c with
    | none => .error (encode "Illegal option -" ++ Text.Bytewise.write [c])
    | some false =>
      (optionsOfWord kinds letters rest).map fun (options, rest) => ((c, []) :: options, rest)
    | some true =>
      match letters, rest with
      | [], [] => .error (encode s!"No arg for -{c} option")
      | [], value :: rest => .ok ([(c, value)], rest)
      | _, _ => .ok ([(c, Text.Bytewise.write letters)], rest)

def optionsOf (kinds : OptionKinds) :
    Nat → List Bytes → Except Bytes (List (Char × Bytes) × List Bytes)
  | 0, args => .ok ([], args)
  | _, [] => .ok ([], [])
  | fuel + 1, word :: rest =>
    match Text.Bytewise.read word with
    | ['-', '-'] => .ok ([], rest)
    | '-' :: c :: letters =>
      match optionsOfWord kinds (c :: letters) rest with
      | .error message => .error message
      | .ok (options, rest) =>
        (optionsOf kinds fuel rest).map fun (more, rest) => (options ++ more, rest)
    | _ => .ok ([], word :: rest)

abbrev Deed := List Bytes → Act Shell Unit

def doWithOptions (kinds : OptionKinds)
    (body : List (Char × Bytes) → List Bytes → Act Shell Unit) : Deed := fun args =>
  match optionsOf kinds (args.length + 1) args with
  | .error message => modify (misuse · message)
  | .ok (options, operands) => body options operands

def withOptions (kinds : OptionKinds) (body : List (Char × Bytes) → List Bytes → Shell → Shell) :
    Builtin := fun args sh =>
  match optionsOf kinds (args.length + 1) args with
  | .error message => sh.misuse message
  | .ok (options, operands) => body options operands sh

def withNumber (absent : Nat) (body : Nat → Shell → Shell) : Builtin := fun args sh =>
  match args with
  | [] => body absent sh
  | text :: _ =>
    match number text with
    | .error message => sh.misuse message
    | .ok n => body n sh

def quoted (value : Bytes) : Bytes :=
  let rec parts : Nat → Bytes → Bytes
    | 0, _ => []
    | fuel + 1, bytes =>
      let plain := bytes.takeWhile (· ≠ 0x27)
      let behind := bytes.drop plain.length
      let marks := behind.takeWhile (· = 0x27)
      let rest := behind.drop marks.length
      0x27 :: plain ++ [0x27] ++
        (if marks = [] then [] else 0x22 :: marks ++ [0x22]) ++
        (if rest = [] then [] else parts fuel rest)
  parts (value.length + 1) value

end EnvTemplate.Child.Shell
