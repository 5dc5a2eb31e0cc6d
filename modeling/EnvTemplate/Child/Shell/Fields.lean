import EnvTemplate.Child.Shell.Expansion
import EnvTemplate.FileTree.Edit

/-! The fields that expanded words are split into, and the paths that patterns among them mean. -/

namespace EnvTemplate.Child.Shell

structure Split where
  fields : List (List Item)
  current : List Item
  /-- Behind a separator: whether one more that is no blank belongs to it. -/
  gap : Option Bool

namespace Split

def start : Split := ⟨[], [], none⟩

def push (s : Split) (item : Item) : Split := { s with current := item :: s.current, gap := none }

def close (s : Split) : Split := ⟨s.current.reverse :: s.fields, [], none⟩

def isBlank (b : UInt8) : Bool := b ∈ [0x20, 0x09, 0x0A, 0]

/-- Add a byte that may be a separator. Blanks at the start of a field are left out, and those
around another separator belong to it. -/
def add (separators : Bytes) (s : Split) (item : Item) : Split :=
  match item with
  | .mark => s.push item
  | .glyph g =>
    if g.byte ∉ separators ∧ g.byte ≠ 0 then s.push item
    else
      let isBlank := isBlank g.byte
      match s.gap with
      | some mayFollow =>
        if isBlank then s
        else if mayFollow then { s with gap := some false }
        else { s.close with gap := some false }
      | none =>
        if s.current = [] ∧ isBlank then s else { s.close with gap := some isBlank }

def addArgument (s : Split) (item : Item) : Split :=
  if item = .glyph ⟨0, true⟩ then s.close else s.push item

def addSpan (separators : Bytes) (s : Split) (span : Span) : Split :=
  let s := { s with gap := none }
  match span.splitting with
  | .none => span.items.foldl push s
  | .atSeparators => span.items.foldl (add separators) s
  | .atArguments => span.items.foldl addArgument s

end Split

/-- The fields of expanded parts of a word. The last is left out if nothing stands in it, unless it
is an argument. -/
def split (separators : Bytes) (spans : List Span) : List (List Item) :=
  let s := spans.foldl (Split.addSpan separators) Split.start
  let last := (spans.map Span.splitting).reverse.find? (· ≠ .none)
  let s := if s.current ≠ [] ∨ last = some .atArguments then s.close else s
  s.fields.reverse

def pathsFrom (files : FileTree) : Bytes → List (List Glyph) → List Bytes
  | path, [] => if (files.look? ⟨path⟩).isSome then [path] else []
  | path, pattern :: rest =>
    let behind (name : Name) : Bytes :=
      path ++ name ++ if rest = [] then [] else [Path.slash]
    if !Pattern.hasSigns pattern then pathsFrom files (behind (Pattern.bytes pattern)) rest
    else
      let directory : Path := if path = [] then ⟨FileTree.currentName⟩ else ⟨path⟩
      match files.locate .target directory with
      | .error _ => []
      | .ok location =>
        if files.at? location ≠ some .directory then []
        else
          let dotted := (pattern.head?.map fun g => decide (g.byte = 0x2E)).getD false
          let parts := Pattern.ofGlyphs pattern
          let all := FileTree.currentName :: FileTree.parentName :: files.namesIn location
          let found := all.filter fun name =>
            (dotted || name.head? ≠ some 0x2E) && Pattern.isMatch parts name
          found.flatMap fun name => pathsFrom files (behind name) rest

def paths (sh : Shell) (field : List Item) : List Bytes :=
  let glyphs := Span.glyphs [⟨.none, field⟩]
  if sh.has 'f' ∨ !Pattern.hasSigns glyphs then [Pattern.bytes glyphs]
  else
    let found := pathsFrom sh.system.files [] (glyphs.splitOnP fun g => g.byte = Path.slash)
    if found = [] then [Pattern.bytes glyphs] else found.mergeSort fun a b => decide (a ≤ b)

def expandFields (engine : Engine) (word : Word) : Attempt (List Bytes) := do
  let spans ← expandAs engine ⟨false, true, false⟩ ((← get).tilde word)
  let sh ← get
  return (split sh.separators spans).flatMap sh.paths

def expandWords (engine : Engine) (assigns : Bool) : List Word → Attempt (List Bytes)
  | [] => return []
  | word :: rest => do
    let fields : List Bytes ←
      match if assigns then word.assignment? else none with
      | none => expandFields engine word
      | some (name, value) => do
        let bytes ← expandValue engine value
        pure [Text.Utf8.encode (name ++ "=") ++ bytes]
    return fields ++ (← expandWords engine assigns rest)

end EnvTemplate.Child.Shell
