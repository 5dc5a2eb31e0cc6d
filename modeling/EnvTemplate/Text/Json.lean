import EnvTemplate.Text.Quoted

namespace EnvTemplate.Text.Json

/-- A character inside a string: quotes, backslashes and control characters are escaped. -/
def escape (c : Char) : List Char :=
  if c = '"' then ['\\', '"']
  else if c = '\\' then ['\\', '\\']
  else if c = '\x08' then ['\\', 'b']
  else if c = '\x0c' then ['\\', 'f']
  else if c = '\n' then ['\\', 'n']
  else if c = '\r' then ['\\', 'r']
  else if c = '\t' then ['\\', 't']
  else if c.toNat < 0x20 then
    let digits := hexDigits c.toNat
    ['\\', 'u'] ++ List.replicate (4 - digits.length) '0' ++ digits
  else [c]

def string (s : String) : String := String.ofList (['"'] ++ s.toList.flatMap escape ++ ['"'])

/-- Items on lines of their own, two blanks further in than the brackets around them. -/
def block (first last indent : String) (items : List String) : String :=
  if items = [] then first ++ last
  else
    first ++ "\n" ++ ",\n".intercalate (items.map fun item => indent ++ "  " ++ item) ++ "\n" ++
      indent ++ last

def array (indent : String) (items : List String) : String := block "[" "]" indent items

def object (indent : String) (fields : List (String × String)) : String :=
  block "\x7b" "\x7d" indent (fields.map fun (name, value) => string name ++ ": " ++ value)

end EnvTemplate.Text.Json
