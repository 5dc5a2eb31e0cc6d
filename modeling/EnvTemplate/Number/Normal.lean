import EnvTemplate.Number.Literal
import EnvTemplate.Number.Shortest

namespace EnvTemplate.Number

def fitsWord (i : Int) : Bool := -0x8000000000000000 ≤ i && i < 0x8000000000000000

def Literal.normal? (l : Literal) : Option String :=
  if l.isInteger && fitsWord l.toInt then some (toString l.toInt)
  else
    (Binary64.ofDecimal? l.coefficient l.scale).map fun u =>
      (if l.negative then "-" else "") ++ String.ofList (Shortest.text u)

/-- The normal form of a numeric text: a small integer as it is, without plus sign and leading
zeros; anything else as the nearest binary floating point number, in fewest digits. -/
def normal? (value : String) : Option String := (Literal.parse value.toList).bind Literal.normal?

end EnvTemplate.Number
