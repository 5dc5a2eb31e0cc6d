import EnvTemplate.Number.Binary64

namespace EnvTemplate.Number.Shortest

def places : Nat := Binary64.unitBits

/-- The exact decimal expansion of a magnitude, in units of ten to the minus `places`. -/
def expansion (u : Nat) : Nat := u * Nat.pow 5 places

def readsBack (u x : Nat) : Bool := Binary64.nearest x (Nat.pow 10 places) = u

/-- Of two decimals around `x`, the nearer one of those that read back; the larger one if both do and
are equally near. -/
def nearer? (x below above : Nat) : Bool → Bool → Option Nat
  | true, true => some (if x - below < above - x then below else above)
  | true, false => some below
  | false, true => some above
  | false, false => none

def onGrid? (u grid : Nat) : Option Nat :=
  let x := expansion u
  let below := x / grid * grid
  let above := below + grid
  nearer? x below above (readsBack u below) (readsBack u above)

/-- Try the grid of ten to the `k`, then finer ones; the finest holds the expansion itself. -/
def search (u : Nat) : Nat → Nat
  | 0 => expansion u
  | k + 1 => (onGrid? u (Nat.pow 10 (k + 1))).getD (search u k)

def digits (u : Nat) : Nat := search u ((Nat.toDigits 10 (expansion u)).length - 1)

def fixedPoint (x : Nat) : List Char :=
  let whole := Nat.toDigits 10 (x / Nat.pow 10 places)
  let low := Nat.toDigits 10 (x % Nat.pow 10 places)
  let fraction := (((List.replicate (places - low.length) '0' ++ low).reverse).dropWhile
    (· = '0')).reverse
  if fraction = [] then whole else whole ++ '.' :: fraction

def text (u : Nat) : List Char := fixedPoint (digits u)

end EnvTemplate.Number.Shortest
