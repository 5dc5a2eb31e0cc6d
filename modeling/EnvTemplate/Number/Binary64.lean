namespace EnvTemplate.Number.Binary64

/-- Bits below the point: a magnitude is a number of units of two to the minus `unitBits`. -/
def unitBits : Nat := 1074

/-- Two to the 1024, in units: the magnitudes below it are the finite ones. -/
def bound : Nat := Nat.pow 2 (1024 + unitBits)

/-- The distance between neighbouring magnitudes from `u` on, given 53 significant bits. -/
def spacing (u : Nat) : Nat := Nat.pow 2 (u.log2 - 52)

def roundHalfEven (n d : Nat) : Nat :=
  if 2 * (n % d) < d ∨ (2 * (n % d) = d ∧ n / d % 2 = 0) then n / d else n / d + 1

def nearest (num den : Nat) : Nat :=
  let scaled := num * Nat.pow 2 unitBits
  let step := spacing (scaled / den)
  step * roundHalfEven scaled (den * step)

def finite? (u : Nat) : Option Nat := if u < bound then some u else none

/-- The finite magnitude nearest to `c` times ten to the `e`. Beyond the first two bounds the
answer does not depend on the digits, and the powers of ten between them are small. -/
def ofDecimal? (c : Nat) (e : Int) : Option Nat :=
  let digits : Int := (Nat.toDigits 10 c).length
  if c = 0 ∨ digits + e < -324 then some 0
  else if 310 < digits + e then none
  else if 0 ≤ e then finite? (nearest (c * Nat.pow 10 e.toNat) 1)
  else finite? (nearest c (Nat.pow 10 (-e).toNat))

end EnvTemplate.Number.Binary64
