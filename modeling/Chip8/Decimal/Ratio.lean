import Chip8.Decimal.Reading

/-!
# Doubles of fractions

The double nearest to a fraction of two integers; of two equally near ones, the one with the even mantissa. The
mantissa is the fraction rounded to a whole number of units in its last place.
-/

namespace Chip8.Decimal

/-- The quotient of two numbers rounded to the nearest number, a half to the even neighbour. -/
def roundedQuotient (n d : Nat) : Nat :=
  let q := n / d
  let twice := 2 * (n % d)
  if d < twice ∨ (twice = d ∧ q % 2 = 1) then q + 1 else q

/-- The quotient of two numbers in units of a power of two, rounded. -/
def inUnits (n d : Nat) (exponent : Int) : Nat :=
  roundedQuotient (n * Nat.pow 2 (-exponent).toNat) (d * Nat.pow 2 exponent.toNat)

/-- The exponent `e` with `2^e ≤ n / d < 2^(e+1)`. -/
def binaryExponent (n d : Nat) : Int :=
  let e : Int := (n.log2 : Int) - d.log2
  if d * Nat.pow 2 e.toNat ≤ n * Nat.pow 2 (-e).toNat then e else e - 1

/-- The exponent of the last place of the double nearest to a fraction: a mantissa has 53 bits, and no unit is
smaller than the least double. -/
def unitExponent (n d : Nat) : Int := max (binaryExponent n d - 52) (-1074)

/-- The double nearest to `n / d`, if the fraction does not lie outside the range of doubles. -/
def ofRatio? (n d : Int) : Option Float :=
  let unit := unitExponent n.natAbs d.natAbs
  let x := (Float.ofNat (inUnits n.natAbs d.natAbs unit)).scaleB unit
  if x.isInf then none else some (if (n < 0) = (d < 0) then x else -x)

end Chip8.Decimal
