import Chip8.Numeral.Radix

/-!
# Shortest decimals

The fewest decimal digits that read back to a double. A finite double is `m * 2^q`, and the reals that round
to it form an interval that has its ends if and only if `m` is even. For one digit, two digits and so on the
two neighbours of the value on the decimal grid are tried; the first grid with a neighbour inside the interval
wins, of two neighbours the nearer, and of two equally near the even one.
-/

namespace Chip8.Decimal

/-- A finite positive double as a fraction `value / scale`, with the interval of the reals that round to it. -/
structure Span where
  value : Nat
  low : Nat
  high : Nat
  scale : Nat
  /-- Whether the ends of the interval belong to it. -/
  closed : Bool

/-- The bit of a mantissa that is not stored. -/
def hiddenBit : Nat := Nat.pow 2 52

/-- The mantissa and the exponent of a finite double, without its sign. -/
def parts (bits : UInt64) : Nat × Int :=
  let fraction : Nat := bits.toNat % hiddenBit
  let exponent : Nat := bits.toNat / hiddenBit % 2048
  if exponent = 0 then (fraction, -1074) else (fraction + hiddenBit, exponent - 1075)

/-- The interval of a double. The gap below a power of two is half as wide as the one above. -/
def Span.ofBits (bits : UInt64) : Span :=
  let (m, q) := parts bits
  let below := if m = hiddenBit ∧ q ≠ -1074 then 1 else 2
  let factor := Nat.pow 2 q.toNat
  { value := 4 * m * factor, low := (4 * m - below) * factor, high := (4 * m + 2) * factor,
    scale := 4 * Nat.pow 2 (-q).toNat, closed := m % 2 = 0 }

def Span.contains (s : Span) (n d : Nat) : Bool :=
  if s.closed then s.low * d ≤ n * s.scale ∧ n * s.scale ≤ s.high * d
  else s.low * d < n * s.scale ∧ n * s.scale < s.high * d

/-- How often ten goes into `n / d` before it is below one, counting at most `fuel` times. -/
def tens (n d : Nat) : (fuel : Nat) → Nat
  | 0 => 0
  | fuel + 1 => if d ≤ n then tens n (d * 10) fuel + 1 else 0

/-- The exponent `e` with `10^(e-1) ≤ value < 10^e`. -/
def Span.exponent (s : Span) : Int :=
  if s.scale ≤ s.value then tens s.value s.scale 400
  else 1 - (tens s.scale (s.value + 1) 400 : Nat)

/-- Selected digits: the number `digits * 10^place`. -/
structure Selected where
  digits : Nat
  place : Int
  deriving DecidableEq, Repr

/-- The better of the two neighbours of the value on the grid of multiples of `10^place`, if one of them lies
in the interval. -/
def Span.onGrid (s : Span) (place : Int) : Option Selected :=
  let up := Nat.pow 10 place.toNat
  let down := Nat.pow 10 (-place).toNat
  let floor := s.value * down / (s.scale * up)
  let twice := 2 * s.value * down
  let middle := (2 * floor + 1) * s.scale * up
  let nearer := if twice < middle ∨ twice = middle ∧ floor % 2 = 0 then floor else floor + 1
  let other := if nearer = floor then floor + 1 else floor
  let inside (n : Nat) : Bool := s.contains (n * up) down
  if inside nearer then some ⟨nearer, place⟩
  else if inside other then some ⟨other, place⟩
  else none

/-- The longest selection that is ever needed. -/
def maxDigits : Nat := 17

/-- The shortest decimal that reads back to the value. -/
def Span.select (s : Span) : Selected :=
  let e := s.exponent
  let grids := (List.range maxDigits).map fun (n : Nat) => e - 1 - n
  (grids.findSome? s.onGrid).getD ⟨s.value / s.scale, 0⟩

/-- Layout of a selected decimal: positional while the leading digit stands between the fourth place after the
point and the sixteenth before it, else with an exponent of at least two digits. -/
def layout (s : Selected) : String :=
  let digits := (Numeral.digits 10 s.digits).reverse.map Numeral.digitChar
  let trimmed := (digits.reverse.dropWhile (· = '0')).reverse
  let point : Int := digits.length + s.place
  if -4 < point ∧ point ≤ 16 then
    if point ≤ 0 then
      String.ofList ('0' :: '.' :: List.replicate (-point).toNat '0' ++ trimmed)
    else
      let whole := trimmed.take point.toNat
      let fraction := trimmed.drop point.toNat
      String.ofList (whole ++ List.replicate (point.toNat - whole.length) '0' ++ '.' ::
        (if fraction.isEmpty then ['0'] else fraction))
  else
    let exponent := point - 1
    let mark := if exponent < 0 then "e-" else "e+"
    let size : Numeral.Format := { width := 2 }
    String.ofList (trimmed.take 1 ++ (if trimmed.length ≤ 1 then [] else '.' :: trimmed.drop 1))
      ++ mark ++ size.write exponent.natAbs

/-- The text of a double. -/
def write (x : Float) : String :=
  let bits := x.toBits
  let signBit := Nat.pow 2 63
  let infinite := 2047 * hiddenBit
  let sign := if bits.toNat / signBit = 1 then "-" else ""
  let rest := bits.toNat % signBit
  if infinite < rest then "nan"
  else if rest = infinite then sign ++ "inf"
  else if rest = 0 then sign ++ "0.0"
  else sign ++ layout (Span.ofBits bits).select

end Chip8.Decimal
