import Chip8.Numeral.Reading

/-!
# Reading decimal fractions

The written form of a double: blanks around it, a sign, and digits of any script with an optional point and an
optional exponent, or one of the words for infinity and for no number. The double is the one nearest to the
decimal, and zero or infinity where the decimal lies outside the range of doubles.
-/

namespace Chip8.Decimal

open Text Numeral

/-- The digits at the start of a text, most significant first, and what follows. -/
def digitsAhead : List Char → List Nat × List Char
  | [] => ([], [])
  | c :: rest =>
    match decimalValue? c with
    | some d => let (ds, rest) := digitsAhead rest; (d :: ds, rest)
    | none => ([], c :: rest)

/-- The exponent that makes up a whole text; no text is the exponent zero. -/
def exponent? : List Char → Option Int
  | [] => some 0
  | e :: rest =>
    if e ≠ 'e' ∧ e ≠ 'E' then none
    else
      let (negative, rest) := takeSign rest
      match digitsAhead rest with
      | (d :: ds, []) =>
        let n : Int := ofRow 10 (d :: ds)
        some (if negative then -n else n)
      | _ => none

/-- The double nearest to `digits * 10^exponent`. Doubles have fewer than 310 digits before the point, and no
decimal that starts after the 330th place differs from zero. -/
def nearest (digits : Nat) (exponent : Int) : Float :=
  let size : Int := (Numeral.digits 10 digits).length + exponent
  if digits = 0 ∨ size < -330 then 0.0
  else if 310 < size then 1.0 / 0.0
  else Float.ofScientific digits (exponent < 0) exponent.natAbs

/-- Whether an integer lies so far outside the range of doubles that none is nearest: from halfway between the
greatest double and the next power of two on. -/
def exceedsDoubles (n : Int) : Bool := Nat.pow 2 1024 - Nat.pow 2 970 ≤ n.natAbs

/-- The double that a numeral without sign stands for. -/
def readPositive? (s : List Char) : Option Float :=
  let word := String.ofList (s.map Char.toLower)
  if word = "inf" || word = "infinity" then some (1.0 / 0.0)
  else if word = "nan" then some (0.0 / 0.0)
  else
    let (whole, rest) := digitsAhead s
    let (fraction, rest) := match rest with
      | '.' :: rest => digitsAhead rest
      | rest => ([], rest)
    if whole.isEmpty && fraction.isEmpty then none
    else (exponent? rest).map fun (e : Int) => nearest (ofRow 10 (whole ++ fraction)) (e - fraction.length)

/-- The double that a text stands for. -/
def read? (s : List Char) : Option Float :=
  let (negative, s) := takeSign (trim s)
  (readPositive? s).map fun x => if negative then -x else x

end Chip8.Decimal
