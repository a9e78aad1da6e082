import Chip8.Settings.Key

/-!
# The order of sets

A set of numbers shows them in an order of its own, which depends on their values and a little on the order in
which they came. Every number has a code, equal for equal numbers, and a place in a row that is more than twice
as long as the set: the one that its code names or, where that is taken, the next free one that a fixed walk
from there meets. Sets of other values keep the order in which these came.
-/

namespace Chip8.Value

/-- The modulus of codes. Sixty-one doublings give a number back. -/
def codeModulus : Nat := 2305843009213693951

/-- The code of a number `m * 2 ^ q` with a sign; one code is left out. -/
def codeOf (isNegative : Bool) (m : Nat) (q : Int) : Int :=
  let code : Int := (m * Nat.pow 2 (q % 61).toNat % codeModulus : Nat)
  if !isNegative then code else if code = 1 then -2 else -code

/-- The code of an infinite number. -/
def infiniteCode : Int := 314159

/-- The code of a value that is a number. -/
def code? : Value → Option Int
  | bool b => some (codeOf false b.toNat 0)
  | int n => some (codeOf (n < 0) n.natAbs 0)
  | float x _ =>
    if x.isNaN then none
    else if x.isInf then some (if x < 0.0 then -infiniteCode else infiniteCode)
    else
      let (m, q) := Decimal.parts x.toBits
      some (codeOf (x < 0.0) m q)
  | _ => none

/-- How many places after the first are tried before the walk jumps, if the row has as many. -/
def neighbours : Nat := 9

/-- The first free place on the walk from a place in a row of some length. -/
def freePlace (taken : List Nat) (length : Nat) : (fuel : Nat) → (place code : Nat) → Nat
  | 0, place, _ => place
  | fuel + 1, place, code =>
    let tried := List.range' place (if place + neighbours < length then neighbours + 1 else 1)
    match tried.find? fun p => !taken.contains p with
    | some p => p
    | none => freePlace taken length fuel ((place * 5 + 1 + code / 32) % length) (code / 32)

/-- The length of the row for a number of values: a power of two. -/
def rowLength (count : Nat) : Nat := if count < 5 then 8 else Nat.pow 2 ((2 * count).log2 + 1)

/-- The values with their places after one more was put to them. -/
def seat (length : Nat) (seated : List (Nat × Value)) (entry : Value × Int) : List (Nat × Value) :=
  let code := (entry.2 % Nat.pow 2 64).toNat
  (freePlace (seated.map (·.1)) length (length + 64) (code % length) code, entry.1) :: seated

/-- The values of a set in the order in which it shows them, from the order in which they came. -/
def setOrder (values : List Value) : List Value :=
  match values.mapM fun v => v.code?.map (v, ·) with
  | none => values
  | some entries =>
    let seated := entries.foldl (seat (rowLength values.length)) []
    (seated.mergeSort fun a b => decide (a.1 ≤ b.1)).map (·.2)

end Chip8.Value
