/-!
# Stretches

A class of characters as the lengths of the stretches of code points that do not and do belong to it, in turn,
from zero on. What comes after the last stretch does not belong.
-/

namespace Chip8.Text

/-- Whether the number `n` falls into a stretch that belongs, the first belonging or not. -/
def inStretch (belongs : Bool) : List Nat → Nat → Bool
  | [], _ => false
  | length :: rest, n => if n < length then belongs else inStretch (!belongs) rest (n - length)

def ofStretches (stretches : List Nat) (c : Char) : Bool := inStretch false stretches c.toNat

example : (['a', 'b', 'c', 'd'].map (ofStretches [98, 2])) = [false, true, true, false] := by decide +kernel

end Chip8.Text
