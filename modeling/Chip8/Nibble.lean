/-!
# Nibbles

The numbers below sixteen: registers, keys of the pad, digits. An integer outside the range is none. A bank
holds one value for each of them.
-/

namespace Chip8

/-- A register, key or digit number below sixteen. -/
abbrev Nibble := Fin 16

/-- Sixteen is a size with numbers below it. -/
instance Nibble.size_ne_zero : @NeZero Nat Zero.ofOfNat0 16 := ⟨by decide⟩

/-- The number that an integer is, if it is below sixteen. -/
def Nibble.ofInt? (n : Int) : Option Nibble :=
  if h : 0 ≤ n ∧ n < 16 then some ⟨n.toNat, by omega⟩ else none

/-- A value for each nibble. -/
abbrev Bank (α : Type) := Vector α 16

namespace Bank

variable {α : Type}

/-- The value for a nibble. -/
def entry (b : Bank α) (x : Nibble) : α := b[x]

/-- Puts a value in the place for a nibble. -/
def put (b : Bank α) (x : Nibble) (a : α) : Bank α := b.set x a

end Bank

end Chip8
