import Chip8.Registers

/-!
# Words

An instruction is a word of sixteen bits, and its operands are fields of the word: the leading nibble, two
register numbers, the last nibble, the low byte and the low twelve bits. An integer of any size stands for the
word it is congruent to modulo 2^16.
-/

namespace Chip8

abbrev Address12 := Fin 4096

namespace Word

def ofInt (n : Int) : UInt16 := UInt16.ofInt n

/-- The word made of two bytes, the high one first. -/
def ofBytes (high low : UInt8) : UInt16 := high.toUInt16 * 256 + low.toUInt16

/-- The leading nibble, which tells families of instructions apart. -/
def family (w : UInt16) : Nibble := ⟨w.toNat / 4096 % 16, by omega⟩

/-- The first register number. -/
def x (w : UInt16) : Nibble := ⟨w.toNat / 256 % 16, by omega⟩

/-- The second register number. -/
def y (w : UInt16) : Nibble := ⟨w.toNat / 16 % 16, by omega⟩

def n (w : UInt16) : Nibble := ⟨w.toNat % 16, by omega⟩

def kk (w : UInt16) : UInt8 := UInt8.ofNat (w.toNat % 256)

/-- The low twelve bits. -/
def nnn (w : UInt16) : Address12 := ⟨w.toNat % 4096, by omega⟩

end Word

end Chip8
