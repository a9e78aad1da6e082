import Chip8.Word

/-!
# Instructions

The thirty-four instructions with their operands, and the grammar that words are read by. `ofWord?` reads a
word; `pattern` names the template of an instruction, four characters that are either digits of the word or
letters that stand for an operand (`X`, `Y` registers, `N` a nibble, `KK` a byte, `NNN` an address); and
`ofPattern?` takes the operands of a named template out of a word without looking at the template's digits.
The last nibble of `5XY0` and `9XY0` is not looked at.
-/

namespace Chip8

inductive Instruction where
  /-- Makes all pixels dark. -/
  | clear
  /-- Returns from the call made last. -/
  | ret
  /-- Goes to an address. -/
  | jump (target : Address12)
  /-- Goes to an address and leaves the return address on the stack. -/
  | call (target : Address12)
  /-- Skips the next instruction if the register holds the byte. -/
  | skipEqual (x : Nibble) (value : UInt8)
  /-- Skips the next instruction unless the register holds the byte. -/
  | skipUnequal (x : Nibble) (value : UInt8)
  /-- Skips the next instruction if the two registers hold the same byte. -/
  | skipSame (x y : Nibble)
  /-- Skips the next instruction unless the two registers hold the same byte. -/
  | skipDifferent (x y : Nibble)
  /-- Puts a byte into the register. -/
  | put (x : Nibble) (value : UInt8)
  /-- Adds a byte to the register, leaving the flag alone. -/
  | increase (x : Nibble) (value : UInt8)
  /-- Copies the second register into the first. -/
  | copy (x y : Nibble)
  | bitOr (x y : Nibble)
  | bitAnd (x y : Nibble)
  | bitXor (x y : Nibble)
  /-- Adds the second register to the first; the flag says that the sum passed 255. -/
  | add (x y : Nibble)
  /-- Subtracts the second register from the first; the flag says that the first was greater. -/
  | sub (x y : Nibble)
  /-- Halves the first register; the flag takes the bit that falls out. -/
  | shiftRight (x y : Nibble)
  /-- Subtracts the first register from the second into the first; the flag says that the second was greater. -/
  | subFrom (x y : Nibble)
  /-- Doubles the first register; the flag takes the bit that falls out. -/
  | shiftLeft (x y : Nibble)
  /-- Sets the index register. -/
  | pointTo (target : Address12)
  /-- Goes to an address plus the first register. -/
  | jumpFrom (target : Address12)
  /-- Puts a random byte, masked, into the register. -/
  | random (x : Nibble) (mask : UInt8)
  /-- Draws `rows` bytes from the index register on at the place given by two registers. -/
  | draw (x y rows : Nibble)
  /-- Skips the next instruction if the key named by the register is down. -/
  | skipDown (x : Nibble)
  /-- Skips the next instruction unless the key named by the register is down. -/
  | skipUp (x : Nibble)
  /-- Reads the delay timer. -/
  | getDelay (x : Nibble)
  /-- Waits for a key and puts its number into the register. -/
  | awaitKey (x : Nibble)
  /-- Sets the delay timer. -/
  | setDelay (x : Nibble)
  /-- Sets the sound timer. -/
  | setSound (x : Nibble)
  /-- Adds the register to the index register. -/
  | addIndex (x : Nibble)
  /-- Points the index register at the glyph of the digit in the register. -/
  | pointToGlyph (x : Nibble)
  /-- Stores the three decimal digits of the register. -/
  | storeDecimal (x : Nibble)
  /-- Stores the registers up to `x`. -/
  | storeRegisters (x : Nibble)
  /-- Loads the registers up to `x`. -/
  | loadRegisters (x : Nibble)
  deriving DecidableEq, Repr

namespace Instruction

open Word in
/-- The instruction that a word is, if it is one. Family 0 is matched on all twelve low bits, families E and F
on the low byte, family 8 on the last nibble, and the other families are one instruction each. -/
def ofWord? (w : UInt16) : Option Instruction :=
  match (family w).val with
  | 0x0 =>
    match (nnn w).val with
    | 0x0E0 => some .clear
    | 0x0EE => some .ret
    | _ => none
  | 0x1 => some (.jump (nnn w))
  | 0x2 => some (.call (nnn w))
  | 0x3 => some (.skipEqual (x w) (kk w))
  | 0x4 => some (.skipUnequal (x w) (kk w))
  | 0x5 => some (.skipSame (x w) (y w))
  | 0x6 => some (.put (x w) (kk w))
  | 0x7 => some (.increase (x w) (kk w))
  | 0x8 =>
    match (n w).val with
    | 0x0 => some (.copy (x w) (y w))
    | 0x1 => some (.bitOr (x w) (y w))
    | 0x2 => some (.bitAnd (x w) (y w))
    | 0x3 => some (.bitXor (x w) (y w))
    | 0x4 => some (.add (x w) (y w))
    | 0x5 => some (.sub (x w) (y w))
    | 0x6 => some (.shiftRight (x w) (y w))
    | 0x7 => some (.subFrom (x w) (y w))
    | 0xE => some (.shiftLeft (x w) (y w))
    | _ => none
  | 0x9 => some (.skipDifferent (x w) (y w))
  | 0xA => some (.pointTo (nnn w))
  | 0xB => some (.jumpFrom (nnn w))
  | 0xC => some (.random (x w) (kk w))
  | 0xD => some (.draw (x w) (y w) (n w))
  | 0xE =>
    match (kk w).toNat with
    | 0x9E => some (.skipDown (x w))
    | 0xA1 => some (.skipUp (x w))
    | _ => none
  | 0xF =>
    match (kk w).toNat with
    | 0x07 => some (.getDelay (x w))
    | 0x0A => some (.awaitKey (x w))
    | 0x15 => some (.setDelay (x w))
    | 0x18 => some (.setSound (x w))
    | 0x1E => some (.addIndex (x w))
    | 0x29 => some (.pointToGlyph (x w))
    | 0x33 => some (.storeDecimal (x w))
    | 0x55 => some (.storeRegisters (x w))
    | 0x65 => some (.loadRegisters (x w))
    | _ => none
  | _ => none

def pattern : Instruction → String
  | clear => "00E0"
  | ret => "00EE"
  | jump _ => "1NNN"
  | call _ => "2NNN"
  | skipEqual .. => "3XKK"
  | skipUnequal .. => "4XKK"
  | skipSame .. => "5XY0"
  | put .. => "6XKK"
  | increase .. => "7XKK"
  | copy .. => "8XY0"
  | bitOr .. => "8XY1"
  | bitAnd .. => "8XY2"
  | bitXor .. => "8XY3"
  | add .. => "8XY4"
  | sub .. => "8XY5"
  | shiftRight .. => "8XY6"
  | subFrom .. => "8XY7"
  | shiftLeft .. => "8XYE"
  | skipDifferent .. => "9XY0"
  | pointTo _ => "ANNN"
  | jumpFrom _ => "BNNN"
  | random .. => "CXKK"
  | draw .. => "DXYN"
  | skipDown _ => "EX9E"
  | skipUp _ => "EXA1"
  | getDelay _ => "FX07"
  | awaitKey _ => "FX0A"
  | setDelay _ => "FX15"
  | setSound _ => "FX18"
  | addIndex _ => "FX1E"
  | pointToGlyph _ => "FX29"
  | storeDecimal _ => "FX33"
  | storeRegisters _ => "FX55"
  | loadRegisters _ => "FX65"

open Word in
/-- The instruction of a named template whose operands are the fields of a word. -/
def ofPattern? (name : String) (w : UInt16) : Option Instruction :=
  match name with
  | "00E0" => some .clear
  | "00EE" => some .ret
  | "1NNN" => some (.jump (nnn w))
  | "2NNN" => some (.call (nnn w))
  | "3XKK" => some (.skipEqual (x w) (kk w))
  | "4XKK" => some (.skipUnequal (x w) (kk w))
  | "5XY0" => some (.skipSame (x w) (y w))
  | "6XKK" => some (.put (x w) (kk w))
  | "7XKK" => some (.increase (x w) (kk w))
  | "8XY0" => some (.copy (x w) (y w))
  | "8XY1" => some (.bitOr (x w) (y w))
  | "8XY2" => some (.bitAnd (x w) (y w))
  | "8XY3" => some (.bitXor (x w) (y w))
  | "8XY4" => some (.add (x w) (y w))
  | "8XY5" => some (.sub (x w) (y w))
  | "8XY6" => some (.shiftRight (x w) (y w))
  | "8XY7" => some (.subFrom (x w) (y w))
  | "8XYE" => some (.shiftLeft (x w) (y w))
  | "9XY0" => some (.skipDifferent (x w) (y w))
  | "ANNN" => some (.pointTo (nnn w))
  | "BNNN" => some (.jumpFrom (nnn w))
  | "CXKK" => some (.random (x w) (kk w))
  | "DXYN" => some (.draw (x w) (y w) (n w))
  | "EX9E" => some (.skipDown (x w))
  | "EXA1" => some (.skipUp (x w))
  | "FX07" => some (.getDelay (x w))
  | "FX0A" => some (.awaitKey (x w))
  | "FX15" => some (.setDelay (x w))
  | "FX18" => some (.setSound (x w))
  | "FX1E" => some (.addIndex (x w))
  | "FX29" => some (.pointToGlyph (x w))
  | "FX33" => some (.storeDecimal (x w))
  | "FX55" => some (.storeRegisters (x w))
  | "FX65" => some (.loadRegisters (x w))
  | _ => none

end Instruction

end Chip8
