import Chip8.Memory
import Chip8.Operation

/-!
# Disassembly

A range of the memory as lines of one word each: address, the two bytes, and the instruction as written, or
`DW` and the word where the word is no instruction. Lines are two bytes apart, and the last one ends inside
the memory. Nothing is recorded.
-/

namespace Chip8

open Numeral

namespace Disassembly

structure Line where
  address : Int
  high : UInt8
  low : UInt8
  deriving DecidableEq, Repr

namespace Line

def word (line : Line) : UInt16 := Word.ofBytes line.high line.low

def bytes (line : Line) : String := hex 2 line.high.toNat ++ " " ++ hex 2 line.low.toNat

def text (line : Line) : String :=
  match Operation.decode line.word.toNat with
  | .ok op => op.text
  | .error _ => "DW #" ++ hex 4 line.word.toNat

end Line

def line (m : Memory) (address : Int) : Except Fault Line := do
  return { address, high := ← m.peek address, low := ← m.peek (address + 1) }

/-- The end of a range: no line starts at it or after it. -/
def limit (m : Memory) (start length : Int) : Int := min (start + length) (m.size - 1)

/-- How many lines a range has. -/
def count (m : Memory) (start length : Int) : Nat := ((limit m start length - start + 1) / 2).toNat

def lines (m : Memory) (address : Int) : (count : Nat) → Except Fault (List Line)
  | 0 => .ok []
  | count + 1 => do
    let first ← line m address
    return first :: (← lines m (address + 2) count)

end Disassembly

def disassemble (m : Memory) (start length : Int) : Except Fault (List Disassembly.Line) :=
  Disassembly.lines m start (Disassembly.count m start length)

end Chip8
