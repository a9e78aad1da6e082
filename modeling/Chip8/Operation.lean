import Chip8.Instruction.Text
import Chip8.Numeral.Reading
import Chip8.Text.Quoted

/-!
# Operations

The record of a decoded word: the word as a hexadecimal numeral, the instruction as text, and the name of its
template. `decode` makes the record of a word, given as an integer of any size; the numeral is that of the
integer itself, so `word` reads the very integer back, and `instruction?` finds the instruction to execute
from numeral and template alone.
-/

namespace Chip8

open Numeral

structure Operation where
  opcodeHex : String
  mnemonic : String
  operands : List String := []
  pattern : String := ""
  cycles : Int := 1
  length : Int := 2
  deriving DecidableEq, Repr

namespace Operation

def text (op : Operation) : String := Instruction.write op.mnemonic op.operands

def word (op : Operation) : Except Fault Int :=
  match readInt? 16 op.opcodeHex.toList with
  | some n => .ok n
  | none => .error (.wordNumeral (Text.quotedUpTo shownLimit op.opcodeHex))

/-- The record of an instruction found in the word `n`. -/
def ofInstruction (n : Int) (i : Instruction) : Operation :=
  { opcodeHex := hex 4 n, mnemonic := i.mnemonic, operands := i.operands, pattern := i.pattern }

def decode (n : Int) : Except Fault Operation :=
  match Instruction.ofWord? (Word.ofInt n) with
  | some i => .ok (ofInstruction n i)
  | none => .error (.illegalOpcode n)

/-- The instruction to execute: of the named template, with the fields of the operation's word as operands.
Templates without operands do not need the word. -/
def instruction (op : Operation) : Except Fault Instruction :=
  match op.pattern with
  | "00E0" => .ok .clear
  | "00EE" => .ok .ret
  | name => do
    let n ← op.word
    match Instruction.ofPattern? name (Word.ofInt n) with
    | some i => return i
    | none => throw (.illegalOpcode n)

end Operation

end Chip8
