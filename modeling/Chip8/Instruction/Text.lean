import Chip8.Instruction

/-!
# The text of instructions

An instruction is written as its mnemonic and, after a blank, its operands with commas between them: registers
as `V` and a digit, bytes and addresses as `#` and two or three digits, the row count in decimal.
-/

namespace Chip8.Instruction

open Numeral

def registerName (x : Nibble) : String := "V" ++ hex 1 x.val

def byteLiteral (value : UInt8) : String := "#" ++ hex 2 value.toNat

def addressLiteral (target : Address12) : String := "#" ++ hex 3 target.val

/-- The verb of the instruction; several instructions share one. -/
def mnemonic : Instruction → String
  | clear => "CLS"
  | ret => "RET"
  | jump _ | jumpFrom _ => "JP"
  | call _ => "CALL"
  | skipEqual .. | skipSame .. => "SE"
  | skipUnequal .. | skipDifferent .. => "SNE"
  | put .. | copy .. | pointTo _ | getDelay _ | awaitKey _ | setDelay _ | setSound _ | pointToGlyph _
  | storeDecimal _ | storeRegisters _ | loadRegisters _ => "LD"
  | increase .. | add .. | addIndex _ => "ADD"
  | bitOr .. => "OR"
  | bitAnd .. => "AND"
  | bitXor .. => "XOR"
  | sub .. => "SUB"
  | shiftRight .. => "SHR"
  | subFrom .. => "SUBN"
  | shiftLeft .. => "SHL"
  | random .. => "RND"
  | draw .. => "DRW"
  | skipDown _ => "SKP"
  | skipUp _ => "SKNP"

def operands : Instruction → List String
  | clear | ret => []
  | jump target | call target => [addressLiteral target]
  | jumpFrom target => ["V0", addressLiteral target]
  | pointTo target => ["I", addressLiteral target]
  | skipEqual x value | skipUnequal x value | put x value | increase x value | random x value =>
    [registerName x, byteLiteral value]
  | skipSame x y | skipDifferent x y | copy x y | bitOr x y | bitAnd x y | bitXor x y | add x y | sub x y
  | shiftRight x y | subFrom x y | shiftLeft x y => [registerName x, registerName y]
  | draw x y rows => [registerName x, registerName y, decimal rows.val]
  | skipDown x | skipUp x => [registerName x]
  | getDelay x => [registerName x, "DT"]
  | awaitKey x => [registerName x, "K"]
  | setDelay x => ["DT", registerName x]
  | setSound x => ["ST", registerName x]
  | addIndex x => ["I", registerName x]
  | pointToGlyph x => ["F", registerName x]
  | storeDecimal x => ["B", registerName x]
  | storeRegisters x => ["[I]", registerName x]
  | loadRegisters x => [registerName x, "[I]"]

/-- Writes a mnemonic and its operands. -/
def write (mnemonic : String) (operands : List String) : String :=
  if operands.isEmpty then mnemonic else mnemonic ++ " " ++ ", ".intercalate operands

def text (i : Instruction) : String := write i.mnemonic i.operands

end Chip8.Instruction
