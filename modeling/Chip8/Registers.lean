import Chip8.Fault
import Chip8.Nibble

/-!
# Registers

The register file: sixteen byte registers, of which the last also serves as the flag, the index register, the
program counter, two timers, and a stack of sixteen return addresses of which the first `sp` are live.

The widths are in the types, so every state is well formed. Operations that take arbitrary integers either
refuse them (`read`, `write`) or take them modulo the width (`jump`, `setIndex`, `setDelay`, `setSound`);
an operation that is refused gives back no new state.
-/

namespace Chip8

/-- The call stack can hold any number of return addresses up to sixteen. -/
instance Registers.depths_ne_zero : @NeZero Nat Zero.ofOfNat0 17 := ⟨by decide⟩

structure Registers where
  /-- The address of the next instruction. -/
  pc : UInt16 := 0x200
  /-- How many return addresses are live. -/
  sp : Fin 17 := 0
  /-- The index register. -/
  i : UInt16 := 0
  /-- The delay timer. -/
  dt : UInt8 := 0
  /-- The sound timer. -/
  st : UInt8 := 0
  /-- The byte registers. -/
  v : Bank UInt8 := Vector.replicate 16 0
  /-- The slots for return addresses; those from `sp` on are stale. -/
  stack : Vector UInt16 16 := Vector.replicate 16 0
  deriving DecidableEq, Repr

/-- How to go to an address: plainly, or leaving a return address behind; any other name is not known. -/
inductive JumpMode where
  | plain
  | call
  | unknown (name : String)
  deriving DecidableEq, Repr

def JumpMode.ofName : String → JumpMode
  | "NORMAL" => .plain
  | "SUBROUTINE" => .call
  | name => .unknown name

namespace Registers

def flagIndex : Nibble := 15

def instructionLength : UInt16 := 2

def get (r : Registers) (x : Nibble) : UInt8 := r.v.entry x

def set (r : Registers) (x : Nibble) (value : UInt8) : Registers := { r with v := r.v.put x value }

/-- The byte in the register with a number. -/
def read (r : Registers) (index : Int) : Except Fault UInt8 :=
  match Nibble.ofInt? index with
  | some x => .ok (r.get x)
  | none => .error (.registerIndex index)

/-- Puts an integer into the register with a number: the number is judged before the value. -/
def write (r : Registers) (index value : Int) : Except Fault Registers :=
  match Nibble.ofInt? index with
  | none => .error (.registerIndex index)
  | some x =>
    if 0 ≤ value ∧ value ≤ 0xFF then .ok (r.set x (UInt8.ofInt value)) else .error (.registerValue value)

/-- Writes a condition into the flag register as one or zero. -/
def writeFlag (r : Registers) (condition : Bool) : Registers := r.set flagIndex (if condition then 1 else 0)

/-- Goes to the next instruction. -/
def advance (r : Registers) : Registers := { r with pc := r.pc + instructionLength }

/-- Goes back to the instruction before. -/
def rewind (r : Registers) : Registers := { r with pc := r.pc - instructionLength }

/-- Goes to an address, taken modulo 2^16. -/
def goto (r : Registers) (address : Int) : Registers := { r with pc := UInt16.ofInt address }

/-- Pushes the program counter and goes to an address; a full stack is refused. -/
def call (r : Registers) (address : Int) : Except Fault Registers :=
  if h : r.sp < 16 then
    .ok ({ r with stack := r.stack.set r.sp r.pc, sp := ⟨r.sp + 1, by omega⟩ }.goto address)
  else
    .error .stackOverflow

def jump (r : Registers) (address : Int) : JumpMode → Except Fault Registers
  | .plain => .ok (r.goto address)
  | .call => r.call address
  | .unknown name => .error (.jumpMode name)

/-- Pops the return address pushed last and goes there; an empty stack is refused. -/
def ret (r : Registers) : Except Fault Registers :=
  match h : r.sp.val with
  | 0 => .error .stackUnderflow
  | n + 1 => .ok { r with sp := ⟨n, by omega⟩, pc := r.stack.get ⟨n, by omega⟩ }

/-- Sets the index register, taken modulo 2^16. -/
def setIndex (r : Registers) (value : Int) : Registers := { r with i := UInt16.ofInt value }

/-- Sets the delay timer, taken modulo 2^8. -/
def setDelay (r : Registers) (value : Int) : Registers := { r with dt := UInt8.ofInt value }

/-- Sets the sound timer, taken modulo 2^8. -/
def setSound (r : Registers) (value : Int) : Registers := { r with st := UInt8.ofInt value }

/-- The live return addresses, oldest first. -/
def callers (r : Registers) : List UInt16 := r.stack.toList.take r.sp

end Registers

end Chip8
