import Chip8.Display
import Chip8.Instruction
import Chip8.Keypad
import Chip8.Memory
import Chip8.Source

/-!
# The machine

Everything an instruction can touch: registers, memory, display, keypad, the source of random bytes, and the
number of instructions completed. Actions on the machine may be refused; a refusal keeps what was done before
it, so an action's result is always paired with the machine it leaves.
-/

namespace Chip8

/-- The size of the picture of the machine. -/
def screenWidth : Nat := 64
def screenHeight : Nat := 32

instance : Positive screenWidth := ⟨by decide⟩
instance : Positive screenHeight := ⟨by decide⟩

/-- The display and the pictures of the machine. -/
abbrev Screen := Display screenWidth screenHeight
abbrev Picture := Frame screenWidth screenHeight

structure Vm where
  registers : Registers := {}
  memory : Memory
  display : Screen := {}
  keypad : Keypad := {}
  random : Source UInt8
  cycles : Nat := 0

/-- An action on the machine: it gives a value or a fault, and in both cases the machine it leaves. -/
abbrev Vm.Action := EStateM Fault Vm

namespace Vm

def new (memory : Memory) (random : Source UInt8) : Vm := { memory, random }

/-- Starts over: registers, cycle count, picture and keys are as in a new machine; the memory and what is left
of the random source stay. -/
def reset (m : Vm) : Vm :=
  { m with registers := {}, cycles := 0, display := .cleared, keypad := .released }

def onRegisters (f : Registers → Registers) : Action Unit :=
  modify fun m => { m with registers := f m.registers }

/-- Changes the registers by an operation that may be refused. -/
def tryRegisters (f : Registers → Except Fault Registers) : Action Unit := do
  match f (← get).registers with
  | .ok r => onRegisters fun _ => r
  | .error fault => throw fault

def readByte (address : Int) : Action UInt8 := do
  match (← get).memory.read address with
  | .ok (data, memory) => modify fun m => { m with memory }
                          return data
  | .error fault => throw fault

def storeByte (address : Int) (data : UInt8) : Action Unit := do
  match (← get).memory.store address data with
  | .ok memory => modify fun m => { m with memory }
  | .error fault => throw fault

/-- Reads `count` bytes from an address on, one after the other. -/
def readBytes (address : Int) : (count : Nat) → Action (List UInt8)
  | 0 => return []
  | count + 1 => do
    let data ← readByte address
    return data :: (← readBytes (address + 1) count)

def storeBytes (address : Int) : List UInt8 → Action Unit
  | [] => return
  | data :: rest => do
    storeByte address data
    storeBytes (address + 1) rest

def loadRegisters (address : Int) : List Nibble → Action Unit
  | [] => return
  | x :: rest => do
    let data ← readByte address
    onRegisters (·.set x data)
    loadRegisters (address + 1) rest

def randomByte : Action UInt8 :=
  modifyGet fun m => let (data, random) := m.random.next; (data, { m with random })

end Vm

end Chip8
