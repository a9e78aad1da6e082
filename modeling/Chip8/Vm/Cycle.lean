import Chip8.Snapshot
import Chip8.Vm.Execute

/-!
# The instruction cycle

A cycle empties the access record, fetches the word at the program counter and goes past it, reads the word as
an instruction and executes it. A completed cycle counts one and gives a snapshot with the accesses made in
it; a refused one leaves the accesses it made in the record. Timers run on their own and are lowered by `tick`.
-/

namespace Chip8.Vm

/-- Reads the word at the program counter, high byte first, and goes past it. -/
def fetch : Action UInt16 := do
  let pc := (← get).registers.pc
  let high ← readByte pc.toNat
  let low ← readByte (pc.toNat + 1)
  onRegisters Registers.advance
  return Word.ofBytes high low

def takeLog : Action (List Access) :=
  modifyGet fun m => let (log, memory) := m.memory.takeLog; (log, { m with memory })

/-- One instruction cycle. -/
def step : Action Snapshot := do
  let _ ← takeLog
  let address := (← get).registers.pc
  let word ← fetch
  match Instruction.ofWord? word with
  | none => throw (.illegalOpcode word.toNat)
  | some instruction =>
    execute instruction
    modify fun m => { m with cycles := m.cycles + 1 }
    let activity ← takeLog
    let m ← get
    return { registers := m.registers, operation := .ofInstruction word.toNat instruction,
             cycle := m.cycles, address, activity }

/-- Whether an operation waits for a key and none is down. -/
def waits (op : Operation) (m : Vm) : Bool :=
  op.pattern = (Instruction.awaitKey 0).pattern && m.keypad.firstPressed.isNone

/-- Executes the instruction of an operation without a fetch. While it waits for a key, its operand does not
matter. -/
def perform (op : Operation) : Action Unit := do
  if waits op (← get) then execute (.awaitKey 0)
  else
    match op.instruction with
    | .ok instruction => execute instruction
    | .error fault => throw fault

/-- The operation that the next cycle executes, if its word can be fetched and read. -/
def upcoming? (m : Vm) : Option Operation := do
  let pc := m.registers.pc.toNat
  let high ← (m.memory.peek pc).toOption
  let low ← (m.memory.peek (pc + 1)).toOption
  (Operation.decode (Word.ofBytes high low).toNat).toOption

/-- Lowers each running timer by one, and says whether the sound timer ran out. -/
def tick (m : Vm) : Vm × Bool :=
  let r := m.registers
  ({ m with registers := { r with dt := if r.dt = 0 then 0 else r.dt - 1,
                                  st := if r.st = 0 then 0 else r.st - 1 } }, r.st = 1)

def soundActive (m : Vm) : Bool := m.registers.st ≠ 0

end Chip8.Vm
