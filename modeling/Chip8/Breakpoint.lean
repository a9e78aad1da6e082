import Chip8.RegisterName
import Chip8.Snapshot

/-!
# Breakpoints

Conditions that stop a run. `pcMatch` is about the instruction that comes next; the others are about what the
instruction just completed did: which bytes it read or wrote, what value it left in a register, whether it
changed one.
-/

namespace Chip8

inductive BreakpointKind where
  | pcMatch
  | memoryRead
  | memoryWrite
  | registerValue
  | registerChange
  deriving DecidableEq, Repr

structure Breakpoint where
  kind : BreakpointKind
  value : Option Int := none
  address : Option Int := none
  register : Option String := none
  enabled : Bool := true
  deriving DecidableEq, Repr

namespace Breakpoint

/-- Whether an access of the given kind was made at the address of the condition. -/
def touches (b : Breakpoint) (kind : AccessKind) (activity : List Access) : Bool :=
  activity.any fun a => a.kind = kind && b.address = some (a.address : Int)

/-- Whether a reading is the wanted value; a name without reading is met by a condition without value. -/
def meets (value : Option Int) (reading : Option RegisterReading) : Bool :=
  match value, reading with
  | none, none => true
  | some n, some reading => reading.isNumber n
  | _, _ => false

/-- Whether what an instruction did meets the condition, given the registers before it. -/
def isHit (b : Breakpoint) (s : Snapshot) (before : Registers) : Bool :=
  match b.kind with
  | .pcMatch => false
  | .memoryRead => b.touches .read s.activity
  | .memoryWrite => b.touches .write s.activity
  | .registerValue =>
    match b.register with
    | none | some "" => false
    | some name => meets b.value (s.registers.readName? name)
  | .registerChange =>
    match b.register with
    | none | some "" => false
    | some name => !Registers.sameUnder name before s.registers

/-- Whether the condition stops before the instruction at `pc`. -/
def isAt (b : Breakpoint) (pc : Int) : Bool := b.enabled && b.kind = .pcMatch && b.value = some pc

end Breakpoint

end Chip8
