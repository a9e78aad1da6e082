import Chip8.Breakpoint
import Chip8.Output
import Chip8.Vm.Cycle

/-!
# Debugger

A machine under observation: a list of breakpoints without repetition, the registers before the instruction
completed last, its snapshot, the tail of the trace of a fixed length, a request for a single step, and the
journal of everything that left the machine. `stepInstruction` runs one instruction and records it,
`stepAndCheck` also says whether a breakpoint stops here, `run` repeats that up to a limit, and `runWithin` also takes
no limit at all.

A refused step leaves trace and snapshot as they were, apart from the registers before it.
-/

namespace Chip8

structure Debugger where
  vm : Vm
  breakpoints : List Breakpoint := []
  /-- The registers before the instruction run last. -/
  before : Registers
  /-- The snapshot of the instruction completed last. -/
  latest : Option Snapshot := none
  /-- The snapshots of the instructions completed last, oldest first. -/
  history : Array Snapshot := #[]
  /-- How many snapshots the history keeps. -/
  capacity : Nat
  stepRequested : Bool := false
  /-- What left the machine since the journal was emptied. -/
  journal : Array Output := #[]

namespace Debugger

/-- The length of the history unless it is asked for. -/
def standardCapacity : Nat := 64

def new (vm : Vm) (capacity : Nat := standardCapacity) : Debugger :=
  { vm, before := vm.registers, capacity }

/-- A debugger whose history length is given as an integer, which must fit a word of 64 bits with sign and must
not be negative. -/
def ofCapacity (vm : Vm) (capacity : Int) : Except Fault Debugger :=
  if !Length.fitsWord capacity then .error .historyLimit
  else if capacity < 0 then .error .historySize
  else .ok (new vm capacity.toNat)

abbrev Action := EStateM Fault Debugger

def put (d : Debugger) (output : Output) : Debugger := { d with journal := d.journal.push output }

def note (d : Debugger) (n : Notice) : Debugger := d.put (.notice n)

/-- Takes the journal, oldest output first. -/
def takeJournal (d : Debugger) : List Output × Debugger := (d.journal.toList, { d with journal := #[] })

def onVm {α : Type} (action : Vm.Action α) : Action α := fun d =>
  match action d.vm with
  | .ok a vm => .ok a { d with vm }
  | .error fault vm => .error fault { d with vm }

def add (d : Debugger) (b : Breakpoint) : Debugger :=
  if b ∈ d.breakpoints then d else { d with breakpoints := d.breakpoints ++ [b] }

def remove (d : Debugger) (b : Breakpoint) : Debugger :=
  { d with breakpoints := d.breakpoints.filter (· ≠ b) }

def requestStep (d : Debugger) : Debugger := { d with stepRequested := true }

/-- Takes the request for a single step, and says whether there was one. -/
def consumeStep (d : Debugger) : Bool × Debugger := (d.stepRequested, { d with stepRequested := false })

/-- Whether an enabled breakpoint stops before the instruction at `pc`. -/
def stopsAt (d : Debugger) (pc : Int) : Bool := d.breakpoints.any (·.isAt pc)

/-- Whether an enabled breakpoint is met by what an instruction did. -/
def isHit (d : Debugger) (s : Snapshot) : Bool :=
  d.breakpoints.any fun b => b.enabled && b.isHit s d.before

/-- The last `n` elements. -/
def tail {α : Type} (n : Nat) (xs : Array α) : Array α := xs.extract (xs.size - n) xs.size

def record (d : Debugger) (s : Snapshot) : Debugger :=
  { d with latest := some s, history := tail d.capacity (d.history.push s) }

/-- Runs one instruction cycle; one whose word was read is noted even if it is then refused. -/
def cycle : Action Snapshot := do
  modify fun d =>
    match d.vm.upcoming? with
    | some operation => d.note (.fetched d.vm.registers.pc operation)
    | none => d
  onVm Vm.step

/-- Runs one instruction cycle and records it. -/
def stepInstruction : Action Snapshot := do
  modify fun d => { d with before := d.vm.registers }
  let s ← cycle
  modify (·.record s)
  return s

/-- Runs one instruction cycle, and says whether a breakpoint is met by what it did or by where it led. -/
def stepAndCheck : Action Bool := do
  let s ← stepInstruction
  let d ← get
  return d.isHit s || d.stopsAt s.registers.pc.toNat

/-- How a run ended: stopped by a breakpoint after so many instructions, or at its limit. -/
inductive Stop where
  | hit (ran : Nat)
  | limit (ran : Nat)
  deriving DecidableEq, Repr

/-- The number of instructions run. -/
def Stop.ran : Stop → Nat
  | .hit n | .limit n => n

/-- Runs at most `limit` instructions on top of the `ran` already run, up to the first that meets a
breakpoint. -/
def runFrom (ran : Nat) : (limit : Nat) → Action Stop
  | 0 => return .limit ran
  | limit + 1 => do
    if ← stepAndCheck then
      modify fun d =>
        d.put (.printed ("Breakpoint hit at PC: " ++ Numeral.hex0x 6 d.vm.registers.pc.toNat ++ "\n"))
      return .hit (ran + 1)
    else
      runFrom (ran + 1) limit

/-- Runs at most `limit` instructions, up to the first that meets a breakpoint. -/
def run (limit : Nat) : Action Stop := runFrom 0 limit

/-- Goes on with runs, each on top of the instructions already run, for as long as they reach their limits. If they all
do, there is no result. -/
def goOn (next : Nat → Action Stop) (ran : Nat) (d : Debugger) : Option (EStateM.Result Fault Debugger Stop) :=
  match next ran d with
  | .ok (.limit ran) d => d |>.goOn next ran
  | .ok (.hit ran) d => some (.ok (.hit ran) d)
  | .error fault d => some (.error fault d)
partial_fixpoint

/-- Runs at most `limit` instructions, none if that is not positive, up to the first that meets a breakpoint. Without a
limit, only a breakpoint or a fault ends the run. -/
def runWithin (limit : Option Int) (d : Debugger) : Option (EStateM.Result Fault Debugger Stop) :=
  match limit with
  | some n => some (run n.toNat d)
  | none => goOn (runFrom · 1) 0 d

/-- Lowers the timers, and notes it when the sound timer runs out. -/
def tick (d : Debugger) : Debugger :=
  let (vm, beep) := d.vm.tick
  let d := { d with vm }
  if beep then d.note .beep else d

/-- Puts an image into the memory. -/
def load (offset : Int) (data : List UInt8) : Action Unit := fun d =>
  match d.vm.memory.load offset data with
  | .ok memory => .ok () ({ d with vm := { d.vm with memory } }.note (.imageLoaded data.length offset))
  | .error fault => .error fault d

end Debugger

end Chip8
