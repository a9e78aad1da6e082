import Chip8.Decimal.Ratio
import Chip8.Report

/-!
# Control loop

One iteration applies the events polled from the host, runs one instruction, ticks the timers if that is due,
and shows the picture if it may have changed. In single-step mode an instruction runs only if a step was asked
for, and every one is followed by a report; a breakpoint met in free running switches to single-step mode.

The host appears as values: the events of a poll, a source of clock readings, and a source of the outcomes of
writing the memory image to a file. Readings may be of any type; `due` says whether a tick is due at a reading,
given the reading of the last tick.
-/

namespace Chip8

/-- What the host can tell the loop. -/
inductive InputEvent where
  /-- A key of the pad went down or up. -/
  | key (key : Int) (pressed : Bool)
  | quit
  /-- A single step is asked for. -/
  | step
  /-- The memory image is to be written to a file. -/
  | dump
  deriving DecidableEq, Repr

structure ControlLoop (τ : Type) where
  debugger : Debugger
  /-- Whether instructions run only when a step is asked for. -/
  singleStep : Bool := false
  running : Bool := true
  /-- Whether a tick is due, given the reading of the last tick and the present one. -/
  due : τ → τ → Bool
  lastTick : τ
  clock : Source τ
  /-- Why writing the memory image fails, or nothing if it succeeds. -/
  disk : Source (Option FileFault)
  dumpPath : Text

namespace ControlLoop

variable {τ : Type}

abbrev Action (τ : Type) := EStateM Fault (ControlLoop τ)

/-- A loop over a debugged machine; the clock is read once. -/
def new (debugger : Debugger) (singleStep : Bool) (due : τ → τ → Bool) (clock : Source τ)
    (disk : Source (Option FileFault)) (dumpPath : Text) : ControlLoop τ :=
  let (now, clock) := clock.next
  { debugger, singleStep, due, lastTick := now, clock, disk, dumpPath }

def onDebugger (f : Debugger → Debugger) : Action τ Unit :=
  modify fun loop => { loop with debugger := f loop.debugger }

def debugging {α : Type} (action : Debugger.Action α) : Action τ α := fun loop =>
  match action loop.debugger with
  | .ok a debugger => .ok a { loop with debugger }
  | .error fault debugger => .error fault { loop with debugger }

def stop (loop : ControlLoop τ) : ControlLoop τ := { loop with running := false }

def setKey (key : Int) (pressed : Bool) : Action τ Unit := fun loop =>
  let d := loop.debugger
  match d.vm.keypad.set key pressed with
  | .ok keypad => .ok () { loop with debugger := { d with vm := { d.vm with keypad } } }
  | .error fault => .error fault loop

/-- Writes the memory image to the file. That the system refuses is noted only; a name that is no file name is
a fault. -/
def dump : Action τ Unit := do
  let loop ← get
  let (failure, disk) := loop.disk.next
  set { loop with disk }
  match failure with
  | none => onDebugger fun d => (d.put (.written loop.dumpPath d.vm.memory.image)).note (.dumped loop.dumpPath)
  | some fault =>
    if fault.isSystem then onDebugger fun d => d.note (.dumpFailed fault) else throw (.imageName fault)

def handle : InputEvent → Action τ Unit
  | .quit => modify stop
  | .key key pressed => setKey key pressed
  | .step => onDebugger Debugger.requestStep
  | .dump => dump

/-- Applies the events of one poll in order. -/
def handleAll : List InputEvent → Action τ Unit
  | [] => return
  | event :: rest => do
    handle event
    handleAll rest

def printReport : Action τ Unit := onDebugger fun d => d.put (.printed (d.report ++ "\n"))

/-- Runs an instruction if a step was asked for, and reports on it. -/
def runSingle : Action τ Unit := do
  let (requested, debugger) := (← get).debugger.consumeStep
  modify fun loop => { loop with debugger }
  if requested then
    let _ ← debugging Debugger.stepInstruction
    printReport

/-- Runs an instruction; one that meets a breakpoint switches to single-step mode and is reported on. -/
def runFree : Action τ Unit := do
  if ← debugging Debugger.stepAndCheck then
    onDebugger fun d => d.note (.stopped d.vm.registers.pc)
    modify fun loop => { loop with singleStep := true }
    printReport

/-- Reads the clock, and ticks the timers if that is due. -/
def tickTimers : Action τ Unit := modify fun loop =>
  let (now, clock) := loop.clock.next
  if loop.due loop.lastTick now then
    { loop with clock, lastTick := now, debugger := loop.debugger.tick }
  else
    { loop with clock }

/-- Shows the picture if it may have changed since it was shown last. -/
def present : Action τ Unit := onDebugger fun d =>
  if d.vm.display.dirty then
    { d with vm := { d.vm with display := d.vm.display.markClean } }.put (.shown d.vm.display.pixels)
  else d

/-- One iteration over the events of one poll; says whether the loop goes on. -/
def iterate (events : List InputEvent) : Action τ Bool := do
  handleAll events
  if !(← get).running then
    return false
  if (← get).singleStep then runSingle else runFree
  tickTimers
  present
  return (← get).running

/-- Iterates over polls until the loop ends; when the given polls are used up, the host asks to quit. -/
def run : List (List InputEvent) → Action τ Unit
  | [] => do let _ ← iterate [.quit]
  | events :: rest => do if ← iterate events then run rest

/-- The reading of a clock, in seconds, that shows a fraction of a second. -/
def reading (n d : Int) : Except Fault Float :=
  if d = 0 then .error .clockRatio
  else
    match Decimal.ofRatio? n d with
    | some seconds => .ok seconds
    | none => .error .clockLimit

/-- The test for ticks of `hz` a second, with readings in seconds. -/
def everyHz (hz : Int) : Except Fault (Float → Float → Bool) :=
  if hz = 0 then .error .timerRate
  else if Decimal.exceedsDoubles hz then .error .timerLimit
  else
    let interval := 1.0 / Float.ofInt hz
    .ok fun last now => interval ≤ now - last

end ControlLoop

end Chip8
