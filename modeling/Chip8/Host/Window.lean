import Chip8.Host.View
import Chip8.Settings.Basic

/-!
# The window

The view together with the control loop that a timer drives. A firing of the timer runs a batch of iterations,
so many that the instructions of a second come out right; the first polls the view. A loop that ends closes
the window, and so does a fatal fault, which is also reported. Closing stops the timer and the loop.
-/

namespace Chip8.Host

structure Window (τ : Type) where
  loop : ControlLoop τ
  view : View
  title : String
  /-- How many iterations a firing of the timer runs at most. -/
  batch : Nat
  /-- The milliseconds between two firings. -/
  interval : Nat
  timerActive : Bool := true
  closed : Bool := false
  exitCode : Nat := 0
  /-- The fault that ended the run. -/
  ended : Option Fault := none

namespace Window

variable {τ : Type}

abbrev Action (τ : Type) := EStateM Fault (Window τ)

def new (loop : ControlLoop τ) (view : View) (settings : Settings) : Window τ :=
  { loop, view
    title := "CHIP-8 Tracer" ++ if loop.singleStep then " [debug]" else ""
    batch := max 1 (settings.cyclesPerSecond / settings.timerHz)
    interval := max 1 (1000 / settings.timerHz) }

/-- Closes the window, and with it the timer and the loop. -/
def close (w : Window τ) : Window τ :=
  { w with timerActive := false, closed := true, loop := w.loop.stop }

/-- Gives the view the pictures shown since the journal had a length. -/
def showSince (length : Nat) (w : Window τ) : Window τ :=
  let journal := w.loop.debugger.journal
  let outputs := (journal.extract length journal.size).toList
  { w with view := (outputs.filterMap Output.shown?).foldl View.present w.view }

/-- Polls the view and iterates the loop once; says whether the loop goes on. -/
def iterate : Action τ Bool := fun w =>
  let length := w.loop.debugger.journal.size
  let (events, view) := w.view.poll
  match ControlLoop.iterate events w.loop with
  | .ok goesOn loop => .ok goesOn (showSince length { w with loop, view })
  | .error fault loop => .error fault (showSince length { w with loop, view })

/-- Iterates at most `n` times, as long as the loop goes on; says whether it still does. -/
def iterateUpTo : (n : Nat) → Action τ Bool
  | 0 => return true
  | n + 1 => do if ← iterate then iterateUpTo n else return false

/-- Ends the window after a fatal fault, and reports on the state it left. -/
def fail (fault : Fault) (w : Window τ) : Window τ :=
  let d := w.loop.debugger
  let debugger := d.note (.fatal fault d.report)
  close { w with ended := some fault, exitCode := 1, loop := { w.loop with debugger } }

/-- Runs a batch of iterations. -/
def runBatch : Action τ Unit := fun w =>
  match iterateUpTo w.batch w with
  | .ok true w => .ok () w
  | .ok false w => .ok () w.close
  | .error fault w => if fault.fatal then .ok () (w.fail fault) else .error fault w

/-- Takes a stroke of the keyboard, and says whether the view used it up. -/
def take (s : Stroke) (w : Window τ) : Bool × Window τ :=
  let (used, view) := w.view.take s
  (used, { w with view })

/-- Gives the loop a clock that stands still at a reading. -/
def setClock (reading : τ) (w : Window τ) : Window τ := { w with loop := { w.loop with clock := .constant reading } }

/-- What becomes of the clock in a turn: a new reading, none, or a reading that it cannot give. -/
abbrev ClockChange (τ : Type) := Except Fault (Option τ)

/-- A turn of the event loop: strokes arrive, the clock is set, and the timer fires if it is active. -/
def turn (strokes : List Stroke) (change : ClockChange τ := .ok none) : Action τ Unit := do
  modify fun w => strokes.foldl (fun w s => (w.take s).2) w
  match change with
  | .ok (some reading) => modify (setClock reading)
  | .ok none => pure ()
  | .error fault => throw fault
  if (← get).timerActive then runBatch

/-- Runs turns of the event loop until the window is closed. When the turns are used up, the window is closed. -/
def run : List (List Stroke × ClockChange τ) → Action τ Unit
  | [] => modify close
  | (strokes, change) :: rest => do
    if !(← get).closed then
      turn strokes change
      run rest

end Window

end Chip8.Host
