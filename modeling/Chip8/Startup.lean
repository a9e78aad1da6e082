import Chip8.Debugger
import Chip8.FileFault
import Chip8.Image
import Chip8.Settings.Basic

/-!
# Startup

Putting a system together from settings: the font is loaded first, then the program, and the machine over that
memory comes under a debugger that stops at the addresses of the settings. Files are read through a function,
so that a start is a value; the notices made before a start failed are kept.
-/

namespace Chip8

/-- Where the program comes from. -/
inductive Program where
  | file (path : Text)
  | bytes (data : List UInt8)
  deriving DecidableEq, Repr

/-- Why a system cannot be put together. -/
inductive StartFault where
  | vm (fault : Fault)
  | file (fault : FileFault)
  deriving DecidableEq, Repr

abbrev Files := Text → Except FileFault (List UInt8)

/-- A part of a start: it adds to the notices. -/
abbrev Startup := EStateM StartFault (List Notice)

namespace Startup

/-- Takes a result that may be refused. -/
def ofExcept {α : Type} (x : Except Fault α) : Startup α :=
  match x with
  | .ok a => pure a
  | .error fault => throw (.vm fault)

/-- Loads an image, and adds the notices of that. -/
def load (x : Except Fault (Memory × List Notice)) : Startup Memory := do
  let (m, notices) ← ofExcept x
  modify (· ++ notices)
  return m

def readFile (files : Files) (path : Text) : Startup (List UInt8) :=
  match files path with
  | .ok data => pure data
  | .error fault => throw (.file fault)

def loadFont (files : Files) (m : Memory) : (path : Option Text) → Startup Memory
  | none => load (m.loadFont none)
  | some path => do load (m.loadFont (some (path, ← readFile files path)))

/-- Loads the program; there must be one. -/
def loadProgram (files : Files) (m : Memory) : (program : Option Program) → Startup Memory
  | none => throw (.vm .programMissing)
  | some (.bytes data) => load (m.loadProgram data)
  | some (.file path) => do load (m.loadProgramFile path (← readFile files path))

/-- The system that settings describe. -/
def start (files : Files) (settings : Settings) (program : Option Program) (random : Source UInt8) :
    Startup Debugger := do
  let m ← loadFont files (.zeros Memory.standardSize) settings.fontPath
  let m ← loadProgram files m program
  let d ← ofExcept (Debugger.ofCapacity (.new m random) settings.historySize)
  return settings.breakpoints.foldl (fun d address => d.add { kind := .pcMatch, value := some address }) d

end Startup

end Chip8
