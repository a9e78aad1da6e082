import Chip8.CommandLine.Help
import Chip8.CommandLine.Launch

/-!
# The program

The command line program on a host without a window system. Every line of the standard input is a turn of the
event loop and names its strokes, such as `press Q release Q`; a picture shown in a turn is printed as rows of
`#` and `.`, and the end of the input closes the window. Notices go to the error stream.
-/

namespace Chip8.Console

open CommandLine

/-- A text for the terminal. -/
def shown (t : Text) : String := t.toString?.getD (String.ofList t.replaced)

def causeOf : IO.Error → FileFault.Cause
  | .permissionDenied .. => .denied
  | .resourceExhausted .. => .noSpace
  | .inappropriateType _ code _ => if code = 20 then .notDirectory else .directory
  | .invalidArgument _ code _ => if code = 36 then .nameTooLong else .missing
  | _ => .missing

/-- Uses the file at a path, if the path is a file name. -/
def withFile {α : Type} (path : Text) (use : String → IO α) : IO (Except FileFault α) := do
  match path.toString? with
  | none => return .error ⟨.unencodable, path⟩
  | some name =>
    if name.toList.contains '\x00' then return .error ⟨.nullCharacter, path⟩
    try return .ok (← use name) catch e => return .error ⟨causeOf e, path⟩

def readFile (path : Text) : IO (Except FileFault (List UInt8)) :=
  withFile path fun name => do return (← IO.FS.readBinFile name).toList

def readFiles (paths : List Text) : IO Files := do
  let entries ← paths.mapM fun path => return (path, ← readFile path)
  return fun path => (entries.lookup path).getD (.error ⟨.missing, path⟩)

/-- The files that a run needs; the settings name one of them. -/
def filesFor (a : Arguments) : IO Files := do
  let configPath := a.configPath.map Text.ofString
  let paths := (a.programPath : Text) :: configPath.toList
  match Launch.settingsOf (← readFiles paths) configPath [] with
  | .ok settings _ => readFiles (settings.fontPath.toList ++ paths)
  | .error .. => readFiles paths

def randomBytes (seed : UInt64) : Source UInt8 := { item := fun n => (mixHash seed (hash n)).toUInt8 }

def strokesOf : List String → List Host.Stroke
  | action :: name :: rest =>
    let more := strokesOf rest
    match Host.resolve name with
    | .ok code => { code, pressed := action = "press" } :: more
    | .error _ => more
  | _ => []

def now : IO Float := return (ControlLoop.reading (← IO.monoMsNow) 1000).toOption.getD 0.0

def rowsOf (p : Picture) : List String :=
  p.toList.map fun row => String.ofList (row.toList.map fun isLit => if isLit then '#' else '.')

/-- Hands outputs on, but for the files written. -/
def emit (least : Level) (outputs : List Output) : IO Unit := do
  for output in outputs do
    match output with
    | .notice n => if least.rank ≤ n.level.rank then IO.eprintln (n.level.name ++ " - " ++ shown n.message)
    | .printed text => IO.print text
    | .shown picture => for row in rowsOf picture do IO.println row
    | .written .. => pure ()

/-- Writes the files among outputs, and gives the first failure. -/
def writeFiles (outputs : List Output) : IO (Option FileFault) := do
  for (path, image) in outputs.filterMap Output.written? do
    match ← withFile path fun name => IO.FS.writeBinFile name ⟨image.toArray⟩ with
    | .ok () => pure ()
    | .error fault => return some fault
  return none

/-- Takes a turn. One in which a file could not be written is taken again with that outcome. -/
def takeTurn (least : Level) (strokes : List Host.Stroke) (w : Host.Window Float) : IO (Host.Window Float) := do
  let clock : Host.Window.ClockChange Float := .ok (some (← now))
  let after (disk : Option FileFault) : Host.Window Float :=
    match Host.Window.turn strokes clock { w with loop := { w.loop with disk := .constant disk } } with
    | .ok _ w | .error _ w => w
  let first := after none
  let taken ←
    match ← writeFiles first.loop.debugger.journal.toList with
    | none => pure first
    | some fault => pure (after (some fault))
  let (outputs, debugger) := taken.loop.debugger.takeJournal
  emit least outputs
  return { taken with loop := { taken.loop with debugger } }

/-- Takes turns until the window is closed or the input ends. -/
partial def takeTurns (least : Level) (w : Host.Window Float) : IO (Host.Window Float) := do
  if w.closed then return w
  let line ← (← IO.getStdin).getLine
  if line.isEmpty then return w.close
  let words := (line.trimAscii.toString.splitOn " ").filter (· ≠ "")
  takeTurns least (← takeTurn least (strokesOf words) w)

/-- Runs the program that arguments ask for, and gives the exit code. -/
def run (a : Arguments) : IO UInt32 := do
  let refuse (fault : LaunchFault) : IO UInt32 := do
    IO.eprint (shown (CommandLine.failure (fault.reported?.getD "unexpected fault")))
    return 1
  let level := a.level.getD .info
  let seed := UInt64.ofNat (← IO.rand 0 0xffffffffffffffff)
  match Launch.system (← filesFor a) a (randomBytes seed) [] with
  | .error fault notices =>
    emit level (notices.map .notice)
    refuse fault
  | .ok (settings, d) notices =>
    emit level (notices.map .notice)
    match window settings d a.debug (.constant (← now)) (.constant none) with
    | .error fault => refuse fault
    | .ok w => return UInt32.ofNat (← takeTurns level w).exitCode

end Chip8.Console

open Chip8 in
def main (args : List String) : IO UInt32 := do
  match CommandLine.Request.ofArguments args with
  | .error fault =>
    IO.eprint (CommandLine.refusal fault)
    return 2
  | .ok .help =>
    IO.print CommandLine.help
    return 0
  | .ok (.run a) => Console.run a
