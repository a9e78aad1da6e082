import Chip8.CommandLine.Arguments
import Chip8.Host.Window
import Chip8.Settings.OfFile
import Chip8.Startup

/-!
# Launch

From the arguments of a run to its window: the settings file is read if one is named, the key names are
checked, and the system is put together. Faults of files, settings and images are reported to the user; the
others are not expected and end the program as they are.
-/

namespace Chip8.CommandLine

/-- Why there is no window. -/
inductive LaunchFault where
  | file (fault : FileFault)
  | settings (fault : SettingsFileFault)
  | vm (fault : Chip8.Fault)
  /-- The level of notices was left out. -/
  | levelMissing

namespace LaunchFault

def ofStart : StartFault → LaunchFault
  | .vm fault => vm fault
  | .file fault => file fault

/-- The text for the user, if the fault is one that is reported. -/
def reported? : LaunchFault → Option Text
  | file fault => if fault.isSystem then some fault.message else none
  | settings (.settings fault) => if fault.isReported then some fault.message else none
  | vm (.fontSize length) => some (Chip8.Fault.fontSize length).message
  | vm fault => if fault.fatal then some fault.message else none
  | settings _ | levelMissing => none

end LaunchFault

/-- A part of a launch: it adds to the notices. -/
abbrev Launch := EStateM LaunchFault (List Notice)

namespace Launch

/-- Takes a result that may be refused. -/
def ofExcept {ε α : Type} (wrap : ε → LaunchFault) (x : Except ε α) : Launch α :=
  match x with
  | .ok a => pure a
  | .error e => throw (wrap e)

/-- The settings of the named file; no name, or an empty one, stands for the standard settings. -/
def settingsOf [Settings.Room] (files : Files) (path : Option Text) : Launch Settings :=
  match path.filter fun path => !path.isEmpty with
  | none => return {}
  | some path => do
    let data ← ofExcept .file (files path)
    ofExcept .settings (Settings.ofFile path data)

/-- The system under the debugger that arguments ask for, with its settings. -/
def system [Settings.Room] [Host.Toolkit] (files : Files) (a : Arguments) (random : Source UInt8) :
    Launch (Settings × Debugger) := do
  if a.level.isNone then throw .levelMissing
  let settings ← settingsOf files (a.configPath.map Text.ofString)
  ofExcept (.settings ∘ .settings) (Host.checkKeys settings)
  fun notices =>
    match Startup.start files settings (some (.file a.programPath)) random notices with
    | .ok d notices => .ok (settings, d) notices
    | .error fault notices => .error (.ofStart fault) notices

end Launch

/-- The window over a system; the clock is read once. -/
def window [Host.Toolkit] (settings : Settings) (d : Debugger) (singleStep : Bool) (clock : Source Float)
    (disk : Source (Option FileFault)) : Except LaunchFault (Host.Window Float) := do
  let view ← (Host.View.ofSettings settings).mapError (.settings ∘ .settings)
  let due ← (ControlLoop.everyHz settings.timerHz).mapError .vm
  return .new (.new d singleStep due clock disk settings.dumpPath) view settings

end Chip8.CommandLine
