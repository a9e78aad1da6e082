import Chip8.Operation

/-!
# Notices

What the machine tells about its work: lines of a log, each with a level. A notice carries what it
is about; its wording is `Notice.message`.
-/

namespace Chip8

open Numeral

/-- How important a notice is, in ascending order. -/
inductive Level where
  | debug
  | info
  | warning
  | error
  deriving DecidableEq, Repr

namespace Level

/-- The place of the level in the order of importance. -/
def rank : Level → Nat
  | debug => 0
  | info => 1
  | warning => 2
  | error => 3

/-- The levels with their names, in ascending order. -/
def names : List (String × Level) :=
  [("DEBUG", debug), ("INFO", info), ("WARNING", warning), ("ERROR", error)]

def name : Level → String
  | debug => "DEBUG"
  | info => "INFO"
  | warning => "WARNING"
  | error => "ERROR"

end Level

inductive Notice where
  /-- An image was put into the memory. -/
  | imageLoaded (length : Nat) (offset : Int)
  /-- The font was loaded, from a file or from the built-in glyphs. -/
  | fontLoaded (path : Option Text)
  /-- A program file was loaded. -/
  | programLoaded (path : Text) (length : Nat)
  /-- An instruction was fetched and read. -/
  | fetched (address : UInt16) (operation : Operation)
  /-- The sound timer ran out. -/
  | beep
  /-- The memory image was written to a file. -/
  | dumped (path : Text)
  /-- The memory image could not be written. -/
  | dumpFailed (fault : FileFault)
  /-- A breakpoint stopped the free run. -/
  | stopped (pc : UInt16)
  /-- A fatal fault ended the run; the report shows the state it left. -/
  | fatal (fault : Fault) (report : String)
  deriving DecidableEq, Repr

namespace Notice

/-- How important the notice is. -/
def level : Notice → Level
  | imageLoaded .. | fontLoaded _ | fetched .. => .debug
  | programLoaded .. | beep | dumped _ | stopped _ => .info
  | dumpFailed .. | fatal .. => .error

def message : Notice → Text
  | imageLoaded length offset => "Loaded " ++ decimal length ++ " bytes at " ++ hex0x 5 offset
  | fontLoaded path =>
    "Font loaded from " ++ ((path.filter fun path => !path.isEmpty).getD "built-in fontset" : Text)
  | programLoaded path length => "ROM " ++ path ++ (" loaded (" ++ decimal length ++ " bytes)" : String)
  | fetched address operation =>
    "PC: " ++ hex0x 5 address.toNat ++ " | Opcode: " ++ operation.opcodeHex ++ " | " ++ operation.text
  | beep => "BEEP! (sound timer expired)"
  | dumped path => "Dumped memory to " ++ path
  | dumpFailed fault => "Memory dump to " ++ fault.path ++ (" failed: " ++ fault.message : String)
  | stopped pc => "Breakpoint hit at PC: " ++ hex0x 6 pc.toNat ++ ", entering single-step mode"
  | fatal fault report => "Fatal VM error: " ++ fault.message ++ "\n" ++ report

end Notice

end Chip8
