import Chip8.Notice

/-!
# Flags

The flags of the command line with their spellings: a dash with one letter, or two dashes with a word. Some
stand alone, the others need a value.
-/

namespace Chip8.CommandLine

inductive Flag where
  /-- Show what can be asked for. -/
  | help
  /-- Run one instruction at a time. -/
  | debug
  /-- The settings file. -/
  | config
  /-- How important a notice must be to be shown. -/
  | logLevel
  deriving DecidableEq, Repr

namespace Flag

/-- All flags in the order in which they are shown. -/
def all : List Flag := [help, debug, config, logLevel]

/-- The spellings of a flag, the short one first. -/
def spellings : Flag → List String
  | help => ["-h", "--help"]
  | debug => ["-d", "--debug"]
  | config => ["--config"]
  | logLevel => ["--log-level"]

def takesValue : Flag → Bool
  | help | debug => false
  | config | logLevel => true

def title (f : Flag) : String := "/".intercalate f.spellings

def table : List (String × Flag) := all.flatMap fun f => f.spellings.map (·, f)

def ofSpelling? (s : String) : Option Flag := table.lookup s

def ofLetter? (c : Char) : Option Flag := ofSpelling? (String.ofList ['-', c])

end Flag

def levelWords : List String := Level.names.map (·.1)

end Chip8.CommandLine
