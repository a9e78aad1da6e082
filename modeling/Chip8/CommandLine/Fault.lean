import Chip8.CommandLine.Flag
import Chip8.Text.Quoted

/-!
# Faults of the command line

Why arguments are refused.
-/

namespace Chip8.CommandLine

inductive Fault where
  /-- The start of several spellings. -/
  | ambiguous (argument : String) (spellings : List String)
  /-- A flag without the value it needs. -/
  | valueMissing (flag : Flag)
  /-- A value for a flag that stands alone. -/
  | valueUnused (flag : Flag) (value : String)
  /-- A word that is no level of notices. -/
  | notLevel (word : String)
  /-- No program. -/
  | programMissing
  /-- Arguments that are left over. -/
  | unrecognized (arguments : List String)
  deriving DecidableEq, Repr

def Fault.message : Fault → String
  | ambiguous argument spellings =>
    "ambiguous option: " ++ argument ++ " could match " ++ ", ".intercalate spellings
  | valueMissing flag => "argument " ++ flag.title ++ ": expected one argument"
  | valueUnused flag value =>
    "argument " ++ flag.title ++ ": ignored explicit argument " ++ Text.quoted value
  | notLevel word =>
    "argument " ++ Flag.logLevel.title ++ ": invalid choice: " ++ Text.quoted word ++ " (choose from "
      ++ ", ".intercalate (levelWords.map fun (word : String) => Text.quoted word) ++ ")"
  | programMissing => "the following arguments are required: rom_path"
  | unrecognized arguments => "unrecognized arguments: " ++ " ".intercalate arguments

end Chip8.CommandLine
