import Chip8.CommandLine.Fault

/-!
# Help

What is printed about the command line: how it is used, laid out for eighty columns, and why it was refused.
-/

namespace Chip8.CommandLine

def programName : String := "chip8-tracer"

def levelChoices : String := "\x7b" ++ ",".intercalate levelWords ++ "\x7d"

def usage : String :=
  "usage: " ++ programName ++ " [-h] [-d] [--config CONFIG]\n" ++
  "                    [--log-level " ++ levelChoices ++ "]\n" ++
  "                    rom_path\n"

def help : String :=
  usage ++ "\n" ++
  "CHIP-8 interpreter and tracer\n" ++
  "\n" ++
  "positional arguments:\n" ++
  "  rom_path              Path to the CHIP-8 program (raw binary)\n" ++
  "\n" ++
  "options:\n" ++
  "  -h, --help            show this help message and exit\n" ++
  "  -d, --debug           Single-step mode: press the step key to run one\n" ++
  "                        instruction\n" ++
  "  --config CONFIG       Path to a YAML configuration file\n" ++
  "  --log-level " ++ levelChoices ++ "\n" ++
  "                        Logging level (DEBUG traces every instruction)\n"

/-- What is printed about refused arguments. -/
def refusal (f : Fault) : String := usage ++ programName ++ ": error: " ++ f.message ++ "\n"

/-- What is printed about a start that failed. -/
def failure (message : Text) : Text := (programName ++ ": " : String) ++ message ++ "\n"

end Chip8.CommandLine
